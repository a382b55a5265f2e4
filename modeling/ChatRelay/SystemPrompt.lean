import ChatRelay.Disk.Service
import ChatRelay.Path
import ChatRelay.Prompt
import ChatRelay.Text.Utf8

/-!
# The system prompt

The instructions of a new session are read from a text file once, when the engine is made. A file
that is not there is logged, and then there are no instructions; a file that cannot be read is a
failure.
-/

namespace ChatRelay.SystemPrompt

/-- Reads the system prompt. -/
def load (file : String) : Dialogue Disk.service (Except Failure (Option String)) :=
  let path := (Path.ofText file).toText
  .ask (.isThere path) fun
    | .error e => .done (.error e)
    | .ok false => .say s!"[Prompt] system prompt file not found: {path}" (.done (.ok none))
    | .ok true =>
      .ask (.read path) fun
        | .error e => .done (.error e)
        | .ok (contents : Disk.Bytes) =>
          match Text.readFile? contents with
          | none => .done (.error .undecodable)
          | some text => .done (.ok (some (Prompt.systemContext text)))

end ChatRelay.SystemPrompt
