import ChatRelay.Directive.Command
import ChatRelay.Directive.HistoryArguments
import ChatRelay.Emoji
import ChatRelay.Heredoc

/-!
# The meaning of a line

Outside a heredoc every line is a directive of its own or opens a heredoc. A line that is no
command is text, as it stands. Reading a line fails only where a history command holds a number
that is too long to be read.
-/

namespace ChatRelay

/-- What a line outside a heredoc is. -/
inductive Line where
  | directive (d : Directive)
  | opens (o : Heredoc.Opener)
  deriving DecidableEq, Repr, Inhabited

namespace Line

/-- A text without the blanks at its ends. -/
def trimmed (s : String) : String := String.ofList (Text.trim s.toList)

/-- The meaning of a command. -/
def ofCommand : Command → Except Text.Numeral.Refusal Line
  | .nop => .ok (.directive .nop)
  | .reaction messageId remove emoji =>
    .ok (.directive (.reaction messageId (trimmed emoji) remove))
  | .history arguments =>
    (HistoryArguments.read arguments).map fun request => .directive (.history request)
  | .delete messageId => .ok (.directive (.delete messageId))
  | .exec messageId => .ok (.directive (.exec messageId))
  | .sendTo channel content =>
    match Reference.delimiter? content with
    | some delimiter => .ok (.opens ⟨delimiter, .sendTo, some (Reference.channelText channel)⟩)
    | none => .ok (.directive (.sendTo (Reference.channelText channel) content))
  | .send content =>
    match Reference.delimiter? content with
    | some delimiter => .ok (.opens ⟨delimiter, .send, none⟩)
    | none => .ok (.directive (.send content))
  | .media path => .ok (.directive (.media (trimmed path)))
  | .reactions emojis => .ok (.directive (.reactions (Emoji.splitText emojis)))

/-- The meaning of a line. -/
def read (line : String) : Except Text.Numeral.Refusal Line :=
  match Command.ofLine? line with
  | some command => ofCommand command
  | none => .ok (.directive (.text line))

/-- The log line for a command and its meaning. -/
def noteCommand : Command → Line → String
  | .nop, _ => "!discord nop"
  | .reaction messageId remove emoji, _ =>
    let minus := if remove then "-" else ""
    s!"!discord reaction {messageId} {minus}{emoji}"
  | .history _, .directive (.history request) =>
    s!"!discord history: channel={orNone request.channel}, count={request.count}, " ++
      s!"offset={request.offset}"
  | .history _, _ => "!discord history"
  | .delete messageId, _ => s!"!discord delete {messageId}"
  | .exec messageId, _ => s!"!discord exec {messageId}"
  | .sendTo channel _, .opens opener =>
    s!"!discord sendto {Reference.channelText channel} (heredoc {opener.delimiter})"
  | .sendTo channel _, _ => s!"!discord sendto {Reference.channelText channel}"
  | .send _, .opens opener => s!"!discord send (heredoc {opener.delimiter})"
  | .send _, _ => "!discord send"
  | .media path, _ => s!"media {path}"
  | .reactions emojis, _ => s!"reactions {emojis}"

/-- What is logged when a line is read. Nothing is logged for text, nor for a line that cannot be
read. -/
def notes (line : String) : List String :=
  match Command.ofLine? line with
  | none => []
  | some command =>
    match ofCommand command with
    | .ok meaning => ["[Parser] " ++ noteCommand command meaning]
    | .error _ => []

end Line

end ChatRelay
