import ChatRelay.Incoming
import ChatRelay.Outside
import ChatRelay.Path

/-!
# Attachments

The files attached to a message are fetched before the agent is told about it, and removed after
the unit of work. Each goes to a file of its own with a name that was never used before and with
the extension of the attached file. When one of them cannot be fetched or written, those that
were written are removed again.
-/

namespace ChatRelay.Attachment

/-- The name of the file for an attachment. -/
def fileName (unique attached : String) : String :=
  let extension := Path.extensionOf attached
  unique ++ (if extension = "" then ".bin" else extension)

/-- Removes files. A file that cannot be removed is logged and keeps none of the others. -/
def cleanup : List String → Dialogue Outside.service (Except Failure Unit)
  | [] => .done (.ok ())
  | path :: rest =>
    .ask (.disk (.remove path)) fun
      | .error (.disk refusal) =>
        .say s!"Failed to delete {path}: {refusal.message}" (cleanup rest)
      | .error e => .done (.error e)
      | .ok _ => cleanup rest

/-- Gives up: removes the files that were written, and fails. -/
def giveUp (written : List String) (e : Failure) :
    Dialogue Outside.service (Except Failure (List String)) := do
  match ← cleanup written with
  | .error e' => return .error e'
  | .ok () => return .error e

/-- Fetches attachments into a directory, where the files `written` were written before. -/
def fetchAll (directory : Path) (written : List String) :
    List Incoming.Attachment → Dialogue Outside.service (Except Failure (List String))
  | [] => .done (.ok written)
  | a :: rest =>
    .ask .freshName fun
      | .error e => giveUp written e
      | .ok (unique : String) =>
        .ask (.web a.url) fun
          | .error e => giveUp written e
          | .ok (contents : Disk.Bytes) =>
            let path := (directory.child (fileName unique a.fileName)).toText
            .ask (.disk (.write path contents)) fun
              | .error e => giveUp written e
              | .ok _ => fetchAll directory (written ++ [path]) rest

/-- Fetches the attachments of a message, and returns the paths of their files in order. -/
def download (directory : String) (attachments : List Incoming.Attachment) :
    Dialogue Outside.service (Except Failure (List String)) :=
  if attachments.isEmpty then .done (.ok [])
  else
    .ask (.disk (.makeDirectory (Path.ofText directory).toText)) fun
      | .error e => .done (.error e)
      | .ok _ => fetchAll (Path.ofText directory) [] attachments

end ChatRelay.Attachment
