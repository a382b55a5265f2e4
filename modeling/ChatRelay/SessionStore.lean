import ChatRelay.Disk.Service
import ChatRelay.Json.Reader
import ChatRelay.Json.Writer
import ChatRelay.Path
import ChatRelay.SessionTable
import ChatRelay.Text.Utf8

/-!
# The session store

The store keeps the name of the agent session of every channel in one file, a flat JSON object.
The file is read once, when the store is opened, and written anew after every change: the new
contents go to a temporary file beside it, which is then moved into its place. A file that cannot
be read counts as empty, and a refusal of the disk while saving is only logged. A file may name
lone surrogates, and what is kept of it then cannot be written any more.
-/

namespace ChatRelay

namespace SessionTable

/-- The sessions of a document: the members of an object that are texts. Of members with one key
the last one counts, at the place of the first. -/
def ofDocument (j : Json) : SessionTable :=
  Table.ofList ((Table.ofList j.members).entries.filterMap fun m =>
    m.2.text?.map fun session => (m.1, session))

/-- The contents of the file for a table. -/
def fileText (t : SessionTable) : Text.Wide := Json.writeTable t.entries ++ [.char '\n']

end SessionTable

/-- A store: the path of its file, and the sessions in memory. -/
structure SessionStore where
  path : Path
  sessions : SessionTable

namespace SessionStore

/-- The most calls that may be open at once. -/
def callLimit : Nat := 1000

/-- The calls that are open when the reader of a file starts: those that lead to it from the start
of the relay. -/
def openCalls : Nat := 15

/-- How many levels deep the lists and objects of a file may be nested: the reader calls itself
once for each level, and it has the calls that are left. A store writes one level only, so nothing
but the failure on a file of another hand depends on the number
(`SessionStore.parseWithin_bytes?`). -/
def maxLevels : Nat := callLimit - openCalls

/-- The sessions that the contents of a file hold, where lists and objects may be nested so many
levels deep. -/
def parseWithin (levels : Nat) (contents : Disk.Bytes) : Except Failure SessionTable :=
  match Text.readFile? contents with
  | none => .error .undecodable
  | some text => ((Json.read levels text).map SessionTable.ofDocument).mapError .json

/-- The sessions that the contents of a file hold. -/
def parse (contents : Disk.Bytes) : Except Failure SessionTable := parseWithin maxLevels contents

/-- The log line for a file that is not readable. -/
def loadFailed (reason : String) : String := s!"[SessionStore] load failed: {reason}"

/-- What is made of a file that is not readable: it counts as empty, unless something else than
its contents is at fault. -/
def recover : Failure → Dialogue Disk.service (Except Failure SessionTable)
  | .disk refusal => .say (loadFailed refusal.message) (.done (.ok .empty))
  | e =>
    if e.isValueError then .say (loadFailed e.message) (.done (.ok .empty))
    else .done (.error e)

/-- Reads the sessions of a file. -/
def load (path : Path) : Dialogue Disk.service (Except Failure SessionTable) :=
  .ask (.isThere path.toText) fun
    | .error e => .done (.error e)
    | .ok false => .done (.ok .empty)
    | .ok true =>
      .ask (.read path.toText) fun
        | .error e => recover e
        | .ok (contents : Disk.Bytes) =>
          match parse contents with
          | .error e => recover e
          | .ok sessions => .done (.ok sessions)

/-- Opens the store on a path. -/
def openAt (path : Path) : Dialogue Disk.service (Except Failure SessionStore) := do
  match ← load path with
  | .error e => return .error e
  | .ok sessions => return .ok ⟨path, sessions⟩

/-- The path of the temporary file, beside the file itself. -/
def temporaryPath (path : Path) : Path := path.withSuffix (path.suffix ++ ".tmp")

/-- Writes the file anew; the outcome is the first failure. What cannot be encoded leaves an empty
temporary file behind. -/
def write (s : SessionStore) : Dialogue Disk.service (Except Failure Unit) :=
  .ask (.makeDirectory s.path.parent.toText) fun
    | .error e => .done (.error e)
    | .ok _ =>
      if s.path.name = "" then .done (.error (.namelessPath s.path.toText))
      else
        let temporary := (temporaryPath s.path).toText
        let contents := Text.encodeWide? s.sessions.fileText
        .ask (.write temporary (contents.getD [])) fun
          | .error e => .done (.error e)
          | .ok _ =>
            if contents.isSome then .request (P := Disk.service) (.rename temporary s.path.toText)
            else .done (.error (.unencodable s.sessions.fileText))

/-- Saves the sessions; a refusal of the disk is only logged. -/
def save (s : SessionStore) : Dialogue Disk.service (Except Failure Unit) := do
  match ← s.write with
  | .error (.disk refusal) =>
    .say s!"[SessionStore] save failed: {refusal.message}" (.done (.ok ()))
  | outcome => return outcome

/-- The store with a change made in memory. -/
def remember (s : SessionStore) (change : SessionChange) : SessionStore :=
  { s with sessions := s.sessions.apply change }

/-- Whether a change is saved: deleting a session that is not there is not. -/
def isSaved (s : SessionStore) : SessionChange → Bool
  | .set _ _ => true
  | .delete channel => s.sessions.contains channel

/-- Makes a change: the store with the change in memory, and the work of saving it. -/
def change (s : SessionStore) (c : SessionChange) :
    SessionStore × Dialogue Disk.service (Except Failure Unit) :=
  (s.remember c, if s.isSaved c then (s.remember c).save else .done (.ok ()))

end SessionStore

end ChatRelay
