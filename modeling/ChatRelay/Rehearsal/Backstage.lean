import ChatRelay.Disk.Tree
import ChatRelay.Json.Writer
import ChatRelay.Rehearsal.Partner
import ChatRelay.SessionStore

/-!
# Behind the stage

What every rehearsal has besides a chat platform and an agent: a disk, files on the web, names
that are handed out one after the other, a store of sessions, and the record of what was asked.
-/

namespace ChatRelay.Rehearsal

/-- A file on the web. -/
structure WebFile where
  status : Nat := 200
  contents : Disk.Bytes := []
  readFailure : Option Failure := none
  deriving Inhabited

/-- The store of sessions: one that only goes on record, or one that keeps a file. -/
inductive Vault where
  | recorded
  | kept (store : SessionStore)

/-- What is behind the stage. -/
structure Backstage where
  disk : Disk.Tree := {}
  web : List (String × WebFile) := []
  /-- The number of names handed out. -/
  names : Nat := 0
  vault : Vault := .recorded
  /-- Whether the files of the disk go on record at the start of a turn. -/
  watchFiles : Bool := false
  trace : List Json := []

instance : Inhabited Backstage := ⟨{}⟩

namespace Backstage

/-- One more entry of the record. -/
def record (b : Backstage) (entry : List Json) : Backstage :=
  { b with trace := b.trace ++ [.list entry] }

/-- The record with the list of the files on the disk, where it is watched. -/
def fileList (b : Backstage) : List Json :=
  if b.watchFiles then [.list (b.disk.files.map Json.plain)] else []

/-- A reply of the disk. -/
def askDisk (b : Backstage) (q : Disk.Request) : Disk.service.Reply q × Backstage :=
  let r := b.disk.answer q
  (r.1, { b with disk := r.2 })

/-- The disk as a partner. -/
def diskPartner : Partner Disk.service Backstage where
  arrive b _ _ := (b, 0)
  barrier _ _ _ _ _ := none
  answer b _ _ q := ((b.askDisk q).1, (b.askDisk q).2, [])

/-- The name that is handed out next. -/
def nextName (b : Backstage) : String × Backstage :=
  (s!"uuid-{b.names + 1}", { b with names := b.names + 1 })

/-- The file at an address of the web. -/
def webFile (b : Backstage) (url : String) : Except Failure Disk.Bytes :=
  match b.web.find? fun f => f.1 == url with
  | none => .error (.service "RuntimeError" s!"no route {url}")
  | some (_, file) =>
    if 400 ≤ file.status then .error (.service "RuntimeError" s!"HTTP {file.status}")
    else match file.readFailure with
      | some failure => .error failure
      | none => .ok file.contents

/-- The entry of the record for a change of the sessions. -/
def changeEntry : SessionChange → List Json
  | .set channel session => [.text "store_set", .text channel, .text session]
  | .delete channel => [.text "store_delete", .text channel]

/-- Makes a change of the sessions; what a store logs while it saves is returned. -/
def makeChange (b : Backstage) (change : SessionChange) :
    Except Failure Unit × Backstage × List String :=
  match b.vault with
  | .recorded => (.ok (), b.record (changeEntry change), [])
  | .kept store =>
    let changed := store.change change
    diskPartner.play 0 { b with vault := .kept changed.1 } changed.2

end Backstage

end ChatRelay.Rehearsal
