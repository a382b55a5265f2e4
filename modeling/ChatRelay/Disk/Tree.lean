import ChatRelay.Disk.Service
import ChatRelay.Path
import ChatRelay.Text.Lines

/-!
# A disk in memory

A tree of directories and files that answers the requests to the disk. Relative paths start
at the top of the tree, and absolute ones at a root beside it. A path is walked name by name, and
every name but the last must lead to a directory.
-/

namespace ChatRelay.Disk

/-- What is at a place of the tree. -/
inductive Entry where
  | file (contents : Bytes)
  | directory
  deriving DecidableEq, Repr, Inhabited

/-- A place of the tree: the names on the way to it. -/
abbrev Place := List String

/-- A tree: its entries, each with its place. The two tops are no entries. -/
structure Tree where
  entries : List (Place × Entry) := []
  deriving Inhabited

namespace Tree

/-- The top of the absolute paths. -/
def absoluteTop : Place := ["/"]

/-- The most bytes that a name may have. -/
def maxNameLength : Nat := 255

/-- The most bytes that a whole path may have. -/
def maxPathLength : Nat := 4095

/-- What is at a place. -/
def at? (t : Tree) (place : Place) : Option Entry :=
  if place = [] ∨ place = absoluteTop then some .directory
  else (t.entries.find? fun e => e.1 == place).map (·.2)

/-- The tree without what is at a place. -/
def clear (t : Tree) (place : Place) : Tree :=
  { entries := t.entries.filter fun e => e.1 != place }

/-- The tree with something put at a place. -/
def put (t : Tree) (place : Place) (entry : Entry) : Tree :=
  { entries := (t.clear place).entries ++ [(place, entry)] }

/-- The place above a place. -/
def above (place : Place) : Place := if place = absoluteTop then place else place.dropLast

/-- One name further on the way to a place. -/
def enter (t : Tree) (place : Place) (name : String) : Except Cause Place :=
  match t.at? place with
  | none => .error .missing
  | some (.file _) => .error .notDirectory
  | some .directory =>
    if name = "" ∨ name = "." then .ok place
    else if name = ".." then .ok (above place)
    else if maxNameLength < name.utf8ByteSize then .error .nameTooLong
    else .ok (place ++ [name])

/-- The names of a path, and the place that it starts from. -/
def split (path : String) : Place × List String :=
  let parts := (Path.splitSlashes path.toList).map String.ofList
  match parts with
  | "" :: rest => (absoluteTop, rest)
  | parts => ([], parts)

/-- The place that a path leads to, which need not be taken. -/
def walk (t : Tree) (path : String) : Except Cause Place :=
  if path = "" then .error .missing
  else (split path).2.foldlM (t.enter) (split path).1

/-- The contents of the file at a place. -/
def fileAt (t : Tree) (place : Place) : Except Cause Bytes :=
  match t.at? place with
  | none => .error .missing
  | some .directory => .error .isDirectory
  | some (.file contents) => .ok contents

/-- Goes one name further and makes a directory there if nothing is there. -/
def enterOrMake (state : Tree × Place) (name : String) : Except Cause (Tree × Place) := do
  let place ← state.1.enter state.2 name
  match state.1.at? place with
  | some _ => return (state.1, place)
  | none => return (state.1.put place .directory, place)

/-- Makes a directory and those on the way to it. -/
def makeDirectory (t : Tree) (path : String) : Except Cause Tree := do
  let made ← (split path).2.foldlM enterOrMake (t, (split path).1)
  match made.1.at? made.2 with
  | some (.file _) => .error .occupied
  | _ => return made.1

/-- Writes a file. -/
def write (t : Tree) (path : String) (contents : Bytes) : Except Cause Tree := do
  let place ← t.walk path
  match t.at? place with
  | some .directory => .error .isDirectory
  | _ => return t.put place (.file contents)

/-- Moves a file, which replaces a file at its new place. -/
def rename (t : Tree) (source target : String) : Except Cause Tree := do
  let source ← t.walk source
  let target ← t.walk target
  let contents ← t.fileAt source
  match t.at? target with
  | some .directory => .error .isDirectory
  | _ => return (t.clear source).put target (.file contents)

/-- Removes a file. -/
def remove (t : Tree) (path : String) : Except Cause Tree := do
  let place ← t.walk path
  let _ ← t.fileAt place
  return t.clear place

/-- Whether something is at a path. A way that leads nowhere is an answer and no failure. -/
def isThere (t : Tree) (path : String) : Except Cause Bool :=
  match t.walk path with
  | .ok place => .ok (t.at? place).isSome
  | .error .missing | .error .notDirectory => .ok false
  | .error cause => .error cause

/-- A change of the tree as the reply to a request about a path. -/
def changed (t : Tree) (path : String) : Except Cause Tree → Except Failure Unit × Tree
  | .ok t' => (.ok (), t')
  | .error cause => (.error (.disk ⟨cause, path⟩), t)

/-- An answer about a path. -/
def answered {α : Type} (t : Tree) (path : String) : Except Cause α → Except Failure α × Tree
  | .ok a => (.ok a, t)
  | .error cause => (.error (.disk ⟨cause, path⟩), t)

/-- The paths of a request, the one that it is about first. -/
def pathsOf : Request → List String
  | .isThere path | .read path | .makeDirectory path | .write path _ | .remove path => [path]
  | .rename source target => [source, target]

/-- What any use of a path fails with that holds the character NUL. -/
def nulInPath : Failure := .service "ValueError" "embedded null byte"

/-- The failure that the paths of a request lead to before the tree is looked at. -/
def pathFailure? (q : Request) : Option Failure :=
  if (pathsOf q).any fun path => path.toList.contains '\x00' then some nulInPath
  else ((pathsOf q).find? fun path => decide (maxPathLength < path.utf8ByteSize)).map fun path =>
    .disk ⟨.nameTooLong, path⟩

/-- The reply to a request, and the tree after it. Nothing is at a path that holds NUL. -/
def answer (t : Tree) (q : Request) : service.Reply q × Tree :=
  match pathFailure? q, q with
  | some (.service _ _), .isThere _ => (.ok false, t)
  | some failure, _ => (.error failure, t)
  | none, .isThere path => t.answered path (t.isThere path)
  | none, .read path => t.answered path (t.walk path >>= t.fileAt)
  | none, .makeDirectory path => t.changed path (t.makeDirectory path)
  | none, .write path contents => t.changed path (t.write path contents)
  | none, .rename source target => t.changed source (t.rename source target)
  | none, .remove path => t.changed path (t.remove path)

/-- The paths of all files below the top of the relative paths, sorted. -/
def files (t : Tree) : List String :=
  (t.entries.filterMap fun e =>
    match e with
    | (place, .file _) => if place.head? = some "/" then none else some ("/".intercalate place)
    | _ => none).mergeSort fun a b => decide (a ≤ b)

end Tree

end ChatRelay.Disk
