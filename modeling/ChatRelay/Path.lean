/-!
# Paths

A path is a root, which is empty for a relative path, and the names on the way down. Repeated
slashes, slashes at the end and the name `.` are dropped when a path is read; `..` is a name like
any other. The path without a root and without names shows as `.` and has no last name.
-/

namespace ChatRelay

/-- A normalised path. -/
structure Path where
  root : String
  names : List String
  deriving DecidableEq, Repr, Inhabited

namespace Path

/-- The parts of a text between slashes. -/
def splitSlashes (cs : List Char) : List (List Char) :=
  cs.foldr (fun c parts =>
    if c = '/' then [] :: parts
    else match parts with
      | [] => [[c]]
      | part :: rest => (c :: part) :: rest) [[]]

/-- The root that a text starts with. Exactly two slashes are a root of their own. -/
def rootOf : List Char → String
  | '/' :: '/' :: '/' :: _ => "/"
  | '/' :: '/' :: _ => "//"
  | '/' :: _ => "/"
  | _ => ""

/-- The path that a text stands for. -/
def ofText (s : String) : Path :=
  { root := rootOf s.toList
    names := ((splitSlashes s.toList).map String.ofList).filter fun name =>
      name != "" && name != "." }

/-- The text of a path. -/
def toText (p : Path) : String :=
  if p.root = "" && p.names.isEmpty then "." else p.root ++ "/".intercalate p.names

/-- The last name of a path, which is empty when there is none. -/
def name (p : Path) : String := p.names.getLast?.getD ""

/-- The path without its last name. -/
def parent (p : Path) : Path := { p with names := p.names.dropLast }

/-- The path one name further down. -/
def child (p : Path) (name : String) : Path := { p with names := p.names ++ [name] }

/-- The path with another last name. -/
def withName (p : Path) (name : String) : Path := p.parent.child name

/-- The suffix of the last name: its last dot and what follows, provided that something stands
before the dot and something behind it. -/
def suffix (p : Path) : String :=
  let cs := p.name.toList
  let tail := (cs.reverse.takeWhile (· ≠ '.')).reverse
  if tail.isEmpty || cs.length ≤ tail.length + 1 then "" else String.ofList ('.' :: tail)

/-- The last name without its suffix. -/
def stem (p : Path) : String :=
  String.ofList (p.name.toList.take (p.name.length - p.suffix.length))

/-- The path with another suffix of its last name. -/
def withSuffix (p : Path) (suffix : String) : Path := p.withName (p.stem ++ suffix)

/-- The extension of a file name: its last dot and what follows, provided that a character other
than a dot stands somewhere before it and that no slash follows it. -/
def extensionOf (fileName : String) : String :=
  let cs := ((splitSlashes fileName.toList).getLast?).getD []
  let body := cs.dropWhile (· = '.')
  let tail := (body.reverse.takeWhile (· ≠ '.')).reverse
  if body.contains '.' then String.ofList ('.' :: tail) else ""

end Path

end ChatRelay
