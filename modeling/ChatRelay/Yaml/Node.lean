import ChatRelay.Yaml.Date
import ChatRelay.Yaml.Kind

/-!
# YAML nodes

A node is a scalar, a sequence or a mapping, with the kind that it is said to have. An alias is
another way to a node, and it may lead back to a collection from inside, so the nodes of a text
form a graph: they are numbered, and a collection holds the numbers of its nodes.
-/

namespace ChatRelay.Yaml

/-- What a node holds; the nodes inside a collection are given by their numbers. -/
inductive Content where
  | scalar (text : Text.Wide)
  | sequence (items : List Nat)
  | mapping (members : List (Nat × Nat))
  deriving Inhabited, Repr

/-- A node. -/
structure Node where
  kind : Kind
  content : Content
  deriving Inhabited, Repr

/-- The nodes of a document by their numbers, and the number of the outermost one. -/
structure Graph where
  nodes : Array Node
  root : Nat
  deriving Inhabited, Repr

/-- The kind that a text has by its look. -/
def Kind.ofLook (s : String) : Kind :=
  let cs := s.toList
  if truthWords.contains s then .bool
  else if looksReal cs then .real
  else if looksInteger cs then .integer
  else if s = "<<" then .merge
  else if nullWords.contains s then .null
  else if WrittenDate.looksDate cs then .time
  else if s = "=" then .standard
  else if markWords.contains s then .unknown
  else .text

/-- The kind that a text has by its look; a lone surrogate looks like nothing but a text. -/
def Kind.ofText (s : Text.Wide) : Kind :=
  match s.chars? with
  | some cs => ofLook (String.ofList (withoutNewline cs))
  | none => .text

namespace Content

/-- Whether a node holds a text. -/
def isScalar : Content → Bool
  | scalar _ => true
  | _ => false

/-- The members of a mapping. -/
def members? : Content → Option (List (Nat × Nat))
  | mapping members => some members
  | _ => none

/-- The items of a sequence. -/
def items? : Content → Option (List Nat)
  | sequence items => some items
  | _ => none

end Content

end ChatRelay.Yaml
