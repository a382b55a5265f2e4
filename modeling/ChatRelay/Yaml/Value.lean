import ChatRelay.Document.Key
import ChatRelay.Text.Base64
import ChatRelay.Yaml.Merge
import ChatRelay.Yaml.Node.Reader
import ChatRelay.Yaml.Number

/-!
# The document of a YAML text

What the nodes of a text stand for. A node that cannot be what it is said to be is a problem. A
collection is only set up when it is met, and filled later, in the order in which the collections
were met; so nodes are looked at level by level, and a collection may hold itself.
-/

namespace ChatRelay.Yaml

/-- The truth value of a word in lower case. -/
def truthOf? (word : Text.Wide) : Option Bool :=
  if ["yes", "true", "on"].any fun w => word == Text.Wide.ofString w then some true
  else if ["no", "false", "off"].any fun w => word == Text.Wide.ofString w then some false
  else none

/-- The bytes that a text in base 64 stands for. -/
def bytesOf? (s : Text.Wide) : Option (List UInt8) :=
  s.text?.bind fun t => if t.toList.all fun c => c.toNat < 0x80 then Text.Base64.decode? t else none

/-- What a text stands for that is said to be of some kind. What is no number gets the serial
number, unless it is written as such. -/
def scalarValue (serial : Nat) (kind : Kind) (s : Text.Wide) : Except Problem Document.Value :=
  match kind with
  | .null => .ok .null
  | .bool =>
    match truthOf? s.lower with
    | some b => .ok (.bool b)
    | none => .error (.notTruth s.lower)
  | .integer => (readInteger s).map .integer
  | .real =>
    (readReal s).map fun x =>
      if x.isUndefined then .undefined (if isUndefinedWord s then 0 else serial) else .real x
  | .bytes =>
    match bytesOf? s with
    | some contents => .ok (.bytes contents)
    | none => .error .malformed
  | .time =>
    match s.chars?.bind fun cs => WrittenDate.read? (Kind.withoutNewline cs) with
    | some d => d.toValue
    | none => .error .notDate
  | .text => .ok (.text s)
  | _ => .error .malformed

/-- The empty collection of a kind, if it is the kind of a collection. -/
def emptyCell? : Kind → Option Document.Cell
  | .mapping => some (.mapping [])
  | .set => some (.set [])
  | .list | .orderedMapping | .pairs => some (.list [])
  | _ => none

/-- The values that nodes stand for, as far as they are known, with the collections among them. -/
structure Building where
  nodes : Array Node
  /-- The values of the nodes that were met. -/
  values : Array (Option Document.Value)
  cells : Array Document.Cell := #[]
  /-- The nodes of the collections that were met, each with its cell. -/
  met : Array (Nat × Nat) := #[]
  /-- How many of them are filled. -/
  filled : Nat := 0

/-- Work on the values of nodes. -/
abbrev Builder (α : Type) := StateT Building (Except Problem) α

namespace Builder

/-- Does work on the nodes alone. -/
def onNodes {α : Type} (work : Merger α) : Builder α := do
  let b ← get
  let r ← work.run b.nodes
  set { b with nodes := r.2 }
  return r.1

/-- The text of a node that is said to be a scalar: that of a scalar, or that of the default value
of a mapping. -/
def textOf : (fuel : Nat) → (n : Nat) → Merger Text.Wide
  | 0, _ => throw .endless
  | fuel + 1, n => do
    match ← Merge.contentOf n with
    | .scalar s => return s
    | .sequence _ => throw .malformed
    | .mapping members =>
      match ← Merge.firstOf? .standard members with
      | some m => textOf fuel m.2
      | none => throw .malformed

/-- What a node stands for as a scalar. A date must be written as a scalar. -/
def scalarOf (n : Nat) (kind : Kind) : Merger Document.Value := do
  if kind = .merge ∨ kind = .standard ∨ kind = .unknown then throw .malformed
  let s ← textOf ((← get).size + 1) n
  if kind = .time && !(← Merge.contentOf n).isScalar then throw .noScalar
  scalarValue (n + 1) kind s

/-- Sets up a collection that was met. -/
def meet (n : Nat) (cell : Document.Cell) : Builder Document.Value :=
  modifyGet fun b =>
    (.collection b.cells.size,
      { b with cells := b.cells.push cell, met := b.met.push (n, b.cells.size) })

/-- What a node stands for. -/
def valueOf (n : Nat) : Builder Document.Value := do
  match (← get).values[n]?.getD none with
  | some value => return value
  | none =>
    let kind ← onNodes (Merge.kindOf n)
    let value ← match emptyCell? kind with
      | some cell => meet n cell
      | none => onNodes (scalarOf n kind)
    modify fun b => { b with values := b.values.setIfInBounds n (some value) }
    return value

/-- The members that the mapping at a node stands for. -/
def membersOf (merges n : Nat) : Builder (List (Document.Value × Document.Value)) := do
  let members ← onNodes do
    let _ ← Merge.membersOf n
    Merge.flatten (2 * merges + 2) n
    Merge.membersOf n
  members.foldlM (fun found m => do
    let key ← valueOf m.1
    if !key.isKey then throw .malformed
    return Document.insertMember found key (← valueOf m.2)) []

/-- The items of the sequence at a node. -/
def itemsOf (n : Nat) : Merger (List Nat) := do
  match (← Merge.contentOf n).items? with
  | some items => return items
  | none => throw .malformed

/-- The pair that the mapping at a node stands for, which has one member. -/
def pairOf (n : Nat) : Builder Document.Value := do
  match ← onNodes (Merge.membersOf n) with
  | [m] =>
    let key ← valueOf m.1
    let value ← valueOf m.2
    modifyGet fun b =>
      (.collection b.cells.size, { b with cells := b.cells.push (.pair key value) })
  | _ => throw .malformed

/-- What the collection at a node holds. -/
def cellOf (merges n : Nat) (kind : Kind) : Builder Document.Cell := do
  match kind with
  | .mapping => return .mapping (← membersOf merges n)
  | .set => return .set ((← membersOf merges n).map (·.1))
  | .list => return .list (← (← onNodes (itemsOf n)).mapM valueOf)
  | _ => return .list (← (← onNodes (itemsOf n)).mapM pairOf)

/-- Fills the collections that were met and those that are met then. -/
def fillAll (merges : Nat) : (fuel : Nat) → Builder Unit
  | 0 => pure ()
  | fuel + 1 => do
    let b ← get
    match b.met[b.filled]? with
    | none => pure ()
    | some (n, cell) =>
      set { b with filled := b.filled + 1 }
      let contents ← cellOf merges n (← onNodes (Merge.kindOf n))
      modify fun b => { b with cells := b.cells.setIfInBounds cell contents }
      fillAll merges fuel

/-- The document of a graph. Every node is met at most once, so that many steps fill all. -/
def document (g : Graph) : Builder Document := do
  let root ← valueOf g.root
  fillAll (Merge.count g.nodes) (g.nodes.size + 1)
  return { cells := (← get).cells, root }

end Builder

end Yaml

/-- The document that a YAML text holds. A text without one holds null. -/
def Document.ofYaml (s : String) : Except Yaml.Problem Document := do
  match ← Yaml.Graph.ofText s with
  | none => return { root := .null }
  | some g =>
    let b : Yaml.Building := { nodes := g.nodes, values := .replicate g.nodes.size none }
    return (← (Yaml.Builder.document g).run b).1

end ChatRelay
