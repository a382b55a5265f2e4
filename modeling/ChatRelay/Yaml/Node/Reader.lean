import ChatRelay.Yaml.Layout
import ChatRelay.Yaml.Node

/-!
# Reading nodes

How the tokens of a text form the nodes of one document. A node may have an anchor and a tag; a
node that is left out is an empty scalar. A reader may fail, and otherwise leaves the tokens that
it has not read; it returns the numbers of the nodes that it has read. `fuel` bounds the depth of
the calls; six times the number of tokens is enough.
-/

namespace ChatRelay.Yaml

/-- The tokens that are left, the nodes read so far, and the anchors of some of them. The anchor of
a collection is known while the collection is being read. -/
structure Reading where
  tokens : List Token
  nodes : Array Node := #[]
  anchors : List (String × Nat) := []

/-- A reader of nodes. -/
abbrev NodeReader (α : Type) := StateT Reading (Except Problem) α

/-- The handles of tags with what they stand for. -/
abbrev Handles := List (String × String)

namespace Node

/-- The token that is next. It is not there if the text cannot be read so far. -/
def peek : NodeReader Token := do
  match ((← get).tokens.head?).getD .streamEnd with
  | .problem problem => throw problem
  | t => return t

/-- Goes on to the token after the next one. -/
def skip : NodeReader Unit := modify fun r => { r with tokens := r.tokens.drop 1 }

/-- Reads over one token, which must be the next one. -/
def expect (t : Token) : NodeReader Unit := do
  if (← peek) = t then skip else throw .malformed

/-- Adds a node. -/
def add (node : Node) : NodeReader Nat :=
  modifyGet fun r => (r.nodes.size, { r with nodes := r.nodes.push node })

/-- Gives a node its contents. -/
def fill (n : Nat) (content : Content) : NodeReader Unit :=
  modify fun r => { r with nodes := r.nodes.modify n fun node => { node with content } }

/-- Adds the scalar that stands for a node that is left out. -/
def absent : NodeReader Nat := add ⟨.null, .scalar []⟩

/-- The node that an alias leads to. -/
def aliased (name : String) : NodeReader Nat := do
  match (← get).anchors.find? fun a => a.1 == name with
  | some (_, n) => return n
  | none => throw .malformed

/-- Sets an anchor, if there is one; every anchor is set only once. -/
def setAnchor (anchor : Option String) (n : Nat) : NodeReader Unit :=
  match anchor with
  | none => pure ()
  | some name => do
    if (← get).anchors.any fun a => a.1 == name then throw .malformed
    modify fun r => { r with anchors := (name, n) :: r.anchors }

/-- The whole tag that a handle and a suffix stand for. -/
def wholeTag (handles : Handles) (handle : Option String) (suffix : String) :
    Except Problem String :=
  match handle with
  | none => .ok suffix
  | some handle =>
    match handles.find? fun h => h.1 == handle with
    | some (_, expansion) => .ok (expansion ++ suffix)
    | none => .error .malformed

/-- The anchor and the tag that may stand before a node, in either order. The handle of the tag is
looked up when both are read. -/
def properties (handles : Handles) : NodeReader (Option String × Option String) := do
  match ← peek with
  | .anchor name =>
    skip
    match ← peek with
    | .tag handle suffix =>
      skip
      return (some name, some (← wholeTag handles handle suffix))
    | _ => return (some name, none)
  | .tag handle suffix =>
    skip
    match ← peek with
    | .anchor name =>
      skip
      return (some name, some (← wholeTag handles handle suffix))
    | _ => return (none, some (← wholeTag handles handle suffix))
  | _ => return (none, none)

/-- The kind of a scalar. The tag `!` says that a scalar is what it looks like. -/
def scalarKind (tag : Option String) (text : Text.Wide) (plain : Bool) : Kind :=
  match tag with
  | none => if plain then .ofText text else .text
  | some "!" => .ofText text
  | some tag => .ofTag tag

/-- The kind of a collection. -/
def collectionKind (tag : Option String) (implied : Kind) : Kind :=
  match tag with
  | none | some "!" => implied
  | some tag => .ofTag tag

/-- What a node starts with after its anchor and its tag. -/
inductive Start where
  | scalar (text : Text.Wide) (plain : Bool)
  | blockSequence
  | indentlessSequence
  | blockMapping
  | flowSequence
  | flowMapping
  | nothing

/-- The start that a token is. A block collection starts only where `block` allows it, and a
sequence without indentation only as the value or the key of a block mapping. -/
def startOf (block indentless : Bool) : Token → Start
  | .blockEntry => if indentless then .indentlessSequence else .nothing
  | .scalar text plain => .scalar text plain
  | .flowSequenceStart => .flowSequence
  | .flowMappingStart => .flowMapping
  | .blockSequenceStart => if block then .blockSequence else .nothing
  | .blockMappingStart => if block then .blockMapping else .nothing
  | _ => .nothing

mutual

/-- A node. -/
def read (handles : Handles) : (fuel : Nat) → (block indentless : Bool) → NodeReader Nat
  | 0, _, _ => throw .malformed
  | fuel + 1, block, indentless => do
    match ← peek with
    | .alias name =>
      skip
      aliased name
    | _ =>
      let (anchor, tag) ← properties handles
      let scalar := fun (text : Text.Wide) (plain : Bool) => do
        let n ← add ⟨scalarKind tag text plain, .scalar text⟩
        setAnchor anchor n
        return n
      let sequence := fun (items : NodeReader (List Nat)) => do
        let n ← add ⟨collectionKind tag .list, .sequence []⟩
        setAnchor anchor n
        fill n (.sequence (← items))
        return n
      let mapping := fun (members : NodeReader (List (Nat × Nat))) => do
        let n ← add ⟨collectionKind tag .mapping, .mapping []⟩
        setAnchor anchor n
        fill n (.mapping (← members))
        return n
      match startOf block indentless (← peek) with
      | .scalar text plain =>
        skip
        scalar text plain
      | .indentlessSequence => sequence (entries handles fuel true)
      | .blockSequence =>
        skip
        sequence (entries handles fuel false)
      | .blockMapping =>
        skip
        mapping (members handles fuel)
      | .flowSequence =>
        skip
        sequence (flowItems handles fuel true)
      | .flowMapping =>
        skip
        mapping (flowMembers handles fuel true)
      | .nothing => if anchor.isNone && tag.isNone then throw .malformed else scalar [] true

/-- A node that is left out before one of the given tokens. -/
def readUnless (handles : Handles) :
    (fuel : Nat) → (block indentless : Bool) → (absentBefore : List Token) → NodeReader Nat
  | 0, _, _, _ => throw .malformed
  | fuel + 1, block, indentless, absentBefore => do
    if absentBefore.contains (← peek) then absent
    else read handles fuel block indentless

/-- The value behind a colon, which is left out with its colon or without it. -/
def readValue (handles : Handles) :
    (fuel : Nat) → (block : Bool) → (absentBefore : List Token) → NodeReader Nat
  | 0, _, _ => throw .malformed
  | fuel + 1, block, absentBefore => do
    if (← peek) = .value then
      skip
      readUnless handles fuel block block absentBefore
    else absent

/-- The entries of a block sequence up to its end. A sequence without indentation ends where no
entry follows. -/
def entries (handles : Handles) : (fuel : Nat) → (indentless : Bool) → NodeReader (List Nat)
  | 0, _ => throw .malformed
  | fuel + 1, indentless => do
    if (← peek) = .blockEntry then
      skip
      let ends : List Token :=
        if indentless then [.blockEntry, .key, .value, .blockEnd] else [.blockEntry, .blockEnd]
      let item ← readUnless handles fuel true false ends
      return item :: (← entries handles fuel indentless)
    else
      if !indentless then expect .blockEnd
      return []

/-- The members of a block mapping up to its end. -/
def members (handles : Handles) : (fuel : Nat) → NodeReader (List (Nat × Nat))
  | 0 => throw .malformed
  | fuel + 1 => do
    let ends : List Token := [.key, .value, .blockEnd]
    if (← peek) = .key then
      skip
      let key ← readUnless handles fuel true true ends
      let value ← readValue handles fuel true ends
      return (key, value) :: (← members handles fuel)
    else
      expect .blockEnd
      return []

/-- The items of a flow sequence up to its bracket. An item may be a single member of a mapping. -/
def flowItems (handles : Handles) : (fuel : Nat) → (first : Bool) → NodeReader (List Nat)
  | 0, _ => throw .malformed
  | fuel + 1, first => do
    if (← peek) = .flowSequenceEnd then
      skip
      return []
    else
      if !first then expect .flowEntry
      match ← peek with
      | .key =>
        skip
        let key ← readUnless handles fuel false false [.value, .flowEntry, .flowSequenceEnd]
        let value ← readValue handles fuel false [.flowEntry, .flowSequenceEnd]
        let item ← add ⟨.mapping, .mapping [(key, value)]⟩
        return item :: (← flowItems handles fuel false)
      | .flowSequenceEnd =>
        skip
        return []
      | _ =>
        let item ← read handles fuel false false
        return item :: (← flowItems handles fuel false)

/-- The members of a flow mapping up to its brace. -/
def flowMembers (handles : Handles) :
    (fuel : Nat) → (first : Bool) → NodeReader (List (Nat × Nat))
  | 0, _ => throw .malformed
  | fuel + 1, first => do
    if (← peek) = .flowMappingEnd then
      skip
      return []
    else
      if !first then expect .flowEntry
      match ← peek with
      | .key =>
        skip
        let key ← readUnless handles fuel false false [.value, .flowEntry, .flowMappingEnd]
        let value ← readValue handles fuel false [.flowEntry, .flowMappingEnd]
        return (key, value) :: (← flowMembers handles fuel false)
      | .flowMappingEnd =>
        skip
        return []
      | _ =>
        let key ← read handles fuel false false
        return (key, ← absent) :: (← flowMembers handles fuel false)

end

/-! ## Documents -/

/-- The handles that every document knows. -/
def standardHandles : Handles := [("!", "!"), ("!!", Kind.tagBase)]

/-- The lines of the preamble: the handles that they declare, each at most once, after at most one
version line for version one. -/
def preamble : (fuel : Nat) → (versioned : Bool) → Handles → NodeReader Handles
  | 0, _, _ => throw .malformed
  | fuel + 1, versioned, handles => do
    match ← peek with
    | .versionLine major _ =>
      skip
      if versioned ∨ major ≠ 1 then throw .malformed
      preamble fuel true handles
    | .tagLine handle expansion =>
      skip
      if handles.any fun h => h.1 == handle then throw .malformed
      preamble fuel versioned (handles ++ [(handle, expansion)])
    | .otherLine =>
      skip
      preamble fuel versioned handles
    | _ => return handles

/-- Goes on behind marks of the end of a document. -/
def skipEnds : NodeReader Unit :=
  modify fun r => { r with tokens := r.tokens.dropWhile (· = .documentEnd) }

/-- Whether a document starts with its preamble or its mark. -/
def startsExplicitly : Token → Bool
  | .versionLine _ _ | .tagLine _ _ | .otherLine | .documentStart => true
  | _ => false

/-- Whether a token ends the content of a document. -/
def endsContent (t : Token) : Bool :=
  startsExplicitly t || t = .documentEnd || t = .streamEnd

/-- The one document of a text, which may have none. A second document must at least start as one
before it is refused. -/
def readDocument (fuel : Nat) : NodeReader (Option Nat) := do
  let first ← peek
  if first = .streamEnd then return none
  let node ←
    if startsExplicitly first then do
      let declared ← preamble fuel false []
      expect .documentStart
      if endsContent (← peek) then absent
      else read (declared ++ standardHandles) fuel true false
    else read standardHandles fuel true false
  skipEnds
  if (← peek) ≠ .streamEnd then
    let _ ← preamble fuel false []
    throw .malformed
  return some node

/-- The nodes of a list of tokens. -/
def ofTokens (tokens : List Token) : Except Problem (Option Graph) :=
  ((readDocument (6 * tokens.length + 6)).run { tokens }).map fun r =>
    r.1.map fun root => ⟨r.2.nodes, root⟩

end Node

/-- The nodes of a text. -/
def Graph.ofText (s : String) : Except Problem (Option Graph) := Node.ofTokens (Token.ofText s)

end ChatRelay.Yaml
