import ChatRelay.Yaml.Preamble
import ChatRelay.Yaml.Scalar.Plain

/-!
# The layout of a YAML text

How a text falls into tokens. The indentation of a line opens and closes block collections. A key
of a mapping is known as such only when its colon comes, so the places where a key may have
started are remembered: one for each level of flow collections, on the current line and no more
than 1024 characters back. Tokens are only ever appended; the keys that were found are woven in
at the end.

A text that breaks a rule somewhere still has tokens before that place: all those of which it is
known by then whether a key stands before them.
-/

namespace ChatRelay.Yaml

/-- A place where a key may have started. -/
structure PossibleKey where
  /-- The number of tokens before it. -/
  number : Nat
  index : Nat
  line : Nat
  column : Nat
  /-- Whether something else than a key would be wrong there. -/
  required : Bool
  deriving Inhabited

/-- The state of reading the layout. -/
structure Layout where
  cursor : Cursor
  /-- How many flow collections are open. -/
  flow : Nat := 0
  /-- The columns of the open block collections, the innermost first. -/
  blocks : List Nat := []
  /-- Whether a key may start here. -/
  allowsKey : Bool := true
  /-- The places where a key may have started, by levels of flow collections. -/
  possible : List (Nat × PossibleKey) := []
  tokens : Array Token := #[]
  /-- The keys that were found: the numbers of tokens before them, and whether they open a block
  mapping. -/
  keys : List (Nat × Bool) := []
  deriving Inhabited

namespace Layout

/-- The column of the innermost open block collection. -/
def indent (s : Layout) : Int := (s.blocks.head?.map Int.ofNat).getD (-1)

/-- The layout with one more token. -/
def emit (s : Layout) (t : Token) : Layout := { s with tokens := s.tokens.push t }

/-- The layout with the cursor moved by `n` characters over a token. -/
def take (s : Layout) (n : Nat) (t : Token) : Layout :=
  { s.emit t with cursor := s.cursor.advanceBy n }

/-- The layout after a reader has read a token. -/
def takeRead (s : Layout) (read : Found Token) : Except Problem Layout :=
  read.map fun r => { s.emit r.1 with cursor := r.2 }

/-! ## Block collections -/

/-- How many block collections are further to the right than a column, and the others. -/
def deeper (column : Int) : List Nat → Nat × List Nat
  | [] => (0, [])
  | b :: rest =>
    if column < (b : Int) then ((deeper column rest).1 + 1, (deeper column rest).2)
    else (0, b :: rest)

/-- Closes the block collections that are further to the right than a column. Inside a flow
collection the indentation does not matter. -/
def closeBlocks (s : Layout) (column : Int) : Layout :=
  if s.flow ≠ 0 then s
  else
    let found := deeper column s.blocks
    { s with
      blocks := found.2
      tokens := s.tokens ++ (List.replicate found.1 Token.blockEnd).toArray }

/-- Opens a block collection at a column, if none is open there, with what is to be done then. -/
def openBlock (s : Layout) (column : Nat) (opened : Layout → Layout) : Layout :=
  if s.flow = 0 ∧ s.indent < column then opened { s with blocks := column :: s.blocks } else s

/-! ## Keys -/

/-- The most characters between the start of a key and its colon. -/
def keyLimit : Nat := 1024

/-- Forgets the places that are too far back for a key. A place where a key is required must not
be forgotten. -/
def dropStale (s : Layout) : Except Problem Layout :=
  let stale := fun k : PossibleKey =>
    k.line != s.cursor.line || decide (keyLimit < s.cursor.index - k.index)
  if s.possible.any fun k => stale k.2 && k.2.required then .error .malformed
  else .ok { s with possible := s.possible.filter fun k => !stale k.2 }

/-- The place on this level where a key may have started. -/
def possibleKey? (s : Layout) : Option PossibleKey :=
  (s.possible.find? fun k => k.1 == s.flow).map (·.2)

/-- Forgets the place on this level. -/
def forgetKey (s : Layout) : Except Problem Layout :=
  if (s.possibleKey?.map (·.required)).getD false then .error .malformed
  else .ok { s with possible := s.possible.filter fun k => k.1 != s.flow }

/-- Remembers that a key may start here. -/
def rememberKey (s : Layout) : Except Problem Layout :=
  if s.allowsKey then
    let key : PossibleKey :=
      { number := s.tokens.size
        index := s.cursor.index
        line := s.cursor.line
        column := s.cursor.column
        required := s.flow = 0 && s.indent = s.cursor.column }
    s.forgetKey.map fun s => { s with possible := (s.flow, key) :: s.possible }
  else .ok s

/-- The layout where no key may start, or one may. -/
def allow (s : Layout) (allowsKey : Bool) : Layout := { s with allowsKey }

/-! ## Tokens -/

/-- A line of the preamble, or the mark of a document: all block collections are closed. -/
def betweenDocuments (s : Layout) (read : Found Token) : Except Problem Layout := do
  let s ← (s.closeBlocks (-1)).forgetKey
  (s.allow false).takeRead read

/-- The start of a flow collection. -/
def openFlow (s : Layout) (t : Token) : Except Problem Layout :=
  s.rememberKey.map fun s => { s with flow := s.flow + 1, allowsKey := true }.take 1 t

/-- The end of a flow collection, which must be open. -/
def closeFlow (s : Layout) (t : Token) : Except Problem Layout :=
  if s.flow = 0 then .error .malformed
  else s.forgetKey.map fun s => { s with flow := s.flow - 1, allowsKey := false }.take 1 t

/-- A comma of a flow collection. -/
def flowEntry (s : Layout) : Except Problem Layout :=
  (s.allow true).forgetKey.map fun s => s.take 1 .flowEntry

/-- Outside of flow collections some tokens stand only where a key may start. -/
def expectKeyAllowed (s : Layout) : Except Problem Unit :=
  if s.flow = 0 && !s.allowsKey then .error .malformed else .ok ()

/-- The dash of a sequence. -/
def blockEntry (s : Layout) : Except Problem Layout := do
  s.expectKeyAllowed
  let s ← ((s.openBlock s.cursor.column fun s => s.emit .blockSequenceStart).allow true).forgetKey
  return s.take 1 .blockEntry

/-- The question mark before a key. -/
def explicitKey (s : Layout) : Except Problem Layout := do
  s.expectKeyAllowed
  let s := s.openBlock s.cursor.column fun s => s.emit .blockMappingStart
  let s ← (s.allow (s.flow = 0)).forgetKey
  return s.take 1 .key

/-- The colon after the key `k`. -/
def valueAfter (s : Layout) (k : PossibleKey) : Layout :=
  let opens := s.flow = 0 && s.indent < k.column
  { s.openBlock k.column id with
    possible := s.possible.filter fun p => p.1 != s.flow
    keys := (k.number, opens) :: s.keys
    allowsKey := false }.take 1 .value

/-- A colon without a key before it, or after the key that a question mark has announced. -/
def bareValue (s : Layout) : Except Problem Layout := do
  s.expectKeyAllowed
  let s := s.openBlock s.cursor.column fun s => s.emit .blockMappingStart
  let s ← (s.allow (s.flow = 0)).forgetKey
  return s.take 1 .value

/-- A token that may be the start of a key. -/
def keyLike (s : Layout) (read : Found Token) : Except Problem Layout :=
  s.rememberKey.bind fun s => (s.allow false).takeRead read

/-- A plain scalar. A key may start behind it only where a line has ended. -/
def plainScalar (s : Layout) : Except Problem Layout :=
  s.rememberKey.map fun s =>
    let r := plainText (s.flow ≠ 0) (s.indent + 1) (s.cursor.rest.length + 1) [] false s.cursor
    { (s.allow r.2.1).emit (.scalar (.ofChars r.1) true) with cursor := r.2.2 }

/-- A block scalar. -/
def blockText (s : Layout) : Except Problem Layout := do
  let s ← (s.allow true).forgetKey
  s.takeRead ((blockScalar s.indent s.cursor).map fun r => (.scalar r.1 false, r.2))

/-- Whether a plain scalar may start with this character before that one. -/
def startsPlain (s : Layout) (x : Char) (next : Option Char) : Bool :=
  !(endsToken (some x) || "-?:,[]\x7b\x7d#&*!|>\x27\"%@\x60".toList.contains x) ||
    (!endsToken next && (x = '-' || (s.flow = 0 && (x = '?' || x = ':'))))

/-- The layout after the token that starts with this character. -/
def readToken (s : Layout) (x : Char) : Except Problem Layout :=
  let c := s.cursor
  let next := c.peek 1
  let indicates := s.flow ≠ 0 || endsToken next
  if x = '%' && c.column = 0 then s.betweenDocuments (preambleLine c)
  else if c.column = 0 && c.isMarker '-' then
    s.betweenDocuments (.ok (.documentStart, c.advanceBy 3))
  else if c.column = 0 && c.isMarker '.' then
    s.betweenDocuments (.ok (.documentEnd, c.advanceBy 3))
  else if x = '[' then s.openFlow .flowSequenceStart
  else if x = '\x7b' then s.openFlow .flowMappingStart
  else if x = ']' then s.closeFlow .flowSequenceEnd
  else if x = '\x7d' then s.closeFlow .flowMappingEnd
  else if x = ',' then s.flowEntry
  else if x = '-' && endsToken next then s.blockEntry
  else if x = '?' && indicates then s.explicitKey
  else if x = ':' && indicates then
    match s.possibleKey? with
    | some k => .ok (s.valueAfter k)
    | none => s.bareValue
  else if x = '*' then s.keyLike ((anchorName c).map fun r => (.alias r.1, r.2))
  else if x = '&' then s.keyLike ((anchorName c).map fun r => (.anchor r.1, r.2))
  else if x = '!' then s.keyLike ((tagText c).map fun r => (.tag r.1.1 r.1.2, r.2))
  else if (x = '|' || x = '>') && s.flow = 0 then s.blockText
  else if x = '\x27' || x = '"' then
    s.keyLike ((quotedScalar c).map fun r => (.scalar r.1 false, r.2))
  else if s.startsPlain x next then s.plainScalar
  else .error .malformed

/-! ## The whole text -/

/-- The place of the next token, and whether a line ended before it. -/
def skipToToken : (fuel : Nat) → Cursor → Cursor × Bool
  | 0, c => (c, false)
  | fuel + 1, c =>
    let c := c.skipSpaces.skipComment
    let found := c.lineBreak
    if found.1.isEmpty then (c, false) else ((skipToToken fuel found.2).1, true)

/-- The layout at the next token. The end of a line lets a key start, outside of flow
collections. -/
def toNextToken (s : Layout) : Layout :=
  let c :=
    if s.cursor.index = 0 && s.cursor.here = some '\ufeff' then s.cursor.advance else s.cursor
  let r := skipToToken (c.rest.length + 1) c
  { s with cursor := r.1, allowsKey := s.allowsKey || (r.2 && s.flow = 0) }

/-- Tokens with the keys woven in; `n` tokens stand before them. -/
def weave (keys : List (Nat × Bool)) (n : Nat) : List Token → List Token
  | [] => []
  | t :: rest =>
    let before := match keys.find? fun k => k.1 == n with
      | none => []
      | some k => if k.2 then [.blockMappingStart, .key] else [.key]
    before ++ t :: weave keys (n + 1) rest

/-- The tokens at the end of the text. -/
def finish (s : Layout) : Except Problem (List Token) :=
  (s.closeBlocks (-1)).forgetKey.map fun s => weave s.keys 0 (s.emit .streamEnd).tokens.toList

/-- The number of tokens of which it is known whether a key stands before them. -/
def decided (s : Layout) : Nat :=
  (s.possible.map fun k => k.2.number).foldl min s.tokens.size

/-- The tokens of a text that cannot be read on. -/
def giveUp (s : Layout) (problem : Problem) : List Token :=
  match s.dropStale with
  | .ok s => weave s.keys 0 (s.tokens.toList.take s.decided) ++ [.problem problem]
  | .error problem => [.problem problem]

/-- The layout after one more token, or the tokens of the whole text where there is none. -/
def advance (s : Layout) : Except Problem (List Token ⊕ Layout) := do
  let s ← s.toNextToken.dropStale
  let s := s.closeBlocks s.cursor.column
  match s.cursor.here with
  | none => return .inl (← s.finish)
  | some x => return .inr (← s.readToken x)

/-- Reads tokens up to the end of the text. -/
def readAll : (fuel : Nat) → Layout → List Token
  | 0, s => s.giveUp .malformed
  | fuel + 1, s =>
    match s.advance with
    | .error problem => s.giveUp problem
    | .ok (.inl tokens) => tokens
    | .ok (.inr s) => readAll fuel s

end Layout

/-- Whether a character may stand in a YAML text. -/
def isAllowed (c : Char) : Bool :=
  let n := c.toNat
  n = 9 || n = 10 || n = 13 || (decide (0x20 ≤ n) && decide (n ≤ 0x7e)) || n = 0x85 ||
    (decide (0xa0 ≤ n) && n ≠ 0xfffe && n ≠ 0xffff)

/-- The tokens of a text. -/
def Token.ofText (s : String) : List Token :=
  let cs := s.toList
  if cs.all isAllowed then Layout.readAll (cs.length + 1) { cursor := { rest := cs } }
  else [.problem .malformed]

end ChatRelay.Yaml
