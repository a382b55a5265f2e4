import ChatRelay.Yaml.Cursor

/-!
# Block scalars of YAML

A block scalar is a block of indented lines below its mark, which are taken as they are, or joined
where the mark asks for it. `fuel` bounds the number of steps; the
length of the text is always enough.
-/

namespace ChatRelay.Yaml

/-- What happens to the line ends at the end of a block scalar. -/
inductive Chomping where
  | clip
  | strip
  | keep
  deriving DecidableEq, Repr, Inhabited

/-- The chomping that a character asks for. -/
def chomping? (c : Option Char) : Option Chomping :=
  if c = some '+' then some .keep else if c = some '-' then some .strip else none

/-- The indentation that a digit asks for. -/
def indentation? (c : Option Char) : Option Nat :=
  c.bind fun x => if x.isDigit then some (x.toNat - 48) else none

/-- The indicators behind the mark of a block scalar, in either order. -/
def blockIndicators (c : Cursor) : Found (Chomping × Option Nat) :=
  let read : (Chomping × Option Nat) × Cursor :=
    match chomping? c.here, indentation? c.here with
    | some chomping, _ =>
      match indentation? c.advance.here with
      | some n => ((chomping, some n), c.advanceBy 2)
      | none => ((chomping, none), c.advance)
    | none, some n =>
      match chomping? c.advance.here with
      | some chomping => ((chomping, some n), c.advanceBy 2)
      | none => ((.clip, some n), c.advance)
    | none, none => ((.clip, none), c)
  if read.1.2 = some 0 || !endsWord read.2.here then .error .malformed else .ok read

/-- The place behind spaces, a comment and the end of the line, where nothing else stands. -/
def restOfLine (c : Cursor) : Except Problem Cursor :=
  let c := c.skipSpaces.skipComment
  if endsLine c.here then .ok c.lineBreak.2 else .error .malformed

/-- The place behind spaces up to a column. -/
def skipToColumn (column : Int) (c : Cursor) : Cursor :=
  let room := (column - c.column).toNat
  c.advanceBy (min room (c.rest.takeWhile (· = ' ')).length)

/-- The empty lines before a line of a block scalar, and the place in it at a column. -/
def blockBreaks (column : Int) : (fuel : Nat) → Cursor → List Char × Cursor
  | 0, c => ([], c)
  | fuel + 1, c =>
    let c := skipToColumn column c
    let found := c.lineBreak
    if found.1.isEmpty then ([], c)
    else
      let r := blockBreaks column fuel found.2
      (found.1 ++ r.1, r.2)

/-- The empty lines before the first line of a block scalar, and the greatest column of those
lines and that line. -/
def blockIndentation : (fuel : Nat) → (greatest : Nat) → Cursor → List Char × Nat × Cursor
  | 0, greatest, c => ([], greatest, c)
  | fuel + 1, greatest, c =>
    let c := c.skipSpaces
    let greatest := max greatest c.column
    let found := c.lineBreak
    if found.1.isEmpty then ([], greatest, c)
    else
      let r := blockIndentation fuel greatest found.2
      (found.1 ++ r.1, r.2)

/-- Whether a line starts with a space or a tab. -/
def startsIndented (c : Cursor) : Bool := c.here = some ' ' || c.here = some '\t'

/-- The lines of a block scalar: its text without the last line end, that line end, the empty
lines after it, and the place behind. -/
def blockLines (fold : Bool) (column : Int) :
    (fuel : Nat) → (empty : List Char) → Cursor → List Char × List Char × List Char × Cursor
  | 0, empty, c => ([], [], empty, c)
  | fuel + 1, empty, c =>
    if (c.column : Int) ≠ column || c.here.isNone then ([], [], empty, c)
    else
      let line := c.span fun x => !isBreak x
      let ended := line.2.lineBreak
      let next := blockBreaks column fuel ended.2
      let text := empty ++ line.1
      if (next.2.column : Int) = column && next.2.here.isSome then
        let glue :=
          if fold && ended.1 = ['\n'] && !startsIndented c && !startsIndented next.2 then
            if next.1.isEmpty then [' '] else []
          else ended.1
        let r := blockLines fold column fuel next.1 next.2
        (text ++ glue ++ r.1, r.2)
      else (text, ended.1, next.1, next.2)

/-- A block scalar, from its mark on, inside a block of the given indentation. -/
def blockScalar (indent : Int) (c : Cursor) : Found Text.Wide :=
  (blockIndicators c.advance).bind fun indicators =>
  (restOfLine indicators.2).map fun start =>
    let least := max (indent + 1) 1
    let fuel := start.rest.length + 1
    let begun : List Char × Int × Cursor :=
      match indicators.1.2 with
      | some n =>
        let r := blockBreaks (least + n - 1) fuel start
        (r.1, least + n - 1, r.2)
      | none =>
        let r := blockIndentation fuel 0 start
        (r.1, max least r.2.1, r.2.2)
    let read := blockLines (c.here = some '>') begun.2.1 fuel begun.1 begun.2.2
    let final := if indicators.1.1 = .strip then [] else read.2.1
    let trailing := if indicators.1.1 = .keep then read.2.2.1 else []
    (.ofChars (read.1 ++ final ++ trailing), read.2.2.2)

end ChatRelay.Yaml
