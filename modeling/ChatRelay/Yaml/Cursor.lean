import ChatRelay.Yaml.Problem

/-!
# A place in a YAML text

The scanner of a YAML text walks over it with a cursor, which knows the line and the column where
it stands. Five characters end a line: the newline, the carriage return, the next-line character
and the two separators of Unicode.
-/

namespace ChatRelay.Yaml

/-- A place in a text: what is left of it, how much lies behind, and the line and column. -/
structure Cursor where
  rest : List Char
  index : Nat := 0
  line : Nat := 0
  column : Nat := 0
  deriving Inhabited

/-- What a reader of a part of a text returns: what it read and the place behind it. -/
abbrev Found (α : Type) := Except Problem (α × Cursor)

/-- Whether a character ends a line. -/
def isBreak (c : Char) : Bool :=
  c = '\n' || c = '\r' || c = '\u0085' || c = '\u2028' || c = '\u2029'

/-- Whether a character is the end of the text or ends a line. -/
def endsLine (c : Option Char) : Bool := (c.map isBreak).getD true

/-- Whether a character is the end of the text, ends a line or is a space. -/
def endsWord (c : Option Char) : Bool := endsLine c || c = some ' '

/-- Whether a character is the end of the text, ends a line, or is a space or a tab. -/
def endsToken (c : Option Char) : Bool := endsWord c || c = some '\t'

namespace Cursor

/-- The character `n` places further on. -/
def peek (c : Cursor) (n : Nat) : Option Char := c.rest[n]?

/-- The character here. -/
def here (c : Cursor) : Option Char := c.rest.head?

/-- One character further on. -/
def advance (c : Cursor) : Cursor :=
  match c.rest with
  | [] => c
  | x :: rest =>
    if isBreak x && !(x = '\r' && rest.head? = some '\n') then
      { rest, index := c.index + 1, line := c.line + 1, column := 0 }
    else
      { rest, index := c.index + 1, line := c.line
        column := if x = '\ufeff' then c.column else c.column + 1 }

/-- `n` characters further on. -/
def advanceBy (c : Cursor) : Nat → Cursor
  | 0 => c
  | n + 1 => c.advance.advanceBy n

/-- The characters of a class that stand here, and the place behind them. -/
def span (c : Cursor) (inClass : Char → Bool) : List Char × Cursor :=
  let run := c.rest.takeWhile inClass
  (run, c.advanceBy run.length)

/-- The place behind spaces. -/
def skipSpaces (c : Cursor) : Cursor := (c.span (· = ' ')).2

/-- The place behind a comment, if one stands here. -/
def skipComment (c : Cursor) : Cursor :=
  if c.here = some '#' then (c.span fun x => !isBreak x).2 else c

/-- The end of a line that stands here, as the text that it counts for, and the place behind it.
Where no line ends the text is empty. -/
def lineBreak (c : Cursor) : List Char × Cursor :=
  match c.rest with
  | '\r' :: '\n' :: _ => (['\n'], c.advanceBy 2)
  | x :: _ =>
    if x = '\u2028' || x = '\u2029' then ([x], c.advance)
    else if isBreak x then (['\n'], c.advance)
    else ([], c)
  | [] => ([], c)

/-- Whether the marker of a document, three equal characters, stands here. -/
def isMarker (c : Cursor) (mark : Char) : Bool :=
  (c.rest.take 3 == [mark, mark, mark]) && endsToken (c.peek 3)

/-- Whether the start or the end of a document is marked here. -/
def isAnyMarker (c : Cursor) : Bool := c.isMarker '-' || c.isMarker '.'

end Cursor

end ChatRelay.Yaml
