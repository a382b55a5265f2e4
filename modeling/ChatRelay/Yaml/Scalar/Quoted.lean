import ChatRelay.Json.Reader
import ChatRelay.Text.Wide
import ChatRelay.Yaml.Cursor

/-!
# Quoted scalars of YAML

A scalar between single quotes knows one escape, the doubled quote; a scalar between double
quotes knows many. A numeric escape may name a lone surrogate; two of them are never joined. A
single line end inside quotes counts for a space, and of several in a row all but the first count.
`fuel` bounds the number of steps; the length of the text is always enough.
-/

namespace ChatRelay.Yaml

/-- The character that a short escape stands for. -/
def shortEscape? (c : Char) : Option Char :=
  ([('0', '\x00'), ('a', '\x07'), ('b', '\x08'), ('t', '\t'), ('\t', '\t'), ('n', '\n'),
    ('v', '\x0b'), ('f', '\x0c'), ('r', '\r'), ('e', '\x1b'), (' ', ' '), ('"', '"'),
    ('\\', '\\'), ('/', '/'), ('N', '\u0085'), ('_', '\u00a0'), ('L', '\u2028'),
    ('P', '\u2029')].find? fun e => e.1 == c).map (·.2)

/-- The number of digits of a numeric escape. -/
def escapeWidth? (c : Char) : Option Nat :=
  if c = 'x' then some 2 else if c = 'u' then some 4 else if c = 'U' then some 8 else none

/-- The empty lines inside a quoted scalar. -/
def quotedBreaks : (fuel : Nat) → Cursor → Found (List Char)
  | 0, _ => .error .malformed
  | fuel + 1, c =>
    if c.isAnyMarker then .error .malformed
    else
      let c := (c.span fun x => x = ' ' || x = '\t').2
      let found := c.lineBreak
      if found.1.isEmpty then .ok ([], c)
      else (quotedBreaks fuel found.2).map fun r => (found.1 ++ r.1, r.2)

/-- The end of a line inside a scalar and the empty lines after it: a single newline counts for a
space. -/
def folded (lineEnd empty : List Char) : List Char :=
  if lineEnd != ['\n'] then lineEnd ++ empty
  else if empty.isEmpty then [' ']
  else empty

/-- The spaces and line ends inside a quoted scalar. -/
def quotedSpaces (fuel : Nat) (c : Cursor) : Found (List Char) :=
  let spaces := c.span fun x => x = ' ' || x = '\t'
  match spaces.2.here with
  | none => .error .malformed
  | some _ =>
    let found := spaces.2.lineBreak
    if found.1.isEmpty then .ok spaces
    else (quotedBreaks fuel found.2).map fun r => (folded found.1 r.1, r.2)

/-- What was found, as a wide text. -/
def Found.widened (found : Found (List Char)) : Found Text.Wide :=
  found.map fun r => (.ofChars r.1, r.2)

/-- A numeric escape inside double quotes, behind its letter. -/
def numericEscaped (width : Nat) (c : Cursor) : Found Text.Wide :=
  let digits := c.rest.take width
  match Json.hexNumber? digits with
  | none => .error .malformed
  | some n =>
    if digits.length < width then .error .malformed
    else if 0x110000 ≤ n then .error (.noCharacter n)
    else .ok ([.ofCode n], c.advanceBy width)

/-- An escape inside double quotes, behind its backslash. An escaped line end counts for nothing,
and neither do the spaces at the start of the next line. -/
def escaped (fuel : Nat) (c : Cursor) : Found Text.Wide :=
  match c.here with
  | none => .error .malformed
  | some x =>
    match shortEscape? x, escapeWidth? x with
    | some e, _ => .ok ([.char e], c.advance)
    | none, some width => numericEscaped width c.advance
    | none, none =>
      let found := c.lineBreak
      if found.1.isEmpty then .error .malformed else (quotedBreaks fuel found.2).widened

/-- The text up to the closing quote. -/
def quotedText (double : Bool) : (fuel : Nat) → Cursor → Found Text.Wide
  | 0, _ => .error .malformed
  | fuel + 1, c =>
    let go := fun (read : Found Text.Wide) =>
      read.bind fun r => (quotedText double fuel r.2).map fun s => (r.1 ++ s.1, s.2)
    match c.here with
    | none => .error .malformed
    | some x =>
      if x = '\x27' && !double then
        if c.peek 1 = some '\x27' then go (.ok ([.char '\x27'], c.advanceBy 2))
        else .ok ([], c.advance)
      else if x = '"' && double then .ok ([], c.advance)
      else if x = '\\' && double then go (escaped (fuel + 1) c.advance)
      else if x = ' ' || x = '\t' || isBreak x then go (quotedSpaces (fuel + 1) c).widened
      else go (.ok ([.char x], c.advance))

/-- A quoted scalar. -/
def quotedScalar (c : Cursor) : Found Text.Wide :=
  quotedText (c.here = some '"') (c.rest.length + 1) c.advance

end ChatRelay.Yaml
