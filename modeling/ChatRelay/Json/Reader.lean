import ChatRelay.Json
import ChatRelay.Text.Numeral

/-!
# Reading JSON

The reader takes the standard grammar, and besides it the numbers `NaN`, `Infinity` and
`-Infinity`. A control character inside a text is refused, and so is an integer of more digits
than a numeral may have. Two escapes that form a surrogate pair are one character. The reader is
told how many levels deep lists and objects may be nested.
-/

namespace ChatRelay.Json

open Text

/-- Whether a character may stand between the parts of a value. -/
def isSpace (c : Char) : Bool := c = ' ' || c = '\t' || c = '\n' || c = '\r'

/-- What is left after spaces. -/
def skipSpaces (cs : List Char) : List Char := cs.dropWhile isSpace

/-- The value of a hexadecimal digit. -/
def hexValue? (c : Char) : Option Nat :=
  let n := c.toNat
  if 0x30 ≤ n ∧ n ≤ 0x39 then some (n - 0x30)
  else if 0x61 ≤ n ∧ n ≤ 0x66 then some (n - 0x57)
  else if 0x41 ≤ n ∧ n ≤ 0x46 then some (n - 0x37)
  else none

/-- The number that hexadecimal digits stand for. -/
def hexNumber? (cs : List Char) : Option Nat :=
  cs.foldl (fun n c => n.bind fun n => (hexValue? c).map fun d => 16 * n + d) (some 0)

/-- The character of a short escape. -/
def shortEscape? (c : Char) : Option Char :=
  if c = '"' || c = '\\' || c = '/' then some c
  else if c = 'n' then some '\n'
  else if c = 't' then some '\t'
  else if c = 'r' then some '\r'
  else if c = 'b' then some '\x08'
  else if c = 'f' then some '\x0c'
  else none

/-- The code points of a text up to its closing quote, one for each escape, and what is left after
the quote. -/
def readPoints : List Char → Option (Wide × List Char)
  | [] => none
  | '"' :: rest => some ([], rest)
  | '\\' :: 'u' :: a :: b :: c :: d :: rest =>
    (hexNumber? [a, b, c, d]).bind fun n => (readPoints rest).map fun r => (.ofCode n :: r.1, r.2)
  | '\\' :: c :: rest =>
    (shortEscape? c).bind fun e => (readPoints rest).map fun r => (.char e :: r.1, r.2)
  | c :: rest =>
    if c.toNat < 0x20 || c = '\\' then none
    else (readPoints rest).map fun r => (.char c :: r.1, r.2)

/-- The text up to its closing quote, and what is left after the quote. -/
def readText (cs : List Char) : Option (Wide × List Char) :=
  (readPoints cs).map fun r => (r.1.joined, r.2)

/-- The digits that stand here, and what is left after them. -/
def spanDigits (cs : List Char) : List Char × List Char :=
  (cs.takeWhile Char.isDigit, cs.dropWhile Char.isDigit)

/-- The digits of the whole part of a number: a zero alone, or digits that start with none. -/
def wholeDigits? : List Char → Option (List Char × List Char)
  | '0' :: rest => some (['0'], rest)
  | cs => if (spanDigits cs).1.isEmpty then none else some (spanDigits cs)

/-- The fraction of a number with its point; where no digit follows the point, there is none. -/
def fractionPart (cs : List Char) : List Char × List Char :=
  match cs with
  | '.' :: rest =>
    if (spanDigits rest).1.isEmpty then ([], cs)
    else ('.' :: (spanDigits rest).1, (spanDigits rest).2)
  | _ => ([], cs)

/-- The exponent of a number with its mark; where no digit follows the mark, there is none. -/
def exponentPart (cs : List Char) : List Char × List Char :=
  match cs with
  | e :: rest =>
    if e = 'e' || e = 'E' then
      let sign := rest.takeWhile fun c => c = '+' || c = '-'
      let digits := spanDigits (rest.drop sign.length)
      if 1 < sign.length || digits.1.isEmpty then ([], cs)
      else (e :: sign ++ digits.1, digits.2)
    else ([], cs)
  | [] => ([], cs)

/-- The number with these parts. -/
def ofParts (negative : Bool) (whole fraction exponent : List Char) : Option Json :=
  if fraction.isEmpty && exponent.isEmpty then
    match Numeral.ofDigits whole with
    | .ok n => some (.integer (if negative then -(n : Int) else n))
    | .error _ => none
  else
    some (.decimal (String.ofList
      ((if negative then ['-'] else []) ++ whole ++ fraction ++ exponent)))

/-- A number. -/
def readNumber? (cs : List Char) : Option (Json × List Char) :=
  let negative := cs.head? = some '-'
  (wholeDigits? (if negative then cs.tail else cs)).bind fun whole =>
    let fraction := fractionPart whole.2
    let exponent := exponentPart fraction.2
    (ofParts negative whole.1 fraction.1 exponent.1).map fun j => (j, exponent.2)

/-- The values that are written as a name. -/
def names : List (String × Json) := [
  ("null", .null), ("true", .bool true), ("false", .bool false), ("NaN", .decimal "NaN"),
  ("Infinity", .decimal "Infinity"), ("-Infinity", .decimal "-Infinity")]

/-- A value that is written as a name. -/
def readName? (cs : List Char) : Option (Json × List Char) :=
  names.findSome? fun name =>
    (name.1.toList.isPrefixOf? cs).map fun rest => (name.2, rest)

/-- What was read, or the refusal of a text that breaks a rule. -/
def orMalformed {α : Type} : Option α → Except Refusal α
  | some a => .ok a
  | none => .error .malformed

mutual

/-- Reads a value that stands at the very start; `steps` bounds the number of parts read, and
`levels` the nesting. -/
def readValue (steps levels : Nat) (cs : List Char) : Except Refusal (Json × List Char) :=
  match steps with
  | 0 => .error .malformed
  | steps + 1 =>
    match cs, levels with
    | '"' :: rest, _ => (orMalformed (readText rest)).map fun r => (.text r.1, r.2)
    | '[' :: _, 0 => .error (.tooDeep false)
    | '[' :: rest, levels + 1 =>
      match skipSpaces rest with
      | ']' :: rest => .ok (.list [], rest)
      | rest => (readItems steps levels rest).map fun r => (.list r.1, r.2)
    | '\x7b' :: _, 0 => .error (.tooDeep true)
    | '\x7b' :: rest, levels + 1 =>
      match skipSpaces rest with
      | '\x7d' :: rest => .ok (.object [], rest)
      | rest => (readMembers steps levels rest).map fun r => (.object r.1, r.2)
    | cs, _ => orMalformed ((readName? cs).or (readNumber? cs))

/-- Reads the items of a list up to its closing bracket. -/
def readItems (steps levels : Nat) (cs : List Char) : Except Refusal (List Json × List Char) :=
  match steps with
  | 0 => .error .malformed
  | steps + 1 =>
    (readValue steps levels cs).bind fun item =>
      match skipSpaces item.2 with
      | ']' :: rest => .ok ([item.1], rest)
      | ',' :: rest =>
        (readItems steps levels (skipSpaces rest)).map fun r => (item.1 :: r.1, r.2)
      | _ => .error .malformed

/-- Reads the members of an object up to its closing brace. -/
def readMembers (steps levels : Nat) (cs : List Char) :
    Except Refusal (List (Wide × Json) × List Char) :=
  match steps with
  | 0 => .error .malformed
  | steps + 1 =>
    match cs with
    | '"' :: rest =>
      (orMalformed (readText rest)).bind fun key =>
      match skipSpaces key.2 with
      | ':' :: rest =>
        (readValue steps levels (skipSpaces rest)).bind fun value =>
        match skipSpaces value.2 with
        | '\x7d' :: rest => .ok ([(key.1, value.1)], rest)
        | ',' :: rest =>
          (readMembers steps levels (skipSpaces rest)).map fun r =>
            ((key.1, value.1) :: r.1, r.2)
        | _ => .error .malformed
      | _ => .error .malformed
    | _ => .error .malformed

end

/-- The value that a text is, with nothing but spaces around it and nested no deeper than the
levels. Reading stops after more parts than the text has characters, so it never stops for want
of steps. -/
def read (levels : Nat) (s : String) : Except Refusal Json :=
  let cs := s.toList
  (readValue (cs.length + 1) levels (skipSpaces cs)).bind fun r =>
    if (skipSpaces r.2).isEmpty then .ok r.1 else .error .malformed

/-- The value that a text is, however deeply it is nested. -/
def ofText? (s : String) : Option Json := (read (s.length + 1) s).toOption

end ChatRelay.Json
