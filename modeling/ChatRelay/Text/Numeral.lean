import ChatRelay.Text.Blank
import ChatRelay.Text.Decimal
import ChatRelay.Text.Quoted

/-!
# Numerals

A numeral is a run of decimal digits of any script. Reading one is refused when it has more
than `Numeral.limit` digits, leading zeros counted. An integer literal is a numeral with an
optional sign, single underscores between its digits and any spaces around it. A numeral that is
too long is refused as such even where something else than a space follows it.
-/

namespace ChatRelay.Text

namespace Numeral

/-- The most digits that a numeral may have. -/
def limit : Nat := 4300

/-- Why a numeral is not read. -/
inductive Refusal where
  /-- The text is not an integer literal. -/
  | malformed (text : String)
  /-- The numeral has this many digits. -/
  | tooLong (digits : Nat)
  deriving DecidableEq, Repr, Inhabited

/-- The most characters of a quoted text that a message about a malformed numeral shows. -/
def shownLimit : Nat := 200

/-- The message about a quoted text that is no integer literal to this base. -/
def malformedMessage (base : Nat) (quotedText : String) : String :=
  s!"invalid literal for int() with base {base}: " ++
    String.ofList (quotedText.toList.take shownLimit)

/-- The message of a refusal. -/
def Refusal.message : Refusal → String
  | malformed text => malformedMessage 10 (quoted text)
  | tooLong digits =>
    s!"Exceeds the limit ({limit} digits) for integer string conversion: " ++
      s!"value has {digits} digits; use sys.set_int_max_str_digits() to increase the limit"

/-- The value of a run of digits. -/
def ofDigits (cs : List Char) : Except Refusal Nat :=
  if limit < cs.length then .error (.tooLong cs.length) else .ok (decimalValue cs)

/-- The digits of a run with single underscores between them. -/
def digitsWithUnderscores? : List Char → Option (List Char)
  | [] => none
  | [c] => if isDecimal c then some [c] else none
  | c :: '_' :: rest =>
    if isDecimal c then (digitsWithUnderscores? rest).map (c :: ·) else none
  | c :: rest => if isDecimal c then (digitsWithUnderscores? rest).map (c :: ·) else none

/-- Whether a character may stand around a literal. An information separator may not. -/
def isSpace (c : Char) : Bool := isBlank c && !(decide (0x1c ≤ c.toNat) && decide (c.toNat ≤ 0x1f))

/-- Whether a character may stand in the numeral of a literal. -/
def isPart (c : Char) : Bool := isDecimal c || c = '_'

/-- The sign that a literal starts with, as whether it is negative, and what follows it. -/
def splitSign : List Char → Bool × List Char
  | '-' :: rest => (true, rest)
  | '+' :: rest => (false, rest)
  | cs => (false, cs)

end Numeral

open Numeral in
/-- The value of an integer literal. -/
def readInt (s : String) : Except Refusal Int :=
  let signed := splitSign (s.toList.dropWhile isSpace)
  match digitsWithUnderscores? (signed.2.takeWhile isPart) with
  | none => .error (.malformed s)
  | some digits => (ofDigits digits).bind fun n =>
    if (signed.2.dropWhile isPart).all isSpace then .ok (if signed.1 then -(n : Int) else n)
    else .error (.malformed s)

end ChatRelay.Text
