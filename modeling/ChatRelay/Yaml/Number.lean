import ChatRelay.Decimal.Reader
import ChatRelay.Json.Reader
import ChatRelay.Text.Case
import ChatRelay.Text.Numeral
import ChatRelay.Yaml.Problem

/-!
# Numbers in YAML

Underscores in a number do not count. A whole number is written in binary, octal, decimal or
hexadecimal digits, or in sixtieths with colons between them; a real number is written as a
decimal or in sixtieths, or it is infinite or undefined. A lone surrogate is part of no number.
-/

namespace ChatRelay.Yaml

open Text

/-- A text without its underscores. -/
def withoutLines (s : Wide) : Wide := s.filter (· ≠ .char '_')

/-- The sign of a number, as whether it is negative, and what follows it; there must be at least
one character. -/
def splitSign : Wide → Except Problem (Bool × Wide)
  | [] => .error .emptyNumber
  | .char '-' :: rest => .ok (true, rest)
  | .char '+' :: rest => .ok (false, rest)
  | s => .ok (false, s)

/-- A number with a sign. -/
def signed (negative : Bool) (n : Int) : Int := if negative then -n else n

/-- The parts of a text between colons. -/
def splitColons (s : Wide) : List Wide :=
  s.foldr (fun point parts =>
    if point = .char ':' then [] :: parts
    else match parts with
      | [] => [[point]]
      | part :: rest => (point :: part) :: rest) [[]]

/-! ## Whole numbers -/

/-- The value of a digit to a base. -/
def digitOf? (base : Nat) (c : Char) : Option Nat :=
  ((digitValue? c).or (Json.hexValue? c)).filter (· < base)

/-- The letter that announces a base. -/
def baseMark (base : Nat) : Char := if base = 2 then 'b' else if base = 8 then 'o' else 'x'

/-- What is left after the announcement of a base, if there is one. -/
def dropBaseMark (base : Nat) : List Char → List Char
  | '0' :: mark :: rest => if mark.toLower = baseMark base then rest else '0' :: mark :: rest
  | cs => cs

/-- The characters of a text without the spaces around it. -/
def stripped (s : Wide) : List Char :=
  let cs := (s.map Point.shown).dropWhile Numeral.isSpace
  (cs.reverse.dropWhile Numeral.isSpace).reverse

/-- The whole number to a base other than ten. -/
def readBase (base : Nat) (s : Wide) : Except Problem Int :=
  let read := Numeral.splitSign (stripped s)
  match (dropBaseMark base read.2).mapM (digitOf? base) with
  | some (d :: ds) => .ok (signed read.1 ((d :: ds).foldl (fun n d => base * n + d) 0 : Nat))
  | _ => .error (.notInteger base s)

/-- The whole number to the base ten. -/
def readDecimal (s : Wide) : Except Problem Int :=
  (readInt s.text).mapError fun refusal => match refusal with
    | .malformed _ => .notInteger 10 s
    | .tooLong _ => .notNumeral refusal

/-- The whole number without its sign. -/
def readMagnitude (s : Wide) : Except Problem Int :=
  match s with
  | [] => .error .emptyNumber
  | [.char '0'] => .ok 0
  | .char '0' :: .char 'b' :: digits => readBase 2 digits
  | .char '0' :: .char 'x' :: digits => readBase 16 digits
  | .char '0' :: digits => readBase 8 (.char '0' :: digits)
  | s =>
    if s.contains (.char ':') then
      ((splitColons s).mapM readDecimal).map fun parts => parts.foldl (fun n d => 60 * n + d) 0
    else readDecimal s

/-- The whole number that a text stands for. -/
def readInteger (s : Wide) : Except Problem Int := do
  let read ← splitSign (withoutLines s)
  return signed read.1 (← readMagnitude read.2)

/-! ## Real numbers -/

/-- The decimal digits of any script as those of ASCII. -/
def toAsciiDigit (c : Char) : Char :=
  match digitValue? c with
  | some d => Char.ofNat (0x30 + d)
  | none => c

/-- Whether a text is a decimal without a sign: digits with at most one point, and perhaps an
exponent. -/
def isDecimalText (cs : List Char) : Bool :=
  let whole := cs.takeWhile Char.isDigit
  let rest := cs.drop whole.length
  let fraction := if rest.head? = some '.' then (rest.drop 1).takeWhile Char.isDigit else []
  let rest := if rest.head? = some '.' then rest.drop (fraction.length + 1) else rest
  !(whole ++ fraction).isEmpty &&
    match rest with
    | [] => true
    | e :: exponent =>
      let digits := match exponent with
        | '+' :: digits | '-' :: digits => digits
        | digits => digits
      e = 'e' && !digits.isEmpty && digits.all Char.isDigit

/-- The real number that a text in lower case stands for. -/
def readFloat (s : Wide) : Except Problem Decimal.Binary :=
  let read := Numeral.splitSign ((stripped s).map toAsciiDigit)
  let word := String.ofList read.2
  if word = "inf" ∨ word = "infinity" then .ok (Decimal.infinity read.1)
  else if word = "nan" then .ok Decimal.undefined
  else if isDecimalText read.2 then .ok (Decimal.unsigned read.1 read.2)
  else .error (.notReal s)

/-- The other number with the same size. -/
def negated (x : Decimal.Binary) : Decimal.Binary := .ofFloat (-x.toFloat)

/-- The sum of sixtieths, the last one first, where the next one counts for `place` and what was
added up so far is `sum`. -/
def sumSixtieths (place : Nat) (sum : Float) : List Decimal.Binary → Except Problem Decimal.Binary
  | [] => .ok (.ofFloat sum)
  | part :: rest =>
    if (Float.ofNat place).isInf then .error .hugePlace
    else sumSixtieths (60 * place) (sum + part.toFloat * Float.ofNat place) rest

/-- The real number without its sign. -/
def readSize (s : Wide) : Except Problem Decimal.Binary :=
  if s = Wide.ofString ".inf" then .ok (Decimal.infinity false)
  else if s.contains (.char ':') then do
    let parts ← (splitColons s).mapM readFloat
    sumSixtieths 1 0 parts.reverse
  else readFloat s

/-- Whether a real number is the one that is written as undefined, whatever its sign. -/
def isUndefinedWord (s : Wide) : Bool :=
  match splitSign (withoutLines s).lower with
  | .ok read => read.2 == Wide.ofString ".nan"
  | .error _ => false

/-- The real number that a text stands for. -/
def readReal (s : Wide) : Except Problem Decimal.Binary := do
  if isUndefinedWord s then return Decimal.undefined
  let read ← splitSign (withoutLines s).lower
  let x ← readSize read.2
  return if read.1 && !x.isUndefined then negated x else x

end ChatRelay.Yaml
