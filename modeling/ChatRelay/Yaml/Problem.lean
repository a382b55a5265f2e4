import ChatRelay.Text.Numeral
import ChatRelay.Text.Wide

/-!
# Problems of a YAML text

Why a text is no YAML document, or why a scalar of it has no value of the kind that it is said to
have.
-/

namespace ChatRelay.Yaml

/-- The parts of a date and a time that have bounds. -/
inductive DatePart where
  | year (n : Nat)
  | month
  | day
  | hour
  | minute
  | second
  /-- The distance from universal time, shown. -/
  | offset (shown : String)
  deriving DecidableEq, Repr, Inhabited

/-- Why a text is no document. -/
inductive Problem where
  /-- The text breaks a rule of the language. -/
  | malformed
  /-- An escape has the code of no character. -/
  | noCharacter (code : Nat)
  /-- A scalar is no whole number in this base. -/
  | notInteger (base : Nat) (text : Text.Wide)
  /-- A number has too many digits. -/
  | notNumeral (refusal : Text.Numeral.Refusal)
  /-- A scalar is no real number. -/
  | notReal (text : Text.Wide)
  /-- A number has no characters. -/
  | emptyNumber
  /-- A number has so many sixtieths that the first one counts for more than any real number. -/
  | hugePlace
  /-- A scalar, in lower case, is neither yes nor no. -/
  | notTruth (text : Text.Wide)
  /-- What is said to be a date is no scalar. -/
  | noScalar
  /-- The default value of a mapping is that mapping. -/
  | endless
  /-- A scalar is no date. -/
  | notDate
  /-- A part of a date is out of its bounds. -/
  | outOfBounds (part : DatePart)
  deriving DecidableEq, Repr, Inhabited

namespace Problem

/-- The codes from here on are not even looked up. -/
def codeLimit : Nat := 2147483648

/-- The kind of error that a problem is reported as. -/
def kind : Problem → String
  | malformed => "YAMLError"
  | noCharacter code => if code < codeLimit then "ValueError" else "OverflowError"
  | hugePlace => "OverflowError"
  | noScalar => "TypeError"
  | endless => "RecursionError"
  | notInteger _ _ | notNumeral _ | notReal _ | outOfBounds _ => "ValueError"
  | emptyNumber => "IndexError"
  | notTruth _ => "KeyError"
  | notDate => "AttributeError"

/-- The bounds of a part of a date. -/
def boundsMessage : DatePart → String
  | .year n => s!"year {n} is out of range"
  | .month => "month must be in 1..12"
  | .day => "day is out of range for month"
  | .hour => "hour must be in 0..23"
  | .minute => "minute must be in 0..59"
  | .second => "second must be in 0..59"
  | .offset shown =>
    "offset must be a timedelta strictly between -timedelta(hours=24) and " ++
      "timedelta(hours=24), not " ++ shown ++ "."

/-- The message of a problem. -/
def message : Problem → String
  | malformed => "the text is not a YAML document"
  | noCharacter code =>
    if code < codeLimit then "chr() arg not in range(0x110000)"
    else "Python int too large to convert to C int"
  | hugePlace => "int too large to convert to float"
  | noScalar => "expected string or bytes-like object, got 'list'"
  | endless => "maximum recursion depth exceeded"
  | notInteger base text => Text.Numeral.malformedMessage base text.quoted
  | notNumeral refusal => refusal.message
  | notReal text => "could not convert string to float: " ++ text.quoted
  | emptyNumber => "string index out of range"
  | notTruth text => text.quoted
  | notDate => "the scalar is not a date"
  | outOfBounds part => boundsMessage part

end Problem

end ChatRelay.Yaml
