/-!
# Kinds of YAML nodes

What a node is said to be, by its tag or by the look of its text. A plain scalar without a tag
looks like a truth value, a number, a date, null, the mark of a merge or of a default value, and
otherwise like a text. A newline at its end does not change its look.
-/

namespace ChatRelay.Yaml

/-- What a node is said to be. -/
inductive Kind where
  | null
  | bool
  | integer
  | real
  | bytes
  | time
  | orderedMapping
  | pairs
  | set
  | text
  | list
  | mapping
  /-- The key of members that a mapping takes over from others. -/
  | merge
  /-- The key of a default value. -/
  | standard
  /-- Something that is not known. -/
  | unknown
  deriving DecidableEq, Repr, Inhabited

namespace Kind

/-- The start of the tags of the language. -/
def tagBase : String := "tag:yaml.org,2002:"

/-- The kinds with tags. -/
def tags : List (String × Kind) :=
  [("null", null), ("bool", bool), ("int", integer), ("float", real), ("binary", bytes),
    ("timestamp", time), ("omap", orderedMapping), ("pairs", pairs), ("set", set), ("str", text),
    ("seq", list), ("map", mapping), ("merge", merge), ("value", standard)]

/-- The kind of a tag. -/
def ofTag (tag : String) : Kind :=
  ((tags.find? fun t => tagBase ++ t.1 == tag).map (·.2)).getD unknown

/-! ## The look of a scalar -/

/-- What is left after an optional sign. -/
def dropSign : List Char → List Char
  | '+' :: rest | '-' :: rest => rest
  | cs => cs

/-- Whether a character is a digit or an underscore. -/
def isDigitOrLine (c : Char) : Bool := c.isDigit || c = '_'

/-- Whether a text has characters of one class only, and at least one. -/
def allOf (inClass : Char → Bool) (cs : List Char) : Bool := !cs.isEmpty && cs.all inClass

/-- Whether a text is empty or a colon, a number below sixty and so on. -/
def areSixtieths : List Char → Bool
  | [] => true
  | ':' :: a :: b :: rest =>
    if b.isDigit then decide ('0' ≤ a) && decide (a ≤ '5') && areSixtieths rest
    else a.isDigit && areSixtieths (b :: rest)
  | [':', a] => a.isDigit
  | _ => false

/-- Whether a text looks like a whole number. -/
def looksInteger (cs : List Char) : Bool :=
  match dropSign cs with
  | ['0'] => true
  | '0' :: 'b' :: digits => allOf (fun c => c = '0' || c = '1' || c = '_') digits
  | '0' :: 'x' :: digits =>
    allOf (fun c => isDigitOrLine c || "abcdefABCDEF".toList.contains c) digits
  | '0' :: digits => allOf (fun c => isDigitOrLine c && c ≠ '8' && c ≠ '9') digits
  | c :: rest => c.isDigit && areSixtieths (rest.dropWhile isDigitOrLine)
  | [] => false

/-- Whether a text is empty or an exponent with a sign. -/
def isExponent : List Char → Bool
  | [] => true
  | e :: sign :: digits =>
    (e = 'e' || e = 'E') && (sign = '+' || sign = '-') && allOf Char.isDigit digits
  | _ => false

/-- Whether a text is a point, digits and an exponent. -/
def isFraction : List Char → Bool
  | '.' :: rest => isExponent (rest.dropWhile isDigitOrLine)
  | _ => false

/-- Whether a text is sixtieths, a point and digits. -/
def endsInSixtieths (cs : List Char) : Bool :=
  let sixtieths := cs.takeWhile (· ≠ '.')
  let rest := cs.drop sixtieths.length
  !sixtieths.isEmpty && areSixtieths sixtieths && !rest.isEmpty && (rest.drop 1).all isDigitOrLine

/-- Whether a text looks like a real number. -/
def looksReal (cs : List Char) : Bool :=
  let body := dropSign cs
  let startsWithDigit := (body.head?.map Char.isDigit).getD false
  let afterDigits := body.dropWhile isDigitOrLine
  let startsWithPoint :=
    match cs with
    | '.' :: d :: _ => d.isDigit && isFraction cs
    | _ => false
  (startsWithDigit && (isFraction afterDigits || endsInSixtieths afterDigits)) || startsWithPoint ||
    [".inf", ".Inf", ".INF"].contains (String.ofList body) ||
    [".nan", ".NaN", ".NAN"].contains (String.ofList cs)

/-- The words for truth values. -/
def truthWords : List String :=
  ["yes", "Yes", "YES", "no", "No", "NO", "true", "True", "TRUE", "false", "False", "FALSE",
    "on", "On", "ON", "off", "Off", "OFF"]

/-- The words for null. -/
def nullWords : List String := ["", "~", "null", "Null", "NULL"]

/-- The marks of the language itself, which stand for nothing. -/
def markWords : List String := ["!", "&", "*"]

/-- A text without a newline at its very end; a newline alone is left. -/
def withoutNewline (cs : List Char) : List Char :=
  if 1 < cs.length && cs.getLast? = some '\n' then cs.dropLast else cs

end Kind

end ChatRelay.Yaml
