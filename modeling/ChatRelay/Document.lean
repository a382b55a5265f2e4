import ChatRelay.Decimal.Shortest
import ChatRelay.Text.Numeral
import ChatRelay.Text.Wide
import ChatRelay.Timestamp

/-!
# Documents

A document is what a configuration file holds once it is decoded: scalars, lists and mappings.
The keys of a mapping keep their order.

A list or a mapping may hold itself, so the collections of a document are in numbered cells, and
a value names a collection by the number of its cell. What a collection holds is a document with
the same cells.

A document is shown in two ways: `shown?` gives a text as it is, and `described?` gives it in
quotes. What is inside a collection is always described, and a collection inside itself is left
out. Nothing is shown that holds a whole number of too many digits.
-/

namespace ChatRelay

namespace Document

/-- A scalar, or a collection by the number of its cell. -/
inductive Value where
  | null
  | bool (b : Bool)
  | integer (n : Int)
  | real (x : Decimal.Binary)
  /-- A real number that is no number. Two of them are the same only by their serial numbers. -/
  | undefined (serial : Nat)
  | text (s : Text.Wide)
  | date (year month day : Nat)
  | time (t : Timestamp)
  | bytes (contents : List UInt8)
  | collection (cell : Nat)
  deriving Inhabited, Repr

/-- What a collection holds. -/
inductive Cell where
  | list (items : List Value)
  | mapping (members : List (Value × Value))
  | set (items : List Value)
  | pair (first second : Value)
  deriving Inhabited, Repr

end Document

/-- A document: a value, and the cells of the collections that it may hold. -/
structure Document where
  cells : Array Document.Cell := #[]
  root : Document.Value
  deriving Inhabited, Repr

namespace Document

/-! ## Numbers -/

/-- How a real number is written: from the power of ten `positionalBelow` on and below the power
`smallestPositional` it gets an exponent, which has a sign and at least two digits. -/
structure RealFormat where
  smallestPositional : Int
  positionalBelow : Int
  exponentDigits : Nat

/-- Real numbers have no exponent from a ten-thousandth on and below ten to the power 16. -/
def realFormat : RealFormat := ⟨-3, 16, 2⟩

/-- Digits as characters. -/
def digitChars (ds : List Nat) : String := String.ofList (ds.map fun d => Char.ofNat (48 + d))

/-- Digits with a decimal point, and at least one digit on each side of it. -/
def writePositional (d : Decimal.Digits) : String :=
  if d.point ≤ 0 then
    "0." ++ String.ofList (List.replicate (-d.point).toNat '0') ++ digitChars d.digits
  else
    let whole := d.point.toNat
    let digits := d.digits ++ List.replicate (whole - d.digits.length) 0
    let rest := digits.drop whole
    digitChars (digits.take whole) ++ "." ++ (if rest.isEmpty then "0" else digitChars rest)

/-- Digits with an exponent; a single digit gets no decimal point. -/
def writeScientific (d : Decimal.Digits) : String :=
  let e := d.point - 1
  let rest := d.digits.drop 1
  let sign := if e < 0 then "-" else "+"
  digitChars (d.digits.take 1) ++ (if rest.isEmpty then "" else "." ++ digitChars rest) ++
    "e" ++ sign ++ Timestamp.padded realFormat.exponentDigits e.natAbs

/-- A real number. -/
def showReal (x : Decimal.Binary) : String :=
  if x.isUndefined then "nan"
  else
    let sign := if x.negative then "-" else ""
    if !x.isFinite then sign ++ "inf"
    else
      let d := x.shortest
      if realFormat.smallestPositional ≤ d.point ∧ d.point ≤ realFormat.positionalBelow then
        sign ++ writePositional d
      else sign ++ writeScientific d

/-! ## Dates and bytes -/

/-- A date and a time with a blank between them. -/
def showTime (t : Timestamp) : String := t.written " "

/-- A number of seconds as a span of time: days, which may be negative, and seconds of a day. -/
def describeSpan (seconds : Int) : String :=
  let days := seconds / 86400
  let rest := seconds % 86400
  let inside :=
    if days = 0 then (if rest = 0 then "0" else s!"seconds={rest}")
    else if rest = 0 then s!"days={days}"
    else s!"days={days}, seconds={rest}"
  s!"datetime.timedelta({inside})"

/-- The distance from universal time as a value. -/
def describeOffset (seconds : Int) : String :=
  if seconds = 0 then ", tzinfo=datetime.timezone.utc"
  else s!", tzinfo=datetime.timezone({describeSpan seconds})"

/-- A date and a time as a value; seconds are left out where nothing follows that is not zero. -/
def describeTime (t : Timestamp) : String :=
  let parts := [t.year, t.month, t.day, t.hour, t.minute] ++
    (if t.microsecond = 0 then (if t.second = 0 then [] else [t.second])
      else [t.second, t.microsecond])
  "datetime.datetime(" ++ ", ".intercalate (parts.map toString) ++
    (t.offset.map describeOffset).getD "" ++ ")"

/-- A byte inside quotes. -/
def escapeByte (mark : Char) (b : UInt8) : List Char :=
  let n := b.toNat
  if n < 0x7f ∨ n = 0x5c then
    if 0x20 ≤ n ∨ n = 9 ∨ n = 10 ∨ n = 13 then Text.quoteChar mark (Char.ofNat n)
    else '\\' :: 'x' :: Text.hexDigits 2 n
  else '\\' :: 'x' :: Text.hexDigits 2 n

/-- Bytes in quotes. -/
def showBytes (contents : List UInt8) : String :=
  let mark := Text.quoteMark (contents.map fun b => Char.ofNat b.toNat)
  String.ofList ('b' :: mark :: contents.flatMap (escapeByte mark) ++ [mark])

/-! ## Showing a document -/

/-- The brackets of a collection. -/
def Cell.brackets : Cell → String × String
  | list _ => ("[", "]")
  | pair _ _ => ("(", ")")
  | mapping _ | set _ => ("\x7b", "\x7d")

/-- How a collection is shown inside itself. -/
def Cell.leftOut (c : Cell) : String := c.brackets.1 ++ "..." ++ c.brackets.2

/-- Texts inside the brackets of a collection. -/
def Cell.enclose (c : Cell) (parts : List String) : String :=
  c.brackets.1 ++ ", ".intercalate parts ++ c.brackets.2

/-- A scalar as it is shown inside a collection. A whole number is not shown when it has more
digits than a numeral may have. -/
def Value.describeScalar? : Value → Option String
  | null => some "None"
  | bool b => some (if b then "True" else "False")
  | integer n => if Nat.pow 10 Text.Numeral.limit ≤ n.natAbs then none else some (toString n)
  | real x => some (showReal x)
  | undefined _ => some "nan"
  | text s => some s.quoted
  | date year month day => some s!"datetime.date({year}, {month}, {day})"
  | time t => some (describeTime t)
  | bytes contents => some (showBytes contents)
  | collection _ => none

/-- A value as it is shown inside the collections `around`, the innermost first. No more than
`levels` collections are entered; the number of cells is enough, since none is entered twice. So
the levels only make the recursion end, and no document is refused for its depth. A session file
is: there a refusal is an outcome of the reader that opening the store passes on
(`SessionStore.maxLevels`), while nothing in reading a configuration asks how deep it is. -/
def describe? (cells : Array Cell) :
    (levels : Nat) → (around : List Nat) → Value → Option String
  | levels, around, .collection n =>
    let cell := cells[n]?.getD default
    if around.contains n then some cell.leftOut
    else match levels with
      | 0 => some cell.leftOut
      | levels + 1 =>
        let inner := describe? cells levels (n :: around)
        match cell with
        | .set [] => some "set()"
        | .list items | .set items => (items.mapM inner).map cell.enclose
        | .pair first second => ([first, second].mapM inner).map cell.enclose
        | .mapping members =>
          (members.mapM fun (m : Value × Value) => do
            return (← inner m.1) ++ ": " ++ (← inner m.2)).map cell.enclose
  | _, _, v => v.describeScalar?

/-- A document as it is shown inside another one. -/
def described? (d : Document) : Option String := describe? d.cells d.cells.size [] d.root

/-- A document as it is shown on its own. -/
def shown? (d : Document) : Option String :=
  match d.root with
  | .text s => some s.text
  | .date year month day =>
    some (Timestamp.padded 4 year ++ "-" ++ Timestamp.padded 2 month ++ "-" ++
      Timestamp.padded 2 day)
  | .time t => some (showTime t)
  | _ => d.described?

/-! ## Looking into a document -/

/-- The collection that a document is, if it is one. -/
def cell? (d : Document) : Option Cell :=
  match d.root with
  | .collection n => d.cells[n]?
  | _ => none

/-- The members of a mapping. -/
def members? (d : Document) : Option (List (Value × Value)) :=
  match d.cell? with
  | some (.mapping members) => some members
  | _ => none

/-- The items of a list. -/
def items? (d : Document) : Option (List Document) :=
  match d.cell? with
  | some (.list items) => some (items.map fun v => { d with root := v })
  | _ => none

/-- Whether a value is a text without lone surrogates. -/
def Value.isText (v : Value) (s : String) : Bool :=
  match v with
  | text t => t == Text.Wide.ofString s
  | _ => false

/-- The value of the last member of a mapping whose key is this text. -/
def member? (d : Document) (key : String) : Option Document :=
  d.members?.bind fun members =>
    (members.reverse.find? fun m => m.1.isText key).map fun m => { d with root := m.2 }

/-- Whether a collection holds anything. -/
def Cell.isGiven : Cell → Bool
  | list items | set items => !items.isEmpty
  | mapping members => !members.isEmpty
  | pair _ _ => true

/-- Whether a document counts as given: null, no, zero and everything empty do not. -/
def isGiven (d : Document) : Bool :=
  match d.root with
  | .null => false
  | .bool b => b
  | .integer n => n ≠ 0
  | .real x => !x.isZero
  | .text s => !s.isEmpty
  | .undefined _ | .date _ _ _ | .time _ => true
  | .bytes contents => !contents.isEmpty
  | .collection n => (d.cells[n]?.getD default).isGiven

end Document

end ChatRelay
