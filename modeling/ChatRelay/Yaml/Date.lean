import ChatRelay.Document
import ChatRelay.Yaml.Problem

/-!
# Dates in YAML

A date is written with hyphens. A time of day may follow, with colons, a fraction of the second
and a distance from universal time.
-/

namespace ChatRelay.Yaml

/-- The parts of a date as they are written. -/
structure WrittenDate where
  year : List Char
  month : List Char
  day : List Char
  /-- The hour, the minute and the second. -/
  time : Option (List Char × List Char × List Char) := none
  fraction : List Char := []
  /-- Whether the distance from universal time is negative, its hours and its minutes. -/
  offset : Option (Bool × List Char × List Char) := none
  deriving Repr, Inhabited

namespace WrittenDate

/-- A run of digits of some lengths at the start of a text, and the rest. -/
def digits (least most : Nat) (cs : List Char) : Option (List Char × List Char) :=
  let run := (cs.take most).takeWhile Char.isDigit
  if run.length < least then none else some (run, cs.drop run.length)

/-- What follows a character. -/
def after (c : Char) : List Char → Option (List Char)
  | x :: rest => if x = c then some rest else none
  | [] => none

/-- Whether a character is a blank of a line. -/
def isBlank (c : Char) : Bool := c = ' ' || c = '\t'

/-- The distance from universal time at the end of a date. -/
def readOffset (d : WrittenDate) (cs : List Char) : Option WrittenDate :=
  if cs.isEmpty then some d
  else match cs.dropWhile isBlank with
    | [] => none
    | ['Z'] => some { d with offset := some (false, [], []) }
    | sign :: rest =>
      if sign = '+' || sign = '-' then
        (digits 1 2 rest).bind fun hour =>
          if hour.2.isEmpty then some { d with offset := some (sign = '-', hour.1, []) }
          else (after ':' hour.2).bind fun rest => (digits 2 2 rest).bind fun minute =>
            if minute.2.isEmpty then some { d with offset := some (sign = '-', hour.1, minute.1) }
            else none
      else none

/-- The time of day after a date. -/
def readTime (d : WrittenDate) (cs : List Char) : Option WrittenDate := do
  let hour ← digits 1 2 cs
  let minute ← digits 2 2 (← after ':' hour.2)
  let second ← digits 2 2 (← after ':' minute.2)
  let d := { d with time := some (hour.1, minute.1, second.1) }
  match after '.' second.2 with
  | some rest =>
    let fraction := rest.takeWhile Char.isDigit
    { d with fraction }.readOffset (rest.drop fraction.length)
  | none => d.readOffset second.2

/-- The date that a text is. -/
def read? (cs : List Char) : Option WrittenDate := do
  let year ← digits 4 4 cs
  let month ← digits 1 2 (← after '-' year.2)
  let day ← digits 1 2 (← after '-' month.2)
  let d : WrittenDate := { year := year.1, month := month.1, day := day.1 }
  match day.2 with
  | [] => some d
  | x :: rest =>
    if x = 'T' || x = 't' then d.readTime rest
    else if isBlank x then d.readTime (rest.dropWhile isBlank)
    else none

/-- Whether a text looks like a date even though nothing says that it is one. A date without a
time of day must then have two digits for the month and for the day. -/
def looksDate (cs : List Char) : Bool :=
  match read? cs with
  | none => false
  | some d => d.time.isSome || (d.month.length = 2 && d.day.length = 2)

/-- The value of digits. -/
def value (cs : List Char) : Nat := Text.decimalValue cs

/-- The distance from universal time in seconds, which must be less than a day. -/
def offsetSeconds (d : WrittenDate) : Except Problem (Option Int) :=
  match d.offset with
  | none => .ok none
  | some (negative, hours, minutes) =>
    let size : Int := value hours * 3600 + value minutes * 60
    let seconds := if negative then -size else size
    if size < 86400 then .ok (some seconds)
    else .error (.outOfBounds (.offset (Document.describeSpan seconds)))

/-- The microseconds of a fraction. -/
def microseconds (d : WrittenDate) : Nat :=
  value ((d.fraction ++ List.replicate 6 '0').take 6)

/-- Checks the bounds of a calendar date. -/
def checkDay (year month day : Nat) : Except Problem Unit :=
  if year = 0 then .error (.outOfBounds (.year year))
  else if month = 0 ∨ 12 < month then .error (.outOfBounds .month)
  else if day = 0 ∨ Timestamp.daysInMonth year month < day then .error (.outOfBounds .day)
  else .ok ()

/-- Checks the bounds of a time of day. -/
def checkTime (hour minute second : Nat) : Except Problem Unit :=
  if 23 < hour then .error (.outOfBounds .hour)
  else if 59 < minute then .error (.outOfBounds .minute)
  else if 59 < second then .error (.outOfBounds .second)
  else .ok ()

/-- The value of a date. -/
def toValue (d : WrittenDate) : Except Problem Document.Value := do
  let year := value d.year
  let month := value d.month
  let day := value d.day
  match d.time with
  | none =>
    checkDay year month day
    return .date year month day
  | some (hour, minute, second) =>
    let offset ← d.offsetSeconds
    checkDay year month day
    checkTime (value hour) (value minute) (value second)
    return .time ⟨year, month, day, value hour, value minute, value second, d.microseconds, offset⟩

end WrittenDate

end ChatRelay.Yaml
