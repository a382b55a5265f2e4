/-!
# Timestamps

A timestamp is a date and a time of day, with an optional distance from universal time. It is
written in the form of ISO 8601: the fraction of the second is written only when there is one,
and so are the seconds of the distance.
-/

namespace ChatRelay

/-- A date and a time; `offset` is the distance from universal time in seconds. -/
structure Timestamp where
  year : Nat
  month : Nat
  day : Nat
  hour : Nat
  minute : Nat
  second : Nat
  microsecond : Nat
  offset : Option Int
  deriving DecidableEq, Repr, Inhabited

namespace Timestamp

/-- The decimal digits of a number, filled up with zeros on the left. -/
def padded (width n : Nat) : String :=
  let digits := toString n
  String.ofList (List.replicate (width - digits.length) '0') ++ digits

/-- The distance from universal time as a sign, hours, minutes and, if there are any, seconds. -/
def showOffset (seconds : Int) : String :=
  let n := seconds.natAbs
  let sign := if seconds < 0 then "-" else "+"
  let rest := if n % 60 = 0 then "" else ":" ++ padded 2 (n % 60)
  sign ++ padded 2 (n / 3600) ++ ":" ++ padded 2 (n / 60 % 60) ++ rest

/-- A timestamp with this text between the date and the time of day. -/
def written (t : Timestamp) (between : String) : String :=
  let date := padded 4 t.year ++ "-" ++ padded 2 t.month ++ "-" ++ padded 2 t.day
  let time := padded 2 t.hour ++ ":" ++ padded 2 t.minute ++ ":" ++ padded 2 t.second
  let fraction := if t.microsecond = 0 then "" else "." ++ padded 6 t.microsecond
  date ++ between ++ time ++ fraction ++ (t.offset.map showOffset).getD ""

/-- The written form of a timestamp. -/
def toText (t : Timestamp) : String := t.written "T"

/-- Whether a year has a 29th of February. -/
def isLeap (year : Nat) : Bool := (year % 4 = 0 && year % 100 ≠ 0) || year % 400 = 0

/-- The number of days of a month. -/
def daysInMonth (year month : Nat) : Nat :=
  if month = 2 then if isLeap year then 29 else 28
  else if month = 4 || month = 6 || month = 9 || month = 11 then 30
  else 31

/-- The same time on the next day. -/
def nextDay (t : Timestamp) : Timestamp :=
  if t.day < daysInMonth t.year t.month then { t with day := t.day + 1 }
  else if t.month < 12 then { t with month := t.month + 1, day := 1 }
  else { t with year := t.year + 1, month := 1, day := 1 }

/-- The same time `n` days later. -/
def addDays (t : Timestamp) : (n : Nat) → Timestamp
  | 0 => t
  | n + 1 => addDays t.nextDay n

/-- The time `n` seconds later. -/
def addSeconds (t : Timestamp) (n : Nat) : Timestamp :=
  let total := t.hour * 3600 + t.minute * 60 + t.second + n
  let rest := total % 86400
  { t.addDays (total / 86400) with
    hour := rest / 3600
    minute := rest / 60 % 60
    second := rest % 60 }

/-- The first second of 2024, universal time. -/
def newYear2024 : Timestamp := ⟨2024, 1, 1, 0, 0, 0, 0, some 0⟩

end Timestamp

end ChatRelay
