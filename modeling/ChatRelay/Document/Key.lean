import ChatRelay.Document

/-!
# Keys of documents

Two keys of a mapping are the same when they have the same value: numbers and truth values are
compared as numbers, and times with a known distance from universal time as instants. A collection
is no key.
-/

namespace ChatRelay.Document

/-- Whether a value may be the key of a mapping. -/
def Value.isKey : Value → Bool
  | collection _ => false
  | _ => true

/-- The whole number that a value counts as. -/
def Value.wholeNumber? : Value → Option Int
  | bool b => some (if b then 1 else 0)
  | integer n => some n
  | _ => none

/-- Whether a real number is a whole number. -/
def isWhole (x : Decimal.Binary) (n : Int) : Bool :=
  let m : Int := if x.negative then -(x.mantissa : Int) else x.mantissa
  x.isFinite &&
    (if 0 ≤ x.power then m * Nat.pow 2 x.power.toNat = n else m = n * Nat.pow 2 (-x.power).toNat)

/-- Whether two real numbers are the same; the sign of zero does not count. -/
def sameReal (x y : Decimal.Binary) : Bool := x == y || (x.isZero && y.isZero)

/-- The number of a day. -/
def dayNumber (year month day : Nat) : Nat :=
  let before := year - 1
  365 * before + before / 4 - before / 100 + before / 400 +
    (List.range (month - 1)).foldl (fun n m => n + Timestamp.daysInMonth year (m + 1)) 0 + day

/-- The seconds and microseconds of universal time. -/
def instant (t : Timestamp) (offset : Int) : Int × Nat :=
  ((dayNumber t.year t.month t.day : Int) * 86400 + t.hour * 3600 + t.minute * 60 + t.second
      - offset,
    t.microsecond)

/-- Whether two times are equal. -/
def sameTime (s t : Timestamp) : Bool :=
  match s.offset, t.offset with
  | some a, some b => instant s a == instant t b
  | none, none => s == t
  | _, _ => false

/-- Whether two values are the same key. -/
def sameKey (a b : Value) : Bool :=
  match a.wholeNumber?, b.wholeNumber?, a, b with
  | some m, some n, _, _ => m == n
  | some m, none, _, .real y => isWhole y m
  | none, some n, .real x, _ => isWhole x n
  | none, none, .real x, .real y => sameReal x y
  | none, none, .undefined m, .undefined n => m == n
  | none, none, .null, .null => true
  | none, none, .text s, .text t => s == t
  | none, none, .date y m d, .date y' m' d' => y == y' && m == m' && d == d'
  | none, none, .time s, .time t => sameTime s t
  | none, none, .bytes s, .bytes t => s == t
  | _, _, _, _ => false

/-- Members of a mapping with one more: a key that is there already keeps its place and gets the
new value. -/
def insertMember (members : List (Value × Value)) (key value : Value) : List (Value × Value) :=
  match members with
  | [] => [(key, value)]
  | m :: rest =>
    if sameKey m.1 key then (m.1, value) :: rest else m :: insertMember rest key value

end ChatRelay.Document
