import ChatRelay.Decimal.Binary

/-!
# The shortest decimal of a binary number

Many decimals are read back as the same binary number: all those in an interval around it, whose
ends belong to it when the mantissa is even. The shortest of them is found by trying grids of one
digit, two digits and so on, up to seventeen, where the two neighbours of the number on a grid
are the only candidates. Of two candidates on one grid the nearer one is taken, and at the same
distance the one with an even last digit.
-/

namespace ChatRelay.Decimal

/-- Digits `d` and an exponent `p`, which stand for `0.d` times ten to the power `p`. -/
structure Digits where
  digits : List Nat
  point : Int
  deriving DecidableEq, Repr, Inhabited

/-- A fraction of two natural numbers. -/
structure Ratio where
  num : Nat
  den : Nat
  deriving Repr, Inhabited

namespace Ratio

/-- The product with an integral power. -/
def timesPower (r : Ratio) (base : Nat) (e : Int) : Ratio :=
  if 0 ≤ e then ⟨r.num * base.pow e.toNat, r.den⟩ else ⟨r.num, r.den * base.pow (-e).toNat⟩

/-- Whether one fraction is less than another. -/
def lt (a b : Ratio) : Bool := decide (a.num * b.den < b.num * a.den)

/-- Whether one fraction is at most another. -/
def le (a b : Ratio) : Bool := decide (a.num * b.den ≤ b.num * a.den)

/-- The distance of two fractions. -/
def distance (a b : Ratio) : Ratio :=
  ⟨max (a.num * b.den) (b.num * a.den) - min (a.num * b.den) (b.num * a.den), a.den * b.den⟩

end Ratio

/-- The number of decimal digits of a natural number. -/
def digitCount (n : Nat) : Nat := (toString n).length

/-- The digits of a natural number. -/
def digitsOf (n : Nat) : List Nat := (toString n).toList.map fun c => c.toNat - 48

/-- The digits without the zeros at the end. -/
def dropTrailingZeros (ds : List Nat) : List Nat := (ds.reverse.dropWhile (· = 0)).reverse

namespace Binary

/-- The number as a fraction, without its sign. -/
def ratio (b : Binary) : Ratio := (Ratio.mk b.mantissa 1).timesPower 2 b.power

/-- The lower end of the interval of decimals that are read back as the number. -/
def lowerEnd (b : Binary) : Ratio :=
  if b.fraction = 0 ∧ 1 < b.storedExponent then
    (Ratio.mk (4 * b.mantissa - 1) 1).timesPower 2 (b.power - 2)
  else (Ratio.mk (2 * b.mantissa - 1) 1).timesPower 2 (b.power - 1)

/-- The upper end of that interval. -/
def upperEnd (b : Binary) : Ratio := (Ratio.mk (2 * b.mantissa + 1) 1).timesPower 2 (b.power - 1)

/-- Whether a decimal is read back as the number. -/
def readsBack (b : Binary) (d : Ratio) : Bool :=
  if b.mantissa % 2 = 0 then b.lowerEnd.le d && d.le b.upperEnd
  else b.lowerEnd.lt d && d.lt b.upperEnd

/-- The power of ten just above the number. -/
def magnitude (b : Binary) : Int :=
  let scaled := b.ratio.timesPower 10 400
  digitCount (scaled.num / scaled.den) - 400

/-- The multiples of a power of ten next to the number that are read back as it, the better one
first. -/
def candidates (b : Binary) (e : Int) : List Nat :=
  let scaled := b.ratio.timesPower 10 (-e)
  let low := scaled.num / scaled.den
  let near := fun n => (Ratio.mk n 1).distance scaled
  let ordered :=
    if (near (low + 1)).lt (near low) || ((near (low + 1)).le (near low) && low % 2 = 1) then
      [low + 1, low]
    else [low, low + 1]
  ordered.filter fun n => b.readsBack ((Ratio.mk n 1).timesPower 10 e)

/-- The best candidate of the first grid that has one. -/
def shortestFrom (b : Binary) (top : Int) : (left : Nat) → Nat → Nat × Int
  | 0, n => ((b.candidates (top - n)).headD 0, top - n)
  | left + 1, n =>
    match b.candidates (top - n) with
    | c :: _ => (c, top - n)
    | [] => shortestFrom b top left (n + 1)

/-- The shortest decimal that is read back as the number, without its sign. -/
def shortest (b : Binary) : Digits :=
  if b.mantissa = 0 then ⟨[0], 1⟩
  else
    let found := b.shortestFrom b.magnitude 16 1
    ⟨dropTrailingZeros (digitsOf found.1), digitCount found.1 + found.2⟩

end Binary

end ChatRelay.Decimal
