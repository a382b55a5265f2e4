/-!
# Binary numbers of 64 bits

A binary number is given by its bits: a sign, an exponent of eleven bits and a fraction of 52. A
finite one is a whole number, its mantissa, times a power of two.
-/

namespace ChatRelay.Decimal

/-- A binary floating-point number, by its bits. -/
structure Binary where
  bits : UInt64
  deriving DecidableEq, Repr, Inhabited

namespace Binary

/-- The number that a float is. -/
def ofFloat (x : Float) : Binary := ⟨x.toBits⟩

/-- The number as a float. -/
def toFloat (b : Binary) : Float := Float.ofBits b.bits

/-- How many fractions can be stored. -/
def fractions : Nat := 4503599627370496

/-- How many exponents can be stored. -/
def exponents : Nat := 2048

/-- Whether the number is negative; zero has a sign too. -/
def negative (b : Binary) : Bool := b.bits.toNat / (fractions * exponents) = 1

/-- The exponent as it is stored. -/
def storedExponent (b : Binary) : Nat := b.bits.toNat / fractions % exponents

/-- The fraction as it is stored. -/
def fraction (b : Binary) : Nat := b.bits.toNat % fractions

/-- Whether the number is neither infinite nor undefined. -/
def isFinite (b : Binary) : Bool := b.storedExponent ≠ 2047

/-- Whether the number is undefined. -/
def isUndefined (b : Binary) : Bool := !b.isFinite && b.fraction ≠ 0

/-- The mantissa of a finite number. -/
def mantissa (b : Binary) : Nat :=
  if b.storedExponent = 0 then b.fraction else fractions + b.fraction

/-- The power of two that the mantissa of a finite number is multiplied with. -/
def power (b : Binary) : Int := max b.storedExponent 1 - 1075

/-- Whether the number is zero. -/
def isZero (b : Binary) : Bool := b.isFinite && b.mantissa = 0

end Binary

end ChatRelay.Decimal
