import ChatRelay.Decimal.Binary

/-!
# Reading decimals

A decimal is read as the binary number nearest to it. It has an optional sign, digits with at
most one point among them, and an optional exponent.
-/

namespace ChatRelay.Decimal

/-- The value of digits of ASCII, read from the left. -/
def natOf (cs : List Char) : Nat := cs.foldl (fun n c => 10 * n + (c.toNat - 48)) 0

/-- The infinite number. -/
def infinity (negative : Bool) : Binary :=
  if negative then ⟨0xfff0000000000000⟩ else ⟨0x7ff0000000000000⟩

/-- The number zero. -/
def zero (negative : Bool) : Binary := if negative then ⟨0x8000000000000000⟩ else ⟨0⟩

/-- The undefined number. -/
def undefined : Binary := ⟨0x7ff8000000000000⟩

/-- Numbers beyond this power of ten are infinite. -/
def greatestPower : Int := 310

/-- Numbers below this power of ten are zero. -/
def smallestPower : Int := -330

/-- The binary number nearest to a mantissa, written with `width` digits, times a power of ten. -/
def nearest (negative : Bool) (mantissa width : Nat) (exponent : Int) : Binary :=
  if mantissa = 0 ∨ exponent + width < smallestPower then zero negative
  else if greatestPower < exponent then infinity negative
  else
    let x := Float.ofScientific mantissa (exponent < 0) exponent.natAbs
    .ofFloat (if negative then -x else x)

/-- The exponent that stands at the end of a decimal. -/
def exponentOf (cs : List Char) : Int :=
  match cs with
  | [] => 0
  | _ :: '-' :: digits => -(natOf digits : Int)
  | _ :: '+' :: digits => natOf digits
  | _ :: digits => natOf digits

/-- The binary number nearest to a decimal without a sign. -/
def unsigned (negative : Bool) (cs : List Char) : Binary :=
  let body := cs.takeWhile fun c => c != 'e' && c != 'E'
  let whole := body.takeWhile (· != '.')
  let fraction := body.drop (whole.length + 1)
  nearest negative (natOf (whole ++ fraction)) (whole.length + fraction.length)
    (exponentOf (cs.drop body.length) - fraction.length)

/-- The binary number that a decimal stands for. -/
def read (s : String) : Binary :=
  let cs := s.toList
  let negative := cs.head? = some '-'
  let rest := if cs.head? = some '-' ∨ cs.head? = some '+' then cs.tail else cs
  match (rest.map Char.toLower).head? with
  | some 'i' => infinity negative
  | some 'n' => undefined
  | _ => unsigned negative rest

end ChatRelay.Decimal
