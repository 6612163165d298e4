import Restack.Number.Shortest
import Restack.Number.Numeral

/-!
# Quotients, and rounding to one decimal place

The quotient of two whole numbers is rounded once, however large they are.

To one place, a half is rounded away from zero. The number rounded is the decimal that the float is
written as, so `0.25` becomes `0.3` although many floats that print with two places lie below the
half.
-/

namespace Restack.Number

open Float.Model (UnpackedFloat)

/-- A whole number in parts, none of which is rounded. -/
def exactParts (n : Nat) : UnpackedFloat :=
  if h : n = 0 then .zero .positive else .finite .positive n 0 (Nat.pos_of_ne_zero h)

/-- The float nearest to the quotient of two whole numbers, the second of which is not zero. -/
def quotient (n d : Nat) : Float :=
  .ofBits (.ofBitVec (((exactParts n).div .binary64 (exactParts d)).pack .binary64))

/-- The most digits that a rounded number may have. -/
def roundingPrecision : Nat := 28

/-- The count of tenths nearest to a decimal number; a half goes up. -/
def tenths (d : Decimal) : Nat :=
  if -1 ≤ d.exponent then d.digits * Nat.pow 10 (d.exponent + 1).toNat
  else
    let unit := Nat.pow 10 (-1 - d.exponent).toNat
    (2 * d.digits + unit) / (2 * unit)

/-- A float rounded to one place, or nothing when the result would be infinite or too long. -/
def roundToTenth? (x : Float) : Option Float :=
  let (negative, exponent, fraction) := floatParts x
  if exponent == 2047 then
    if fraction != 0 then some x else none
  else
    let n := tenths (shortestDecimal x)
    if roundingPrecision < digitCount n then none
    else
      let y := floatOfDecimal n (-1)
      some (if negative then -y else y)

end Restack.Number
