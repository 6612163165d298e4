/-!
# Shortest decimal text of a binary fraction

A finite float is `m · 2^q`. The reals that round to it form an interval around it, whose ends
belong to it exactly when `m` is even. Among the decimals in that interval this module picks one
with the fewest digits, and of those the nearest to the float.
-/

namespace Restack.Number

/-- A nonnegative decimal number `digits · 10^exponent`. -/
structure Decimal where
  digits : Nat
  exponent : Int
deriving Repr, DecidableEq

/-- How many decimal digits a number has; zero has one. -/
def digitCount (n : Nat) : Nat :=
  (Nat.toDigits 10 n).length

/-- The interval of reals that round to one float, in units of `unit / scale`: the float itself, the
two ends, and whether the ends belong to the interval. -/
structure RoundingInterval where
  value : Nat
  low : Nat
  high : Nat
  closed : Bool
  unit : Nat
  scale : Nat
deriving Repr, DecidableEq

/-- The interval around `mantissa · 2^exponent`. Below a power of two the floats lie twice as dense,
so the lower end is nearer there. -/
def roundingInterval (mantissa : Nat) (exponent : Int) (denserBelow : Bool) : RoundingInterval where
  value := 4 * mantissa
  low := if denserBelow then 4 * mantissa - 1 else 4 * mantissa - 2
  high := 4 * mantissa + 2
  closed := mantissa % 2 == 0
  unit := Nat.pow 2 (exponent - 2).toNat
  scale := Nat.pow 2 (2 - exponent).toNat

/-- The exponent `k` with `10^(k-1) ≤ num / den < 10^k`. -/
def decimalExponent (num den : Nat) : Int :=
  if den ≤ num then digitCount (num / den)
  else
    let d := digitCount (den / num)
    if num * Nat.pow 10 (d - 1) == den then 2 - (d : Int) else 1 - (d : Int)

/-- Whether `d · 10^e` lies in the interval. -/
def RoundingInterval.holds (r : RoundingInterval) (d : Nat) (e : Int) : Bool :=
  let x := d * Nat.pow 10 e.toNat * r.scale
  let s := Nat.pow 10 (-e).toNat * r.unit
  if r.closed then r.low * s ≤ x && x ≤ r.high * s else r.low * s < x && x < r.high * s

/-- The decimal with `places` significant digits in the interval that is nearest to the float. A
decimal that lies exactly between two neighbours goes to the even one. -/
def RoundingInterval.nearest? (r : RoundingInterval) (k : Int) (places : Nat) : Option Decimal :=
  let e := k - places
  let num := r.value * r.unit * Nat.pow 10 (-e).toNat
  let den := r.scale * Nat.pow 10 e.toNat
  let d := num / den
  let rest := num % den
  let upFirst := den < 2 * rest || (den == 2 * rest && d % 2 == 1)
  let first := if upFirst then d + 1 else d
  let second := if upFirst then d else d + 1
  if r.holds first e then some ⟨first, e⟩
  else if r.holds second e then some ⟨second, e⟩
  else none

/-- The first grid, from coarse to fine, with a decimal in the interval. -/
def RoundingInterval.shortest (r : RoundingInterval) : Decimal :=
  let k := decimalExponent (r.value * r.unit) r.scale
  go k 17 1
where
  /-- Tries `places` significant digits and, while `fuel` lasts, more. -/
  go (k : Int) : Nat → Nat → Decimal
    | 0, _ => ⟨0, 0⟩
    | fuel + 1, places =>
      match r.nearest? k places with
      | some d => d
      | none => go k fuel (places + 1)

/-- A decimal without zeros at its end. -/
def Decimal.normalize (d : Decimal) : Decimal :=
  if d.digits == 0 then ⟨0, 0⟩ else go (digitCount d.digits) d
where
  /-- Removes one zero after the other. -/
  go : Nat → Decimal → Decimal
    | 0, d => d
    | fuel + 1, d =>
      if d.digits % 10 == 0 then go fuel ⟨d.digits / 10, d.exponent + 1⟩ else d

/-- The sign, the exponent bits and the fraction bits of a float. -/
def floatParts (x : Float) : Bool × Nat × Nat :=
  let bits := x.toBits.toNat
  (Nat.pow 2 63 ≤ bits, bits / Nat.pow 2 52 % 2048, bits % Nat.pow 2 52)

/-- The shortest decimal that reads back as the absolute value of a finite float. -/
def shortestDecimal (x : Float) : Decimal :=
  let (_, exponent, fraction) := floatParts x
  if exponent == 0 && fraction == 0 then ⟨0, 0⟩
  else
    let mantissa := if exponent == 0 then fraction else Nat.pow 2 52 + fraction
    let binary : Int := (if exponent == 0 then 1 else exponent) - 1075
    (roundingInterval mantissa binary (fraction == 0 && 1 < exponent)).shortest.normalize

end Restack.Number
