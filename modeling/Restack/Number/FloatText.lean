import Restack.Number.Shortest

/-!
# The text of a float

A float is written with the fewest digits that read back as it: positionally, with at least one
digit after the point, when its decimal exponent is at least -4 and below 16, and otherwise with one
digit before the point and an exponent of at least two digits.
-/

namespace Restack.Number

/-- The decimal exponents that are written positionally. -/
structure PositionalRange where
  first : Int
  past : Int

/-- Floats below `10^16` and from `10^-4` on are written positionally. -/
def positionalRange : PositionalRange := ⟨-4, 16⟩

/-- The digits of an exponent, at least two. -/
def exponentDigits (n : Nat) : List Char :=
  if n < 10 then '0' :: Nat.toDigits 10 n else Nat.toDigits 10 n

/-- Digits with the point after the first `point` of them, zeros filled in where digits are
missing. -/
def positional (digits : List Char) (point : Int) : List Char :=
  if point ≤ 0 then '0' :: '.' :: (List.replicate (-point).toNat '0' ++ digits)
  else if digits.length ≤ point.toNat then
    digits ++ List.replicate (point.toNat - digits.length) '0' ++ ['.', '0']
  else digits.take point.toNat ++ '.' :: digits.drop point.toNat

/-- Digits with the point after the first of them and an exponent. -/
def scientific (digits : List Char) (exponent : Int) : List Char :=
  let sign := if exponent < 0 then '-' else '+'
  let mantissa :=
    match digits with
    | first :: rest@(_ :: _) => first :: '.' :: rest
    | short => short
  mantissa ++ 'e' :: sign :: exponentDigits exponent.natAbs

/-- The text of a decimal number. -/
def decimalText (d : Decimal) : List Char :=
  let digits := Nat.toDigits 10 d.digits
  let exponent := d.exponent + digits.length - 1
  if d.digits == 0 then ['0', '.', '0']
  else if positionalRange.first ≤ exponent && exponent < positionalRange.past then
    positional digits (exponent + 1)
  else scientific digits exponent

/-- The text of a float; a value without a finite magnitude is written as a word. -/
def floatText (x : Float) : String :=
  let (negative, exponent, fraction) := floatParts x
  if exponent == 2047 then
    if fraction != 0 then "nan" else if negative then "-inf" else "inf"
  else
    let text := String.ofList (decimalText (shortestDecimal x))
    if negative then "-" ++ text else text

end Restack.Number
