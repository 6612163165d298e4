import Restack.Text.Blank
import Restack.Text.Word
import Restack.Text.Case

/-!
# Reading numerals

Whole numbers and floats as a person may write them: most blanks around, a sign, digits of any
script, and single low lines between digits. A float may also have a point, an exponent, or be one
of the words for infinity and for no number.
-/

namespace Restack.Number

open Restack.Text

/-- Blanks that may stand around a numeral: all but the four record separators. -/
def isPadding (c : Char) : Bool :=
  isBlank c && !(28 ≤ c.toNat && c.toNat ≤ 31)

/-- A text without the blanks that may stand around a numeral. -/
def unpadded (s : List Char) : List Char :=
  stripBoth isPadding s

/-- The number of digits beyond which a whole number is not read. -/
def maxDigits : Nat := 4300

/-- A sign and what follows it. -/
def readSign : List Char → Bool × List Char
  | '-' :: rest => (true, rest)
  | '+' :: rest => (false, rest)
  | s => (false, s)

/-- The digits at the front, with single low lines between them left out, and what follows them. A
low line counts only between two digits. -/
def takeDigits (s : List Char) : List Nat × List Char :=
  go false s
where
  /-- `inside` says that a digit stands right before. -/
  go (inside : Bool) : List Char → List Nat × List Char
    | [] => ([], [])
    | c :: rest =>
      match digitValue? c with
      | some d =>
        let tail := go true rest
        (d :: tail.1, tail.2)
      | none =>
        if inside && c == '_' && rest.head?.any fun next => (digitValue? next).isSome then
          go false rest
        else ([], c :: rest)

/-- The number that digits denote. -/
def ofDigits (digits : List Nat) : Nat :=
  digits.foldl (fun n d => 10 * n + d) 0

/-- A whole number, or nothing when the text is not one or has too many digits. -/
def readInt? (s : List Char) : Option Int :=
  let (negative, rest) := readSign (unpadded s)
  match takeDigits rest with
  | (digits@(_ :: _), []) =>
    if maxDigits < digits.length then none
    else
      let n : Int := ofDigits digits
      some (if negative then -n else n)
  | _ => none

/-- The float nearest to `n · 10^exponent`. Numbers beyond every float are infinite or zero. -/
def floatOfDecimal (n : Nat) (exponent : Int) : Float :=
  if n == 0 then 0.0
  else
    let magnitude : Int := exponent + (Nat.toDigits 10 n).length
    if 400 < magnitude then 1.0 / 0.0
    else if magnitude < -400 then 0.0
    else if exponent < 0 then Float.ofScientific n true exponent.natAbs
    else Float.ofScientific n false exponent.natAbs

/-- The exponent part, when the text is one. -/
def readExponent? : List Char → Option Int
  | [] => some 0
  | c :: rest =>
    if c == 'e' || c == 'E' then
      let (negative, digits) := readSign rest
      match takeDigits digits with
      | (digits@(_ :: _), []) =>
        let n : Int := ofDigits digits
        some (if negative then -n else n)
      | _ => none
    else none

/-- A float without its sign, written with digits. -/
def readDigitFloat? (s : List Char) : Option Float :=
  let (whole, rest) := takeDigits s
  let (fraction, rest) :=
    match rest with
    | '.' :: more => takeDigits more
    | _ => ([], rest)
  if whole.isEmpty && fraction.isEmpty then none
  else (readExponent? rest).map fun exponent =>
    floatOfDecimal (ofDigits (whole ++ fraction)) (exponent - fraction.length)

/-- A float, or nothing when the text is not one. -/
def readFloat? (s : List Char) : Option Float :=
  let (negative, rest) := readSign (unpadded s)
  let signed (x : Float) : Float := if negative then -x else x
  let word := String.ofList (lower rest)
  if word == "inf" || word == "infinity" then some (signed (1.0 / 0.0))
  else if word == "nan" then some (0.0 / 0.0)
  else (readDigitFloat? rest).map signed

end Restack.Number
