import Restack.Text.Ranges
import Restack.Text.WordTable
import Restack.Text.DigitTable

/-!
# Word characters and decimal digits

Letters, numerals and the low line make up words in every script; decimal digits have a value in
every script.
-/

namespace Restack.Text

/-- The ASCII letters. -/
def isAsciiLetter (c : Char) : Bool :=
  ('a' ≤ c && c ≤ 'z') || ('A' ≤ c && c ≤ 'Z')

/-- The ASCII digits. -/
def isAsciiDigit (c : Char) : Bool :=
  '0' ≤ c && c ≤ '9'

/-- Letters, numerals and the low line. -/
def isWordChar (c : Char) : Bool :=
  if c.toNat < 128 then isAsciiLetter c || isAsciiDigit c || c == '_'
  else inRanges wordRanges c.toNat

/-- The value of a decimal digit of any script. -/
def digitValue? (c : Char) : Option Nat :=
  if c.toNat < 128 then
    if isAsciiDigit c then some (c.toNat - '0'.toNat) else none
  else
    (searchTable digitRanges fun range => rangeOrder c.toNat range.1 range.2).map
      fun range => (c.toNat - range.1) % 10

end Restack.Text
