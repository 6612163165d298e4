import Restack.Text.Ranges
import Restack.Text.PrintableTable

/-!
# Quoted text in messages

A text is shown between apostrophes, or between quotation marks when it holds an apostrophe and no
quotation mark. Within them the backslash, the mark in use, the line ends and the tab are escaped,
and characters without a visible form are written by their number. A text that stands between two
quotes of one kind is read by taking them off.
-/

namespace Restack.Text

/-- Whether a character has a visible form of its own. -/
def isPrintable (c : Char) : Bool :=
  if c.toNat < 127 then 32 ≤ c.toNat else !inRanges unprintableRanges c.toNat

/-- A digit below sixteen, in lower case. -/
def hexDigit (n : Nat) : Char :=
  if n < 10 then Char.ofNat (48 + n) else Char.ofNat (87 + n)

/-- The lowest `width` hexadecimal digits of a number. -/
def hexDigits : Nat → Nat → List Char
  | 0, _ => []
  | width + 1, n => hexDigits width (n / 16) ++ [hexDigit (n % 16)]

/-- A character by its number, in two, four or eight digits. -/
def numberEscape (c : Char) : List Char :=
  let n := c.toNat
  if n < 256 then '\\' :: 'x' :: hexDigits 2 n
  else if n < 65536 then '\\' :: 'u' :: hexDigits 4 n
  else '\\' :: 'U' :: hexDigits 8 n

/-- One character of a quoted text. -/
def quoteChar (mark c : Char) : List Char :=
  if c == mark || c == '\\' then ['\\', c]
  else if c == '\n' then ['\\', 'n']
  else if c == '\r' then ['\\', 'r']
  else if c == '\t' then ['\\', 't']
  else if isPrintable c then [c]
  else numberEscape c

/-- The mark that a text is quoted with. -/
def quoteMark (s : List Char) : Char :=
  if s.contains '\x27' && !s.contains '"' then '"' else '\x27'

/-- A text as messages quote it. -/
def quote (s : List Char) : List Char :=
  let mark := quoteMark s
  mark :: (s.flatMap (quoteChar mark) ++ [mark])

/-- What stands between two quotes of one kind. -/
def betweenQuotes? (s : List Char) : Option (List Char) :=
  match s with
  | mark :: rest =>
    if ['\x27', '"', '\x60'].contains mark && rest.getLast? == some mark then some rest.dropLast
    else none
  | [] => none

/-- A string as messages quote it. -/
def quoted (s : String) : String :=
  String.ofList (quote s.toList)

end Restack.Text
