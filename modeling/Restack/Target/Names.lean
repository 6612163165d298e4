import Restack.Text.Case
import Restack.Text.Word

/-!
# Names in generated code

Names of files and identifiers that are made from the names of components and functions.
-/

namespace Restack.Target

open Restack.Text

/-- Small letters and digits of ASCII. -/
def isSmallOrDigit (c : Char) : Bool :=
  ('a' ≤ c && c ≤ 'z') || isAsciiDigit c

/-- Capital letters of ASCII. -/
def isCapital (c : Char) : Bool :=
  'A' ≤ c && c ≤ 'Z'

/-- Puts a mark between a small letter or a digit and the capital letter after it. -/
def markHumps (mark : Char) : List Char → List Char
  | [] => []
  | [c] => [c]
  | c :: d :: rest =>
    if isSmallOrDigit c && isCapital d then c :: mark :: markHumps mark (d :: rest)
    else c :: markHumps mark (d :: rest)

/-- A name in small letters and digits, with low lines for all else and between its words. -/
def snakeCase (name : List Char) : List Char :=
  (lower (markHumps '_' name)).map fun c => if isSmallOrDigit c then c else '_'

/-- A name with low lines for all that an identifier may not hold. -/
def safeIdentifier (name : List Char) : List Char :=
  name.map fun c => if isAsciiLetter c || isAsciiDigit c || c == '_' then c else '_'

/-- A string in small letters and digits. -/
def snakeCased (name : String) : String :=
  String.ofList (snakeCase name.toList)

/-- A string as an identifier. -/
def identifierOf (name : String) : String :=
  String.ofList (safeIdentifier name.toList)

end Restack.Target
