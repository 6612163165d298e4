import Restack.Number.Numeral
import Restack.Text.Quoted
import Restack.Text.Split
import Restack.Value.Basic

/-!
# Literals and parameters

The value and the type of a literal as it stands in a script, and the parameters in a list of them.
A literal may have blanks around it and commas or semicolons behind it.
-/

namespace Restack.Outline

open Restack.Text

/-- The text of a literal: what is left without the blanks around it and the commas and semicolons
behind it. -/
def literalText (raw : List Char) : List Char :=
  trim (dropTail (fun c => c == ',' || c == ';') (trim raw))

/-- The value of a numeral. A whole number that is too long to be read is read as a float. -/
def readNumeral? (s : List Char) : Option Value :=
  match Number.readInt? s with
  | some n => some (.int n)
  | none => (Number.readFloat? s).map .float

/-- The value of a literal; null for what is no literal of a simple value or an empty collection. -/
def readLiteral (raw : List Char) : Value :=
  let s := literalText raw
  match betweenQuotes? s with
  | some content => .str (String.ofList content)
  | none =>
    if s == "true".toList then .bool true
    else if s == "false".toList then .bool false
    else if s == "[]".toList then .list []
    else if s == ['\x7b', '\x7d'] then .object []
    else (readNumeral? s).getD .null

/-- Whether a value is a number or an empty collection. -/
def isNumberLike (value : Value) : Bool :=
  match value with
  | .null | .str _ | .bool _ => false
  | _ => true

/-- The name of a literal's type. -/
def literalType (raw : List Char) : String :=
  let s := literalText raw
  if (betweenQuotes? s).isSome then "string"
  else if s == "true".toList || s == "false".toList then "boolean"
  else if s.head? == some '[' then "array"
  else if s.head? == some '\x7b' then "object"
  else if isNumberLike (readLiteral s) then "number"
  else "any"

/-- A parameter of a function. -/
structure Parameter where
  name : String
  type : String
  isRequired : Bool
  /-- The value that is taken when none is given. -/
  standard : Option Value

namespace Parameter

/-- Both halves of a text around the first such character, without blanks at their ends. -/
def halvesAt (mark : Char) (s : List Char) : Option (List Char × List Char) :=
  (cutAt [mark] s).map fun halves => (trim halves.1, trim halves.2)

/-- The parameter that a text describes. -/
def ofText (s : List Char) : Parameter :=
  let (s, standard) :=
    match halvesAt '=' s with
    | some (before, after) => (before, some (readLiteral after))
    | none => (s, none)
  let (s, type) :=
    match halvesAt ':' s with
    | some (before, after) => (before, String.ofList after)
    | none => (s, "any")
  { name := String.ofList ((dropTail (· == '?') s).dropWhile (· == '.'))
    type := type
    isRequired := standard.isNone && s.getLast? != some '?'
    standard := standard }

/-- The parameters in a list with commas between them. -/
def ofList (s : List Char) : List Parameter :=
  ((splitOnChar ',' s).map trim).filterMap fun piece =>
    if piece.isEmpty then none else some (ofText piece)

/-- A parameter as it is reported. -/
def toValue (parameter : Parameter) : Value :=
  .object <|
    [("name", .str parameter.name), ("type", .str parameter.type),
      ("required", .bool parameter.isRequired)] ++
      match parameter.standard with
      | some value => [("defaultValue", value)]
      | none => []

end Parameter

end Restack.Outline
