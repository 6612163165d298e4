import Restack.Value.Basic
import Restack.Number.FloatText
import Restack.Text.Quoted
import Restack.Text.Split

/-!
# Values inside running text

How a value reads when it is put into a line of text: a string as it is, a number in its shortest
form, and a list or an object in brackets with its strings quoted.
-/

namespace Restack.Value

open Restack.Text

mutual

/-- A value as part of a list or an object. -/
def inner : Value → String
  | .null => "None"
  | .bool b => if b then "True" else "False"
  | .int n => toString n
  | .float x => Number.floatText x
  | .str s => quoted s
  | .list items => "[" ++ innerItems items ++ "]"
  | .object fields => "\x7b" ++ innerFields fields ++ "\x7d"

/-- The items of a list, separated by commas. -/
def innerItems : List Value → String
  | [] => ""
  | [item] => inner item
  | item :: rest => inner item ++ ", " ++ innerItems rest

/-- The fields of an object, separated by commas. -/
def innerFields : List (String × Value) → String
  | [] => ""
  | [(key, value)] => quoted key ++ ": " ++ inner value
  | (key, value) :: rest => quoted key ++ ": " ++ inner value ++ ", " ++ innerFields rest

end

/-- A value put into a line of text. -/
def display : Value → String
  | .str s => s
  | value => inner value

end Restack.Value
