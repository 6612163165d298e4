import Restack.Number.FloatText
import Restack.Text.Quoted
import Restack.Value.Basic

/-!
# Data documents

What a data document holds. An escape in a document may name one unit of a UTF-16 pair without the
other. Such a unit is no character, but it counts in a text like one: texts that differ in it are
different texts.
-/

namespace Restack

namespace Document

/-- The units that open a pair. -/
def OpensPair (n : Nat) : Prop := 0xD800 ≤ n ∧ n ≤ 0xDBFF

/-- The units that close a pair. -/
def ClosesPair (n : Nat) : Prop := 0xDC00 ≤ n ∧ n ≤ 0xDFFF

instance (n : Nat) : Decidable (OpensPair n) := inferInstanceAs (Decidable (_ ∧ _))

instance (n : Nat) : Decidable (ClosesPair n) := inferInstanceAs (Decidable (_ ∧ _))

/-- A sign of a text: a character, or a unit of a pair that stands alone. -/
inductive Symbol where
  | char (c : Char)
  | unit (n : Nat) (h : OpensPair n ∨ ClosesPair n)
deriving DecidableEq

/-- A text of a document. -/
structure Str where
  symbols : List Symbol
deriving DecidableEq

namespace Symbol

/-- The character that a sign is. -/
def char? : Symbol → Option Char
  | .char c => some c
  | .unit .. => none

/-- The character that is printed for a sign. There is none for a unit, which is replaced. -/
def printed (symbol : Symbol) : Char :=
  symbol.char?.getD (Char.ofNat 0xFFFD)

/-- One sign of a quoted text. -/
def quote (mark : Char) : Symbol → List Char
  | .char c => Text.quoteChar mark c
  | .unit n _ => '\\' :: 'u' :: Text.hexDigits 4 n

end Symbol

namespace Str

/-- A text of characters. -/
def ofString (s : String) : Str :=
  ⟨s.toList.map .char⟩

/-- A text as it is printed. -/
def printed (s : Str) : String :=
  String.ofList (s.symbols.map Symbol.printed)

/-- A text as messages quote it. -/
def quoted (s : Str) : String :=
  let mark := Text.quoteMark (s.symbols.filterMap Symbol.char?)
  String.ofList (mark :: (s.symbols.flatMap (Symbol.quote mark) ++ [mark]))

end Str

end Document

/-- A part of a data document. -/
inductive Document where
  | null
  | bool (b : Bool)
  | int (n : Int)
  | float (x : Float)
  | str (s : Document.Str)
  | list (items : List Document)
  | object (fields : List (Document.Str × Document))

namespace Document

/-- The kind of a part. -/
def kind : Document → Value.Kind
  | .null => .null
  | .bool _ => .bool
  | .int _ => .int
  | .float _ => .float
  | .str _ => .str
  | .list _ => .list
  | .object _ => .object

/-- A part counts as false when it is null, false, zero or empty. -/
def truthy : Document → Bool
  | .null => false
  | .bool b => b
  | .int n => n != 0
  | .float x => x != 0.0
  | .str s => !s.symbols.isEmpty
  | .list items => !items.isEmpty
  | .object fields => !fields.isEmpty

mutual

/-- A part within a list or an object, put into a line of text. -/
def inner : Document → String
  | .null => "None"
  | .bool b => if b then "True" else "False"
  | .int n => toString n
  | .float x => Number.floatText x
  | .str s => s.quoted
  | .list items => "[" ++ innerItems items ++ "]"
  | .object fields => "\x7b" ++ innerFields fields ++ "\x7d"

/-- The items of a list, separated by commas. -/
def innerItems : List Document → String
  | [] => ""
  | [item] => inner item
  | item :: rest => inner item ++ ", " ++ innerItems rest

/-- The fields of an object, separated by commas. -/
def innerFields : List (Str × Document) → String
  | [] => ""
  | [(key, part)] => key.quoted ++ ": " ++ inner part
  | (key, part) :: rest => key.quoted ++ ": " ++ inner part ++ ", " ++ innerFields rest

end

/-- A part put into a line of text: a text as it is, anything else in characters. -/
def display : Document → Str
  | .str s => s
  | part => .ofString (inner part)

end Document

end Restack
