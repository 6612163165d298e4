/-!
# Values without a fixed shape

Options, records that callers hand in, and the contents of data files are values whose shape is
known only when they are read. The fields of an object keep the order in which they were first set.
-/

namespace Restack

/-- A value of a data document. -/
inductive Value where
  | null
  | bool (b : Bool)
  | int (n : Int)
  | float (x : Float)
  | str (s : String)
  | list (items : List Value)
  | object (fields : List (String × Value))
deriving Inhabited, Repr

namespace Value

mutual

/-- Whether two values are alike: of one kind, with the same parts in the same order. -/
def alike : Value → Value → Bool
  | .null, .null => true
  | .bool a, .bool b => a == b
  | .int a, .int b => a == b
  | .float a, .float b => a == b
  | .str a, .str b => a == b
  | .list items, .list others => alikeItems items others
  | .object fields, .object others => alikeFields fields others
  | _, _ => false

/-- Whether the items of two lists are alike. -/
def alikeItems : List Value → List Value → Bool
  | [], [] => true
  | item :: rest, other :: others => alike item other && alikeItems rest others
  | _, _ => false

/-- Whether the fields of two objects are alike. -/
def alikeFields : List (String × Value) → List (String × Value) → Bool
  | [], [] => true
  | (key, value) :: rest, (other, found) :: others =>
    key == other && alike value found && alikeFields rest others
  | _, _ => false

end

instance : BEq Value := ⟨alike⟩

/-- Nothing but a string itself is like it. -/
@[simp] theorem beq_str_iff {value : Value} {s : String} :
    (value == .str s) = true ↔ value = .str s := by
  change value.alike (.str s) = true ↔ _
  cases value <;> simp [alike]

/-- A value is compared with a text by what it is. -/
@[simp] theorem beq_str_eq_false_iff {value : Value} {s : String} :
    (value == .str s) = false ↔ value ≠ .str s := by
  rw [Bool.eq_false_iff, ne_eq, beq_str_iff]

/-- The kinds of values that messages name. -/
inductive Kind where
  | null | bool | int | float | str | list | object
deriving DecidableEq, Repr

/-- The kind of a value. -/
def kind : Value → Kind
  | .null => .null
  | .bool _ => .bool
  | .int _ => .int
  | .float _ => .float
  | .str _ => .str
  | .list _ => .list
  | .object _ => .object

/-- The name of a kind in messages. -/
def Kind.name : Kind → String
  | .null => "NoneType"
  | .bool => "bool"
  | .int => "int"
  | .float => "float"
  | .str => "str"
  | .list => "list"
  | .object => "dict"

/-- Sets a field: a new one goes to the end, an old one keeps its place. -/
def setField {κ α : Type} [DecidableEq κ] (key : κ) (value : α) : List (κ × α) → List (κ × α)
  | [] => [(key, value)]
  | (k, v) :: rest => if k == key then (k, value) :: rest else (k, v) :: setField key value rest

/-- The fields left when each entry is set in turn. -/
def ofEntries {κ α : Type} [DecidableEq κ] (entries : List (κ × α)) : List (κ × α) :=
  entries.foldl (fun fields entry => setField entry.1 entry.2 fields) []

/-- A value counts as false when it is null, false, zero or empty. -/
def truthy : Value → Bool
  | .null => false
  | .bool b => b
  | .int n => n != 0
  | .float x => x != 0.0
  | .str s => !s.isEmpty
  | .list items => !items.isEmpty
  | .object fields => !fields.isEmpty

/-- A list of strings. -/
def ofStrings (items : List String) : Value :=
  .list (items.map .str)

/-- A whole number. -/
def ofNat (n : Nat) : Value :=
  .int n

end Value

end Restack
