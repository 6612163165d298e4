import Restack.Value.Show

/-!
# Reading values of unknown shape

Records that callers hand in may lack a field or hold a value of another kind. Each reader below
either gives the part that was asked for or says what stood in its way.
-/

namespace Restack

/-- Why a value could not be used as it was meant to be. -/
inductive Fault where
  /-- An object lacks a field. -/
  | missingKey (key : String)
  /-- An object lacks a field with this number. -/
  | missingNumber (n : Nat)
  /-- A list is too short. -/
  | indexOutOfRange
  /-- A value of this kind has no such operation. -/
  | noAttribute (kind : Value.Kind) (name : String)
  /-- A value of this kind has no length. -/
  | noLength (kind : Value.Kind)
  /-- A value of this kind has no fields or items. -/
  | notSubscriptable (kind : Value.Kind)
  /-- A field name was applied to a string or a list. -/
  | badIndex (kind : Value.Kind)
  /-- A value of this kind cannot be gone through. -/
  | notIterable (kind : Value.Kind)
  /-- A list or an object was used as a key. -/
  | unhashable (kind : Value.Kind)
  /-- Text was needed. -/
  | notText (kind : Value.Kind)
  /-- Only text can be joined to text. -/
  | notJoinable (kind : Value.Kind)
  /-- An item of a sequence of texts is not text. -/
  | itemNotText (index : Nat) (kind : Value.Kind)
  /-- An operation is not defined between these kinds. -/
  | badOperands (operator : String) (left right : Value.Kind)
  /-- A whole number has too many digits to be read. -/
  | tooManyDigits (count : Nat)
deriving DecidableEq, Repr

namespace Fault

/-- The wording of a fault. -/
def message : Fault → String
  | .missingKey key => Text.quoted key
  | .missingNumber n => toString n
  | .indexOutOfRange => "list index out of range"
  | .noAttribute kind name => "'" ++ kind.name ++ "' object has no attribute '" ++ name ++ "'"
  | .noLength kind => "object of type '" ++ kind.name ++ "' has no len()"
  | .notSubscriptable kind => "'" ++ kind.name ++ "' object is not subscriptable"
  | .badIndex .str => "string indices must be integers, not 'str'"
  | .badIndex _ => "list indices must be integers or slices, not str"
  | .notIterable kind => "'" ++ kind.name ++ "' object is not iterable"
  | .unhashable kind => "unhashable type: '" ++ kind.name ++ "'"
  | .notText kind => "expected string or bytes-like object, got '" ++ kind.name ++ "'"
  | .notJoinable kind => "can only concatenate str (not \"" ++ kind.name ++ "\") to str"
  | .itemNotText index kind =>
    "sequence item " ++ toString index ++ ": expected str instance, " ++ kind.name ++ " found"
  | .badOperands operator left right =>
    "unsupported operand type(s) for " ++ operator ++ ": '" ++ left.name ++ "' and '" ++
      right.name ++ "'"
  | .tooManyDigits count =>
    "Exceeds the limit (4300 digits) for integer string conversion: value has " ++ toString count ++
      " digits; use sys.set_int_max_str_digits() to increase the limit"

/-- The family that a fault belongs to. -/
inductive Family where
  | key | index | attribute | type | value
deriving DecidableEq, Repr

/-- The family of a fault. -/
def family : Fault → Family
  | .missingKey _ | .missingNumber _ => .key
  | .indexOutOfRange => .index
  | .noAttribute .. => .attribute
  | .tooManyDigits _ => .value
  | _ => .type

/-- The name of a family. -/
def Family.name : Family → String
  | .key => "KeyError"
  | .index => "IndexError"
  | .attribute => "AttributeError"
  | .type => "TypeError"
  | .value => "ValueError"

end Fault

namespace Value

/-- A field that must be there. -/
def field (key : String) : Value → Except Fault Value
  | .object fields =>
    match fields.lookup key with
    | some value => .ok value
    | none => .error (.missingKey key)
  | .str _ => .error (.badIndex .str)
  | .list _ => .error (.badIndex .list)
  | value => .error (.notSubscriptable value.kind)

/-- A field that is there is found. -/
theorem field_object {key : String} {fields : List (String × Value)} {value : Value}
    (h : fields.lookup key = some value) : (Value.object fields).field key = .ok value := by
  rw [field, h]

/-- A field that may be missing. -/
def get? (key : String) : Value → Except Fault (Option Value)
  | .object fields => .ok (fields.lookup key)
  | value => .error (.noAttribute value.kind "get")

/-- A field, null where it is missing. -/
def get (key : String) (value : Value) : Except Fault Value :=
  (value.get? key).map (·.getD .null)

/-- A field that counts only when it is not false. -/
def getTruthy? (key : String) (value : Value) : Except Fault (Option Value) :=
  (value.get key).map fun found => if found.truthy then some found else none

/-- The fields of an object. -/
def entries : Value → Except Fault (List (String × Value))
  | .object fields => .ok fields
  | value => .error (.noAttribute value.kind "items")

/-- What going through a value yields: the items of a list, the keys of an object or the characters
of a string. -/
def elements : Value → Except Fault (List Value)
  | .list items => .ok items
  | .object fields => .ok (fields.map fun entry => .str entry.1)
  | .str s => .ok (s.toList.map fun c => .str (String.singleton c))
  | value => .error (.notIterable value.kind)

/-- The fields of an object field that may be missing or false. -/
def entriesOf (key : String) (value : Value) : Except Fault (List (String × Value)) := do
  match ← value.getTruthy? key with
  | some found => found.entries
  | none => .ok []

/-- The fields of a record within a record are found under its key. -/
theorem entriesOf_object {key : String} {fields entries : List (String × Value)}
    (h : fields.lookup key = some (.object entries)) :
    (Value.object fields).entriesOf key = .ok entries := by
  simp only [entriesOf, getTruthy?, get, get?, h, Except.map, Option.getD_some]
  cases entries <;> rfl

/-- The elements of a field that may be missing or false. -/
def elementsOf (key : String) (value : Value) : Except Fault (List Value) := do
  match ← value.getTruthy? key with
  | some found => found.elements
  | none => .ok []

/-- The items of a list within a record are found under its key. -/
theorem elementsOf_list {key : String} {fields : List (String × Value)} {items : List Value}
    (h : fields.lookup key = some (.list items)) :
    (Value.object fields).elementsOf key = .ok items := by
  simp only [elementsOf, getTruthy?, get, get?, h, Except.map, Option.getD_some]
  cases items <;> rfl

/-- A field that is missing or false has no elements. -/
theorem elementsOf_falsy {key : String} {fields : List (String × Value)}
    (h : ∀ value ∈ fields.lookup key, value.truthy = false) :
    (Value.object fields).elementsOf key = .ok [] := by
  simp only [elementsOf, getTruthy?, get, get?, Except.map]
  cases hvalue : fields.lookup key with
  | none => rfl
  | some value =>
    rw [Option.getD_some, h value hvalue]
    rfl

/-- The length of a value that has one. -/
def length : Value → Except Fault Nat
  | .list items => .ok items.length
  | .object fields => .ok fields.length
  | .str s => .ok s.length
  | value => .error (.noLength value.kind)

/-- A text that an operation with this name is applied to. -/
def textFor (operation : String) : Value → Except Fault String
  | .str s => .ok s
  | value => .error (.noAttribute value.kind operation)

/-- A value that serves as a key: a string is looked up, no other key is known, and a list or an
object cannot be one. -/
def asKey : Value → Except Fault (Option String)
  | .str s => .ok (some s)
  | .list _ => .error (.unhashable .list)
  | .object _ => .error (.unhashable .object)
  | _ => .ok none

end Value

end Restack
