import Restack.Ir.Node
import Restack.Outline.Literal
import Restack.Text.Case
import Restack.Value.Access

/-!
# From reports on files to nodes

Lowers the report on a script or a style sheet to nodes. Fragments of markup dissolve into their
children, and computed parts are left out.
-/

namespace Restack.Ir

open Restack.Text

/-- The type of a state variable by the text of its first value. -/
def typeOfLiteral (s : List Char) : String :=
  if 2 ≤ s.length && s.head? == some '\x27' && s.getLast? == some '\x27' then "string"
  else if s == "true".toList || s == "false".toList then "boolean"
  else if s.head? == some '[' && s.getLast? == some ']' then "array"
  else if s.head? == some '\x7b' && s.getLast? == some '\x7d' then "object"
  else if (Number.readFloat? s).isSome then "number"
  else "any"

/-- The name of the function that sets a state variable. -/
def setterName (name : String) : String :=
  "set" ++ String.ofList (capitalize name.toList)

/-- A state variable by its name and the text of its first value. -/
def StateVariable.ofText (name text : String) : StateVariable :=
  { name := name
    type := typeOfLiteral text.toList
    initial := Outline.readLiteral text.toList
    setter := setterName name }

namespace Lowering

/-- A field, or a text that stands in where the field is missing or counts as false. -/
def nameOr (standard : String) (value : Value) : Except Fault Value :=
  (value.getTruthy? "name").map (·.getD (.str standard))

mutual

/-- The parts that markup lowers to. -/
def parts : Value → Except Fault (List Part)
  | .object fields =>
    if fields.isEmpty then .ok []
    else do
      let shape := Value.object fields
      let kind ← shape.get "type"
      if kind == .str "Element" then
        let name ← nameOr "div" shape
        let children ← childParts fields
        let settings ← shape.entriesOf "props"
        return [.element name settings children]
      else if kind == .str "Text" then
        let content ← nameOr "" shape
        return [.text content]
      else if kind == .str "Fragment" then
        childParts fields
      else return []
  | value => if value.truthy then .error (.noAttribute value.kind "get") else .ok []

/-- The parts that the children among the fields of markup lower to. -/
def childParts : List (String × Value) → Except Fault (List Part)
  | [] => .ok []
  | (key, value) :: rest => if key == "children" then partsOfItems value else childParts rest

/-- The parts that the children of markup lower to. -/
def partsOfItems : Value → Except Fault (List Part)
  | .list items => partsOfAll items
  | value =>
    if !value.truthy then .ok []
    else do
      let items ← value.elements
      if items.all fun item => !item.truthy then return [] else .error (.noAttribute .str "get")

/-- The parts that a row of markup lowers to. -/
def partsOfAll : List Value → Except Fault (List Part)
  | [] => .ok []
  | item :: rest => do return (← parts item) ++ (← partsOfAll rest)

end

/-- The state variables that a component reports. -/
def stateOf (component : Value) : Except Fault (List StateVariable) := do
  (← component.entriesOf "state").mapM fun (name, text) => do
    let _ ← text.length
    return .ofText name (← text.textFor "startswith")

/-- The names of the properties that a component reports. -/
def propsOf (component : Value) : Except Fault (List String) := do
  (← component.elementsOf "props").mapM fun name =>
    match name with
    | .list _ => .error (.unhashable .list)
    | .object _ => .error (.unhashable .object)
    | name => .ok name.display

/-- The node of a component. One that is exported by default gives out no name of its own. -/
def component (file framework : String) (dependencies : List Value) (report : Value) :
    Except Fault Node := do
  let name ← report.field "name"
  let props ← propsOf report
  let state ← stateOf report
  let hooks ← report.elementsOf "hooks"
  let children ← parts (← report.get "jsx")
  let given := if (← report.get "isDefault").truthy then .str "default" else name
  return ⟨name, .component props state hooks children, ⟨file, framework, dependencies, [given]⟩⟩

/-- The node of a function. -/
def routine (file framework : String) (dependencies : List Value) (report : Value) :
    Except Fault Node := do
  let name ← report.field "name"
  let given := if (← report.get "isExported").truthy then [name] else []
  let code := (← report.get? "body").getD (.str "")
  return ⟨name, .function code, ⟨file, framework, dependencies, given⟩⟩

/-- The node of a style sheet. -/
def stylesheet (file framework : String) (report : Value) : Except Fault Node := do
  let name ← nameOr "styles" report
  let classes ←
    match ← report.getTruthy? "styles" with
    | none => pure []
    | some (.object classes) => pure classes
    | some value => .error (.notIterable value.kind)
  return ⟨name, .stylesheet classes, ⟨file, framework, [], []⟩⟩

/-- The nodes of a file: its components, then its functions, then its style sheet. A report on a
file that could not be read gives none. -/
def nodes (report : Value) (file framework : String) : Except Fault (List Node) := do
  if (← report.get "type") == .str "Error" then return []
  let dependencies ← report.elementsOf "importSources"
  let components ← (← report.elementsOf "components").mapM (component file framework dependencies)
  let routines ← (← report.elementsOf "functions").mapM (routine file framework dependencies)
  let sheets ←
    if (← report.get "type") == .str "Stylesheet" then
      (stylesheet file framework report).map fun sheet => [sheet]
    else pure []
  return components ++ routines ++ sheets

end Lowering

end Restack.Ir
