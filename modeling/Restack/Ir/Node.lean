import Restack.Value.Show

/-!
# Nodes between source and target

A project is lowered to nodes that belong to no framework: components with their properties, state
and markup, functions, and style sheets. Markup is a forest of elements and texts.
-/

namespace Restack.Ir

/-- The framework that parts of markup belong to. -/
def universal : String := "universal"

/-- Where a node comes from, what it needs and what it gives out. -/
structure Origin where
  file : String
  framework : String
  dependencies : List Value
  «exports» : List Value

namespace Origin

/-- An origin as it is reported. -/
def toValue (origin : Origin) : Value :=
  .object
    [("originalFile", .str origin.file), ("originalFramework", .str origin.framework),
      ("dependencies", .list origin.dependencies), ("exports", .list origin.exports)]

/-- The origin of markup. -/
def ofMarkup : Origin := ⟨"", "jsx", [], []⟩

end Origin

/-- A part of markup. Names and attributes are kept as they were reported. -/
inductive Part where
  | element (name : Value) (settings : List (String × Value)) (children : List Part)
  | text (content : Value)

namespace Part

/-- The type of an attribute: text, unless it stands for an expression in braces. -/
def settingType : Value → String
  | .str s => if Text.hasStart "\x7b" s then "expression" else "string"
  | _ => "expression"

/-- An attribute as a property of a node. -/
def settingValue (name : String) (value : Value) : Value :=
  .object
    [("name", .str name), ("type", .str (settingType value)), ("required", .bool false),
      ("defaultValue", value)]

mutual

/-- A part of the markup of a file as it is reported. -/
def toValue (file : String) : Part → Value
  | .element name settings children =>
    .object
      [("id", .str (file ++ ":element:" ++ name.display)), ("type", .str "element"), ("name", name),
        ("framework", .str universal),
        ("props", .object (settings.map fun entry => (entry.1, settingValue entry.1 entry.2))),
        ("children", .list (toValues file children)), ("metadata", Origin.ofMarkup.toValue)]
  | .text content =>
    .object
      [("id", .str (file ++ ":text")), ("type", .str "text"), ("name", content),
        ("framework", .str universal), ("metadata", Origin.ofMarkup.toValue)]

/-- Several parts as they are reported. -/
def toValues (file : String) : List Part → List Value
  | [] => []
  | part :: rest => part.toValue file :: toValues file rest

end

end Part

/-- A variable that a component keeps. -/
structure StateVariable where
  name : String
  type : String
  initial : Value
  setter : String

/-- What a node is, and what belongs to its kind alone. -/
inductive Body where
  | component (props : List String) (state : List StateVariable) (hooks : List Value)
      (children : List Part)
  | function (code : Value)
  | stylesheet (classes : List (String × Value))

/-- A node. -/
structure Node where
  name : Value
  body : Body
  origin : Origin

namespace Node

/-- The word for the kind of a node. -/
def kindName (node : Node) : String :=
  match node.body with
  | .component .. => "component"
  | .function _ => "function"
  | .stylesheet _ => "stylesheet"

/-- A property without a known type, as it is reported. -/
def propValue (name : String) : Value :=
  .object [("name", .str name), ("type", .str "any"), ("required", .bool true)]

/-- A state variable as it is reported. -/
def stateValue (kept : StateVariable) : Value :=
  .object
    [("name", .str kept.name), ("type", .str kept.type), ("initialValue", kept.initial),
      ("setter", .str kept.setter)]

/-- The fields that every node reports. -/
def commonFields (props state : List (String × Value)) (hooks children : List Value)
    (styles : List (String × Value)) : List (String × Value) :=
  [("props", .object props), ("state", .object state), ("hooks", .list hooks),
    ("children", .list children), ("styles", .object styles)]

/-- What a node of a file reports beside its name and its origin. -/
def bodyFields (file : String) : Body → List (String × Value)
  | .component props state hooks children =>
    commonFields (Value.ofEntries (props.map fun name => (name, propValue name)))
      (state.map fun kept => (kept.name, stateValue kept)) hooks (Part.toValues file children) []
  | .function code =>
    commonFields [] [] [] [] [] ++
      [("implementation", .object [("code", code), ("language", .str "javascript")])]
  | .stylesheet classes => commonFields [] [] [] [] classes

/-- A node as it is reported. -/
def toValue (node : Node) : Value :=
  let file := node.origin.file
  .object <|
    [("id", .str (file ++ ":" ++ node.kindName ++ ":" ++ node.name.display)),
      ("type", .str node.kindName), ("name", node.name),
      ("framework", .str node.origin.framework)] ++
    bodyFields file node.body ++ [("metadata", node.origin.toValue)]

end Node

end Restack.Ir
