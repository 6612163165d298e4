import Restack.Target.Dialect
import Restack.Target.Names

/-!
# Files of generated code

A generated file, its heading, and the comments that stand in place of nodes which are no
components.
-/

namespace Restack.Target

/-- A generated file. -/
structure File where
  path : String
  content : String
  type : String
deriving DecidableEq, Repr

/-- A file as it is reported. -/
def File.toValue (file : File) : Value :=
  .object
    [("path", .str file.path), ("content", .str file.content), ("type", .str file.type)]

/-- The name of a node as a text that letters can be replaced in. -/
def nameText (name : Value) : Except Fault String :=
  match name with
  | .str s => .ok s
  | value => .error (.notText value.kind)

/-- The line that says which file a node comes from, unless comments are switched off. -/
def heading (node options : Value) : Except Fault String := do
  if (← options.get? "preserveComments") == some (.bool false) then return ""
  let file ← (← node.field "metadata").field "originalFile"
  return "// Converted from " ++ file.display ++ "\n"

/-- The lines of an implementation as comments. -/
def commentedCode (node : Value) : Except Fault (List String) := do
  match ← node.getTruthy? "implementation" with
  | none => return []
  | some implementation =>
    if (← implementation.get "code").truthy then
      let language ← implementation.field "language"
      let code ← (← implementation.field "code").textFor "split"
      let lines := (Text.lines code).map fun line => if line.isEmpty then "//" else "// " ++ line
      return ("// Original implementation (" ++ language.display ++ "):") :: lines ++ [""]
    else return []

/-- The class of a style sheet as a comment. -/
def commentedClass (selector : String) (properties : Value) : Except Fault String := do
  let settings := (← properties.entries).map fun entry => entry.1 ++ ": " ++ entry.2.display ++ ";"
  return "// ." ++ selector ++ " \x7b " ++ Text.joined " " settings ++ " \x7d"

/-- The classes of a style sheet as comments. -/
def commentedClasses (node : Value) : Except Fault (List String) := do
  let classes ← node.entriesOf "styles"
  let lines ← classes.mapM fun entry => commentedClass entry.1 entry.2
  return if classes.isEmpty then [] else lines ++ [""]

/-- What a node which is no component carried, as comments. -/
def stub (node : Value) : Except Fault String := do
  let kind ← node.field "type"
  let code ← commentedCode node
  let classes ← commentedClasses node
  let name ← node.field "name"
  return Text.joined "\n"
    (["// UIR Node: " ++ kind.display, ""] ++ code ++ classes ++
      ["// TODO: Implement " ++ name.display])

/-- The heading of a node and the comments that stand for it. -/
def stubFile (node options : Value) : Except Fault String := do
  return (← heading node options) ++ (← stub node)

/-- Whether a node is a component. -/
def isComponent (node : Value) : Except Fault Bool :=
  (node.field "type").map (· == .str "component")

/-- The name of a node that is a text, if it is one. -/
def textName? (node : Value) : Except Fault (Option Value) := do
  if (← node.field "type") == .str "text" then some <$> node.field "name" else return none

/-- The name of a text that is one of several. -/
def captionPart (name : Value) (index : Nat) : Except Fault String :=
  match name with
  | .str s => .ok s
  | value => .error (.itemNotText index value.kind)

/-- The names of the texts among the children of a node, with a space between them. -/
def caption (node : Value) : Except Fault String := do
  let names ← (← node.elementsOf "children").filterMapM textName?
  let texts ← names.zipIdx.mapM fun (name, i) => captionPart name i
  return Text.joined " " texts

/-- Tags whose texts become one caption. -/
def captionTags : List String := ["p", "h1", "h2", "h3", "h4", "h5", "h6"]

end Restack.Target
