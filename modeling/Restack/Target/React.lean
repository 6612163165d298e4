import Restack.Target.File

/-!
# TypeScript code with React

A component becomes a function component with an interface for its properties; its markup is left to
be written.
-/

namespace Restack.Target.React

open Restack.Text

/-- A property in the interface of a component. -/
def property (name : String) (info : Value) : Except Fault String := do
  let mark := if (← info.get "required").truthy then "" else "?"
  return "  " ++ name ++ mark ++ ": " ++ (← typeScript.typeName (← info.field "type")) ++ ";\n"

/-- The declaration of a state variable. -/
def declaration (name : String) (info : Value) : Except Fault String := do
  let type ← typeScript.typeName (← info.field "type")
  let initial := typeScript.writeValue (← info.field "initialValue") type
  let setter ← info.field "setter"
  return "  const [" ++ name ++ ", " ++ setter.display ++ "] = useState<" ++ type ++ ">(" ++
    initial ++ ");\n"

/-- The interface for the properties of a component, if it has any. -/
def interface (name : String) (properties : List String) : String :=
  if properties.isEmpty then ""
  else "interface " ++ name ++ "Props \x7b\n" ++ joined "" properties ++ "\x7d\n\n"

/-- What the function of a component returns, and the export of it. -/
def ending (name : String) : String :=
  joined "\n"
    ["  return (",
      "    <div>",
      "      \x7b/* TODO: Convert JSX from UIR */\x7d",
      "      <h1>Converted Component</h1>",
      "    </div>",
      "  );",
      "\x7d;",
      "",
      "export default " ++ name ++ ";"]

/-- The code of a component. -/
def code (name : String) (node options : Value) : Except Fault String := do
  let top ← heading node options
  let properties ← (← node.entriesOf "props").mapM fun (prop, info) => property prop info
  let declarations ← (← node.entriesOf "state").mapM fun (kept, info) => declaration kept info
  let (generic, param) :=
    if properties.isEmpty then ("", "") else ("<" ++ name ++ "Props>", "props: " ++ name ++ "Props")
  return top ++ "import React, \x7b useState \x7d from 'react';\n\n" ++ interface name properties ++
    "const " ++ name ++ ": React.FC" ++ generic ++ " = (" ++ param ++ ") => \x7b\n" ++
    joined "" declarations ++ (if declarations.isEmpty then "" else "\n") ++ ending name

/-- The file that a node becomes. -/
def emit (node options : Value) : Except Fault File := do
  let name ← node.field "name"
  if ← isComponent node then
    return ⟨"src/components/" ++ name.display ++ ".tsx", ← code name.display node options,
      "typescript"⟩
  else
    let path := identifierOf (← nameText name)
    return ⟨"src/" ++ path ++ ".ts", ← stubFile node options, "typescript"⟩

/-- The test of a component. -/
def test (node : Value) : Except Fault File := do
  let name := (← node.field "name").display
  return ⟨"src/components/__tests__/" ++ name ++ ".test.tsx",
    joined "\n"
      ["import React from 'react';",
        "import \x7b render \x7d from '@testing-library/react';",
        "import " ++ name ++ " from '../" ++ name ++ "';",
        "",
        "describe('" ++ name ++ "', () => \x7b",
        "  it('renders without crashing', () => \x7b",
        "    render(<" ++ name ++ " \x7b...(\x7b\x7d as any)\x7d />);",
        "  \x7d);",
        "\x7d);",
        ""],
    "typescript"⟩

end Restack.Target.React
