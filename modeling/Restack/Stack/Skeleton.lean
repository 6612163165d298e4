import Restack.Target.File
import Restack.Value.Writer

/-!
# Skeletons of components

What is left of a component when it is moved to another stack: its name, its properties and its
state in the form of the stack's user interface.
-/

namespace Restack.Stack

open Restack.Text

/-- A file of a converted project. -/
structure ConvertedFile where
  /-- The path of the file that it comes from, empty for one that is only generated. -/
  source : String
  path : String
  content : String
  type : String
  language : String
  lines : Nat
deriving DecidableEq, Repr

/-- A file with a content, the lines of which are counted. -/
def ConvertedFile.ofContent (source path content type language : String) : ConvertedFile :=
  ⟨source, path, content, type, language, content.toList.count '\n' + 1⟩

/-- A converted file as it is reported. -/
def ConvertedFile.toValue (file : ConvertedFile) : Value :=
  .object
    [("originalPath", .str file.source), ("newPath", .str file.path),
      ("content", .str file.content), ("type", .str file.type), ("language", .str file.language),
      ("lineCount", .ofNat file.lines)]

/-- A value that a state variable begins with: texts stand between quotes as they are, and whatever
has no form of its own is absent. -/
def initialText (quote : Char) : Value → String
  | .str s => String.ofList (quote :: (s.toList ++ [quote]))
  | .bool b => if b then "true" else "false"
  | .int n => (Value.int n).display
  | .float x => (Value.float x).display
  | _ => "null"

/-- A value that a state variable begins with in Dart. -/
def dartInitial : Value → String := initialText '\x27'

/-- A value that a state variable begins with in Kotlin. -/
def kotlinInitial : Value → String := initialText '"'

/-- A value that a state variable begins with in JavaScript. -/
def scriptInitial : Value → String
  | .str s => String.ofList ('\x27' :: (s.toList ++ ['\x27']))
  | value => Value.write .line value

/-- A name in small letters with a dash in front of what were capital letters, but none at its
beginning. -/
def kebabCase (name : List Char) : List Char :=
  (lower (name.flatMap fun c => if Target.isCapital c then ['-', c] else [c])).dropWhile (· == '-')

/-- A string in small letters with dashes. -/
def kebabCased (name : String) : String :=
  String.ofList (kebabCase name.toList)

/-- The name of a component, which is shown wherever it is used. -/
def nameOf (component : Value) : Except Fault Value := component.field "name"

/-- The path of the file that a component stands in. -/
def fileOf (component : Value) : Except Fault String := do
  return (← component.field "filePath").display

/-- The state variables of a component. -/
def stateOf (component : Value) : Except Fault (List Value) := component.elementsOf "state"

namespace Flutter

/-- The end of a widget. -/
def ending (name : String) : String :=
  joined "\n"
    ["  @override",
      "  Widget build(BuildContext context) \x7b",
      "    return Container(",
      "      child: Text('" ++ name ++ "'),",
      "    );",
      "  \x7d",
      "\x7d",
      ""]

/-- The declaration of a state variable. -/
def declaration (item : Value) : Except Fault String := do
  let type ← Target.dart.typeName (← item.field "type")
  let name ← item.field "name"
  return "  " ++ type ++ " " ++ name.display ++ " = " ++ dartInitial (← item.get "initialValue") ++
    ";\n"

/-- The constructor of a widget. -/
def constructor (name : String) : String :=
  "  const " ++ name ++ "(\x7bKey? key\x7d) : super(key: key);\n\n"

/-- The widget that a component becomes. -/
def convert (component : Value) : Except Fault ConvertedFile := do
  let name := (← nameOf component).display
  let declarations ← (← stateOf component).mapM declaration
  let body :=
    if declarations.isEmpty then
      "class " ++ name ++ " extends StatelessWidget \x7b\n" ++ constructor name ++ ending name
    else
      "class " ++ name ++ " extends StatefulWidget \x7b\n" ++ constructor name ++
        "  @override\n  State<" ++ name ++ "> createState() => _" ++ name ++
        "State();\n\x7d\n\nclass _" ++ name ++ "State extends State<" ++ name ++ "> \x7b\n" ++
        joined "" declarations ++ "\n" ++ ending name
  let file ← fileOf component
  let small ← (← nameOf component).textFor "lower"
  return .ofContent file ("lib/widgets/" ++ lowered small ++ ".dart")
    ("import 'package:flutter/material.dart';\n\n" ++ body) "widget" "dart"

end Flutter

namespace Android

/-- The declaration of a state variable. -/
def declaration (item : Value) : Except Fault String := do
  let name ← item.field "name"
  return "    var " ++ name.display ++ " by remember \x7b mutableStateOf(" ++
    kotlinInitial (← item.get "initialValue") ++ ") \x7d\n"

/-- The function that a component becomes. -/
def convert (component : Value) : Except Fault ConvertedFile := do
  let name := (← nameOf component).display
  let declarations ← (← stateOf component).mapM declaration
  let before :=
    joined "\n"
      ["package com.example.app.ui.components",
        "",
        "import androidx.compose.foundation.layout.*",
        "import androidx.compose.material3.*",
        "import androidx.compose.runtime.*",
        "import androidx.compose.ui.Alignment",
        "import androidx.compose.ui.Modifier",
        "import androidx.compose.ui.unit.dp",
        "",
        "@Composable",
        "fun " ++ name ++ "(",
        "    modifier: Modifier = Modifier",
        ") \x7b",
        ""]
  let after :=
    joined "\n"
      ["",
        "    Column(",
        "        modifier = modifier.fillMaxWidth(),",
        "        horizontalAlignment = Alignment.CenterHorizontally",
        "    ) \x7b",
        "        Text(\"" ++ name ++ "\")",
        "    \x7d",
        "\x7d",
        ""]
  return .ofContent (← fileOf component)
    ("app/src/main/java/com/example/app/ui/components/" ++ name ++ ".kt")
    (before ++ joined "" declarations ++ after) "composable" "kotlin"

end Android

namespace React

/-- A property in the interface of a component. -/
def property (prop : Value) : Except Fault String := do
  let mark := if (← prop.get "required").truthy then "" else "?"
  let name ← prop.field "name"
  let type ← Target.typeScript.typeName ((← prop.get? "type").getD (.str "any"))
  return "  " ++ name.display ++ mark ++ ": " ++ type ++ ";\n"

/-- A name with a capital letter in front. -/
def capitalizedName : Value → Except Fault String
  | .str s => .ok (String.ofList (capitalize s.toList))
  | .list _ => .error (.noAttribute .list "upper")
  | value => .error (.notSubscriptable value.kind)

/-- The declaration of a state variable. -/
def declaration (typed : Bool) (item : Value) : Except Fault String := do
  let generic ←
    if typed then
      pure ("<" ++ (← Target.typeScript.typeName (← item.field "type")) ++ ">")
    else pure ""
  let name ← item.field "name"
  let setter := "set" ++ (← capitalizedName name)
  return "  const [" ++ name.display ++ ", " ++ setter ++ "] = useState" ++ generic ++ "(" ++
    scriptInitial (← item.get "initialValue") ++ ");\n"

/-- The function that a component becomes, in TypeScript or in JavaScript. -/
def convert (typed : Bool) (component : Value) : Except Fault ConvertedFile := do
  let name := (← nameOf component).display
  let props ← component.elementsOf "props"
  let state ← stateOf component
  let interface ←
    if typed && !props.isEmpty then
      pure ("interface " ++ name ++ "Props \x7b\n" ++ joined "" (← props.mapM property) ++
        "\x7d\n\n")
    else pure ""
  let declarations ← state.mapM (declaration typed)
  let param :=
    if props.isEmpty then "" else if typed then "props: " ++ name ++ "Props" else "props"
  let annotated :=
    if !typed then "" else if props.isEmpty then ": React.FC" else ": React.FC<" ++ name ++ "Props>"
  let hook := if state.isEmpty then "" else ", \x7b useState \x7d"
  let after :=
    joined "\n"
      ["",
        "  return (",
        "    <div>",
        "      <h1>" ++ name ++ "</h1>",
        "    </div>",
        "  );",
        "\x7d;",
        "",
        "export default " ++ name ++ ";",
        ""]
  let (ending, language) := if typed then ("tsx", "typescript") else ("jsx", "javascript")
  return .ofContent (← fileOf component) ("src/components/" ++ name ++ "." ++ ending)
    ("import React" ++ hook ++ " from 'react';\n\n" ++ interface ++ "const " ++ name ++ annotated ++
      " = (" ++ param ++ ") => \x7b\n" ++ joined "" declarations ++ after)
    "component" language

end React

namespace Vue

/-- The declaration of a state variable. -/
def declaration (item : Value) : Except Fault String := do
  let name ← item.field "name"
  return "const " ++ name.display ++ " = ref(" ++
    Value.write .line (← item.get "initialValue") ++ ")\n"

/-- The file that a component becomes. -/
def convert (component : Value) : Except Fault ConvertedFile := do
  let name := (← nameOf component).display
  let style := lowered (← (← nameOf component).textFor "lower")
  let declarations ← (← stateOf component).mapM declaration
  let before :=
    joined "\n"
      ["<template>",
        "  <div class=\"" ++ style ++ "\">",
        "    <h1>\x7b\x7b title \x7d\x7d</h1>",
        "  </div>",
        "</template>",
        "",
        "<script setup>",
        "import \x7b ref \x7d from 'vue'",
        "",
        "const title = ref('" ++ name ++ "')",
        ""]
  let after :=
    joined "\n"
      ["</script>",
        "",
        "<style scoped>",
        "." ++ style ++ " \x7b",
        "  padding: 20px;",
        "\x7d",
        "</style>",
        ""]
  return .ofContent (← fileOf component) ("src/components/" ++ name ++ ".vue")
    (before ++ joined "" declarations ++ after) "component" "vue"

end Vue

namespace Angular

/-- The declaration of a state variable. -/
def declaration (item : Value) : Except Fault String := do
  let name ← item.field "name"
  let type ← Target.typeScript.typeName (← item.field "type")
  return "  " ++ name.display ++ ": " ++ type ++ " = " ++
    scriptInitial (← item.get "initialValue") ++ ";\n"

/-- The class that a component becomes. -/
def convert (component : Value) : Except Fault ConvertedFile := do
  let name := (← nameOf component).display
  let selector := kebabCased (← Target.nameText (← nameOf component))
  let declarations ← (← stateOf component).mapM declaration
  let before :=
    joined "\n"
      ["import \x7b Component \x7d from '@angular/core';",
        "",
        "@Component(\x7b",
        "  selector: 'app-" ++ selector ++ "',",
        "  template: \x60",
        "    <div class=\"" ++ selector ++ "\">",
        "      <h1>\x7b\x7b title \x7d\x7d</h1>",
        "    </div>",
        "  \x60,",
        "  styles: [\x60",
        "    ." ++ selector ++ " \x7b",
        "      padding: 20px;",
        "    \x7d",
        "  \x60]",
        "\x7d)",
        "export class " ++ name ++ "Component \x7b",
        "  title = '" ++ name ++ "';",
        ""]
  return .ofContent (← fileOf component)
    ("src/app/components/" ++ selector ++ "/" ++ selector ++ ".component.ts")
    (before ++ joined "" declarations ++ "\x7d\n") "component" "typescript"

end Angular

end Restack.Stack
