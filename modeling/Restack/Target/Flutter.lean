import Restack.Target.File

/-!
# Flutter code

A component becomes a widget, with state if the component has any, and its markup an expression of
nested widgets.
-/

namespace Restack.Target.Flutter

open Restack.Text

/-- A text as a literal: backslashes and apostrophes are escaped. -/
def literal (s : List Char) : List Char :=
  '\x27' :: (s.flatMap (fun c => if c == '\\' || c == '\x27' then ['\\', c] else [c]) ++ ['\x27'])

/-- A widget that shows a text. -/
def textWidget (s : String) : String :=
  "Text(" ++ String.ofList (literal s.toList) ++ ")"

/-- The widgets of the tags that have one of their own. -/
def widgetTable : List (String × String) :=
  [("div", "Container"), ("button", "ElevatedButton"), ("input", "TextField"), ("img", "Image")] ++
    captionTags.map fun tag => (tag, "Text")

/-- The widget that a tag becomes. -/
def widgetName (tag : String) : String :=
  (widgetTable.lookup (lowered tag)).getD "Container"

/-- A widget around others. -/
def nest (name : String) : List String → String
  | [] => name ++ "()"
  | [child] => name ++ "(child: " ++ child ++ ")"
  | children => name ++ "(child: Column(children: [" ++ joined ", " children ++ "]))"

mutual

/-- The widget that a part of the markup becomes. -/
def widget : Value → Except Fault String
  | .object fields => do
    let node := Value.object fields
    let kind ← node.field "type"
    if kind == .str "text" then
      return textWidget (← (← node.field "name").textFor "replace")
    else if kind == .str "element" then
      let name := widgetName (← (← node.field "name").textFor "lower")
      if name == "Text" then return textWidget (← caption node)
      else return nest name (← childWidgets fields)
    else return "Container()"
  | value => (value.field "type").map fun _ => ""

/-- The widgets of the children among the fields of a node. -/
def childWidgets : List (String × Value) → Except Fault (List String)
  | [] => .ok []
  | (key, value) :: rest => if key == "children" then widgetsOf value else childWidgets rest

/-- The widgets of the children of a node. -/
def widgetsOf : Value → Except Fault (List String)
  | .list items => widgets items
  | value =>
    if !value.truthy then .ok []
    else do
      let _ ← value.elements
      .error (.badIndex .str)

/-- The widgets of several parts. -/
def widgets : List Value → Except Fault (List String)
  | [] => .ok []
  | item :: rest => do return (← widget item) :: (← widgets rest)

end

/-- A column of widgets, one of them alone, or an empty box. -/
def column : List String → String
  | [] => "Container()"
  | [child] => child
  | children =>
    "Column(\n        children: [\n        " ++ joined ",\n        " children ++
      "\n      ],\n    )"

/-- The widget that a forest of markup becomes. -/
def widgetTree (children : Value) : Except Fault String :=
  match children with
  | .list items => (widgets items).map column
  | value =>
    if !value.truthy then .ok "Container()"
    else
      match value with
      | .object [_] => .error (.missingNumber 0)
      | value => do
        let _ ← value.length
        .error (.badIndex .str)

/-- The fields and the constructor of a widget. -/
def constructor (className : String) (node : Value) : Except Fault String := do
  let props ← node.entriesOf "props"
  let fields ← props.mapM fun (name, prop) => do
    return "  final " ++ (← dart.typeName (← prop.field "type")) ++ " " ++ name ++ ";"
  let required := props.map fun entry => "required this." ++ entry.1
  let (before, params) :=
    if props.isEmpty then ("", "Key? key")
    else (joined "\n" fields ++ "\n\n", "Key? key, " ++ joined ", " required)
  return before ++ "  const " ++ className ++ "(\x7b" ++ params ++ "\x7d) : super(key: key);\n\n"

/-- The declaration of a state variable. -/
def declaration (name : String) (info : Value) : Except Fault String := do
  let type ← dart.typeName (← info.field "type")
  return "  " ++ type ++ " " ++ name ++ " = " ++
    dart.writeValue (← info.field "initialValue") type ++ ";\n"

/-- The function that changes a state variable. -/
def updater (name : String) (info : Value) : Except Fault String := do
  let type ← dart.typeName (← info.field "type")
  return "\n  void update" ++ String.ofList (capitalize name.toList) ++ "(" ++ type ++
    " newValue) \x7b\n    setState(() \x7b\n      " ++ name ++ " = newValue;\n    \x7d);\n  \x7d\n"

/-- The classes of a widget up to the body of its `build` function. -/
def opening (className : String) (node : Value) : Except Fault String := do
  let build := "  @override\n  Widget build(BuildContext context) \x7b\n"
  if ((← node.getTruthy? "state").isSome) then
    let fields ← constructor className node
    let declarations ← (← node.entriesOf "state").mapM fun (name, info) => declaration name info
    return "class " ++ className ++ " extends StatefulWidget \x7b\n" ++ fields ++
      "  @override\n  State<" ++ className ++ "> createState() => _" ++ className ++
      "State();\n\x7d\n\nclass _" ++ className ++ "State extends State<" ++ className ++
      "> \x7b\n" ++ joined "" declarations ++ "\n" ++ build
  else
    return "class " ++ className ++ " extends StatelessWidget \x7b\n" ++
      (← constructor className node) ++ build

/-- The code of a component. -/
def code (name : Value) (node options : Value) : Except Fault String := do
  let className := name.display ++ "Widget"
  let top ← heading node options
  let opening ← opening className node
  let tree ← widgetTree (← node.get "children")
  let updaters ← (← node.entriesOf "state").mapM fun (name, info) => updater name info
  return top ++ "import 'package:flutter/material.dart';\n\n" ++ opening ++
    "    return " ++ tree ++ ";\n  \x7d\n" ++ joined "" updaters ++ "\x7d"

/-- The file that a node becomes. -/
def emit (node options : Value) : Except Fault File := do
  if ← isComponent node then
    let name ← node.field "name"
    let content ← code name node options
    return ⟨"lib/widgets/" ++ snakeCased (← nameText name) ++ "_widget.dart", content, "dart"⟩
  else
    let path := snakeCased (identifierOf (← nameText (← node.field "name")))
    return ⟨"lib/" ++ path ++ ".dart", ← stubFile node options, "dart"⟩

/-- The test of a component. -/
def test (node : Value) : Except Fault File := do
  let name ← node.field "name"
  let args ← (← node.entriesOf "props").mapM fun (prop, info) => do
    return prop ++ ": " ++ (← dart.sample (← info.field "type"))
  let file := snakeCased (← nameText name)
  let widget := name.display ++ "Widget"
  return ⟨"test/widgets/" ++ file ++ "_widget_test.dart",
    joined "\n"
      ["import 'package:flutter/material.dart';",
        "import 'package:flutter_test/flutter_test.dart';",
        "import 'package:converted_flutter_app/widgets/" ++ file ++ "_widget.dart';",
        "",
        "void main() \x7b",
        "  testWidgets('" ++ widget ++ " renders', (WidgetTester tester) async \x7b",
        "    await tester.pumpWidget(MaterialApp(home: " ++ widget ++ "(" ++ joined ", " args ++
          ")));",
        "    expect(find.byType(" ++ widget ++ "), findsOneWidget);",
        "  \x7d);",
        "\x7d",
        ""],
    "dart"⟩

end Restack.Target.Flutter
