import Restack.Target.File

/-!
# Kotlin code with Compose

A component becomes a function that shows a screen; of its markup only the outermost parts are kept.
-/

namespace Restack.Target.Compose

open Restack.Text

/-- A function that shows a text. Quotation marks in it are escaped. -/
def textCall (s : String) : String :=
  "Text(" ++ String.ofList (kotlin.writeText s.toList) ++ ")"

/-- The function that a tag becomes. -/
def functionName (tag : String) : String :=
  let table :=
    [("div", "Box"), ("button", "Button"), ("input", "TextField"), ("img", "Image")] ++
      captionTags.map fun t => (t, "Text")
  (table.lookup (lowered tag)).getD "Box"

/-- The call that a part of the markup becomes. -/
def composable (node : Value) : Except Fault String := do
  let kind ← node.field "type"
  if kind == .str "text" then
    return textCall (← (← node.field "name").textFor "replace")
  else if kind == .str "element" then
    let name := functionName (← (← node.field "name").textFor "lower")
    if name == "Text" then return textCall (← caption node)
    else return name ++ " \x7b\x7d"
  else return "Box \x7b\x7d"

/-- The column that a forest of markup becomes. -/
def composableTree (children : Value) : Except Fault String := do
  if !children.truthy then return "Box \x7b\x7d"
  let calls ← (← children.elements).mapM composable
  return "Column \x7b\n        " ++ joined "\n        " calls ++ "\n    \x7d"

/-- What every screen imports. -/
def imports : String :=
  joined "\n"
    ["package com.example.app.ui",
      "",
      "import androidx.compose.foundation.layout.*",
      "import androidx.compose.material3.*",
      "import androidx.compose.runtime.*",
      "import androidx.compose.ui.Alignment",
      "import androidx.compose.ui.Modifier",
      "import androidx.compose.ui.unit.dp",
      "",
      ""]

/-- The declaration of a state variable. -/
def declaration (name : String) (info : Value) : Except Fault String := do
  let type ← kotlin.typeName (← info.field "type")
  return "    var " ++ name ++ " by remember \x7b mutableStateOf(" ++
    kotlin.writeValue (← info.field "initialValue") type ++ ") \x7d\n"

/-- The code of a component. -/
def code (name : Value) (node options : Value) : Except Fault String := do
  let top ← heading node options
  let params ← (← node.entriesOf "props").mapM fun (prop, info) => do
    return prop ++ ": " ++ (← kotlin.typeName (← info.field "type"))
  let state ← node.entriesOf "state"
  let declarations ← state.mapM fun (kept, info) => declaration kept info
  let tree ← composableTree (← node.get "children")
  return top ++ imports ++ "@OptIn(ExperimentalMaterial3Api::class)\n@Composable\nfun " ++
    name.display ++ "Screen(" ++ joined ", " params ++ ") \x7b\n" ++ joined "" declarations ++
    (if state.isEmpty then "" else "\n") ++ "    " ++ tree ++ "\n\x7d"

/-- The file that a node becomes. -/
def emit (node options : Value) : Except Fault File := do
  let name ← node.field "name"
  if ← isComponent node then
    let content ← code name node options
    return ⟨"app/src/main/java/com/example/app/ui/" ++ name.display ++ "Screen.kt", content,
      "kotlin"⟩
  else
    let path := identifierOf (← nameText name)
    return ⟨"app/src/main/java/com/example/app/" ++ path ++ ".kt", ← stubFile node options,
      "kotlin"⟩

/-- The test of a component. -/
def test (node : Value) : Except Fault File := do
  let name := (← node.field "name").display
  let args ← (← node.entriesOf "props").mapM fun (prop, info) => do
    return prop ++ " = " ++ (← kotlin.sample (← info.field "type"))
  return ⟨"app/src/androidTest/java/com/example/app/ui/" ++ name ++ "ScreenTest.kt",
    joined "\n"
      ["package com.example.app.ui",
        "",
        "import androidx.compose.ui.test.junit4.createComposeRule",
        "import org.junit.Rule",
        "import org.junit.Test",
        "",
        "class " ++ name ++ "ScreenTest \x7b",
        "    @get:Rule",
        "    val composeTestRule = createComposeRule()",
        "",
        "    @Test",
        "    fun rendersWithoutCrashing() \x7b",
        "        composeTestRule.setContent \x7b",
        "            " ++ name ++ "Screen(" ++ joined ", " args ++ ")",
        "        \x7d",
        "    \x7d",
        "\x7d",
        ""],
    "kotlin"⟩

end Restack.Target.Compose
