import Restack.Outline.Definition
import Restack.Text.Pattern

/-!
# Rules and variables of style sheets

The rules of a style sheet with their properties, and the variables that it sets.
-/

namespace Restack.Outline

open Restack.Text

/-- The kind of a style sheet by the ending of its path. -/
def styleKind (path : String) : String :=
  if hasEnd ".scss" path then "scss"
  else if hasEnd ".sass" path then "sass"
  else if hasEnd ".less" path then "less"
  else "css"

/-- The number of the line on which a place of a text stands. -/
def lineAt (s : List Char) (place : Nat) : Nat :=
  (s.take place).count '\n' + 1

/-- A rule: its selector is the first group, and its properties the second. -/
def rulePattern : Pattern :=
  .group 1 (.run1 fun c => c != '\x7b' && c != '\x7d') ++ .sign '\x7b' ++
    .group 2 (.run (· != '\x7d')) ++ .sign '\x7d'

/-- The property that a text sets, if it has a name and a value. -/
def propertyOf? (s : List Char) : Option (String × String) :=
  match cutAt [':'] s with
  | none => none
  | some (name, value) =>
    let name := trim name
    let value := trim value
    if name.isEmpty || value.isEmpty then none
    else some (String.ofList name, String.ofList value)

/-- The properties in a block. A later value replaces an earlier one. -/
def propertiesIn (block : String) : List (String × String) :=
  Value.ofEntries ((splitOnChar ';' block.toList).filterMap propertyOf?)

/-- The rule at a match, unless its selector is empty or a command. -/
def ruleAt? (content : List Char) (m : Match) : Option StyleRule :=
  let raw := (m.group 1).toList
  let selector := trim raw
  if selector.isEmpty || selector.head? == some '@' then none
  else
    let blanks := raw.takeWhile isBlank
    some ⟨String.ofList selector, propertiesIn (m.group 2),
      lineAt content (m.start + blanks.length)⟩

/-- A variable: its name is the first group, and its value the second. -/
def variablePattern : Pattern :=
  let part : Pattern := .run1 fun c => isWordChar c || c == '-'
  .group 1 ((.text "--" ++ part) <|> (.sign '$' ++ part)) ++ .blanks ++ .sign ':' ++ .blanks ++
    .group 2 (.run1 (· != ';')) ++ .sign ';'

/-- The style sheet with a content. -/
def StyleSheet.ofText (file content : String) : StyleSheet :=
  let s := content.toList
  { file := file
    kind := styleKind file
    rules := (rulePattern.findAll content).filterMap (ruleAt? s)
    settings := (variablePattern.findAll content).map fun m =>
      ⟨m.group 1, trimmed (m.group 2), lineAt s m.start⟩ }

end Restack.Outline
