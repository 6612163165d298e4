import Restack.Outline.Block
import Restack.Outline.Definition

/-!
# Elements and classes in lines

What lines tell of the components they use and of how they are styled, and the variables that the
entries of an object declare.
-/

namespace Restack.Outline

open Restack.Text

/-- An attribute with a text as its value. -/
def settingPattern : Pattern :=
  .group 1 .word ++ .sign '=' ++ .quotes ++ .group 2 (.run (Pattern.noneOf "'\"")) ++ .quotes

/-- The attributes in a tag. -/
def settingsIn (tag : String) : List (String × String) :=
  Value.ofEntries ((settingPattern.findAll tag).map fun m => (m.group 1, m.group 2))

/-- The beginning of a tag whose name is capitalized. -/
def childPattern : Pattern :=
  .sign '<' ++ .group 1 (.capitalized ++ .maybe (.sign '.' ++ .capitalized)) ++
    .group 2 (.run (· != '>'))

/-- The components that lines use, each where it is used first. -/
def childrenOf (lines : List String) (offset : Nat) (self : String) : List Child :=
  let all := lines.zipIdx.flatMap fun (line, i) =>
    (childPattern.findAll line).map fun m =>
      (⟨m.group 1, settingsIn (m.group 2), offset + i + 1⟩ : Child)
  (all.filter (·.name != self)).foldl
    (fun found child => if found.any (·.name == child.name) then found else found ++ [child]) []

/-- The names of classes in a tag. -/
def classPattern : Pattern :=
  .wordEdge ++ .text "class" ++ .maybe (.text "Name") ++ .sign '=' ++ .quotes ++
    .group 1 (.run1 (Pattern.noneOf "'\"")) ++ .quotes

/-- A style that is written into a tag. -/
def inlineStyle : Pattern :=
  .wordEdge ++ .text "style=\x7b\x7b"

/-- The names of classes on a line. -/
def classesOn (line : String) : List String :=
  (classPattern.findAll line).flatMap fun m => (words (m.group 1).toList).map String.ofList

/-- A class that sets one thing, by the way it is named. -/
def utilityClass : Pattern :=
  .maybe (.run1 (fun c => 'a' ≤ c && c ≤ 'z') ++ .sign ':') ++
    .anyOf ["p", "m", "px", "py", "mx", "my", "w", "h", "text", "bg", "flex", "grid", "gap",
      "rounded"] ++
    .sign '-'

/-- How lines are styled. -/
def stylingOf (lines : List String) (offset : Nat) : Styling :=
  let classes := (lines.flatMap classesOn).eraseDups
  let isInline (line : String) : Bool := inlineStyle.occursIn line
  let isStyled (line : String) : Bool := hasPart "styled." line || hasPart "styled(" line
  let type :=
    if lines.any isStyled then "styled-components"
    else if lines.any isInline && classes.isEmpty then "inline"
    else if classes.any fun c => (utilityClass.matchStart? c).isSome then "tailwind"
    else "css"
  let marked := lines.zipIdx.filter fun entry =>
    classPattern.occursIn entry.1 || isInline entry.1 || isStyled entry.1
  ⟨type, classes, marked.map fun entry => offset + entry.2 + 1⟩

/-- The variables that the entries of an object declare. -/
def stateOfEntries (entries : List Entry) (offset : Nat) : List StateVariable :=
  entries.map fun entry =>
    let raw := trim (dropTail (· == ',') entry.raw.toList)
    ⟨entry.key, literalType raw, readLiteral raw, offset + entry.line + 1⟩

/-- A variable by its name and the text of its first value. -/
def StateVariable.ofText (name raw : String) (line : Nat) : StateVariable :=
  ⟨name, literalType raw.toList, readLiteral raw.toList, line⟩

/-- Everything that a pattern finds on lines, with the number of the line. -/
def findOnLines {α : Type} (pattern : Pattern) (lines : List String) (offset : Nat)
    (make : Match → Nat → α) : List α :=
  lines.zipIdx.flatMap fun (line, i) => (pattern.findAll line).map fun m => make m (offset + i + 1)

end Restack.Outline
