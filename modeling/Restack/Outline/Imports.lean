import Restack.Outline.Block
import Restack.Outline.Definition

/-!
# Imports and exports by line

What the lines of a file take from modules, and what they give out.
-/

namespace Restack.Outline

open Restack.Text

/-- Names in braces, the names being group `n`. -/
def bracedNames (n : Nat) : Pattern :=
  .sign '\x7b' ++ .group n (.run1 (· != '\x7d')) ++ .sign '\x7d'

/-- An import: names in braces are the first group, or a single name is the second; more names in
braces are the third, and the module is the fourth. -/
def importPattern : Pattern :=
  let name : Pattern := .run1 fun c => c != ',' && c != '\x7b' && !isBlank c
  .text "import" ++ .blanks1 ++ (bracedNames 1 <|> .group 2 name) ++
    .maybe (.blanks ++ .sign ',' ++ .blanks ++ bracedNames 3) ++ .blanks1 ++ .text "from" ++
    .blanks1 ++ .quotes ++ .group 4 (.run1 (Pattern.noneOf "'\"")) ++ .quotes

/-- The items of a list with commas, without blanks at their ends and without the empty ones. -/
def listItems (s : String) : List String :=
  ((splitOnChar ',' s.toList).map fun item => String.ofList (trim item)).filter (!·.isEmpty)

/-- The imports that one line makes. -/
def importsOn (line : String) (number : Int) : List Import :=
  match importPattern.search? line with
  | none => []
  | some m =>
    let source := m.group 4
    let whole := m.group 2
    let names := ([m.group 1, m.group 3].filter (!·.isEmpty)).flatMap listItems
    (if whole.isEmpty then [] else [⟨source, [trimmed whole], true, number⟩]) ++
      (if names.isEmpty then [] else [⟨source, names, false, number⟩])

/-- The imports of lines of which `offset` stand before. -/
def importsOf (lines : List String) (offset : Int) : List Import :=
  lines.zipIdx.flatMap fun (line, i) => importsOn line (offset + i + 1)

/-- What a file gives out as a whole. -/
def defaultExport : Pattern :=
  .text "export" ++ .blanks1 ++ .text "default" ++ .blanks1 ++ .group 1 (.run1 (· != ';'))

/-- A name that a file gives out. -/
def namedExport : Pattern :=
  .text "export" ++ .blanks1 ++ .anyOf ["const", "let", "var", "function", "class"] ++ .blanks1 ++
    .group 1 (.run1 fun c => !isBlank c && Pattern.noneOf "=(<:" c)

/-- What one line gives out. -/
def exportsOn (line : String) (number : Int) : List Export :=
  if hasPart "export default" line then
    (defaultExport.search? line).toList.map fun m => ⟨trimmed (m.group 1), "default", number⟩
  else if hasPart "export" line then
    (namedExport.search? line).toList.map fun m => ⟨trimmed (m.group 1), "named", number⟩
  else []

/-- What lines of which `offset` stand before give out. -/
def exportsOf (lines : List String) (offset : Int) : List Export :=
  lines.zipIdx.flatMap fun (line, i) => exportsOn line (offset + i + 1)

end Restack.Outline
