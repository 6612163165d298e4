import Restack.Outline.Element
import Restack.Outline.Vue

/-!
# Pages, layouts and the environment

A page and a layout are whole files; what they are called follows from their paths.
-/

namespace Restack.Outline

open Restack.Text

/-- The ending of a file that shows a page. -/
def pageEnding : Pattern :=
  .sign '.' ++ .anyOf ["jsx", "js", "tsx", "ts", "vue"] ++ .finish

/-- A path without the ending of a file that shows a page. -/
def withoutPageEnding (s : String) : String :=
  match pageEnding.search? s with
  | some m => String.ofList (s.toList.take m.start ++ s.toList.drop m.finish)
  | none => s

/-- The route to a page: its path below the folder `pages`. -/
def routeOf (path : String) : String :=
  match (splitOnChar '/' path.toList).dropWhile (· != "pages".toList) with
  | [] => "/"
  | _ :: below => "/" ++ withoutPageEnding (String.ofList (joinWith ['/'] below))

/-- The page that a file shows. -/
def Page.ofLines (file : String) (lines : List String) : Page :=
  let name := fileStem file
  ⟨name, file, routeOf file, lines.length, childrenOf lines 0 (pascalCased name)⟩

/-- A slot and its name. -/
def slotPattern : Pattern :=
  .text "<slot" ++
    .maybe
      (.blanks1 ++ .text "name=" ++ .quotes ++
        .group 1 (.run1 fun c => isWordChar c || c == '-') ++ .quotes)

/-- The slots on a line. -/
def slotsOn (line : String) (number : Nat) : List Slot :=
  (if hasPart "\x7bchildren\x7d" line || hasPart "<Outlet" line then [⟨"default", number⟩]
    else []) ++
    (slotPattern.findAll line).map fun m => ⟨(m.group? 1).getD "default", number⟩

/-- The layout that a file gives. -/
def Layout.ofLines (file : String) (lines : List String) : Layout :=
  let name := fileStem file
  { name := name
    file := file
    last := lines.length
    children := childrenOf lines 0 (pascalCased name)
    slots := lines.zipIdx.flatMap fun (line, i) => slotsOn line (i + 1) }

/-- A use of a variable of the environment. -/
def environmentPattern : Pattern :=
  .wordEdge ++ .anyOf ["process.env", "import.meta.env"] ++ .sign '.' ++ .group 1 .word

/-- The variables of the environment that a file uses. -/
def EnvironmentUse.ofLines (file : String) (lines : List String) : List EnvironmentUse :=
  findOnLines environmentPattern lines 0 fun m line => ⟨m.group 1, file, line⟩

end Restack.Outline
