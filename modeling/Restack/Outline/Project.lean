import Restack.Outline.Angular
import Restack.Outline.Logic
import Restack.Outline.Packages
import Restack.Outline.Pages
import Restack.Outline.Report
import Restack.Outline.Routing
import Restack.Outline.Styles
import Restack.Source.File

/-!
# The outline of a project

What each file is looked through for follows from its path; files of no known kind are left out.
-/

namespace Restack.Outline

open Restack.Text

/-- What a file may be looked through for. -/
inductive Role where
  | ui | logic | route | data | config | style | page | layout
deriving DecidableEq, Repr

namespace Role

/-- The name of a role. -/
def name : Role → String
  | .ui => "ui"
  | .logic => "logic"
  | .route => "route"
  | .data => "data"
  | .config => "config"
  | .style => "style"
  | .page => "page"
  | .layout => "layout"

/-- All roles. -/
def all : List Role := [.ui, .logic, .route, .data, .config, .style, .page, .layout]

/-- The endings of paths that give a role. -/
def endings : Role → List String
  | .ui => [".jsx", ".tsx", ".vue", ".svelte"]
  | .config => ["package.json", "webpack.config.js", "vite.config.js", "tsconfig.json"]
  | .style => [".css", ".scss", ".sass", ".less"]
  | _ => []

/-- The parts of paths that give a role. -/
def marks : Role → List String
  | .ui => ["/components/", "/pages/", "/views/", "/layouts/"]
  | .logic => ["/services/", "/utils/", "/stores/", "/api/", "/lib/"]
  | .route => ["/routes/", "/router/", "routing"]
  | .data => ["/models/", "/schemas/", "/database/", "/db/"]
  | .page => ["/pages/", "/views/"]
  | .layout => ["/layouts/", "/templates/"]
  | .config | .style => []

/-- Whether a path has a role. -/
def fits (role : Role) (path : String) : Bool :=
  role.endings.any (hasEnd · path) || role.marks.any (hasPart · path)

end Role

/-- The frameworks whose components can be read. -/
inductive Family where
  | react | vue | angular
deriving DecidableEq, Repr

/-- A framework by its name without blanks around it and in small letters. -/
def frameworkName (name : String) : String :=
  lowered (trimmed name)

/-- The framework whose components a name calls for. -/
def Family.ofName? (name : String) : Option Family :=
  match frameworkName name with
  | "react" | "next" | "next.js" | "nextjs" | "react native" => some .react
  | "vue" | "vue.js" | "nuxt" => some .vue
  | "angular" => some .angular
  | _ => none

/-- The components of a file. -/
def Family.components (family : Family) (path : String) (lines : List String) : List Component :=
  match family with
  | .react => React.components path lines
  | .vue => (Vue.component? path lines).toList
  | .angular => Angular.components path lines

namespace Project

/-- The lines of the last file with a path. -/
def linesOf (files : List SourceFile) (path : String) : List String :=
  match files.reverse.find? (·.path == path) with
  | some file => lines file.content
  | none => []

/-- The tool that builds the project. One tool is preferred to the other, and the last file that
describes it counts. -/
def buildOf (paths : List String) : Build :=
  paths.foldl
    (fun build path =>
      if hasEnd "vite.config.js" path then ⟨"vite", path⟩
      else if hasEnd "webpack.config.js" path && build.bundler.isEmpty then ⟨"webpack", path⟩
      else build)
    ⟨"", ""⟩

/-- The remark that no components can be read for a framework. -/
def noFamily (framework : String) : Diagnostic :=
  ⟨"", 0, "No component parser for framework '" ++ frameworkName framework ++ "'", "info"⟩

/-- The outline of a project whose components are those of a framework. -/
def ofFiles (files : List SourceFile) (framework : String) : Project :=
  let within (role : Role) : List SourceFile := files.filter fun file => role.fits file.path
  let ui := within .ui
  let logic := within .logic
  let config := within .config
  let packages :=
    (config.filter fun file => hasEnd "package.json" file.path).map fun file =>
      Dependency.ofContent file.path file.content
  let family? := Family.ofName? framework
  let collect {α : Type} (among : List SourceFile) (read : String → List String → List α) :
      List α :=
    among.flatMap fun file => read file.path (linesOf files file.path)
  { components :=
      match family? with
      | some family => collect ui family.components
      | none => []
    pages := collect (ui.filter fun file => Role.page.fits file.path) fun path lines =>
      [Page.ofLines path lines]
    layouts := collect (ui.filter fun file => Role.layout.fits file.path) fun path lines =>
      [Layout.ofLines path lines]
    styles := (within .style).map fun file => StyleSheet.ofText file.path file.content
    services := collect logic Service.ofLines
    stores := collect logic Store.ofLines
    routes := collect (within .route) Route.ofLines
    models := collect (within .data) Model.ofLines
    environment := collect files EnvironmentUse.ofLines
    build := buildOf (config.map (·.path))
    dependencies := packages.flatMap Prod.fst
    diagnostics :=
      (if family?.isNone && !ui.isEmpty then [noFamily framework] else []) ++
        packages.flatMap Prod.snd }

/-- The outline of a project that records describe. -/
def ofRecords (records : List Value) (framework : String) : Except Fault Project := do
  let files ← records.mapM (SourceFile.ofValue (.noAttribute · "endswith"))
  return ofFiles files framework

end Project

end Restack.Outline
