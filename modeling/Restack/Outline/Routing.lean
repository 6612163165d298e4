import Restack.Outline.Block
import Restack.Outline.Definition
import Restack.Text.Case

/-!
# Routes and models by line

The routes that a line declares, on a page or on a server, and the models of data with their fields.
-/

namespace Restack.Outline

open Restack.Text

namespace Route

/-- The path of a route on a page as the first group. -/
def routeStart : Pattern :=
  .text "<Route" ++ .blanks1 ++ .text "path=" ++ .quotes ++
    .group 1 (.run1 (Pattern.noneOf "'\"")) ++ .quotes ++ .blanks1

/-- A route to a component by its name. -/
def toComponent : Pattern :=
  routeStart ++ .text "component=\x7b" ++ .group 2 (.run1 (· != '\x7d')) ++ .sign '\x7d'

/-- A route to an element. -/
def toElement : Pattern :=
  routeStart ++ .text "element=\x7b" ++ .blanks ++ .sign '<' ++ .blanks ++
    .group 2 (.capital ++ .run isWordChar)

/-- A route of a server: its method is the first group, and its path the second. -/
def onServer : Pattern :=
  .wordEdge ++ .anyOf ["app", "router"] ++ .sign '.' ++
    .group 1 (.anyOf ["get", "post", "put", "delete", "patch"]) ++ .sign '(' ++ .blanks ++
    .oneOf "'\"\x60" ++ .group 2 (.run1 (Pattern.noneOf "'\"\x60")) ++ .oneOf "'\"\x60"

/-- A part of a path that is filled in. -/
def paramPattern : Pattern :=
  .sign ':' ++ .group 1 .word ++ .maybe (.group 2 (.sign '?'))

/-- The parts of a path that are filled in. -/
def paramsOf (path : String) : List RouteParam :=
  (paramPattern.findAll path).map fun m => ⟨m.group 1, (m.group? 2).isNone⟩

/-- The path, the component and the method of the route on a line. -/
def found? (line : String) : Option (String × String × String) :=
  match (toComponent.search? line).or (toElement.search? line) with
  | some m => some (m.group 1, trimmed (m.group 2), "GET")
  | none => (onServer.search? line).map fun m => (m.group 2, "", uppered (m.group 1))

/-- The routes of a file. -/
def ofLines (file : String) (lines : List String) : List Route :=
  lines.zipIdx.filterMap fun (line, i) =>
    (found? (trimmed line)).map fun (path, component, method) =>
      ⟨path, file, i + 1, component, method, paramsOf path⟩

end Route

namespace Model

/-- The declaration of a model. -/
def modelPattern : Pattern :=
  .text "const" ++ .blanks1 ++ .group 1 .capitalized ++ .blanks ++ .sign '=' ++ .blanks ++
    .anyOf ["mongoose.model", "sequelize.define"]

/-- A field: its name is the first group, and its type the second. -/
def fieldPattern : Pattern :=
  .blanks ++ .group 1 .word ++ .blanks ++ .sign ':' ++ .blanks ++
    .maybe (.sign '\x7b' ++ .blanks ++ .text "type" ++ .blanks ++ .sign ':' ++ .blanks) ++
    .group 2 (.run1 fun c => isWordChar c || c == '.')

/-- The last part of a name with points in it. -/
def lastPart (name : String) : String :=
  String.ofList (((splitOnChar '.' name.toList).getLast?).getD [])

/-- The field on a line. -/
def fieldOn? (line : String) (number : Nat) : Option Field :=
  (fieldPattern.matchStart? line).map fun m =>
    { name := m.group 1
      type := lastPart (m.group 2)
      isNullable := !hasPart "required: true" line && !hasPart "allowNull: false" line
      isUnique := hasPart "unique: true" line
      isIndexed := hasPart "index: true" line
      line := number }

/-- The model that is declared on a line. -/
def ofLine? (file : String) (lines : List String) (line : String) (i : Nat) : Option Model :=
  (modelPattern.search? (trimmed line)).map fun m =>
    let last := statementEnd lines i
    { name := m.group 1
      file := file
      first := i + 1
      last := last + 1
      fields := (slice lines (i + 1) (last + 1)).zipIdx.filterMap fun (line, k) =>
        fieldOn? line (i + 1 + k + 1) }

/-- The models of a file. -/
def ofLines (file : String) (lines : List String) : List Model :=
  lines.zipIdx.filterMap fun (line, i) => ofLine? file lines line i

end Model

end Restack.Outline
