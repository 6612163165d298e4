import Restack.Outline.Definition

/-!
# Outlines as they are reported

Each part of an outline as a record. Some fields of a record are always the same: they are kept for
parts that are not looked for.
-/

namespace Restack.Outline

/-- Texts by name. -/
def textFields (fields : List (String × String)) : Value :=
  .object (fields.map fun entry => (entry.1, .str entry.2))

/-- A field that is left out where there is no value. -/
def optionalField (name : String) : Option Value → List (String × Value)
  | some value => [(name, value)]
  | none => []

/-- A property as it is reported. -/
def Property.toValue (p : Property) : Value :=
  .object <|
    [("name", .str p.name),
      ("type", .str p.type),
      ("required", .bool p.isRequired),
      ("lineNumber", .ofNat p.line)] ++
      optionalField "defaultValue" p.standard

/-- A variable as it is reported. -/
def StateVariable.toValue (v : StateVariable) : Value :=
  .object
    [("name", .str v.name),
      ("type", .str v.type),
      ("initialValue", v.initial),
      ("lineNumber", .ofNat v.line),
      ("scope", .str "local")]

/-- A hook as it is reported. -/
def Hook.toValue (h : Hook) : Value :=
  .object
    [("name", .str h.name),
      ("type", .str h.kind),
      ("params", .list []),
      ("lineNumber", .ofNat h.line),
      ("dependencies", .ofStrings h.dependencies)]

/-- A handler as it is reported. -/
def EventHandler.toValue (e : EventHandler) : Value :=
  .object <|
    [("name", .str e.name),
      ("type", .str e.type),
      ("params", .ofStrings e.params),
      ("lineNumber", .ofNat e.line)] ++
      optionalField "target" (e.target.map .str)

/-- A used component as it is reported. -/
def Child.toValue (c : Child) : Value :=
  .object
    [("name", .str c.name),
      ("props", textFields c.settings),
      ("lineNumber", .ofNat c.line)]

/-- A styling as it is reported. -/
def Styling.toValue (s : Styling) : Value :=
  .object
    [("type", .str s.type),
      ("classes", .ofStrings s.classes),
      ("styles", .object []),
      ("lineNumbers", .list (s.lines.map .ofNat))]

/-- An import as it is reported. -/
def Import.toValue (i : Import) : Value :=
  .object
    [("module", .str i.source),
      ("imports", .ofStrings i.names),
      ("isDefault", .bool i.isDefault),
      ("lineNumber", .int i.line)]

/-- An export as it is reported. -/
def Export.toValue (e : Export) : Value :=
  .object
    [("name", .str e.name),
      ("type", .str e.kind),
      ("lineNumber", .int e.line)]

/-- A component as it is reported. -/
def Component.toValue (c : Component) : Value :=
  .object
    [("id", .str (c.file ++ ":" ++ c.name)),
      ("name", .str c.name),
      ("filePath", .str c.file),
      ("lineStart", .ofNat c.first),
      ("lineEnd", .ofNat c.last),
      ("type", .str c.kind),
      ("props", .list (c.props.map Property.toValue)),
      ("state", .list (c.state.map StateVariable.toValue)),
      ("hooks", .list (c.hooks.map Hook.toValue)),
      ("imports", .list (c.imports.map Import.toValue)),
      ("exports", .list (c.exports.map Export.toValue)),
      ("events", .list (c.events.map EventHandler.toValue)),
      ("children", .list (c.children.map Child.toValue)),
      ("styling", c.styling.toValue),
      ("dependencies", .ofStrings c.dependencies)]

/-- A method as it is reported. -/
def Method.toValue (m : Method) : Value :=
  .object
    [("name", .str m.name),
      ("params", .list (m.params.map Parameter.toValue)),
      ("returnType", .str m.returnType),
      ("lineStart", .ofNat m.first),
      ("lineEnd", .ofNat m.last),
      ("isAsync", .bool m.isAsync),
      ("visibility", .str m.visibility)]

/-- A service as it is reported. -/
def Service.toValue (s : Service) : Value :=
  .object
    [("id", .str (s.file ++ ":" ++ s.name)),
      ("name", .str s.name),
      ("filePath", .str s.file),
      ("lineStart", .ofNat s.first),
      ("lineEnd", .ofNat s.last),
      ("type", .str "api"),
      ("methods", .list (s.methods.map Method.toValue)),
      ("dependencies", .ofStrings s.dependencies),
      ("exports", .list (s.exports.map Export.toValue))]

/-- An action as it is reported. -/
def Action.toValue (a : Action) : Value :=
  .object
    [("name", .str a.name),
      ("type", .str a.kind),
      ("params", .list []),
      ("lineNumber", .ofNat a.line)]

/-- A store as it is reported. -/
def Store.toValue (s : Store) : Value :=
  .object
    [("id", .str (s.file ++ ":" ++ s.name)),
      ("name", .str s.name),
      ("filePath", .str s.file),
      ("lineStart", .ofNat 1),
      ("lineEnd", .ofNat s.last),
      ("type", .str s.kind),
      ("state", .list (s.state.map StateVariable.toValue)),
      ("actions", .list (s.actions.map Action.toValue)),
      ("selectors", .list []),
      ("middleware", .list [])]

/-- A part of a route as it is reported. -/
def RouteParam.toValue (p : RouteParam) : Value :=
  .object
    [("name", .str p.name),
      ("type", .str "string"),
      ("required", .bool p.isRequired)]

/-- A route as it is reported. Its identity counts lines from zero. -/
def Route.toValue (r : Route) : Value :=
  .object
    [("id", .str (r.file ++ ":" ++ toString (r.line - 1))),
      ("path", .str r.path),
      ("filePath", .str r.file),
      ("lineStart", .ofNat r.line),
      ("lineEnd", .ofNat r.line),
      ("component", .str r.component),
      ("method", .str r.method),
      ("guards", .list []),
      ("middleware", .list []),
      ("params", .list (r.params.map RouteParam.toValue)),
      ("query", .list []),
      ("meta", .object [])]

/-- A field as it is reported. -/
def Field.toValue (f : Field) : Value :=
  .object
    [("name", .str f.name),
      ("type", .str f.type),
      ("nullable", .bool f.isNullable),
      ("unique", .bool f.isUnique),
      ("index", .bool f.isIndexed),
      ("lineNumber", .ofNat f.line)]

/-- A model as it is reported. -/
def Model.toValue (m : Model) : Value :=
  .object
    [("id", .str (m.file ++ ":" ++ m.name)),
      ("name", .str m.name),
      ("filePath", .str m.file),
      ("lineStart", .ofNat m.first),
      ("lineEnd", .ofNat m.last),
      ("fields", .list (m.fields.map Field.toValue)),
      ("relations", .list []),
      ("indexes", .list []),
      ("validations", .list [])]

/-- A page as it is reported. -/
def Page.toValue (p : Page) : Value :=
  .object
    [("id", .str (p.file ++ ":page")),
      ("name", .str p.name),
      ("filePath", .str p.file),
      ("route", .str p.route),
      ("lineStart", .ofNat 1),
      ("lineEnd", .ofNat p.last),
      ("components", .list (p.children.map Child.toValue)),
      ("layout", .null),
      ("meta", .object [("title", .str p.name)]),
      ("auth", .object [("required", .bool false)])]

/-- A slot as it is reported. -/
def Slot.toValue (s : Slot) : Value :=
  .object
    [("name", .str s.name),
      ("lineNumber", .ofNat s.line)]

/-- A layout as it is reported. -/
def Layout.toValue (l : Layout) : Value :=
  .object
    [("id", .str (l.file ++ ":layout")),
      ("name", .str l.name),
      ("filePath", .str l.file),
      ("lineStart", .ofNat 1),
      ("lineEnd", .ofNat l.last),
      ("components", .list (l.children.map Child.toValue)),
      ("slots", .list (l.slots.map Slot.toValue))]

/-- A rule as it is reported. -/
def StyleRule.toValue (r : StyleRule) : Value :=
  .object
    [("selector", .str r.selector),
      ("properties", textFields r.properties),
      ("lineNumber", .ofNat r.line)]

/-- A variable of a style sheet as it is reported. -/
def StyleVariable.toValue (v : StyleVariable) : Value :=
  .object
    [("name", .str v.name),
      ("value", .str v.value),
      ("lineNumber", .ofNat v.line)]

/-- A style sheet as it is reported. -/
def StyleSheet.toValue (s : StyleSheet) : Value :=
  .object
    [("id", .str (s.file ++ ":styles")),
      ("filePath", .str s.file),
      ("type", .str s.kind),
      ("selectors", .list (s.rules.map StyleRule.toValue)),
      ("variables", .list (s.settings.map StyleVariable.toValue)),
      ("themes", .list [])]

/-- A use of a variable of the environment as it is reported. -/
def EnvironmentUse.toValue (u : EnvironmentUse) : Value :=
  .object
    [("name", .str u.name),
      ("filePath", .str u.file),
      ("lineNumber", .ofNat u.line)]

/-- A package as it is reported. -/
def Dependency.toValue (d : Dependency) : Value :=
  .object
    [("name", .str d.name.printed),
      ("version", .str d.version.printed),
      ("type", .str d.kind),
      ("required", .bool d.isRequired)]

/-- A remark as it is reported. -/
def Diagnostic.toValue (d : Diagnostic) : Value :=
  .object
    [("file", .str d.file),
      ("line", .ofNat d.line),
      ("message", .str d.message),
      ("severity", .str d.severity)]

/-- A build as it is reported. -/
def Build.toValue (b : Build) : Value :=
  .object
    [("bundler", .str b.bundler),
      ("entry", .list []),
      ("output", .str ""),
      ("plugins", .list []),
      ("filePath", .str b.file)]

/-- The outline of a project as it is reported. -/
def Project.toValue (p : Project) : Value :=
  .object
    [("ui",
        .object
          [("components", .list (p.components.map Component.toValue)),
            ("pages", .list (p.pages.map Page.toValue)),
            ("layouts", .list (p.layouts.map Layout.toValue)),
            ("styles", .list (p.styles.map StyleSheet.toValue))]),
      ("logic",
        .object
          [("services", .list (p.services.map Service.toValue)), ("utilities", .list []),
            ("stores", .list (p.stores.map Store.toValue)), ("middleware", .list []),
            ("validators", .list []), ("constants", .list [])]),
      ("routes",
        .object
          [("routes", .list (p.routes.map Route.toValue)), ("guards", .list []),
            ("middleware", .list []),
            ("navigation", .object [("type", .str "history"), ("config", .object [])])]),
      ("data",
        .object
          [("models", .list (p.models.map Model.toValue)), ("schemas", .list []),
            ("migrations", .list []), ("seeders", .list []), ("queries", .list [])]),
      ("config",
        .object
          [("environment", .list (p.environment.map EnvironmentUse.toValue)),
            ("build", p.build.toValue),
            ("deployment",
              .object [("platform", .str ""), ("config", .object []), ("filePath", .str "")]),
            ("dependencies", .list (p.dependencies.map Dependency.toValue))]),
      ("diagnostics", .list (p.diagnostics.map Diagnostic.toValue))]

end Restack.Outline
