import Restack.Value.Access

/-!
# Known frameworks

The frameworks that a session tells about. They are records, kept in the order in which their names
were first used.
-/

namespace Restack.Jobs

/-- The record of a framework that can be converted in one direction at least. -/
def framework (id name category description icon : String) (features : List String)
    (maturity difficulty : String) (bothWays : Bool) : Value :=
  .object
    [("id", .str id), ("name", .str name), ("category", .str category),
      ("description", .str description), ("icon", .str icon), ("frameworks", .ofStrings features),
      ("maturity", .str maturity), ("difficulty", .str difficulty),
      ("bidirectionalSupport", .bool bothWays)]

/-- The frameworks that are known from the start. -/
def standardFrameworks : List Value :=
  [framework "react" "React" "Frontend Web Development"
      "Component-based UI library for building interactive interfaces" "fab fa-react"
      ["JSX", "Hooks", "Virtual DOM"] "High" "Medium" true,
    framework "typescript" "TypeScript" "Frontend Web Development"
      "Statically typed superset of JavaScript for better development" "fab fa-js-square"
      ["Types", "Interfaces", "IntelliSense"] "High" "Medium" true,
    framework "nodejs" "Node.js" "Backend/API Development"
      "JavaScript runtime for server-side development and APIs" "fab fa-node-js"
      ["Express", "NPM", "Async"] "High" "Medium" true,
    framework "python" "Python" "Backend/API Development"
      "High-level programming language for web APIs and data processing" "fab fa-python"
      ["FastAPI", "Django", "Flask"] "High" "Low" true,
    framework "flutter" "Flutter" "Mobile Development"
      "Cross-platform mobile development with Dart language" "fas fa-mobile-alt"
      ["Dart", "Widgets", "Hot Reload"] "Medium" "Medium" true,
    framework "kotlin" "Kotlin" "Mobile Development" "Android UI with Jetpack Compose"
      "fab fa-android" ["Compose", "Coroutines", "Gradle"] "Medium" "Medium" false,
    framework "go" "Go" "Systems Programming"
      "Fast, compiled language for microservices and system programming" "fas fa-code"
      ["Goroutines", "Gin", "Fast"] "High" "Medium" true]

/-- Frameworks by what their records are kept under. -/
abbrev Catalogue := List (Value × Value)

namespace Catalogue

/-- What a record is kept under. -/
def keyOf (record : Value) : Except Fault Value := do
  let key ← record.field "id"
  let _ ← key.asKey
  return key

/-- Puts a record under a key: a new one goes to the end, an old one keeps its place. -/
def put (key record : Value) : Catalogue → Catalogue
  | [] => [(key, record)]
  | (k, r) :: rest => if k == key then (k, record) :: rest else (k, r) :: put key record rest

/-- Adds a framework. -/
def add (catalogue : Catalogue) (record : Value) : Except Fault Catalogue := do
  return catalogue.put (← keyOf record) record

/-- The catalogue of some frameworks. -/
def ofList (records : List Value) : Except Fault Catalogue :=
  records.foldlM add []

/-- The records. -/
def records (catalogue : Catalogue) : List Value := catalogue.map (·.2)

/-- The records of a category. -/
def inCategory (catalogue : Catalogue) (category : Value) : Except Fault (List Value) := do
  let marked ← catalogue.records.mapM fun record => do
    return (record, (← record.field "category") == category)
  return (marked.filter (·.2)).map (·.1)

end Catalogue

end Restack.Jobs
