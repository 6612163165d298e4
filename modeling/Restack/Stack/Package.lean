import Restack.Stack.Skeleton
import Restack.Target.ProjectFiles

/-!
# The frontend of a stack and its package

What a stack says about its user interface decides the form of the components, the files of the
build and the description of the package.
-/

namespace Restack.Stack

open Restack.Text

/-- What a part of a stack says about itself, in small letters; empty texts where it says
nothing. -/
structure Frontend where
  name : String
  language : String
deriving DecidableEq, Repr

namespace Frontend

/-- A text of a record in small letters. -/
def smallText (key : String) (info : Value) : Except Fault String := do
  match ← info.getTruthy? key with
  | none => return ""
  | some value => return lowered (← value.textFor "lower")

/-- What a record says. -/
def ofInfo (info : Value) : Except Fault Frontend := do
  return ⟨← smallText "name" info, ← smallText "language" info⟩

/-- What a stack says about its user interface. -/
def ofStack (stack : Value) : Except Fault Frontend := do
  match ← stack.getTruthy? "frontend" with
  | none => return ⟨"", ""⟩
  | some info => ofInfo info

/-- Whether the code is TypeScript or JavaScript. -/
def isScript (frontend : Frontend) : Bool :=
  ["javascript", "typescript"].contains frontend.language

end Frontend

/-- The forms that a component can be given. -/
inductive Form where
  | flutter | android | vue | angular
  | react (typed : Bool)
deriving DecidableEq, Repr

/-- The form that components have in a frontend. The language decides where the name does not. -/
def Form.ofFrontend? (frontend : Frontend) : Option Form :=
  if frontend.language == "dart" && frontend.name == "flutter" then some .flutter
  else if frontend.language == "kotlin" && frontend.name == "android" then some .android
  else if frontend.name == "vue" then some .vue
  else if frontend.name == "angular" then some .angular
  else if frontend.isScript then some (.react (frontend.language == "typescript"))
  else none

/-- The file that a component becomes. -/
def Form.convert : Form → Value → Except Fault ConvertedFile
  | .flutter => Flutter.convert
  | .android => Android.convert
  | .vue => Vue.convert
  | .angular => Angular.convert
  | .react typed => React.convert typed

/-- The file that a component becomes in the stack that a record describes, if it has a form
there. -/
def convertComponent (target component : Value) : Except Fault (Option ConvertedFile) := do
  match Form.ofFrontend? (← Frontend.ofInfo target) with
  | some form => some <$> form.convert component
  | none => return none

/-- The file that one of several components becomes; one without a form must still have a name. -/
def convertNamed (target component : Value) : Except Fault (Option ConvertedFile) := do
  match ← convertComponent target component with
  | some file => return some file
  | none => do
    let _ ← nameOf component
    return none

/-- The files that components become. -/
def convertComponents (target : Value) (components : List Value) :
    Except Fault (List ConvertedFile) := do
  let files ← components.mapM (convertNamed target)
  return files.filterMap id

/-- The files that the build of a stack needs. -/
def configFiles (frontend : Frontend) : List ConvertedFile :=
  match frontend.name with
  | "flutter" => [.ofContent "" "pubspec.yaml" Target.pubspec "config" "yaml"]
  | "android" => [.ofContent "" "build.gradle.kts" (Target.gradleBuild ++ "\n") "config" "kotlin"]
  | _ => []

/-- The packages that a frontend needs to run. -/
def dependencies (frontend : Frontend) : List (String × String) :=
  match frontend.name with
  | "react" => [("react", "^18.0.0"), ("react-dom", "^18.0.0")]
  | "vue" => [("vue", "^3.0.0")]
  | "angular" => [("@angular/core", "^17.0.0"), ("@angular/common", "^17.0.0")]
  | _ => []

/-- The packages that a frontend needs to be built. -/
def devDependencies (frontend : Frontend) : List (String × String) :=
  match frontend.language with
  | "typescript" => [("typescript", "^5.0.0"), ("@types/react", "^18.0.0")]
  | _ => []

/-- The commands of a package. -/
def scripts (frontend : Frontend) : List (String × String) :=
  match frontend.name with
  | "react" =>
    [("start", "npm run dev"), ("build", "vite build"), ("test", "npm run test"), ("dev", "vite")]
  | _ => [("start", "npm run dev"), ("build", "npm run build"), ("test", "npm run test")]

/-- The description of the package, if the code is TypeScript or JavaScript. -/
def packageFile? (frontend : Frontend) : Option ConvertedFile :=
  if frontend.isScript then
    let description : Value :=
      .object
        [("name", .str "converted-app"),
          ("version", .str "1.0.0"),
          ("dependencies", Target.textFields (dependencies frontend)),
          ("devDependencies", Target.textFields (devDependencies frontend)),
          ("scripts", Target.textFields (scripts frontend))]
    some
      (.ofContent "package.json" "package.json" (Value.write .pretty description) "config" "json")
  else none

end Restack.Stack
