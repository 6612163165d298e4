import Restack.Target.Compose
import Restack.Target.Flutter
import Restack.Target.ProjectFiles
import Restack.Target.React

/-!
# Platforms

The platforms that code is generated for, and how each of them writes a node, a test and a project.
-/

namespace Restack.Target

/-- A platform that code is generated for. -/
inductive Platform where
  | flutter | compose | react
deriving DecidableEq, Repr

namespace Platform

/-- The platform that a name in any case stands for. -/
def ofName? (name : String) : Option Platform :=
  match Text.lowered name with
  | "flutter" | "dart" => some .flutter
  | "kotlin" => some .compose
  | "typescript" => some .react
  | _ => none

/-- The file that a node becomes. -/
def emit : Platform → Value → Value → Except Fault File
  | .flutter => Flutter.emit
  | .compose => Compose.emit
  | .react => React.emit

/-- The test of a component. -/
def test : Platform → Value → Except Fault File
  | .flutter => Flutter.test
  | .compose => Compose.test
  | .react => React.test

/-- The files that the build of a project needs. -/
def configFiles (platform : Platform) (options : Value) : Except Fault (List File) :=
  match platform with
  | .flutter => .ok [⟨"pubspec.yaml", pubspec, "yaml"⟩, ⟨"lib/main.dart", flutterMain, "dart"⟩]
  | .compose =>
    .ok
      [⟨"build.gradle.kts", gradleBuild, "kotlin"⟩,
        ⟨"app/src/main/java/com/example/app/MainActivity.kt", mainActivity, "kotlin"⟩]
  | .react => do
    let withTests := (← options.get "generateTests").truthy
    return [⟨"package.json", reactPackage withTests, "json"⟩,
      ⟨"src/index.tsx", reactIndex, "typescript"⟩]

end Platform

/-- The files that the build of a project for a target needs: none where the target is not known. -/
def configFiles (target : String) (options : Value) : Except Fault (List File) :=
  match Platform.ofName? target with
  | some platform => platform.configFiles options
  | none => .ok []

end Restack.Target
