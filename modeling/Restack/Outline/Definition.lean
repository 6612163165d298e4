import Restack.Document.Basic
import Restack.Outline.Literal

/-!
# What an outline holds

The parts of a project that can be told line by line, each with the lines it stands on. Lines are
counted from one.
-/

namespace Restack.Outline

/-- A property of a component. -/
structure Property where
  name : String
  type : String
  isRequired : Bool
  /-- The value that is taken when none is given. -/
  standard : Option Value
  line : Nat

/-- A variable that a component or a store keeps. -/
structure StateVariable where
  name : String
  type : String
  initial : Value
  line : Nat

/-- A call of a hook, or a function that the framework calls. -/
structure Hook where
  name : String
  kind : String
  dependencies : List String
  line : Nat

/-- What a component does or says when something happens. -/
structure EventHandler where
  name : String
  type : String
  params : List String
  line : Nat
  target : Option String

/-- A component that another one uses. -/
structure Child where
  name : String
  settings : List (String × String)
  line : Nat

/-- How a component is styled. -/
structure Styling where
  type : String
  classes : List String
  lines : List Nat

/-- What is taken from a module. -/
structure Import where
  source : String
  names : List String
  isDefault : Bool
  line : Int

/-- What a file gives out. -/
structure Export where
  name : String
  kind : String
  line : Int

/-- A component. -/
structure Component where
  name : String
  file : String
  first : Nat
  last : Nat
  kind : String
  props : List Property
  state : List StateVariable
  hooks : List Hook
  imports : List Import
  «exports» : List Export
  events : List EventHandler
  children : List Child
  styling : Styling
  dependencies : List String

/-- A function of a service. -/
structure Method where
  name : String
  params : List Parameter
  returnType : String
  first : Nat
  last : Nat
  isAsync : Bool
  visibility : String

/-- A service. -/
structure Service where
  name : String
  file : String
  first : Nat
  last : Nat
  methods : List Method
  dependencies : List String
  «exports» : List Export

/-- What can be done to a store. -/
structure Action where
  name : String
  kind : String
  line : Nat

/-- A store of state. -/
structure Store where
  name : String
  file : String
  last : Nat
  kind : String
  state : List StateVariable
  actions : List Action

/-- A part of a route that is filled in. -/
structure RouteParam where
  name : String
  isRequired : Bool

/-- A route. -/
structure Route where
  path : String
  file : String
  line : Nat
  component : String
  method : String
  params : List RouteParam

/-- A field of a model. -/
structure Field where
  name : String
  type : String
  isNullable : Bool
  isUnique : Bool
  isIndexed : Bool
  line : Nat

/-- A model of data. -/
structure Model where
  name : String
  file : String
  first : Nat
  last : Nat
  fields : List Field

/-- A page. -/
structure Page where
  name : String
  file : String
  route : String
  last : Nat
  children : List Child

/-- A place in a layout that is filled. -/
structure Slot where
  name : String
  line : Nat

/-- A layout. -/
structure Layout where
  name : String
  file : String
  last : Nat
  children : List Child
  slots : List Slot

/-- A rule of a style sheet. -/
structure StyleRule where
  selector : String
  properties : List (String × String)
  line : Nat

/-- A variable of a style sheet. -/
structure StyleVariable where
  name : String
  value : String
  line : Nat

/-- A style sheet. -/
structure StyleSheet where
  file : String
  kind : String
  rules : List StyleRule
  settings : List StyleVariable

/-- A use of a variable of the environment. -/
structure EnvironmentUse where
  name : String
  file : String
  line : Nat

/-- A package that a project depends on. -/
structure Dependency where
  name : Document.Str
  version : Document.Str
  kind : String
  isRequired : Bool
deriving DecidableEq

/-- A remark about a file. -/
structure Diagnostic where
  file : String
  line : Nat
  message : String
  severity : String
deriving DecidableEq, Repr

/-- The tool that builds a project, and the file that describes the build. -/
structure Build where
  bundler : String
  file : String
deriving DecidableEq, Repr

/-- The outline of a project. -/
structure Project where
  components : List Component
  pages : List Page
  layouts : List Layout
  styles : List StyleSheet
  services : List Service
  stores : List Store
  routes : List Route
  models : List Model
  environment : List EnvironmentUse
  build : Build
  dependencies : List Dependency
  diagnostics : List Diagnostic

/-- The outline of nothing. -/
def Project.empty : Project := ⟨[], [], [], [], [], [], [], [], [], ⟨"", ""⟩, [], []⟩

end Restack.Outline
