import Restack.Outline.Report
import Restack.Proofs.Conversion.SourceFiles
import Restack.Proofs.Text.Stretches
import Restack.Stack.Package

/-!
# Skeletons of components

Every component of an outline becomes a file in every form. The path of the file is made from the
name of the component alone, and the file holds a declaration of each variable with the value that
it begins with.
-/

namespace Restack.Stack

open Restack.Text

namespace Form

/-- What is left of the name of a component in the path of its file. -/
def stem : Form → String → String
  | .flutter, name => lowered name
  | .angular, name => kebabCased name
  | .android, name | .vue, name | .react _, name => name

/-- The path of the file with such a stem. -/
def path : Form → String → String
  | .flutter, stem => "lib/widgets/" ++ stem ++ ".dart"
  | .android, stem => "app/src/main/java/com/example/app/ui/components/" ++ stem ++ ".kt"
  | .vue, stem => "src/components/" ++ stem ++ ".vue"
  | .angular, stem => "src/app/components/" ++ stem ++ "/" ++ stem ++ ".component.ts"
  | .react typed, stem => "src/components/" ++ stem ++ "." ++ if typed then "tsx" else "jsx"

/-- The file that a component becomes. -/
structure Makes (form : Form) (component : Outline.Component) (file : ConvertedFile) : Prop where
  source : file.source = component.file
  path : file.path = form.path (form.stem component.name)
  lines : 0 < file.lines

/-- A value that a variable begins with in a form. -/
def initial : Form → Value → String
  | .flutter => dartInitial
  | .android => kotlinInitial
  | .angular | .react _ => scriptInitial
  | .vue => Value.write .line

/-- The declaration of a variable in a form. -/
def declaration : Form → Value → Except Fault String
  | .flutter => Flutter.declaration
  | .android => Android.declaration
  | .vue => Vue.declaration
  | .angular => Angular.declaration
  | .react typed => React.declaration typed

/-- A variable is declared with the value that it begins with. -/
theorem declaration_toValue (form : Form) (v : Outline.StateVariable) :
    ∃ before after,
      form.declaration v.toValue = .ok (before ++ form.initial v.initial ++ after) := by
  cases form with
  | react typed => cases typed <;> exact ⟨_, _, rfl⟩
  | _ => exact ⟨_, _, rfl⟩

/-- All variables of a component are declared. -/
theorem mapM_declaration_isOk (form : Form) (component : Outline.Component) :
    ∃ declarations, (component.state.map Outline.StateVariable.toValue).mapM form.declaration =
      .ok declarations := by
  refine mapM_isOk_iff.mpr fun value hvalue => ?_
  obtain ⟨v, -, rfl⟩ := List.mem_map.mp hvalue
  obtain ⟨before, after, hdeclared⟩ := form.declaration_toValue v
  exact ⟨_, hdeclared⟩

/-- A component becomes a file, which comes from its own file and holds the declarations of its
variables. -/
theorem convert_declares (form : Form) {component : Outline.Component} {declarations : List String}
    (h : (component.state.map Outline.StateVariable.toValue).mapM form.declaration =
      .ok declarations) :
    ∃ file, form.convert component.toValue = .ok file ∧ form.Makes component file ∧
      (joined "" declarations).toList <:+: file.content.toList := by
  have hname : nameOf component.toValue = .ok (.str component.name) := rfl
  have hstate : stateOf component.toValue =
      .ok (component.state.map Outline.StateVariable.toValue) := Value.elementsOf_list rfl
  have hfile : fileOf component.toValue = .ok component.file := rfl
  cases form with
  | flutter =>
    refine bind_isOk_and_of_eq hname (bind_isOk_and_of_eq hstate (bind_isOk_and_of_eq h ?_))
    refine bind_isOk_and_of_eq hfile (bind_isOk_and_of_eq hname (bind_isOk_and_of_eq rfl ?_))
    refine ⟨_, rfl, ⟨rfl, rfl, Nat.succ_pos _⟩, isInfix_append_right _ ?_⟩
    split
    · rename_i hnone
      rw [List.isEmpty_iff.mp hnone]
      exact List.nil_infix
    · exact isInfix_append_left _ (isInfix_middle _ _ _)
  | android =>
    refine bind_isOk_and_of_eq hname (bind_isOk_and_of_eq hstate (bind_isOk_and_of_eq h ?_))
    exact bind_isOk_and_of_eq hfile ⟨_, rfl, ⟨rfl, rfl, Nat.succ_pos _⟩, isInfix_middle _ _ _⟩
  | vue =>
    refine bind_isOk_and_of_eq hname (bind_isOk_and_of_eq hname (bind_isOk_and_of_eq rfl ?_))
    refine bind_isOk_and_of_eq hstate (bind_isOk_and_of_eq h (bind_isOk_and_of_eq hfile ?_))
    exact ⟨_, rfl, ⟨rfl, rfl, Nat.succ_pos _⟩, isInfix_middle _ _ _⟩
  | angular =>
    refine bind_isOk_and_of_eq hname (bind_isOk_and_of_eq hname (bind_isOk_and_of_eq rfl ?_))
    refine bind_isOk_and_of_eq hstate (bind_isOk_and_of_eq h (bind_isOk_and_of_eq hfile ?_))
    exact ⟨_, rfl, ⟨rfl, rfl, Nat.succ_pos _⟩, isInfix_middle _ _ _⟩
  | react typed =>
    have hprops : component.toValue.elementsOf "props" =
        .ok (component.props.map Outline.Property.toValue) := Value.elementsOf_list rfl
    have hproperties : ∃ codes, (component.props.map Outline.Property.toValue).mapM
        React.property = .ok codes := by
      refine mapM_isOk_iff.mpr fun value hvalue => ?_
      obtain ⟨p, -, rfl⟩ := List.mem_map.mp hvalue
      exact ⟨_, rfl⟩
    refine bind_isOk_and_of_eq hname (bind_isOk_and_of_eq hprops (bind_isOk_and_of_eq hstate ?_))
    dsimp only
    split
    · refine bind_isOk_and hproperties fun codes => bind_isOk_and_of_eq rfl ?_
      refine bind_isOk_and_of_eq h (bind_isOk_and_of_eq hfile ?_)
      cases typed <;> exact ⟨_, rfl, ⟨rfl, rfl, Nat.succ_pos _⟩, isInfix_middle _ _ _⟩
    · refine bind_isOk_and_of_eq rfl (bind_isOk_and_of_eq h (bind_isOk_and_of_eq hfile ?_))
      cases typed <;> exact ⟨_, rfl, ⟨rfl, rfl, Nat.succ_pos _⟩, isInfix_middle _ _ _⟩

/-- Every component becomes a file in every form, which comes from its own file. -/
theorem convert_makes (form : Form) (component : Outline.Component) :
    ∃ file, form.convert component.toValue = .ok file ∧ form.Makes component file := by
  obtain ⟨declarations, hdeclarations⟩ := form.mapM_declaration_isOk component
  obtain ⟨file, hfile, hmakes, -⟩ := form.convert_declares hdeclarations
  exact ⟨file, hfile, hmakes⟩

/-- The file that a component becomes holds what each of its variables begins with. -/
theorem convert_initial (form : Form) {component : Outline.Component} {v : Outline.StateVariable}
    (hv : v ∈ component.state) :
    ∃ file, form.convert component.toValue = .ok file ∧
      (form.initial v.initial).toList <:+: file.content.toList := by
  obtain ⟨declarations, hdeclarations⟩ := form.mapM_declaration_isOk component
  obtain ⟨file, hfile, -, hjoined⟩ := form.convert_declares hdeclarations
  obtain ⟨code, hcode, hmade⟩ := exists_mem_of_mapM hdeclarations (List.mem_map_of_mem hv)
  obtain ⟨before, after, hdeclared⟩ := form.declaration_toValue v
  obtain rfl := Except.ok.inj (hmade.symm.trans hdeclared)
  have hpiece : _ <:+: (joined "" declarations).toList := isInfix_joined hcode
  exact ⟨file, hfile, (isInfix_middle before _ after).trans (hpiece.trans hjoined)⟩

end Form

end Restack.Stack
