import Restack.Outline.Project
import Restack.Proofs.Outline.Parts

/-!
# Components and their parts

Each family of frameworks looks for the parts of a component in lines of its own: a function or a
class and what stands around it, a script and a template, or a class and its decorator. What a
component refers to stands there.
-/

namespace Restack.Outline

open Restack.Text

/-- The lines of a component are lines of a file with so many lines. -/
structure Component.Spans (component : Component) (total : Nat) : Prop where
  first_pos : 1 ≤ component.first
  ordered : component.first ≤ component.last
  last_le : component.last ≤ total

namespace React

variable {body : List String} {offset : Nat}

/-- The properties of a component in the manner of React stand on lines of its body. -/
theorem propsOf_within :
    ∀ p ∈ propsOf body offset, Within (offset + 1) (offset + body.length) p.line := by
  intro p hp
  rcases mem_of_mem_kept hp with htaken | haccessed
  · rcases mem_of_mem_kept htaken with hnone | htaken
    · cases hnone
    · obtain ⟨params, hparams, hp⟩ := List.mem_flatMap.mp htaken
      obtain ⟨m, hm, -⟩ := Option.map_eq_some_iff.mp (Option.mem_toList.mp hparams)
      obtain ⟨line, hline, -⟩ := Option.bind_eq_some_iff.mp hm
      have hbody : 0 < body.length := by
        cases body with
        | nil => cases hline
        | cons => simp
      obtain ⟨param, -, hp⟩ := List.mem_filterMap.mp hp
      split at hp
      · cases hp
      · cases hp
        exact within_of_lt hbody
  · exact findOnLines_within Property.line (fun _ _ => rfl) p haccessed

/-- The hooks of a component stand on lines of its body. -/
theorem hooksOf_within :
    ∀ h ∈ hooksOf body offset, Within (offset + 1) (offset + body.length) h.line := by
  refine forall_mem_flatMap_zipIdx fun line i hi hook hhook => ?_
  obtain ⟨m, -, rfl⟩ := List.mem_map.mp hhook
  exact within_of_lt hi

/-- The handlers that are found on a line stand there. -/
theorem line_of_eventsOn {line : String} {number : Nat} {event : EventHandler}
    (h : event ∈ eventsOn line number) : event.line = number := by
  rcases List.mem_append.mp h with hdeclared | hattached
  · obtain ⟨m, -, rfl⟩ := List.mem_map.mp hdeclared
    rfl
  · obtain ⟨m, -, rfl⟩ := List.mem_map.mp hattached
    rfl

/-- The handlers of a component stand on lines of its body. -/
theorem eventsOf_within :
    ∀ e ∈ eventsOf body offset, Within (offset + 1) (offset + body.length) e.line := by
  refine forall_mem_flatMap_zipIdx fun line i hi event hevent => ?_
  rw [line_of_eventsOn hevent]
  exact within_of_lt hi

/-- What a component of this family refers to: the parts of it stand on its own lines, its imports
before them, and its exports behind them. -/
structure Refers (component : Component) (total : Nat) : Prop extends component.Spans total where
  props : ∀ p ∈ component.props, Within component.first component.last p.line
  state : ∀ v ∈ component.state, Within component.first component.last v.line
  hooks : ∀ h ∈ component.hooks, Within component.first component.last h.line
  events : ∀ e ∈ component.events, Within component.first component.last e.line
  children : ∀ c ∈ component.children, Within component.first component.last c.line
  styling : ∀ n ∈ component.styling.lines, Within component.first component.last n
  imports : ∀ i ∈ component.imports, 1 ≤ i.line ∧ i.line < component.first
  «exports» : ∀ e ∈ component.exports, component.last < e.line ∧ e.line ≤ total

/-- A component that is declared on one of the lines of a file. -/
theorem component_refers {file name : String} {lines : List String} {start : Nat} {style : Style}
    (hstart : start < lines.length) :
    Refers (component file lines start name style) lines.length := by
  obtain ⟨last, hlast, hle, hlt⟩ := componentEnd?_bounds hstart
  have hown : ∀ {line : Int},
      Within (start + 1) (start + (slice lines start (last + 1)).length) line →
        Within (start + 1) (last + 1) line := by
    intro line hline
    refine hline.mono (Nat.le_refl _) ?_
    rw [length_slice]
    omega
  unfold component
  rw [hlast]
  exact {
    first_pos := Nat.succ_pos start
    ordered := Nat.succ_le_succ hle
    last_le := hlt
    props := fun p hp => hown (propsOf_within p hp)
    state := fun v hv => hown (stateOf_standsOn v hv).within
    hooks := fun h hh => hown (hooksOf_within h hh)
    events := fun e he => hown (eventsOf_within e he)
    children := fun c hc => hown (childrenOf_within c hc)
    styling := fun n hn => hown (stylingOf_within n hn)
    imports := by
      intro i hi
      obtain ⟨hlow, hhigh⟩ := importsOf_bounds i hi
      rw [List.length_take] at hhigh
      exact ⟨by omega, by simp only; omega⟩
    «exports» := by
      intro e he
      obtain ⟨hlow, hhigh⟩ := exportsOf_bounds e he
      rw [List.length_drop, Option.getD_some] at hhigh
      rw [Option.getD_some] at hlow
      exact ⟨by simp only [Option.getD_some]; omega, by omega⟩ }

/-- The components of a file. -/
theorem components_refer {file : String} {lines : List String} :
    ∀ c ∈ components file lines, c.file = file ∧ Refers c lines.length := by
  refine forall_mem_filterMap_zipIdx fun line i hi c hc => ?_
  obtain ⟨⟨name, style⟩, -, rfl⟩ := Option.map_eq_some_iff.mp hc
  exact ⟨rfl, component_refers hi⟩

end React

namespace Angular

variable {body : List String} {offset : Nat}

/-- The inputs of a class stand on lines of its body. -/
theorem inputsOf_within :
    ∀ p ∈ inputsOf body offset, Within (offset + 1) (offset + body.length) p.line := by
  refine forall_mem_filterMap_zipIdx fun line i hi p hp => ?_
  obtain ⟨m, -, rfl⟩ := Option.map_eq_some_iff.mp hp
  exact within_of_lt hi

/-- The outputs of a class stand on lines of its body. -/
theorem outputs_within :
    ∀ e ∈ findOnLines outputPattern body offset fun m line =>
        (⟨m.group 1, "output", [], line, none⟩ : EventHandler),
      Within (offset + 1) (offset + body.length) e.line :=
  findOnLines_within EventHandler.line fun _ _ => rfl

/-- A decorator that begins on one of the lines ends on one of them. -/
theorem decoratorEnd_bounds {lines : List String} {start : Nat} (hstart : start < lines.length) :
    start ≤ decoratorEnd lines start ∧ decoratorEnd lines start < lines.length :=
  firstLine?_getD_bounds _ hstart

/-- What a component of this family refers to: the parts of it stand on its own lines, which begin
with its decorator, and its imports before them. -/
structure Refers (component : Component) (total : Nat) : Prop extends component.Spans total where
  props : ∀ p ∈ component.props, Within component.first component.last p.line
  state : ∀ v ∈ component.state, Within component.first component.last v.line
  hooks : ∀ h ∈ component.hooks, Within component.first component.last h.line
  events : ∀ e ∈ component.events, Within component.first component.last e.line
  styling : ∀ n ∈ component.styling.lines, Within component.first component.last n
  imports : ∀ i ∈ component.imports, 1 ≤ i.line ∧ i.line < component.first
  children : component.children = []
  «exports» : component.exports = []

/-- A component whose decorator begins on one of the lines of a file. -/
theorem component?_refers {file : String} {lines : List String} {i : Nat} {c : Component}
    (hi : i < lines.length) (h : component? file lines i = some c) :
    c.file = file ∧ Refers c lines.length := by
  unfold component? at h
  obtain ⟨start, hstart, h⟩ := Option.bind_eq_some_iff.mp h
  obtain ⟨line, hline, h⟩ := Option.bind_eq_some_iff.mp h
  obtain ⟨m, -, h⟩ := Option.bind_eq_some_iff.mp h
  cases h
  have hdecorator := decoratorEnd_bounds hi
  have hfirst := firstLine?_bounds hstart
  have hlast := blockEnd_bounds hfirst.2
  have hbody : ∀ {line : Int},
      Within (start + 1) (start + (slice lines start (blockEnd lines start)).length) line →
        Within (i + 1) (blockEnd lines start + 1) line := by
    intro line hline
    rw [length_slice] at hline
    exact hline.mono (by omega) (by omega)
  have hdecorated : ∀ {line : Int},
      Within (i + 1) (i + (slice lines i (decoratorEnd lines i + 1)).length) line →
        Within (i + 1) (blockEnd lines start + 1) line := by
    intro line hline
    rw [length_slice] at hline
    exact hline.mono (Nat.le_refl _) (by omega)
  refine ⟨rfl, ?_⟩
  exact {
    first_pos := Nat.succ_pos i
    ordered := by simp only; omega
    last_le := hlast.2
    props := fun p hp => hbody (inputsOf_within p hp)
    state := fun v hv => hbody (fieldsBelow_standsOn v hv).within
    hooks := fun h hh => hbody (findOnLines_within Hook.line (fun _ _ => rfl) h hh)
    events := fun e he => hbody (outputs_within e he)
    styling := fun n hn => hdecorated (stylingOf_within n hn)
    imports := by
      intro found hfound
      obtain ⟨hlow, hhigh⟩ := importsOf_bounds found hfound
      rw [List.length_take] at hhigh
      exact ⟨by omega, by simp only; omega⟩
    children := rfl
    «exports» := rfl }

/-- The components of a file. -/
theorem components_refer {file : String} {lines : List String} :
    ∀ c ∈ components file lines, c.file = file ∧ Refers c lines.length := by
  refine forall_mem_filterMap_zipIdx fun line i hi c hc => ?_
  dsimp only at hc
  split at hc
  · exact component?_refers hi hc
  · cases hc

end Angular

namespace Vue

variable {script template : List String} {offset : Nat}

/-- The properties of a component in the manner of Vue stand on lines of its script. -/
theorem propsOf_within :
    ∀ p ∈ propsOf script offset, Within (offset + 1) (offset + script.length) p.line := by
  refine forall_mem_flatMap_zipIdx fun line i hi p hp => ?_
  dsimp only at hp
  split at hp
  · obtain ⟨name, -, rfl⟩ := List.mem_map.mp hp
    exact within_of_lt hi
  · split at hp
    · obtain ⟨entry, hentry, rfl⟩ := List.mem_map.mp hp
      obtain ⟨line, hline, -⟩ := raw_of_objectEntries hentry
      exact within_of_lt (List.getElem?_eq_some_iff.mp hline).1
    · cases hp

/-- The events of a component in the manner of Vue stand on lines of its script. -/
theorem eventsOf_within :
    ∀ e ∈ eventsOf script offset, Within (offset + 1) (offset + script.length) e.line := by
  refine forall_mem_flatMap_zipIdx fun line i hi e he => ?_
  rcases List.mem_append.mp he with hsent | hdeclared
  · obtain ⟨m, -, rfl⟩ := List.mem_map.mp hsent
    exact within_of_lt hi
  · obtain ⟨m, -, hnamed⟩ := List.mem_flatMap.mp hdeclared
    obtain ⟨name, -, rfl⟩ := List.mem_map.mp hnamed
    exact within_of_lt hi

/-- What a component of this family refers to: the parts of its script stand on its own lines, and
all else stands in its file. -/
structure Refers (component : Component) (total : Nat) : Prop extends component.Spans total where
  props : ∀ p ∈ component.props, Within component.first component.last p.line
  state : ∀ v ∈ component.state, Within component.first component.last v.line
  hooks : ∀ h ∈ component.hooks, Within component.first component.last h.line
  imports : ∀ i ∈ component.imports, Within component.first component.last i.line
  events : ∀ e ∈ component.events, Within 1 total e.line
  children : ∀ c ∈ component.children, Within 1 total c.line
  styling : ∀ n ∈ component.styling.lines, Within 1 total n
  «exports» : component.exports = []

/-- The part of the lines between two tags ends before the lines do, also if there is none. -/
theorem template_bounds {lines : List String} {startTag endTag : String} {first last : Nat}
    (h : (sectionBounds? lines startTag endTag).getD (0, 0) = (first, last)) :
    first + (slice lines first last).length ≤ lines.length := by
  rw [length_slice]
  cases hsection : sectionBounds? lines startTag endTag with
  | none =>
    rw [hsection] at h
    cases h
    omega
  | some bounds =>
    rw [hsection] at h
    cases h
    have hbounds := sectionBounds?_bounds hsection
    omega

/-- A component of a file with a script. -/
theorem component?_refers {file : String} {lines : List String} {c : Component}
    (h : component? file lines = some c) : c.file = file ∧ Refers c lines.length := by
  unfold component? at h
  obtain ⟨⟨first, last⟩, hscript, h⟩ := Option.bind_eq_some_iff.mp h
  obtain ⟨hlt, hlast⟩ := sectionBounds?_bounds hscript
  cases htemplate : (sectionBounds? lines "<template" "</template>").getD (0, 0) with
  | mk templateFirst templateLast =>
    simp only [htemplate] at h
    cases h
    have hslice := template_bounds htemplate
    have hown : ∀ {line : Int},
        Within (first + 1) (first + (slice lines first last).length) line →
          Within (first + 1) (last + 1) line := by
      intro line hline
      rw [length_slice] at hline
      exact hline.mono (Nat.le_refl _) (by omega)
    have hfile : ∀ {line : Int} {offset count : Nat}, Within (offset + 1) (offset + count) line →
        offset + count ≤ lines.length → Within 1 lines.length line :=
      fun hline hcount => hline.mono (by omega) hcount
    refine ⟨rfl, ?_⟩
    exact {
      first_pos := Nat.succ_pos first
      ordered := by simp only; omega
      last_le := hlast
      props := fun p hp => hown (propsOf_within p hp)
      state := fun v hv => hown (stateOf_standsOn v hv).within
      hooks := fun h hh => hown (findOnLines_within Hook.line (fun _ _ => rfl) h hh)
      imports := by
        intro i hi
        obtain ⟨hlow, hhigh⟩ := importsOf_bounds i hi
        exact hown ⟨hlow, hhigh⟩
      events := by
        intro e he
        rcases List.mem_append.mp he with hscripted | htemplated
        · have hwithin := hown (eventsOf_within e hscripted)
          exact hwithin.mono (by omega) (by omega)
        · exact hfile (findOnLines_within EventHandler.line (fun _ _ => rfl) e htemplated) hslice
      children := fun c hc => hfile (findOnLines_within Child.line (fun _ _ => rfl) c hc) hslice
      styling := fun n hn => hfile (stylingOf_within n hn) (by omega)
      «exports» := rfl }

end Vue

/-- What a component refers to, by the family of frameworks that it belongs to. -/
def Component.Refers (family : Family) (component : Component) (total : Nat) : Prop :=
  match family with
  | .react => React.Refers component total
  | .vue => Vue.Refers component total
  | .angular => Angular.Refers component total

/-- The components of a file refer to lines of it. -/
theorem Family.components_refer {family : Family} {path : String} {lines : List String} :
    ∀ c ∈ family.components path lines, c.file = path ∧ c.Refers family lines.length := by
  cases family with
  | react => exact React.components_refer
  | vue => exact fun c hc => Vue.component?_refers (Option.mem_toList.mp hc)
  | angular => exact Angular.components_refer

end Restack.Outline
