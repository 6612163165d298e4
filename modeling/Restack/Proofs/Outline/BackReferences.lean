import Restack.Proofs.Outline.Components

/-!
# Back references of an outline

Every line that an outline refers to is a line of the file that it names. Where several files have
the same path, this is the last one of them, except for style sheets, which are read each for
itself.
-/

namespace Restack.Outline

open Restack.Text

/-- A file has one line more than it has line feeds. -/
theorem length_lines (content : String) :
    (lines content).length = SourceFile.lineCount content := by
  rw [lines, List.length_map, length_splitOnChar, SourceFile.lineCount]

namespace Service

/-- What a service refers to: its methods stand in it from beginning to end. -/
structure Refers (service : Service) (total : Nat) : Prop where
  first_pos : 1 ≤ service.first
  ordered : service.first ≤ service.last
  last_le : service.last ≤ total
  methods : ∀ m ∈ service.methods,
    service.first ≤ m.first ∧ m.first ≤ m.last ∧ m.last ≤ service.last
  «exports» : ∀ e ∈ service.exports, Within service.first service.last e.line

/-- Methods stand on lines of the body that they are found in. -/
theorem methodsOf_bounds {body : List String} {offset : Nat} :
    ∀ m ∈ methodsOf body offset,
      offset + 1 ≤ m.first ∧ m.first ≤ m.last ∧ m.last ≤ offset + body.length := by
  refine forall_mem_filterMap_zipIdx fun line i hi m hm => ?_
  unfold methodOn? at hm
  obtain ⟨found, -, hm⟩ := Option.bind_eq_some_iff.mp hm
  obtain ⟨_, -, hm⟩ := Option.bind_eq_some_iff.mp hm
  cases hm
  have hlast := blockEnd_bounds hi
  simp only
  omega

/-- Services stand on lines of the file that they are found in. -/
theorem ofLines_refers {file : String} {lines : List String} :
    ∀ s ∈ ofLines file lines, s.file = file ∧ s.Refers lines.length := by
  refine forall_mem_filterMap_zipIdx fun line i hi s hs => ?_
  obtain ⟨m, -, rfl⟩ := Option.map_eq_some_iff.mp hs
  obtain ⟨hle, hlt⟩ := blockEnd_bounds hi
  have hbody : i + (slice lines i (blockEnd lines i + 1)).length = blockEnd lines i + 1 := by
    rw [length_slice]
    omega
  refine ⟨rfl, Nat.succ_pos i, Nat.succ_le_succ hle, hlt, ?_, ?_⟩
  · intro m hm
    have hbounds := methodsOf_bounds m hm
    rwa [hbody] at hbounds
  · intro e he
    obtain ⟨hlow, hhigh⟩ := exportsOf_bounds e he
    unfold Within
    simp only
    omega

end Service

namespace Store

/-- What a store refers to: its state and its actions stand in its file, which it fills. -/
structure Refers (store : Store) (total : Nat) : Prop where
  last_pos : 1 ≤ store.last
  last_le : store.last ≤ total
  state : ∀ v ∈ store.state, Within 1 store.last v.line
  actions : ∀ a ∈ store.actions, Within 1 store.last a.line

/-- What is found first in a list comes from one of its items. -/
theorem exists_of_mem_findSome? {α β : Type} {items : List α} {read : α → Option (List β)} {b : β}
    (h : b ∈ (items.findSome? read).getD []) : ∃ item ∈ items, ∃ found, read item = some found ∧
      b ∈ found := by
  cases hfound : items.findSome? read with
  | none =>
    rw [hfound] at h
    cases h
  | some found =>
    rw [hfound] at h
    obtain ⟨item, hitem, hread⟩ := List.exists_of_findSome?_eq_some hfound
    exact ⟨item, hitem, found, hread, h⟩

/-- The state of a store stands on lines of its file. -/
theorem stateOf_within {lines : List String} :
    ∀ v ∈ stateOf lines, Within 1 lines.length v.line := by
  intro v hv
  obtain ⟨⟨line, i⟩, -, state, hstate, hmem⟩ := exists_of_mem_findSome? hv
  dsimp only at hstate
  split at hstate
  · split at hstate
    · cases hstate
    · cases hstate
      exact (stateOfEntries_standsOn v hmem).within.mono (by omega) (by omega)
  · cases hstate

/-- Stores stand on lines of the file that they are found in. -/
theorem ofLines_refers {file : String} {lines : List String} (hlines : 0 < lines.length) :
    ∀ s ∈ ofLines file lines, s.file = file ∧ s.Refers lines.length := by
  intro s hs
  unfold ofLines at hs
  split at hs
  · obtain rfl := List.mem_singleton.mp hs
    refine ⟨rfl, hlines, Nat.le_refl _, stateOf_within, ?_⟩
    refine forall_mem_filterMap_zipIdx fun line i hi action haction => ?_
    obtain ⟨_, -, rfl⟩ := Option.map_eq_some_iff.mp haction
    unfold Within
    simp only
    omega
  · cases hs

end Store

/-- Routes stand on lines of the file that they are found in. -/
theorem Route.ofLines_within {file : String} {lines : List String} :
    ∀ r ∈ Route.ofLines file lines, r.file = file ∧ Within 1 lines.length r.line := by
  refine forall_mem_filterMap_zipIdx fun line i hi r hr => ?_
  obtain ⟨_, -, rfl⟩ := Option.map_eq_some_iff.mp hr
  refine ⟨rfl, ?_⟩
  unfold Within
  simp only
  omega

namespace Model

/-- What a model refers to: its fields stand behind the line that declares it. -/
structure Refers (model : Model) (total : Nat) : Prop where
  first_pos : 1 ≤ model.first
  ordered : model.first ≤ model.last
  last_le : model.last ≤ total
  fields : ∀ f ∈ model.fields, model.first < f.line ∧ f.line ≤ model.last

/-- Models stand on lines of the file that they are found in. -/
theorem ofLines_refers {file : String} {lines : List String} :
    ∀ m ∈ ofLines file lines, m.file = file ∧ m.Refers lines.length := by
  refine forall_mem_filterMap_zipIdx fun line i hi model hmodel => ?_
  obtain ⟨m, -, rfl⟩ := Option.map_eq_some_iff.mp hmodel
  obtain ⟨hle, hlt⟩ := statementEnd_bounds hi
  refine ⟨rfl, Nat.succ_pos i, Nat.succ_le_succ hle, hlt, ?_⟩
  refine forall_mem_filterMap_zipIdx fun line k hk field hfield => ?_
  obtain ⟨_, -, rfl⟩ := Option.map_eq_some_iff.mp hfield
  rw [length_slice] at hk
  simp only
  omega

end Model

/-- What a page refers to: the components that it uses stand in its file, which it fills. -/
structure Page.Refers (page : Page) (total : Nat) : Prop where
  last_pos : 1 ≤ page.last
  last_le : page.last ≤ total
  children : ∀ c ∈ page.children, Within 1 page.last c.line

/-- A page takes up all lines of its file. -/
theorem Page.ofLines_refers (file : String) {lines : List String} (hlines : 0 < lines.length) :
    (Page.ofLines file lines).Refers lines.length where
  last_pos := hlines
  last_le := Nat.le_refl _
  children := fun c hc => (childrenOf_within c hc).mono (by omega) (by simp [Page.ofLines])

namespace Layout

/-- What a layout refers to: the components that it uses and its slots stand in its file, which it
fills. -/
structure Refers (layout : Layout) (total : Nat) : Prop where
  last_pos : 1 ≤ layout.last
  last_le : layout.last ≤ total
  children : ∀ c ∈ layout.children, Within 1 layout.last c.line
  slots : ∀ s ∈ layout.slots, Within 1 layout.last s.line

/-- The slots of a layout that are found on a line stand there. -/
theorem line_of_slotsOn {line : String} {number : Nat} {slot : Slot}
    (h : slot ∈ slotsOn line number) : slot.line = number := by
  rcases List.mem_append.mp h with hdefault | hnamed
  · split at hdefault
    · rw [List.mem_singleton.mp hdefault]
    · cases hdefault
  · obtain ⟨m, -, rfl⟩ := List.mem_map.mp hnamed
    rfl

/-- A layout takes up all lines of its file, with its slots on them. -/
theorem ofLines_refers (file : String) {lines : List String} (hlines : 0 < lines.length) :
    (Layout.ofLines file lines).Refers lines.length where
  last_pos := hlines
  last_le := Nat.le_refl _
  children := fun c hc => (childrenOf_within c hc).mono (by omega) (by simp [Layout.ofLines])
  slots := by
    refine forall_mem_flatMap_zipIdx fun line i hi slot hslot => ?_
    rw [line_of_slotsOn hslot]
    unfold Within
    simp only [Layout.ofLines]
    omega

end Layout

/-- Uses of the environment stand on lines of the file that they are found in. -/
theorem EnvironmentUse.ofLines_within {file : String} {lines : List String} :
    ∀ u ∈ EnvironmentUse.ofLines file lines, u.file = file ∧ Within 1 lines.length u.line := by
  refine forall_mem_flatMap_zipIdx fun line i hi found hfound => ?_
  obtain ⟨m, -, rfl⟩ := List.mem_map.mp hfound
  refine ⟨rfl, ?_⟩
  unfold Within
  simp only
  omega

namespace StyleSheet

/-- What a style sheet refers to: its rules and its variables stand in its own content. -/
structure Refers (sheet : StyleSheet) (total : Nat) : Prop where
  rules : ∀ r ∈ sheet.rules, Within 1 total r.line
  settings : ∀ v ∈ sheet.settings, Within 1 total v.line

/-- The line on which a place stands is a line of the text. -/
theorem lineAt_within (content : String) (place : Nat) :
    Within 1 (SourceFile.lineCount content) (lineAt content.toList place) := by
  have hcount : (content.toList.take place).count '\n' ≤ content.toList.count '\n' :=
    (List.take_sublist place content.toList).count_le '\n'
  unfold Within lineAt SourceFile.lineCount
  omega

/-- The rules and variables of a style sheet stand on lines of its file. -/
theorem ofText_refers (file content : String) :
    (ofText file content).Refers (SourceFile.lineCount content) where
  rules := by
    intro r hr
    obtain ⟨m, -, hr⟩ := List.mem_filterMap.mp hr
    unfold ruleAt? at hr
    dsimp only at hr
    split at hr
    · cases hr
    · cases hr
      exact lineAt_within content _
  settings := by
    intro v hv
    obtain ⟨m, -, rfl⟩ := List.mem_map.mp hv
    exact lineAt_within content _

end StyleSheet

namespace Project

/-- The last file with a path. -/
def lastFile? (files : List SourceFile) (path : String) : Option SourceFile :=
  files.reverse.find? (·.path == path)

/-- What an outline of files refers to: whatever it says of a file stands on lines of the last file
with the same path, and what it says of a style sheet stands on lines of this style sheet. -/
structure Refers (files : List SourceFile) (framework : String) (project : Project) : Prop where
  components : ∀ c ∈ project.components, ∃ family, Family.ofName? framework = some family ∧
    ∃ file, lastFile? files c.file = some file ∧ c.Refers family (SourceFile.lineCount file.content)
  pages : ∀ p ∈ project.pages,
    ∃ file, lastFile? files p.file = some file ∧ p.Refers (SourceFile.lineCount file.content)
  layouts : ∀ l ∈ project.layouts,
    ∃ file, lastFile? files l.file = some file ∧ l.Refers (SourceFile.lineCount file.content)
  services : ∀ s ∈ project.services,
    ∃ file, lastFile? files s.file = some file ∧ s.Refers (SourceFile.lineCount file.content)
  stores : ∀ s ∈ project.stores,
    ∃ file, lastFile? files s.file = some file ∧ s.Refers (SourceFile.lineCount file.content)
  routes : ∀ r ∈ project.routes,
    ∃ file, lastFile? files r.file = some file ∧ Within 1 (SourceFile.lineCount file.content) r.line
  models : ∀ m ∈ project.models,
    ∃ file, lastFile? files m.file = some file ∧ m.Refers (SourceFile.lineCount file.content)
  environment : ∀ u ∈ project.environment,
    ∃ file, lastFile? files u.file = some file ∧ Within 1 (SourceFile.lineCount file.content) u.line
  styles : ∀ s ∈ project.styles,
    ∃ file ∈ files, file.path = s.file ∧ s.Refers (SourceFile.lineCount file.content)

variable {files among : List SourceFile} {framework : String}

/-- The lines that are read for the path of a file are those of the last file with it. -/
theorem exists_linesOf {file : SourceFile} (h : file ∈ files) :
    ∃ last, lastFile? files file.path = some last ∧
      linesOf files file.path = lines last.content := by
  obtain ⟨last, hlast⟩ : ∃ last, lastFile? files file.path = some last := by
    refine Option.isSome_iff_exists.mp (List.find?_isSome.mpr ⟨file, ?_, by simp⟩)
    exact List.mem_reverse.mpr h
  refine ⟨last, hlast, ?_⟩
  unfold linesOf
  unfold lastFile? at hlast
  rw [hlast]

/-- What is read from the lines of the last file with the path of each of some files. -/
theorem mem_collect {α : Type} (read : String → List String → List α) (fileOf : α → String)
    (P : α → Nat → Prop) (hsub : ∀ file ∈ among, file ∈ files)
    (hread : ∀ path lines, 0 < lines.length → ∀ a ∈ read path lines,
      fileOf a = path ∧ P a lines.length) :
    ∀ a ∈ among.flatMap fun file => read file.path (linesOf files file.path),
      ∃ file, lastFile? files (fileOf a) = some file ∧ P a (SourceFile.lineCount file.content) := by
  intro a ha
  obtain ⟨file, hfile, ha⟩ := List.mem_flatMap.mp ha
  -- The lines are looked up by the path, so they are those of another file where a path recurs.
  obtain ⟨last, hlast, hlines⟩ := exists_linesOf (hsub file hfile)
  rw [hlines] at ha
  have hpos : 0 < (lines last.content).length := by
    rw [length_lines]
    exact Nat.succ_pos _
  obtain ⟨hpath, hholds⟩ := hread file.path _ hpos a ha
  rw [length_lines] at hholds
  exact ⟨last, hpath ▸ hlast, hholds⟩

/-- Every line that an outline refers to is in its file, for whatever files and framework. -/
theorem ofFiles_refers (files : List SourceFile) (framework : String) :
    (ofFiles files framework).Refers files framework := by
  have hrole : ∀ {role : Role},
      ∀ file ∈ files.filter fun file => role.fits file.path, file ∈ files :=
    fun file hfile => (List.mem_filter.mp hfile).1
  have hshown : ∀ {role : Role}, ∀ file ∈
      (files.filter fun file => Role.ui.fits file.path).filter fun file => role.fits file.path,
      file ∈ files :=
    fun file hfile => hrole file (List.mem_filter.mp hfile).1
  constructor
  · intro c hc
    cases hfamily : Family.ofName? framework with
    | none =>
      simp only [ofFiles, hfamily] at hc
      cases hc
    | some family =>
      simp only [ofFiles, hfamily] at hc
      exact ⟨family, rfl, mem_collect _ Component.file (Component.Refers family) hrole
        (fun _ _ _ => family.components_refer) c hc⟩
  · refine mem_collect (fun path lines => [Page.ofLines path lines]) Page.file Page.Refers hshown
      fun path lines hlines p hp => ?_
    obtain rfl := List.mem_singleton.mp hp
    exact ⟨rfl, Page.ofLines_refers path hlines⟩
  · refine mem_collect (fun path lines => [Layout.ofLines path lines]) Layout.file Layout.Refers
      hshown fun path lines hlines l hl => ?_
    obtain rfl := List.mem_singleton.mp hl
    exact ⟨rfl, Layout.ofLines_refers path hlines⟩
  · exact mem_collect Service.ofLines Service.file Service.Refers hrole
      fun _ _ _ => Service.ofLines_refers
  · exact mem_collect Store.ofLines Store.file Store.Refers hrole
      fun _ _ hlines => Store.ofLines_refers hlines
  · exact mem_collect Route.ofLines Route.file (fun r total => Within 1 total r.line) hrole
      fun _ _ _ => Route.ofLines_within
  · exact mem_collect Model.ofLines Model.file Model.Refers hrole fun _ _ _ => Model.ofLines_refers
  · exact mem_collect EnvironmentUse.ofLines EnvironmentUse.file
      (fun u total => Within 1 total u.line) (fun _ hfile => hfile)
      fun _ _ _ => EnvironmentUse.ofLines_within
  · intro s hs
    obtain ⟨file, hfile, rfl⟩ := List.mem_map.mp hs
    exact ⟨file, hrole file hfile, rfl, StyleSheet.ofText_refers file.path file.content⟩

/-- The variables of the components of an outline stand on lines of the last file with the path of
the component. -/
theorem state_standsOn {c : Component} (hc : c ∈ (ofFiles files framework).components)
    {v : StateVariable} (hv : v ∈ c.state) :
    ∃ file, lastFile? files c.file = some file ∧ v.StandsOn (lines file.content) 0 := by
  cases hfamily : Family.ofName? framework with
  | none =>
    simp only [ofFiles, hfamily] at hc
    cases hc
  | some family =>
    simp only [ofFiles, hfamily] at hc
    obtain ⟨file, hfile, hread⟩ := List.mem_flatMap.mp hc
    obtain ⟨last, hlast, hlines⟩ := exists_linesOf (List.mem_filter.mp hfile).1
    rw [hlines] at hread
    rw [(Family.components_refer c hread).1]
    exact ⟨last, hlast, Family.state_standsOn c hread v hv⟩

end Project

end Restack.Outline
