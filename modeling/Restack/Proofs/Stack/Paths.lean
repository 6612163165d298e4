import Mathlib.Data.List.Forall2
import Mathlib.Data.List.Nodup
import Restack.Proofs.Outline.BackReferences
import Restack.Proofs.Stack.Skeletons
import Restack.Stack.Conversion

/-!
# Paths of a converted project

The path of the file that a component becomes is made from its name alone. No file of a conversion
takes the path of another, and no two line mappings lead to one line, exactly if what paths keep of
the names of components differs: neither the file that a component comes from nor the case of its
name need be kept, and nothing is done about two that come to be the same.
-/

namespace Restack.Stack

open Restack.Text

namespace Form

/-- Texts with the same beginning and the same end differ in between. -/
theorem append_append_inj {before after stem other : String}
    (h : before ++ stem ++ after = before ++ other ++ after) : stem = other :=
  (String.append_right_inj _).mp ((String.append_left_inj _).mp h)

/-- A text that stands twice in a longer one is told by it. -/
theorem doubled_inj {between stem other : String}
    (h : stem ++ (between ++ stem) = other ++ (between ++ other)) : stem = other := by
  have hchars := congrArg String.toList h
  simp only [String.toList_append] at hchars
  have hlength := congrArg List.length hchars
  simp only [List.length_append] at hlength
  exact String.toList_inj.mp (List.append_inj_left hchars (by omega))

/-- The path of a file tells its stem. -/
theorem path_injective (form : Form) : Function.Injective form.path := by
  intro stem other h
  cases form with
  | flutter => exact append_append_inj h
  | android => exact append_append_inj h
  | vue => exact append_append_inj h
  | react typed =>
    have hpath := (String.append_left_inj _).mp h
    exact append_append_inj hpath
  | angular =>
    have hdoubled := (String.append_left_inj _).mp h
    simp only [String.append_assoc] at hdoubled
    exact doubled_inj ((String.append_right_inj _).mp hdoubled)

end Form

section Components

variable {info : Value} {frontend : Frontend} (components : List Outline.Component)

/-- Components become files in the form of the frontend. -/
theorem convertComponents_makes {form : Form} (hinfo : Frontend.ofInfo info = .ok frontend)
    (hform : Form.ofFrontend? frontend = some form) :
    ∃ files, convertComponents info (components.map Outline.Component.toValue) = .ok files ∧
      List.Forall₂ form.Makes components files := by
  have hnamed : ∀ component : Outline.Component, ∃ file,
      convertNamed info component.toValue = .ok (some file) ∧ form.Makes component file := by
    intro component
    obtain ⟨file, hfile, hmakes⟩ := form.convert_makes component
    refine ⟨file, ?_, hmakes⟩
    simp only [convertNamed, convertComponent, hinfo, hform, hfile, bind, Except.bind]
    rfl
  have hfiles : ∃ files, (components.map Outline.Component.toValue).mapM (convertNamed info) =
      .ok (files.map some) ∧ List.Forall₂ form.Makes components files := by
    induction components with
    | nil => exact ⟨[], rfl, .nil⟩
    | cons component rest ih =>
      obtain ⟨file, hfile, hmakes⟩ := hnamed component
      obtain ⟨files, hfiles, hrest⟩ := ih
      refine ⟨file :: files, ?_, .cons hmakes hrest⟩
      rw [List.map_cons, List.mapM_cons, hfile, hfiles]
      rfl
  obtain ⟨files, hfiles, hmakes⟩ := hfiles
  refine bind_isOk_and_of_eq hfiles ⟨files, ?_, hmakes⟩
  simp [pure, Except.pure]

/-- Without a form nothing becomes of components. -/
theorem convertComponents_eq_nil (hinfo : Frontend.ofInfo info = .ok frontend)
    (hform : Form.ofFrontend? frontend = none) :
    convertComponents info (components.map Outline.Component.toValue) = .ok [] := by
  have hnamed : ∀ component : Outline.Component,
      convertNamed info component.toValue = .ok none := by
    intro component
    simp only [convertNamed, convertComponent, hinfo, hform, bind, Except.bind]
    rfl
  have hall : ∀ value ∈ components.map Outline.Component.toValue,
      ∃ file, convertNamed info value = .ok file ∧ file = none := by
    intro value hvalue
    obtain ⟨component, -, rfl⟩ := List.mem_map.mp hvalue
    exact ⟨none, hnamed component, rfl⟩
  obtain ⟨files, hfiles, hnone⟩ := mapM_isOk_and hall
  unfold convertComponents
  rw [hfiles]
  exact congrArg Except.ok (List.filterMap_eq_nil_iff.mpr hnone)

end Components

/-- The files that components become in a form; there are none without a form. -/
def MadeFrom (form? : Option Form) (components : List Outline.Component)
    (made : List ConvertedFile) : Prop :=
  match form? with
  | some form => List.Forall₂ form.Makes components made
  | none => made = []

/-- The components of an outline become files in the form of the frontend, if it has one. -/
theorem convertComponents_made {info : Value} {frontend : Frontend}
    {components : List Outline.Component} {made : List ConvertedFile}
    (hinfo : Frontend.ofInfo info = .ok frontend)
    (h : convertComponents info (components.map Outline.Component.toValue) = .ok made) :
    MadeFrom (Form.ofFrontend? frontend) components made := by
  cases hform : Form.ofFrontend? frontend with
  | none =>
    rw [convertComponents_eq_nil components hinfo hform] at h
    exact (Except.ok.inj h).symm
  | some form =>
    obtain ⟨files, hfiles, hmakes⟩ := convertComponents_makes components hinfo hform
    rw [hfiles] at h
    cases h
    exact hmakes

/-- The files that a frontend needs beside its components. -/
def otherFiles (frontend : Frontend) : List ConvertedFile :=
  configFiles frontend ++ (packageFile? frontend).toList

/-- What an outline becomes: its components in the form of the frontend, if there is one, and the
files that the frontend needs. -/
theorem convertOutline_makes {project : Outline.Project} {target : Value}
    {files : List ConvertedFile} (h : convertOutline project target = .ok files) :
    ∃ frontend made, Frontend.ofStack target = .ok frontend ∧
      MadeFrom (Form.ofFrontend? frontend) project.components made ∧
      files = made ++ otherFiles frontend := by
  obtain ⟨info?, hinfo, h⟩ := exists_of_bind_eq_ok h
  cases info? with
  | none =>
    have hstack : Frontend.ofStack target = .ok ⟨"", ""⟩ := by
      rw [Frontend.ofStack, hinfo]
      rfl
    obtain ⟨_, hcomponents, h⟩ := exists_of_bind_eq_ok h
    cases hcomponents
    obtain ⟨frontend, hfrontend, h⟩ := exists_of_bind_eq_ok h
    cases hstack.symm.trans hfrontend
    exact ⟨⟨"", ""⟩, [], hstack, rfl, (Except.ok.inj h).symm⟩
  | some info =>
    have hstack : Frontend.ofStack target = Frontend.ofInfo info := by
      rw [Frontend.ofStack, hinfo]
      rfl
    obtain ⟨made, hmade, h⟩ := exists_of_bind_eq_ok h
    obtain ⟨frontend, hfrontend, h⟩ := exists_of_bind_eq_ok h
    refine ⟨frontend, made, hfrontend, ?_, ?_⟩
    · rw [hstack] at hfrontend
      exact convertComponents_made hfrontend hmade
    · rw [← Except.ok.inj h, otherFiles, List.append_assoc]

/-- The paths that files other than those of components can have. -/
def otherPaths : List String := ["pubspec.yaml", "build.gradle.kts", "package.json"]

/-- The files other than those of components have distinct paths of three. -/
theorem otherFiles_sublist (frontend : Frontend) :
    ((otherFiles frontend).map ConvertedFile.path).Sublist otherPaths := by
  have hpackage : ((packageFile? frontend).toList.map ConvertedFile.path).Sublist
      ["package.json"] := by
    unfold packageFile?
    split
    · exact .refl _
    · exact List.nil_sublist _
  unfold otherFiles configFiles
  rw [List.map_append]
  split
  · exact .cons_cons _ (.cons _ hpackage)
  · exact .cons _ (.cons_cons _ hpackage)
  · exact .cons _ (.cons _ hpackage)

/-- A text begins as its first part does. -/
theorem head?_toList_append {before after : String} {c : Char} (h : before.toList.head? = some c) :
    (before ++ after).toList.head? = some c := by
  rw [String.toList_append, List.head?_append, h]
  rfl

/-- No component is written to the path of another file. -/
theorem Form.path_not_mem_otherPaths (form : Form) (stem : String) :
    form.path stem ∉ otherPaths := by
  obtain ⟨c, hc, hmem⟩ : ∃ c, (form.path stem).toList.head? = some c ∧ c ∈ ['l', 'a', 's'] := by
    have h {before after : String} {c : Char} := @head?_toList_append before after c
    cases form with
    | flutter => exact ⟨'l', h (h rfl), by decide⟩
    | android => exact ⟨'a', h (h rfl), by decide⟩
    | vue => exact ⟨'s', h (h rfl), by decide⟩
    | angular => exact ⟨'s', h (h (h (h rfl))), by decide⟩
    | react typed => exact ⟨'s', h (h (h rfl)), by decide⟩
  have hother : ∀ path ∈ otherPaths, path.toList.head? ∉ ['l', 'a', 's'].map some := by decide
  exact fun hpath => hother _ hpath (hc ▸ List.mem_map_of_mem hmem)

/-- The stems of components are different, if components become files at all. -/
def StemsDiffer (form? : Option Form) (components : List Outline.Component) : Prop :=
  ∀ form ∈ form?, (components.map fun component => form.stem component.name).Nodup

namespace MadeFrom

variable {form? : Option Form} {components : List Outline.Component} {made : List ConvertedFile}

/-- The files of components share no path exactly if the components share no stem. -/
theorem nodup_paths_iff (h : MadeFrom form? components made) :
    (made.map ConvertedFile.path).Nodup ↔ StemsDiffer form? components := by
  cases form? with
  | none =>
    cases h
    simp [StemsDiffer]
  | some form =>
    have hpaths : made.map ConvertedFile.path =
        (components.map fun component => form.stem component.name).map form.path := by
      induction h with
      | nil => rfl
      | cons hmakes _ ih => simp only [List.map_cons, hmakes.path, ih]
    rw [hpaths, List.nodup_map_iff form.path_injective]
    simp [StemsDiffer]

/-- Each of the files comes from a component, has lines, and stands where no other file does. -/
theorem of_mem (h : MadeFrom form? components made) {file : ConvertedFile} (hfile : file ∈ made) :
    ∃ component ∈ components, file.source = component.file ∧ 0 < file.lines ∧
      file.path ∉ otherPaths := by
  cases form? with
  | none =>
    cases h
    cases hfile
  | some form =>
    induction h with
    | nil => cases hfile
    | @cons component first _ _ hmakes _ ih =>
      rcases List.mem_cons.mp hfile with rfl | hfile
      · refine ⟨component, List.mem_cons_self, hmakes.source, hmakes.lines, ?_⟩
        rw [hmakes.path]
        exact form.path_not_mem_otherPaths _
      · obtain ⟨other, hother, hmade⟩ := ih hfile
        exact ⟨other, List.mem_cons_of_mem _ hother, hmade⟩

/-- All files share no path exactly if the components share no stem. -/
theorem nodup_all_iff (h : MadeFrom form? components made) (frontend : Frontend) :
    ((made ++ otherFiles frontend).map ConvertedFile.path).Nodup ↔
      StemsDiffer form? components := by
  rw [List.map_append, ← h.nodup_paths_iff]
  constructor
  · exact fun hall => hall.sublist (List.sublist_append_left _ _)
  · intro hmade
    have hothers := otherFiles_sublist frontend
    refine List.nodup_append.mpr ⟨hmade, hothers.nodup (by decide), ?_⟩
    rintro path hmem _ hmem' rfl
    obtain ⟨file, hfile, rfl⟩ := List.mem_map.mp hmem
    obtain ⟨component, -, -, -, hpath⟩ := h.of_mem hfile
    exact hpath (hothers.subset hmem')

end MadeFrom

/-- The line of a converted file that a mapping leads to. -/
def LineMapping.goal (mapping : LineMapping) : String × Nat :=
  (mapping.converted, mapping.convertedLine)

/-- The mappings of a file lead to its first lines. -/
theorem mappingsOf_goals (sources : List SourceFile) (file : ConvertedFile) :
    ∃ count, (mappingsOf sources file).map LineMapping.goal =
      (List.range count).map fun i => (file.path, i + 1) := by
  unfold mappingsOf
  split
  · exact ⟨0, rfl⟩
  · rw [List.map_map]
    exact ⟨_, rfl⟩

/-- The mappings of a file lead to this file. -/
theorem path_of_mem_goals {sources : List SourceFile} {file : ConvertedFile} {goal : String × Nat}
    (h : goal ∈ (mappingsOf sources file).map LineMapping.goal) : goal.1 = file.path := by
  obtain ⟨count, hgoals⟩ := mappingsOf_goals sources file
  rw [hgoals] at h
  obtain ⟨i, -, rfl⟩ := List.mem_map.mp h
  rfl

/-- A file with lines has a mapping to its first line if it comes from one of the sources. -/
theorem first_mem_mappingsOf {sources : List SourceFile} {file : ConvertedFile}
    {source : SourceFile} (hsource : Outline.Project.lastFile? sources file.source = some source)
    (hlines : 0 < file.lines) :
    (file.path, 1) ∈ (mappingsOf sources file).map LineMapping.goal := by
  have hfound : sources.reverse.find? (·.path == file.source) = some source := hsource
  have hcount : 0 < min (SourceFile.lineCount source.content) file.lines :=
    Nat.lt_min.mpr ⟨Nat.succ_pos _, hlines⟩
  rw [mappingsOf, hfound, List.map_map]
  exact List.mem_map.mpr ⟨0, List.mem_range.mpr hcount, rfl⟩

/-- The mappings of all files lead to one file after the other. -/
theorem lineMappings_goals (sources : List SourceFile) (files : List ConvertedFile) :
    (lineMappings sources files).map LineMapping.goal =
      files.flatMap fun file => (mappingsOf sources file).map LineMapping.goal :=
  List.map_flatMap

/-- Files with different paths have mappings to different lines. -/
theorem nodup_goals {sources : List SourceFile} {files : List ConvertedFile}
    (h : (files.map ConvertedFile.path).Nodup) :
    ((lineMappings sources files).map LineMapping.goal).Nodup := by
  rw [lineMappings_goals, List.nodup_flatMap]
  constructor
  · intro file hfile
    obtain ⟨count, hgoals⟩ := mappingsOf_goals sources file
    rw [hgoals]
    exact List.nodup_range.map fun i j hij => by simpa using hij
  · refine (List.pairwise_map.mp h).imp fun {first second} hne goal hfirst hsecond => ?_
    exact hne ((path_of_mem_goals hfirst).symm.trans (path_of_mem_goals hsecond))

/-- Files of which each has a mapping to its first line have different paths if their mappings lead
to different lines. -/
theorem nodup_paths_of_goals {sources : List SourceFile} {made others : List ConvertedFile}
    (hmade : ∀ file ∈ made, (file.path, 1) ∈ (mappingsOf sources file).map LineMapping.goal)
    (h : ((lineMappings sources (made ++ others)).map LineMapping.goal).Nodup) :
    (made.map ConvertedFile.path).Nodup := by
  rw [lineMappings_goals, List.flatMap_append] at h
  obtain ⟨-, hdisjoint⟩ := List.nodup_flatMap.mp (List.nodup_append.mp h).1
  refine List.pairwise_map.mpr (hdisjoint.imp_of_mem fun {first second} hfirst hsecond hgoals => ?_)
  intro hpath
  have hmem := hmade second hsecond
  rw [← hpath] at hmem
  exact hgoals (hmade first hfirst) hmem

/-- A component comes from one of the files of its project. -/
theorem lastFile?_of_component {sources : List SourceFile} {framework : String}
    {component : Outline.Component}
    (h : component ∈ (Outline.Project.ofFiles sources framework).components) :
    ∃ source, Outline.Project.lastFile? sources component.file = some source := by
  cases hfamily : Outline.Family.ofName? framework with
  | none =>
    simp only [Outline.Project.ofFiles, hfamily] at h
    cases h
  | some family =>
    simp only [Outline.Project.ofFiles, hfamily] at h
    have hui : ∀ file ∈ sources.filter fun file => Outline.Role.ui.fits file.path,
        file ∈ sources := fun file hfile => (List.mem_filter.mp hfile).1
    obtain ⟨source, hsource, -⟩ := Outline.Project.mem_collect family.components
      Outline.Component.file (Outline.Component.Refers family) hui
      (fun _ _ _ => family.components_refer) component h
    exact ⟨source, hsource⟩

/-- What a conversion that comes to an end is made of. -/
theorem convert_made {source target : Value} {records : List Value} {result : Result}
    (h : convert source target records = .ok result) :
    ∃ sources frontend made, Frontend.ofStack target = .ok frontend ∧
      MadeFrom (Form.ofFrontend? frontend) result.project.components made ∧
      result.files = made ++ otherFiles frontend ∧
      result.mappings = lineMappings sources result.files ∧
      ∀ file ∈ made, (file.path, 1) ∈ (mappingsOf sources file).map LineMapping.goal := by
  unfold convert at h
  obtain ⟨framework, -, h⟩ := exists_of_bind_eq_ok h
  obtain ⟨_, -, h⟩ := exists_of_bind_eq_ok h
  obtain ⟨sources, -, h⟩ := exists_of_bind_eq_ok h
  obtain ⟨files, hfiles, h⟩ := exists_of_bind_eq_ok h
  obtain ⟨frontend, made, hfrontend, hmade, hall⟩ := convertOutline_makes hfiles
  obtain rfl := Except.ok.inj h
  refine ⟨sources, frontend, made, hfrontend, hmade, hall, rfl, fun file hfile => ?_⟩
  obtain ⟨component, hcomponent, hsource, hlines, -⟩ := hmade.of_mem hfile
  obtain ⟨found, hfound⟩ := lastFile?_of_component hcomponent
  exact first_mem_mappingsOf (hsource ▸ hfound) hlines

/-- The files of a conversion share no path exactly if its components share no stem. -/
theorem nodup_paths_iff_stems {source target : Value} {records : List Value} {result : Result}
    (h : convert source target records = .ok result) :
    ∃ frontend, Frontend.ofStack target = .ok frontend ∧
      ((result.files.map ConvertedFile.path).Nodup ↔
        StemsDiffer (Form.ofFrontend? frontend) result.project.components) := by
  obtain ⟨sources, frontend, made, hfrontend, hmade, hfiles, -, -⟩ := convert_made h
  rw [hfiles]
  exact ⟨frontend, hfrontend, hmade.nodup_all_iff frontend⟩

/-- No two mappings lead to one line exactly if the files share no path. -/
theorem nodup_goals_iff_paths {source target : Value} {records : List Value} {result : Result}
    (h : convert source target records = .ok result) :
    (result.mappings.map LineMapping.goal).Nodup ↔
      (result.files.map ConvertedFile.path).Nodup := by
  obtain ⟨sources, frontend, made, -, hmade, hfiles, hmappings, hfirst⟩ := convert_made h
  constructor
  · intro hgoals
    rw [hmappings, hfiles] at hgoals
    rw [hfiles, hmade.nodup_all_iff frontend, ← hmade.nodup_paths_iff]
    exact nodup_paths_of_goals hfirst hgoals
  · intro hpaths
    rw [hmappings]
    exact nodup_goals hpaths

/-- A conversion that is a success came to an end. -/
theorem convert_eq_of_success {source target : Value} {records : List Value}
    (h : (convertStack source target records).success = true) :
    convert source target records = .ok (convertStack source target records) := by
  unfold convertStack at h ⊢
  cases hresult : convert source target records with
  | ok result => rfl
  | error fault =>
    rw [hresult] at h
    cases h

/-- **Files share no path exactly if components share no stem.** Where a conversion is a success,
the paths of its files are different exactly if the stems of all components are, and just as little
do two line mappings lead to one line. -/
theorem convertStack_paths_nodup_iff {source target : Value} {records : List Value}
    (h : (convertStack source target records).success = true) :
    ∃ frontend, Frontend.ofStack target = .ok frontend ∧
      (((convertStack source target records).files.map ConvertedFile.path).Nodup ↔
        StemsDiffer (Form.ofFrontend? frontend)
          (convertStack source target records).project.components) ∧
      (((convertStack source target records).mappings.map LineMapping.goal).Nodup ↔
        StemsDiffer (Form.ofFrontend? frontend)
          (convertStack source target records).project.components) := by
  have hresult := convert_eq_of_success h
  obtain ⟨frontend, hfrontend, hstems⟩ := nodup_paths_iff_stems hresult
  exact ⟨frontend, hfrontend, hstems, (nodup_goals_iff_paths hresult).trans hstems⟩

/-- A stack that only says what its user interface is. -/
def frontendStack (name language : String) : Value :=
  .object [("frontend", .object [("name", .str name), ("language", .str language)])]

/-- A source file that declares one component. -/
def componentFile (path name : String) : Value :=
  .object
    [("path", .str path), ("content", .str ("function " ++ name ++ "() \x7b\x7d"))]

/-- Two components whose names differ have files with different paths. -/
theorem convertStack_paths_nodup_cards :
    let result := convertStack (frontendStack "React" "javascript") (frontendStack "Flutter" "dart")
      [componentFile "src/Card.jsx" "Card", componentFile "src/Cart.jsx" "Cart"]
    result.success = true ∧ (result.files.map ConvertedFile.path).Nodup ∧
      (result.mappings.map LineMapping.goal).Nodup := by
  intro result
  have hsuccess : result.success = true := rfl
  obtain ⟨frontend, hfrontend, hpaths, hgoals⟩ := convertStack_paths_nodup_iff hsuccess
  cases hfrontend
  have hstems : StemsDiffer (some .flutter) result.project.components := by
    rintro _ ⟨⟩
    have hstems : (result.project.components.map fun component =>
      Form.flutter.stem component.name) = ["card", "cart"] := rfl
    rw [hstems]
    decide
  exact ⟨hsuccess, hpaths.mpr hstems, hgoals.mpr hstems⟩

/-- Two components with one name have one path, although their files have different paths. -/
theorem equal_names_share_path :
    let records := [componentFile "src/a/Card.jsx" "Card", componentFile "src/b/Card.jsx" "Card"]
    let result := convertStack (frontendStack "React" "javascript") (frontendStack "Flutter" "dart")
      records
    (records.map (Value.field "path")) =
        [.ok (.str "src/a/Card.jsx"), .ok (.str "src/b/Card.jsx")] ∧
      result.success = true ∧ ¬(result.files.map ConvertedFile.path).Nodup ∧
      ¬(result.mappings.map LineMapping.goal).Nodup := by
  intro records result
  have hpaths : result.files.map ConvertedFile.path =
      ["lib/widgets/card.dart", "lib/widgets/card.dart", "pubspec.yaml"] := rfl
  have hshared : ¬(result.files.map ConvertedFile.path).Nodup := by
    rw [hpaths]
    decide
  have hsuccess : result.success = true := rfl
  refine ⟨rfl, hsuccess, hshared, ?_⟩
  rwa [nodup_goals_iff_paths (convert_eq_of_success hsuccess)]

end Restack.Stack
