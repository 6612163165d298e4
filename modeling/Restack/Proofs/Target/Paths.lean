import Mathlib.Data.List.Nodup
import Restack.Target.Platform

/-!
# Paths of generated files

The file of a node stands in the directory for its kind and is named for the node. `Place` is what
is left of a node in that path: whether it is a component, and its name as far as file names tell
names apart. Two files of one project have the same path only if they have the same place, so that
a project has no two files of one path exactly if no place is taken twice.
-/

namespace Restack.Target

open Restack.Text

/-- The directories of the files for nodes, and the endings of their names. -/
structure Layout where
  /-- The directory of all nodes. -/
  base : String
  stubEnd : String
  /-- The directory of components within that of all nodes. -/
  inner : String
  componentEnd : String
  testBase : String
  testEnd : String

/-- A node as the path of its file shows it. -/
inductive Place where
  | component (stem : String)
  | stub (stem : String)
deriving DecidableEq, Repr

namespace Place

/-- The path of the file for a node. -/
def path (layout : Layout) : Place → String
  | .component stem => layout.base ++ layout.inner ++ stem ++ layout.componentEnd
  | .stub stem => layout.base ++ stem ++ layout.stubEnd

/-- The path of the test of a node: only components have one. -/
def testPath? (layout : Layout) : Place → Option String
  | .component stem => some (layout.testBase ++ stem ++ layout.testEnd)
  | .stub _ => none

/-- The paths of the files for a node, with its test if tests are wanted. -/
def paths (layout : Layout) (withTests : Bool) (place : Place) : List String :=
  place.path layout :: if withTests then (place.testPath? layout).toList else []

/-- A place has its own path, and perhaps that of a test. -/
theorem mem_paths {layout : Layout} {withTests : Bool} {place : Place} {path : String}
    (h : path ∈ place.paths layout withTests) :
    path = place.path layout ∨ place.testPath? layout = some path := by
  unfold paths at h
  rcases List.mem_cons.mp h with h | h
  · exact .inl h
  · split at h
    · exact .inr (Option.mem_toList.mp h)
    · cases h

end Place

namespace Platform

/-- Where the files of nodes go. -/
def layout : Platform → Layout
  | .flutter =>
    ⟨"lib/", ".dart", "widgets/", "_widget.dart", "test/widgets/", "_widget_test.dart"⟩
  | .compose =>
    ⟨"app/src/main/java/com/example/app/", ".kt", "ui/", "Screen.kt",
      "app/src/androidTest/java/com/example/app/ui/", "ScreenTest.kt"⟩
  | .react => ⟨"src/", ".ts", "components/", ".tsx", "src/components/__tests__/", ".test.tsx"⟩

/-- The place of a node with a name: names of files are in small letters for Flutter, and keep what
an identifier may hold where the node is no component. -/
def place (platform : Platform) (isComponent : Bool) (name : String) : Place :=
  match platform, isComponent with
  | .flutter, true => .component (snakeCased name)
  | .flutter, false => .stub (snakeCased (identifierOf name))
  | .compose, true | .react, true => .component name
  | .compose, false | .react, false => .stub (identifierOf name)

/-- The place of the file that a project starts from, where nodes of the project can have it. -/
def startPlaces : Platform → List Place
  | .flutter => [.stub "main"]
  | .compose => [.stub "MainActivity"]
  | .react => []

/-- The paths of the other files that each project has. -/
def fixedPaths : Platform → List String
  | .flutter => ["README.md", "pubspec.yaml"]
  | .compose => ["README.md", "build.gradle.kts"]
  | .react => ["README.md", "package.json", "src/index.tsx"]

/-- A place that a node can have: file names of nodes that are no components have no slash in them,
and components are not called after the directory of tests. -/
def Allows : Platform → Place → Prop
  | _, .stub stem => '/' ∉ stem.toList
  | .react, .component stem => stem.toList.head? ≠ some '_'
  | _, .component _ => True

variable {platform : Platform} {place other : Place}

/-- The place of the file that a project starts from is one that a node can have. -/
theorem allows_startPlaces : ∀ place ∈ platform.startPlaces, platform.Allows place := by
  cases platform with
  | flutter => simp [startPlaces, Allows]
  | compose => simp [startPlaces, Allows]
  | react => simp [startPlaces]

/-- There are no slashes in names in small letters. -/
theorem slash_not_mem_snakeCased (name : String) : '/' ∉ (snakeCased name).toList := by
  rw [snakeCased, snakeCase, String.toList_ofList]
  intro hmem
  obtain ⟨c, -, hc⟩ := List.mem_map.mp hmem
  split at hc
  · rename_i hsmall
    rw [hc] at hsmall
    exact absurd hsmall (by decide)
  · exact absurd hc (by decide)

/-- There are no slashes in the identifiers of names. -/
theorem slash_not_mem_identifierOf (name : String) : '/' ∉ (identifierOf name).toList := by
  rw [identifierOf, safeIdentifier, String.toList_ofList]
  intro hmem
  obtain ⟨c, -, hc⟩ := List.mem_map.mp hmem
  split at hc
  · rename_i hletter
    rw [hc] at hletter
    exact absurd hletter (by decide)
  · exact absurd hc (by decide)

/-- Each node has a place that a node can have. -/
theorem allows_place {isComponent : Bool} {name : String}
    (hcapital : isComponent = true → isUpper (name.toList.take 1) = true) :
    platform.Allows (platform.place isComponent name) := by
  cases isComponent with
  | true =>
    cases platform with
    | flutter => trivial
    | compose => trivial
    | react =>
      have hhead : name.toList.head? ≠ some '_' := by
        intro hhead
        have hfirst : name.toList.take 1 = ['_'] := by
          rw [List.take_one, hhead]
          rfl
        have hupper := hcapital rfl
        rw [hfirst] at hupper
        exact absurd hupper (by decide)
      exact hhead
  | false =>
    cases platform with
    | flutter => exact slash_not_mem_snakeCased _
    | compose => exact slash_not_mem_identifierOf _
    | react => exact slash_not_mem_identifierOf _

/-- The file of a component is in a directory of its own. -/
theorem path_component_ne_stub {stem name : String} (hname : '/' ∉ name.toList) :
    (Place.component stem).path platform.layout ≠ (Place.stub name).path platform.layout := by
  intro h
  have hmem : '/' ∈ (platform.layout.inner ++ stem ++ platform.layout.componentEnd).toList := by
    cases platform <;> simp [layout]
  have heq : platform.layout.inner ++ stem ++ platform.layout.componentEnd =
      name ++ platform.layout.stubEnd := by
    simpa [Place.path, String.append_assoc] using h
  rw [heq, String.toList_append, List.mem_append] at hmem
  rcases hmem with hmem | hmem
  · exact hname hmem
  · cases platform <;> exact absurd hmem (by decide)

/-- The path of a file tells the place of its node. -/
theorem path_inj (hplace : platform.Allows place) (hother : platform.Allows other)
    (h : place.path platform.layout = other.path platform.layout) : place = other := by
  cases place with
  | component stem =>
    cases other with
    | component name => simpa [Place.path] using h
    | stub name => exact absurd h (path_component_ne_stub hother)
  | stub stem =>
    cases other with
    | component name => exact absurd h.symm (path_component_ne_stub hplace)
    | stub name => simpa [Place.path] using h

/-- The test of a component tells its place. -/
theorem testPath?_inj {path : String} (hplace : place.testPath? platform.layout = some path)
    (hother : other.testPath? platform.layout = some path) : place = other := by
  cases place with
  | component stem =>
    cases other with
    | component name =>
      have h := hplace.trans hother.symm
      simpa [Place.testPath?] using h
    | stub name => cases hother
  | stub stem => cases hplace

/-- No test stands where a node does. -/
theorem path_ne_testPath? (hplace : platform.Allows place) :
    some (place.path platform.layout) ≠ other.testPath? platform.layout := by
  intro h
  cases other with
  | stub name => cases h
  | component name =>
    have hchars := congrArg String.toList (Option.some.inj h)
    cases platform with
    | flutter => cases place <;> simp [Place.path, layout] at hchars
    | compose => cases place <;> simp [Place.path, layout] at hchars
    | react =>
      cases place with
      | component stem =>
        -- The directory of tests stands where the name of a component would begin.
        have hstem : stem.toList ++ ".tsx".toList =
            "__tests__/".toList ++ name.toList ++ ".test.tsx".toList := by
          simpa [Place.path, layout] using hchars
        have hhead : stem.toList.head? ≠ some '_' := hplace
        cases hletters : stem.toList with
        | nil => simp [hletters] at hstem
        | cons c rest =>
          rw [hletters] at hstem hhead
          have hc : c = '_' := by
            simp at hstem
            exact hstem.1
          exact hhead (by rw [hc]; rfl)
      | stub stem =>
        have hstem : stem.toList ++ ".ts".toList =
            "components/__tests__/".toList ++ name.toList ++ ".test.tsx".toList := by
          simpa [Place.path, layout] using hchars
        have hmem : '/' ∈ stem.toList ++ ".ts".toList := by
          rw [hstem]
          simp
        exact (List.mem_append.mp hmem).elim hplace (by decide)

/-- No place has the path of one of the fixed files. -/
theorem path_not_mem_fixedPaths (place : Place) :
    place.path platform.layout ∉ platform.fixedPaths := by
  intro hmem
  cases platform with
  | flutter =>
    have hhead : (place.path flutter.layout).toList.head? = some 'l' := by
      cases place <;> simp [Place.path, layout]
    have hother : ∀ path ∈ flutter.fixedPaths, path.toList.head? ≠ some 'l' := by decide
    exact hother _ hmem hhead
  | compose =>
    have hhead : (place.path compose.layout).toList.head? = some 'a' := by
      cases place <;> simp [Place.path, layout]
    have hother : ∀ path ∈ compose.fixedPaths, path.toList.head? ≠ some 'a' := by decide
    exact hother _ hmem hhead
  | react =>
    cases place with
    | component stem => simp [fixedPaths, Place.path, layout, ← String.toList_inj] at hmem
    | stub stem =>
      have hindex : stem.toList ++ ".ts".toList = "index.tsx".toList := by
        simpa [fixedPaths, Place.path, layout, ← String.toList_inj] using hmem
      have hlast := congrArg List.getLast? hindex
      simp at hlast

/-- No test has the path of one of the fixed files. -/
theorem testPath?_not_mem_fixedPaths {path : String}
    (h : place.testPath? platform.layout = some path) : path ∉ platform.fixedPaths := by
  intro hmem
  cases place with
  | stub stem => cases h
  | component stem =>
    cases h
    cases platform <;> simp [fixedPaths, layout, ← String.toList_inj] at hmem

/-- The other files of a project stand where no node and no test does. -/
theorem fixedPaths_disjoint (withTests : Bool) :
    ∀ path ∈ platform.fixedPaths, path ∉ place.paths platform.layout withTests := by
  intro path hpath hmem
  rcases Place.mem_paths hmem with rfl | htest
  · exact path_not_mem_fixedPaths place hpath
  · exact testPath?_not_mem_fixedPaths htest hpath

/-- The files of a node have different paths. -/
theorem nodup_paths (hplace : platform.Allows place) (withTests : Bool) :
    (place.paths platform.layout withTests).Nodup := by
  unfold Place.paths
  split
  · refine List.nodup_cons.mpr ⟨?_, ?_⟩
    · intro hmem
      exact path_ne_testPath? hplace (Option.mem_toList.mp hmem).symm
    · cases place.testPath? platform.layout <;> simp
  · simp

/-- Two nodes share no path unless they have the same place. -/
theorem disjoint_paths (hplace : platform.Allows place) (hother : platform.Allows other)
    (withTests : Bool) (hne : place ≠ other) :
    (place.paths platform.layout withTests).Disjoint (other.paths platform.layout withTests) := by
  intro path hmem hmem'
  rcases Place.mem_paths hmem with rfl | htest
  · rcases Place.mem_paths hmem' with heq | htest
    · exact hne (path_inj hplace hother heq)
    · exact path_ne_testPath? hplace htest.symm
  · rcases Place.mem_paths hmem' with rfl | htest'
    · exact path_ne_testPath? hother htest.symm
    · exact hne (testPath?_inj htest htest')

/-- Each node has its own file among the files for all nodes. -/
theorem map_path_sublist (places : List Place) (withTests : Bool) :
    (places.map (Place.path platform.layout)).Sublist
      (places.flatMap (Place.paths platform.layout withTests)) := by
  induction places with
  | nil => exact .slnil
  | cons place rest ih =>
    rw [List.map_cons, List.flatMap_cons, Place.paths, List.cons_append]
    exact .cons_cons _ (ih.trans (List.sublist_append_right _ _))

/-- **Files share no path exactly if nodes share no place.** -/
theorem nodup_files_iff {places : List Place} (h : ∀ place ∈ places, platform.Allows place)
    (withTests : Bool) :
    (places.flatMap (Place.paths platform.layout withTests) ++
        (platform.startPlaces.map (Place.path platform.layout) ++ platform.fixedPaths)).Nodup ↔
      (places ++ platform.startPlaces).Nodup := by
  constructor
  · intro hnodup
    refine List.Nodup.of_map (Place.path platform.layout) (hnodup.sublist ?_)
    rw [List.map_append]
    exact (map_path_sublist places withTests).append (List.sublist_append_left _ _)
  · intro hnodup
    obtain ⟨hplaces, -, hstart⟩ := List.nodup_append.mp hnodup
    have hnodes : (places.flatMap (Place.paths platform.layout withTests)).Nodup := by
      refine List.nodup_flatMap.mpr ⟨fun place hplace => nodup_paths (h place hplace) withTests, ?_⟩
      exact hplaces.imp_of_mem fun hplace hother hne =>
        disjoint_paths (h _ hplace) (h _ hother) withTests hne
    have hothers :
        (platform.startPlaces.map (Place.path platform.layout) ++ platform.fixedPaths).Nodup := by
      cases platform <;> decide
    refine List.nodup_append.mpr ⟨hnodes, hothers, ?_⟩
    rintro path hmem _ hmem' rfl
    obtain ⟨place, hplace, hpath⟩ := List.mem_flatMap.mp hmem
    rcases List.mem_append.mp hmem' with hmem' | hmem'
    · obtain ⟨start, hmemStart, rfl⟩ := List.mem_map.mp hmem'
      exact disjoint_paths (h place hplace) (allows_startPlaces start hmemStart) withTests
        (hstart place hplace start hmemStart) hpath List.mem_cons_self
    · exact fixedPaths_disjoint withTests path hmem' hpath

end Platform

end Restack.Target
