import Restack.Proofs.Conversion.Nodes
import Restack.Script.Reader

/-!
# Paths of the files of a conversion

No file of a conversion takes the path of another exactly if no two nodes have the same place, and
none has that of the file that the project starts from. Names that differ do not suffice: file names
keep less of a name than what tells nodes apart, and nothing is done about two that come to be the
same.
-/

namespace Restack

namespace Conversion

open Target (File Place Platform)

namespace Outcome

/-- A stage passes on what comes of each item in turn. -/
theorem gather_map {α β γ δ : Type} {step : β → Except Fault (Outcome α)} {value : δ → β}
    {f : α → γ} {found : δ → List γ} {items : List δ}
    (h : ∀ item ∈ items,
      ∃ outcome, step (value item) = .ok outcome ∧ outcome.passed.map f = found item) :
    ∃ outcome, gather step (items.map value) = .ok outcome ∧
      outcome.passed.map f = items.flatMap found := by
  induction items with
  | nil => exact ⟨empty, rfl, rfl⟩
  | cons item rest ih =>
    obtain ⟨⟨first, hfirst, hfound⟩, hrest⟩ := List.forall_mem_cons.mp h
    obtain ⟨others, hothers, hmore⟩ := ih hrest
    refine ⟨first.append others, ?_, ?_⟩
    · rw [List.map_cons, gather, hfirst, hothers]
      rfl
    · rw [append, List.map_append, hfound, hmore, List.flatMap_cons]

end Outcome

variable {options tests : Value} {platform : Platform}

/-- The place of a node among the files of a project. -/
def placeOf (platform : Platform) (node : Ir.Node) : Place :=
  platform.place node.isComponent node.name.display

/-- The nodes of source files. -/
def nodesOf (parser : Script.Parser) (source : String) (files : List Value) :
    Except Fault (List Ir.Node) := do
  let parsed ← parseSources parser files
  return (← lowerReports source parsed.passed).passed

/-- A node has a file in its place, and a test there if tests are wanted. -/
theorem emitNode_paths {node : Ir.Node} (h : node.Sound) (hoptions : options.IsRecord)
    (htests : options.get "generateTests" = .ok tests) :
    ∃ outcome, emitNode platform options node.toValue = .ok outcome ∧
      outcome.passed.map File.path =
        (placeOf platform node).paths platform.layout tests.truthy := by
  have hname : node.toValue.field "name" = .ok (.str node.name.display) := by
    rw [node.field_name, ← h.name]
  obtain ⟨file, hfile, hpath⟩ := platform.emit_isOk hname h.body hoptions
  have hwanted : ∃ found, emitNode.wantedTest platform options node.toValue = .ok found ∧
      file.path :: found.map File.path =
        (placeOf platform node).paths platform.layout tests.truthy := by
    refine bind_isOk_and_of_eq htests (bind_isOk_and_of_eq node.isComponent_toValue ?_)
    rw [Place.paths, placeOf, ← hpath]
    cases htruthy : tests.truthy with
    | false => exact ⟨[], rfl, rfl⟩
    | true =>
      cases hcomponent : node.isComponent with
      | false =>
        refine ⟨[], rfl, ?_⟩
        cases platform <;> rfl
      | true =>
        obtain ⟨test, htest, htestPath⟩ := platform.test_isOk hname hcomponent
        refine bind_isOk_and_of_eq htest ⟨[test], rfl, ?_⟩
        rw [htestPath]
        rfl
  obtain ⟨found, hfound, hpaths⟩ := hwanted
  unfold emitNode
  rw [hfile]
  simp only [hfound]
  exact ⟨_, rfl, hpaths⟩

/-- The paths of the files that a project has beside those of its nodes. -/
theorem projectFiles_paths (hoptions : options.IsRecord) (source target : String)
    (hplatform : Platform.ofName? target = some platform) (parsed nodes : Nat)
    (moment : Time.Moment) :
    ∃ files, projectFiles source target options parsed nodes moment = .ok files ∧
      (files.map File.path).Perm
        (platform.startPlaces.map (Place.path platform.layout) ++ platform.fixedPaths) := by
  have hconfig : ∃ files, platform.configFiles options = .ok files ∧
      (files.map File.path ++ ["README.md"]).Perm
        (platform.startPlaces.map (Place.path platform.layout) ++ platform.fixedPaths) := by
    cases platform with
    | flutter => exact ⟨_, rfl, by decide⟩
    | compose => exact ⟨_, rfl, by decide⟩
    | react =>
      refine bind_isOk_and (hoptions.get_ok "generateTests") fun tests => ⟨_, rfl, ?_⟩
      have hpaths : ["package.json", "src/index.tsx", "README.md"].Perm
          (Platform.react.startPlaces.map (Place.path Platform.react.layout) ++
            Platform.react.fixedPaths) := by decide
      exact hpaths
  obtain ⟨files, hfiles, hpaths⟩ := hconfig
  have hfiles' : Target.configFiles target options = .ok files := by
    rw [Target.configFiles, hplatform]
    exact hfiles
  refine bind_isOk_and_of_eq hfiles' ⟨_, rfl, ?_⟩
  rw [List.map_append]
  exact hpaths

/-- All nodes have files in their places. -/
theorem emitNodes_paths {nodes : List Ir.Node} (h : ∀ node ∈ nodes, node.Sound)
    (hoptions : options.IsRecord) (htests : options.get "generateTests" = .ok tests)
    {target : String} (hplatform : Platform.ofName? target = some platform) :
    ∃ outcome, emitNodes target options (nodes.map Ir.Node.toValue) = .ok outcome ∧
      outcome.passed.map File.path =
        (nodes.map (placeOf platform)).flatMap (Place.paths platform.layout tests.truthy) := by
  rw [emitNodes, hplatform, List.flatMap_map]
  exact Outcome.gather_map fun node hnode => emitNode_paths (h node hnode) hoptions htests

/-- The paths of the files of a conversion are those for its nodes, and those that each project
for the target has. -/
theorem transpile_paths (parser : Script.Parser) {files : List Value}
    (hfiles : ∀ file ∈ files, file.IsSourceFile) (hoptions : options.IsRecord)
    (source target : String) (hplatform : Platform.ofName? target = some platform)
    (moment : Time.Moment) :
    ∃ nodes withTests, nodesOf parser source files = .ok nodes ∧ (∀ node ∈ nodes, node.Sound) ∧
      ((transpile parser files source target options moment).files.map File.path).Perm
        ((nodes.map (placeOf platform)).flatMap (Place.paths platform.layout withTests) ++
          (platform.startPlaces.map (Place.path platform.layout) ++ platform.fixedPaths)) := by
  obtain ⟨tests, htests⟩ := hoptions.get_ok "generateTests"
  obtain ⟨parsed, lowered, hparsed, hlowered, hsound⟩ := lowered_isOk parser hfiles source
  obtain ⟨emitted, hemitted, hnodes⟩ := emitNodes_paths hsound hoptions htests hplatform
  obtain ⟨more, hmore, hothers⟩ := projectFiles_paths hoptions source target hplatform
    parsed.passed.length lowered.passed.length moment
  have hnodesOf : ∃ nodes, nodesOf parser source files = .ok nodes ∧ nodes = lowered.passed :=
    bind_isOk_and_of_eq hparsed (bind_isOk_and_of_eq hlowered ⟨_, rfl, rfl⟩)
  have hconverted : ∃ result, convert parser files source target options moment = .ok result ∧
      result.files = emitted.passed ++ more := by
    refine bind_isOk_and_of_eq hparsed (bind_isOk_and_of_eq hlowered ?_)
    exact bind_isOk_and_of_eq hemitted (bind_isOk_and_of_eq hmore ⟨_, rfl, rfl⟩)
  obtain ⟨_, hnodesOf, rfl⟩ := hnodesOf
  obtain ⟨result, hresult, hresultFiles⟩ := hconverted
  refine ⟨lowered.passed, tests.truthy, hnodesOf, hsound, ?_⟩
  rw [transpile, hresult, ← hnodes]
  simp only [hresultFiles, List.map_append]
  exact hothers.append_left _

/-- **Files share no path exactly if nodes share no place.** Whatever gives scripts their trees,
source files with any options have nodes, and the paths of all files of their conversion are
different exactly if the places of the nodes are, also from that of the file that the project starts
from. -/
theorem transpile_paths_nodup_iff (parser : Script.Parser) {files : List Value}
    (hfiles : ∀ file ∈ files, file.IsSourceFile) (hoptions : options.IsRecord)
    (source target : String) (hplatform : Platform.ofName? target = some platform)
    (moment : Time.Moment) :
    ∃ nodes, nodesOf parser source files = .ok nodes ∧
      (((transpile parser files source target options moment).files.map File.path).Nodup ↔
        (nodes.map (placeOf platform) ++ platform.startPlaces).Nodup) := by
  obtain ⟨nodes, withTests, hnodes, hsound, hpaths⟩ :=
    transpile_paths parser hfiles hoptions source target hplatform moment
  refine ⟨nodes, hnodes, ?_⟩
  rw [hpaths.nodup_iff, Platform.nodup_files_iff]
  intro place hplace
  obtain ⟨node, hnode, rfl⟩ := List.mem_map.mp hplace
  exact Platform.allows_place (hsound node hnode).capital

/-- A style sheet without classes. -/
def emptySheet (path : String) : Value :=
  .object [("path", .str path), ("content", .str "")]

/-- Two style sheets whose names stay different have files with different paths. -/
theorem transpile_paths_nodup_sheets :
    ((transpile Script.parse [emptySheet "shop/cart.css", emptySheet "shop/basket.css"] "react"
      "flutter" (.object []) ⟨2024, 1, 1, 0, 0, 0, 0⟩).files.map File.path).Nodup := by
  have hfiles : ∀ file ∈ [emptySheet "shop/cart.css", emptySheet "shop/basket.css"],
      file.IsSourceFile := by
    intro file hfile
    simp only [List.mem_cons, List.not_mem_nil, or_false] at hfile
    rcases hfile with rfl | rfl <;> exact ⟨⟨_, rfl⟩, ⟨_, rfl⟩⟩
  obtain ⟨nodes, hnodes, hpaths⟩ := transpile_paths_nodup_iff Script.parse hfiles ⟨[], rfl⟩
    "react" "flutter" rfl ⟨2024, 1, 1, 0, 0, 0, 0⟩
  cases hnodes
  exact hpaths.mpr (by decide)

/-- Two style sheets have one path although their names differ: the slash in one and the hyphen in
the other are the same in the name of a file. -/
theorem sheets_share_path :
    ∃ nodes, nodesOf Script.parse "react" [emptySheet "shop/cart.css", emptySheet "shop-cart.css"] =
        .ok nodes ∧
      (nodes.map fun node => (node.kindName, node.name.display)).Nodup ∧
      ¬((transpile Script.parse [emptySheet "shop/cart.css", emptySheet "shop-cart.css"] "react"
        "flutter" (.object []) ⟨2024, 1, 1, 0, 0, 0, 0⟩).files.map File.path).Nodup := by
  refine ⟨_, rfl, by decide, ?_⟩
  have hpaths : (transpile Script.parse [emptySheet "shop/cart.css", emptySheet "shop-cart.css"]
      "react" "flutter" (.object []) ⟨2024, 1, 1, 0, 0, 0, 0⟩).files.map File.path =
        ["lib/shop_cart_css.dart", "lib/shop_cart_css.dart", "pubspec.yaml", "lib/main.dart",
          "README.md"] := rfl
  rw [hpaths]
  decide

end Conversion

end Restack
