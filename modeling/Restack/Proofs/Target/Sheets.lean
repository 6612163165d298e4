import Restack.Proofs.Target.Stubs

/-!
# Style sheets that come back

The file of a style sheet holds its classes as comments, and nothing else in it opens a brace. So
the same style sheet is read from the file, on every platform and with all options.
-/

namespace Restack

namespace Target

open Ir.Lowering (sheetClasses sheetName sheetNode nodes_sheet sheetNode_sound)
open Style.Sheet (classComment)

/-- The file of a style sheet has the comments of its classes in the middle. -/
theorem sheetStub_eq (sheet : Style.Sheet) (name : String) :
    (Text.joined "\n" (stubLines "stylesheet" (sheetComments sheet) name)).toList =
      "// UIR Node: stylesheet\n\n".toList ++
        (sheet.classes.flatMap (fun entry => (classComment entry).toList ++ ['\n']) ++
          ((if sheet.classes.isEmpty then "" else "\n") ++ "// TODO: Implement " ++
            name).toList) := by
  rw [Text.joined, String.toList_ofList, stubLines, List.map_append, List.map_singleton,
    Text.joinWith_concat]
  unfold sheetComments
  cases hclasses : sheet.classes.isEmpty with
  | true => simp [List.isEmpty_iff.mp hclasses]
  | false => simp [List.flatMap_map]

/-- There is no brace in the name of a style sheet if there is none in its path. -/
theorem brace_not_mem_sheetName {path : String} (h : '\x7b' ∉ path.toList) :
    '\x7b' ∉ (sheetName path).toList := by
  unfold sheetName
  split
  · exact h
  · decide

/-- The style sheet of a file is read from what is emitted for it, unless a path opens a brace. -/
theorem ofText_emit_sheet (path file framework code : String) (hpath : '\x7b' ∉ path.toList)
    (hfile : '\x7b' ∉ file.toList) (platform : Platform) {options : Value}
    (hoptions : options.IsRecord) :
    ∃ node emitted, Ir.Lowering.nodes (Style.Sheet.report path code) file framework = .ok [node] ∧
      platform.emit node.toValue options = .ok emitted ∧
      Style.Sheet.ofText emitted.content = Style.Sheet.ofText code := by
  let sheet := Style.Sheet.ofText code
  let node := sheetNode file framework path sheet
  have hsound := sheetNode_sound file framework path sheet
  have hstub := stub_stylesheet (show node.name = .str (sheetName path) from rfl)
    (show node.body = .stylesheet (sheetClasses sheet) from rfl)
  obtain ⟨emitted, top, hemit, hcontent, htop⟩ :=
    platform.emit_stub_content (show node.name = .str (sheetName path) from rfl) rfl hsound.body
      hoptions hstub
  refine ⟨node, emitted, nodes_sheet file framework path code, hemit, ?_⟩
  have hbefore : '\x7b' ∉ top.toList ++ "// UIR Node: stylesheet\n\n".toList := by
    rcases htop with rfl | rfl
    · decide
    · simp [node, sheetNode, hfile]
  have hafter : '\x7b' ∉ ((if sheet.classes.isEmpty then "" else "\n") ++
      "// TODO: Implement " ++ sheetName path).toList := by
    split <;> simp [brace_not_mem_sheetName hpath]
  have htext : emitted.content = String.ofList (top.toList ++
      "// UIR Node: stylesheet\n\n".toList ++
        (sheet.classes.flatMap (fun entry => (classComment entry).toList ++ ['\n']) ++
          ((if sheet.classes.isEmpty then "" else "\n") ++ "// TODO: Implement " ++
            sheetName path).toList)) := by
    rw [hcontent, List.append_assoc, ← sheetStub_eq, ← String.toList_append, String.ofList_toList]
  rw [htext]
  exact Style.Sheet.ofText_classComments (Style.Sheet.ofText_wellFormed code) hbefore hafter

/-- A style sheet with a value over two lines, a value with a colon, and no value at all. -/
def cardSheet : String :=
  ".card \x7b margin: 1px\n 2px; background: url(a:b) \x7d " ++
    "@media print \x7b .wide \x7b width : ;\x7d\x7d"

/-- The classes of a style sheet are read back from its file, a line feed within a value and a class
without a value among them. -/
theorem ofText_emit_sheet_card : ∃ node emitted,
    Ir.Lowering.nodes (Style.Sheet.report "card.css" cardSheet) "card.css" "react" = .ok [node] ∧
      Platform.compose.emit node.toValue (.object []) = .ok emitted ∧
      (Style.Sheet.ofText emitted.content).classes =
        [("card", [("margin", "1px\n 2px"), ("background", "url(a:b)")]),
          ("wide", [("width", "")])] := by
  obtain ⟨node, emitted, hnode, hemit, hsheet⟩ := ofText_emit_sheet "card.css" "card.css" "react"
    cardSheet (by decide) (by decide) .compose (show (Value.object []).IsRecord from ⟨_, rfl⟩)
  refine ⟨node, emitted, hnode, hemit, ?_⟩
  rw [hsheet]
  rfl

end Target

end Restack
