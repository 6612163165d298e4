import Restack.Proofs.Conversion.Nodes
import Restack.Proofs.Style.Writing

/-!
# Files of comments

A node that is no component becomes a file of comments: its heading, its kind, what it carried, and
its name. A function carries its code line by line, and a style sheet its classes.
-/

namespace Restack

namespace Target

open Ir (Node)
open Ir.Lowering (sheetClasses)
open Style.Sheet (classComment)

/-- The lines that stand for a node which is no component, below its heading. -/
def stubLines (kind : String) (carried : List String) (name : String) : List String :=
  ["// UIR Node: " ++ kind, ""] ++ carried ++ ["// TODO: Implement " ++ name]

/-- The code of a function as comments. -/
def codeComments (code : String) : List String :=
  if code.isEmpty then []
  else
    "// Original implementation (javascript):" ::
      ((Text.lines code).map fun line => if line.isEmpty then "//" else "// " ++ line) ++ [""]

/-- The classes of a style sheet as comments. -/
def sheetComments (sheet : Style.Sheet) : List String :=
  if sheet.classes.isEmpty then [] else sheet.classes.map classComment ++ [""]

variable {node : Node} {name : String}

/-- The stub of a function is its code as comments, line by line. -/
theorem stub_function (hname : node.name = .str name) {code : String}
    (hbody : node.body = .function (.str code)) :
    stub node.toValue =
      .ok (Text.joined "\n" (stubLines "function" (codeComments code) name)) := by
  obtain ⟨_, _, origin⟩ := node
  cases hname
  cases hbody
  have hcode : commentedCode (Node.toValue ⟨.str name, .function (.str code), origin⟩) =
      .ok (codeComments code) := by
    unfold codeComments
    split
    · rename_i hempty
      change (if !code.isEmpty then _ else _) = _
      rw [hempty]
      rfl
    · rename_i hempty
      change (if !code.isEmpty then _ else _) = _
      rw [Bool.eq_false_iff.mpr hempty]
      rfl
  unfold stub
  rw [hcode]
  change Except.ok (Text.joined "\n" (_ ++ codeComments code ++ [] ++ _)) = _
  rw [List.append_nil]
  rfl

/-- A class is written as one comment with its settings. -/
theorem commentedClass_eq (entry : String × List (String × String)) :
    commentedClass entry.1
      (.object (entry.2.map fun property => (property.1, .str property.2))) =
        .ok (classComment entry) := by
  have hsettings : (entry.2.map fun property => (property.1, Value.str property.2)).map
      (fun setting => setting.1 ++ ": " ++ setting.2.display ++ ";") =
        entry.2.map Style.Sheet.settingText := by
    rw [List.map_map]
    rfl
  unfold commentedClass Value.entries
  change Except.ok (_ ++ Text.joined " " ((entry.2.map fun property =>
    (property.1, Value.str property.2)).map fun setting =>
      setting.1 ++ ": " ++ setting.2.display ++ ";") ++ _) = _
  rw [hsettings]
  refine congrArg Except.ok (String.toList_inj.mp ?_)
  simp [classComment, Style.Sheet.blockText]

/-- The stub of a style sheet is its classes as comments, one by one. -/
theorem stub_stylesheet (hname : node.name = .str name) {sheet : Style.Sheet}
    (hbody : node.body = .stylesheet (sheetClasses sheet)) :
    stub node.toValue =
      .ok (Text.joined "\n" (stubLines "stylesheet" (sheetComments sheet) name)) := by
  obtain ⟨_, _, origin⟩ := node
  cases hname
  cases hbody
  have hentries : (Node.toValue ⟨.str name, .stylesheet (sheetClasses sheet), origin⟩).entriesOf
      "styles" = .ok (sheetClasses sheet) := Value.entriesOf_object rfl
  have hlines : (sheetClasses sheet).mapM (fun entry => commentedClass entry.1 entry.2) =
      .ok (sheet.classes.map classComment) := by
    rw [sheetClasses, List.mapM_map]
    simp only [Function.comp_def, commentedClass_eq]
    exact List.mapM_pure
  have hclasses : commentedClasses
      (Node.toValue ⟨.str name, .stylesheet (sheetClasses sheet), origin⟩) =
        .ok (sheetComments sheet) := by
    unfold commentedClasses
    rw [hentries]
    change ((sheetClasses sheet).mapM (fun entry => commentedClass entry.1 entry.2) >>=
      fun lines => _) = _
    rw [hlines]
    unfold sheetClasses sheetComments
    cases sheet.classes <;> rfl
  unfold stub
  rw [hclasses]
  rfl

/-- The file of a node that is no component is its heading, unless comments are switched off, and
what stands for the node. -/
theorem Platform.emit_stub_content (platform : Platform) (hname : node.name = .str name)
    (hcomponent : node.isComponent = false) (h : node.body.Sound) {options : Value}
    (hoptions : options.IsRecord) {rest : String} (hstub : stub node.toValue = .ok rest) :
    ∃ file top, platform.emit node.toValue options = .ok file ∧ file.content = top ++ rest ∧
      (top = "" ∨ top = "// Converted from " ++ node.origin.file ++ "\n") := by
  have hfield : node.toValue.field "name" = .ok (.str name) := by rw [node.field_name, hname]
  obtain ⟨file, hfile, -, hcontent⟩ := platform.emit_stub_isOk hfield hcomponent h hoptions
  unfold stubFile at hcontent
  rw [hstub] at hcontent
  rcases node.heading_eq hoptions with htop | htop
  · rw [htop] at hcontent
    exact ⟨file, _, hfile, (Except.ok.inj hcontent).symm, .inl rfl⟩
  · rw [htop] at hcontent
    exact ⟨file, _, hfile, (Except.ok.inj hcontent).symm, .inr rfl⟩

end Target

end Restack
