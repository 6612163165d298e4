import Restack.Proofs.Script.ComponentMarkup
import Restack.Proofs.Script.DeclaredNames
import Restack.Proofs.Target.Stubs
import Restack.Proofs.Text.CommentLines

/-!
# Which files are nothing but comments

The file of a function or of a style sheet begins each of its lines with the sign of a comment,
except where what the node carries goes on to a further line by itself. The code of a function is
taken apart at its line feeds, but the values of a style sheet are not.
-/

namespace Restack

namespace Target

open Text (EndsLines OnlyComments ContinuesInComments)
open Script.Component (nameTree noParams returning)
open Style.Sheet (classComment settingText blockText)
open Ir.Lowering (nodes_failure nodes_script nodes_sheet routineNode routineNode_sound sheetClasses
  sheetName sheetNode sheetNode_sound)

/-- The texts that a file does not take apart: the lines of the code of a function, and the values
of a style sheet. -/
def carriedTexts : Ir.Body → List String
  | .component .. => []
  | .function code => Text.lines code.display
  | .stylesheet classes =>
    classes.flatMap fun entry =>
      match entry.2 with
      | .object settings => settings.map fun setting => setting.2.display
      | _ => []

/-- Which texts a style sheet carries: all of its values. -/
theorem forall_mem_carriedTexts_sheet (sheet : Style.Sheet) (p : String → Prop) :
    (∀ text ∈ carriedTexts (.stylesheet (sheetClasses sheet)), p text) ↔
      ∀ entry ∈ sheet.classes, ∀ setting ∈ entry.2, p setting.2 := by
  simp only [carriedTexts, sheetClasses, List.flatMap_map, List.map_map, List.forall_mem_flatMap,
    List.forall_mem_map]
  rfl

section Ends

variable {ends : Char → Bool} (hends : EndsLines ends)
include hends

/-- A line that begins with the sign of a comment. -/
theorem onlyComments_headed (front rest : String)
    (hfront : (front.toList.all fun c => c == ' ' || !Text.isBlank c) = true) :
    OnlyComments ends ("//" ++ front ++ rest).toList ↔ ContinuesInComments ends rest.toList := by
  rw [← Text.onlyComments_comment_append hends hfront, String.toList_append, String.toList_append]
  rfl

/-- The lines around what a node carries are comments. -/
theorem onlyComments_stubLines {kind name : String} (carried : List String)
    (hkind : ∀ c ∈ kind.toList, ends c = false) (hname : ∀ c ∈ name.toList, ends c = false) :
    OnlyComments ends (Text.joined "\n" (stubLines kind carried name)).toList ↔
      ∀ line ∈ carried, OnlyComments ends line.toList := by
  have hfirst : OnlyComments ends ("// UIR Node: " ++ kind).toList :=
    (onlyComments_headed hends " UIR Node: " kind rfl).mpr
      (Text.continuesInComments_of_forall hkind)
  have hlast : OnlyComments ends ("// TODO: Implement " ++ name).toList :=
    (onlyComments_headed hends " TODO: Implement " name rfl).mpr
      (Text.continuesInComments_of_forall hname)
  have hempty : OnlyComments ends "".toList := Text.onlyComments_nil
  have hlines := Text.onlyComments_joinWith hends
    ((stubLines kind carried name).map String.toList)
  rw [Text.joined, String.toList_ofList]
  refine hlines.trans ?_
  simp only [stubLines, List.forall_mem_map, List.forall_mem_append, List.forall_mem_cons,
    List.not_mem_nil, false_implies, implies_true, hfirst, hlast, hempty, true_and, and_true]

/-- The code of a function is taken apart at its line feeds. -/
theorem onlyComments_codeComments (code : String) :
    (∀ line ∈ codeComments code, OnlyComments ends line.toList) ↔
      ∀ line ∈ Text.lines code, ContinuesInComments ends line.toList := by
  unfold codeComments
  split
  · rename_i hempty
    have hlines : Text.lines code = [""] := by
      rw [String.isEmpty_iff.mp hempty]
      rfl
    simp [hlines, Text.continuesInComments_nil]
  · have htitle : OnlyComments ends "// Original implementation (javascript):".toList :=
      (onlyComments_headed hends " Original implementation (javascript):" "" rfl).mpr
        Text.continuesInComments_nil
    have hempty : OnlyComments ends "".toList := Text.onlyComments_nil
    have hline : ∀ line : String,
        OnlyComments ends (if line.isEmpty then "//" else "// " ++ line).toList ↔
          ContinuesInComments ends line.toList := by
      intro line
      split
      · rename_i hnone
        rw [String.isEmpty_iff.mp hnone]
        exact (onlyComments_headed hends "" "" rfl)
      · exact onlyComments_headed hends " " line rfl
    simp only [List.forall_mem_cons, List.forall_mem_append, List.forall_mem_map,
      List.not_mem_nil, false_implies, implies_true, htitle, hempty, hline, true_and, and_true]

section Sheet

variable {entry : String × List (String × String)}

/-- A setting ends with a semicolon, and behind it a line goes on. -/
theorem continuesInComments_settings {settings : List (String × String)}
    (h : ∀ setting ∈ settings, Style.Sheet.IsSetting (setting.1.toList, setting.2.toList))
    (rest : List Char) :
    ContinuesInComments ends
        (Text.joinWith [' '] (settings.map fun setting => (settingText setting).toList) ++ rest) ↔
      (∀ setting ∈ settings, ContinuesInComments ends setting.2.toList) ∧
        ContinuesInComments ends rest := by
  induction settings with
  | nil => simp [Text.joinWith]
  | cons first others ih =>
    obtain ⟨hfirst, hothers⟩ := List.forall_mem_cons.mp h
    have hsetting : ∀ tail, ContinuesInComments ends ((settingText first).toList ++ tail) ↔
        ContinuesInComments ends first.2.toList ∧ ContinuesInComments ends tail := by
      intro tail
      have htext : (settingText first).toList ++ tail =
          (first.1.toList ++ [':', ' ']) ++ (first.2.toList ++ ';' :: tail) := by
        simp [settingText]
      have hfront : ∀ c ∈ first.1.toList ++ [':', ' '], ends c = false := by
        intro c hc
        rcases List.mem_append.mp hc with hc | hc
        · exact hends.eq_false (Style.Sheet.isBlank_of_isPropertyChar (hfirst.kind c hc))
        · exact hends.forall_eq_false rfl c hc
      rw [htext, Text.continuesInComments_append hfront]
      exact Text.continuesInComments_append_semicolon hends fun c hc =>
        hends.eq_false (hfirst.trimmed.last c hc)
    cases others with
    | nil => simp [Text.joinWith, hsetting]
    | cons next others =>
      rw [List.map_cons, List.map_cons, Text.joinWith, List.append_assoc, List.append_assoc,
        hsetting, List.singleton_append, Text.continuesInComments_cons hends.space,
        List.forall_mem_cons, and_assoc, ← ih hothers]
      · rfl
      · exact List.cons_ne_nil _ _

/-- The comment of a class goes on with the values of its settings. -/
theorem onlyComments_classComment (hname : Style.Sheet.IsClassName entry.1.toList)
    (h : ∀ setting ∈ entry.2, Style.Sheet.IsSetting (setting.1.toList, setting.2.toList)) :
    OnlyComments ends (classComment entry).toList ↔
      ∀ setting ∈ entry.2, ContinuesInComments ends setting.2.toList := by
  have htext : (classComment entry).toList = '/' :: '/' :: ((' ' :: '.' :: entry.1.toList ++
      [' ', '\x7b', ' ']) ++ (Text.joinWith [' '] (entry.2.map fun setting =>
        (settingText setting).toList) ++ [' ', '\x7d'])) := by
    simp [classComment, blockText, Text.joined, List.map_map, Function.comp_def]
  have hfront : ∀ c ∈ ' ' :: '.' :: entry.1.toList ++ [' ', '\x7b', ' '], ends c = false := by
    intro c hc
    rcases List.mem_append.mp hc with hc | hc
    · rcases List.mem_cons.mp hc with rfl | hc
      · exact hends.space
      · rcases List.mem_cons.mp hc with rfl | hc
        · exact hends.eq_false rfl
        · exact hends.eq_false (Style.Sheet.isBlank_of_isClassChar (hname.kind c hc))
    · exact hends.forall_eq_false rfl c hc
  rw [htext, Text.onlyComments_comment hends, Text.continuesInComments_append hfront,
    continuesInComments_settings hends h]
  exact and_iff_left (Text.continuesInComments_of_forall (hends.forall_eq_false rfl))

/-- The comments for a style sheet are comments throughout exactly if its values go on in comments.
-/
theorem onlyComments_sheetComments {sheet : Style.Sheet} (h : sheet.WellFormed) :
    (∀ line ∈ sheetComments sheet, OnlyComments ends line.toList) ↔
      ∀ entry ∈ sheet.classes, ∀ setting ∈ entry.2,
        ContinuesInComments ends setting.2.toList := by
  have hclass : ∀ entry ∈ sheet.classes, (OnlyComments ends (classComment entry).toList ↔
      ∀ setting ∈ entry.2, ContinuesInComments ends setting.2.toList) := fun entry hentry =>
    onlyComments_classComment hends (h.name entry hentry) fun setting hsetting =>
      (h.setting entry hentry setting hsetting).1
  have hempty : OnlyComments ends "".toList := Text.onlyComments_nil
  unfold sheetComments
  split
  · rename_i hnone
    simp [List.isEmpty_iff.mp hnone]
  · simp only [List.forall_mem_append, List.forall_mem_map, List.forall_mem_singleton, hempty,
      and_true]
    exact forall₂_congr hclass

end Sheet

/-- The file of a node that is no component, around what the node carries, is made of comments. -/
theorem onlyComments_emit (platform : Platform) {node : Ir.Node} {name kind : String}
    (hname : node.name = .str name) (hcomponent : node.isComponent = false)
    (hsound : node.body.Sound) {options : Value} (hoptions : options.IsRecord)
    {carried : List String}
    (hstub : stub node.toValue = .ok (Text.joined "\n" (stubLines kind carried name)))
    (hkind : ∀ c ∈ kind.toList, ends c = false) (hends' : ∀ c ∈ name.toList, ends c = false)
    (hfile : ∀ c ∈ node.origin.file.toList, ends c = false) :
    ∃ file, platform.emit node.toValue options = .ok file ∧
      (OnlyComments ends file.content.toList ↔
        ∀ line ∈ carried, OnlyComments ends line.toList) := by
  obtain ⟨file, top, hemit, hcontent, htop⟩ :=
    platform.emit_stub_content hname hcomponent hsound hoptions hstub
  refine ⟨file, hemit, ?_⟩
  rw [hcontent, ← onlyComments_stubLines hends carried hkind hends']
  rcases htop with rfl | rfl
  · rw [String.empty_append]
  · have hheading : OnlyComments ends ("// Converted from " ++ node.origin.file).toList :=
      (onlyComments_headed hends " Converted from " node.origin.file rfl).mpr
        (Text.continuesInComments_of_forall hfile)
    rw [String.toList_append, String.toList_append, List.append_assoc]
    exact (Text.onlyComments_append_cons hends.lineFeed).trans (and_iff_right hheading)

/-- The file of a function holds only comments exactly if its lines of code go on in comments. -/
theorem onlyComments_emit_routine (platform : Platform) (framework : String)
    (dependencies : List Value) {path : String} (hpath : ∀ c ∈ path.toList, ends c = false)
    {routine : Script.Routine} (hname : ∀ c ∈ routine.name.toList, ends c = false)
    {options : Value} (hoptions : options.IsRecord) :
    ∃ file, platform.emit (routineNode path framework dependencies routine).toValue options =
        .ok file ∧
      (OnlyComments ends file.content.toList ↔
        ∀ line ∈ Text.lines routine.body, ContinuesInComments ends line.toList) := by
  obtain ⟨file, hemit, hcomments⟩ := onlyComments_emit hends platform
    (show (routineNode path framework dependencies routine).name = .str routine.name from rfl) rfl
    (routineNode_sound path framework dependencies routine).body hoptions
    (stub_function rfl rfl) (hends.forall_eq_false rfl) hname hpath
  exact ⟨file, hemit, hcomments.trans (onlyComments_codeComments hends routine.body)⟩

/-- The file of a style sheet holds only comments exactly if its values go on in comments. -/
theorem onlyComments_emit_sheet (platform : Platform) (framework : String) {path : String}
    (hpath : ∀ c ∈ path.toList, ends c = false) {sheet : Style.Sheet} (hsheet : sheet.WellFormed)
    {options : Value} (hoptions : options.IsRecord) :
    ∃ file, platform.emit (sheetNode path framework path sheet).toValue options = .ok file ∧
      (OnlyComments ends file.content.toList ↔ ∀ entry ∈ sheet.classes, ∀ setting ∈ entry.2,
        ContinuesInComments ends setting.2.toList) := by
  have hname : ∀ c ∈ (sheetName path).toList, ends c = false := by
    unfold sheetName
    split
    · exact hpath
    · exact hends.forall_eq_false rfl
  obtain ⟨file, hemit, hcomments⟩ := onlyComments_emit hends platform
    (show (sheetNode path framework path sheet).name = .str (sheetName path) from rfl) rfl
    (sheetNode_sound path framework path sheet).body hoptions
    (stub_stylesheet rfl rfl) (hends.forall_eq_false rfl) hname hpath
  exact ⟨file, hemit, hcomments.trans (onlyComments_sheetComments hends hsheet)⟩

/-- The files of the functions and of the style sheet of a source file hold nothing but comments
exactly if each text that is not taken apart goes on in comments. So the files of functions do where
lines end with line feeds only. What is relied on is that for the parser no line ends within the
name of a function. -/
theorem emit_onlyComments_iff {parser : Script.Parser}
    (hnames : parser.Ensures (Script.Tree.NamesFunctions ends)) {path code : String}
    (hpath : ∀ c ∈ path.toList, ends c = false) {report : Value}
    (hreport : report = Script.report parser path code ∨ report = Style.Sheet.report path code)
    (framework : String) (platform : Platform) {options : Value} (hoptions : options.IsRecord) :
    ∃ nodes, Ir.Lowering.nodes report path framework = .ok nodes ∧
      ∀ node ∈ nodes, node.isComponent = false →
        ∃ file, platform.emit node.toValue options = .ok file ∧
          (OnlyComments ends file.content.toList ↔
            ∀ text ∈ carriedTexts node.body, ContinuesInComments ends text.toList) ∧
          (∀ body, node.body = .function body → (∀ c, ends c = true → c = '\n') →
            OnlyComments ends file.content.toList) := by
  rcases hreport with rfl | rfl
  · rcases Conversion.report_script_cases parser path code with
      ⟨tree, hparse, hreport⟩ | ⟨faulty, -, hreport⟩
    · obtain ⟨nodes, hnodes, hall⟩ := nodes_script path framework tree
      rw [hreport]
      refine ⟨nodes, hnodes, fun node hnode hcomponent => ?_⟩
      obtain ⟨dependencies, routine, hroutine, rfl⟩ :=
        (hall node hnode).2.resolve_left (by simp [hcomponent])
      obtain ⟨file, hemit, hcomments⟩ := onlyComments_emit_routine hends platform framework
        dependencies hpath (Script.Summary.ends_of_mem_routines (hnames _ _ _ hparse) hroutine)
        hoptions
      refine ⟨file, hemit, hcomments, fun _ _ hfeed => hcomments.mpr fun line hline => ?_⟩
      refine Text.continuesInComments_of_forall fun c hc => ?_
      refine Bool.eq_false_iff.mpr fun hend => Text.not_mem_of_mem_lines hline ?_
      rwa [← hfeed c hend]
    · rw [hreport]
      exact ⟨[], nodes_failure path framework path _, nofun⟩
  · refine ⟨_, nodes_sheet path framework path code, fun node hnode _ => ?_⟩
    rw [List.mem_singleton.mp hnode]
    obtain ⟨file, hemit, hcomments⟩ := onlyComments_emit_sheet hends platform framework hpath
      (Style.Sheet.ofText_wellFormed code) hoptions
    refine ⟨file, hemit, hcomments.trans ?_, nofun⟩
    exact (forall_mem_carriedTexts_sheet _ fun text => ContinuesInComments ends text.toList).symm

end Ends

/-- A function over several lines. -/
def greeting : String := "function greet() \x7b\n  return 1;\n\x7d"

/-- The tree of the function. -/
def greetingTree : Script.Tree :=
  .node .program none
    [.node .functionDeclaration none
      [.token "function", .blank " ", nameTree "greet", noParams, .blank " ",
        .node .statementBlock (some .body)
          [.token "\x7b", .blank "\n  ", returning (.node .number none [.token "1"]), .blank "\n",
            .token "\x7d"]]]

/-- A style sheet with one class. -/
def buttonSheet : String := ".button \x7b margin: 1px \x7d"

/-- No line feed is within the name of a function for the parser that reads by the grammar, and no
more for one that knows a function over several lines. The file of this function is nothing but
comments, and so is that of a style sheet with one class. -/
theorem emit_onlyComments_iff_plain :
    Script.parse.Ensures (Script.Tree.NamesFunctions (· == '\n')) ∧
    greetingTree.text = greeting ∧
    (∃ node file, Ir.Lowering.nodes
        (Script.report (.only greeting greetingTree) "greet.js" greeting) "greet.js" "react" =
          .ok [node] ∧
      node.isComponent = false ∧ Platform.flutter.emit node.toValue (.object []) = .ok file ∧
      OnlyComments (· == '\n') file.content.toList) ∧
    ∃ node file, Ir.Lowering.nodes (Style.Sheet.report "button.css" buttonSheet) "button.css"
        "react" = .ok [node] ∧
      node.isComponent = false ∧ Platform.compose.emit node.toValue (.object []) = .ok file ∧
      OnlyComments (· == '\n') file.content.toList := by
  have hnames : (Script.Parser.only greeting greetingTree).Ensures
      (Script.Tree.NamesFunctions (· == '\n')) :=
    Script.Parser.ensures_only (by decide +kernel)
  have hoptions : (Value.object []).IsRecord := ⟨_, rfl⟩
  have hfeed : ∀ c, (c == '\n') = true → Script.Lexeme.endsName c = true := by
    rintro c hc
    rw [beq_iff_eq.mp hc]
    rfl
  refine ⟨Script.parse_namesFunctions hfeed, by decide +kernel, ?_, ?_⟩
  · obtain ⟨nodes, hnodes, hfiles⟩ := emit_onlyComments_iff Text.endsLines_lineFeed hnames
      (show ∀ c ∈ "greet.js".toList, (c == '\n') = false by simp)
      (.inl (Eq.refl (Script.report (.only greeting greetingTree) "greet.js" greeting))) "react"
      .flutter hoptions
    rw [Script.Parser.report_only] at hnodes ⊢
    obtain ⟨node, code, hnode, hcomponent, hbody⟩ : ∃ node code, Ir.Lowering.nodes
        (Script.Summary.ofTree greetingTree).toValue "greet.js" "react" = .ok [node] ∧
          node.isComponent = false ∧ node.body = .function code := ⟨_, _, rfl, rfl, rfl⟩
    obtain rfl := Except.ok.inj (hnode.symm.trans hnodes)
    obtain ⟨file, hemit, -, hfunction⟩ := hfiles node List.mem_cons_self hcomponent
    exact ⟨node, file, hnode, hcomponent, hemit, hfunction code hbody fun c => beq_iff_eq.mp⟩
  · obtain ⟨nodes, hnodes, hfiles⟩ := emit_onlyComments_iff Text.endsLines_lineFeed hnames
      (show ∀ c ∈ "button.css".toList, (c == '\n') = false by simp)
      (.inr (Eq.refl (Style.Sheet.report "button.css" buttonSheet))) "react" .compose hoptions
    rw [nodes_sheet] at hnodes ⊢
    cases hnodes
    obtain ⟨file, hemit, hcomments, -⟩ := hfiles _ List.mem_cons_self rfl
    refine ⟨_, file, rfl, rfl, hemit, hcomments.mpr ?_⟩
    have hcarried : carriedTexts (sheetNode "button.css" "react" "button.css"
        (Style.Sheet.ofText buttonSheet)).body = ["1px"] := by rfl
    rw [hcarried]
    decide

/-- A value that goes on over the end of a line. -/
def spilledSheet : String :=
  ".a \x7b\n  margin: 1px\n    2px;\n\x7d"

/-- The lines of the file for it. -/
def spilledLines : List String :=
  ["// Converted from a.css", "// UIR Node: stylesheet", "", "// .a \x7b margin: 1px",
    "    2px; \x7d", "", "// TODO: Implement a.css"]

/-- What is left of a value on a further line is no comment. -/
theorem emit_spilledSheet : ∃ node file,
    Ir.Lowering.nodes (Style.Sheet.report "a.css" spilledSheet) "a.css" "react" = .ok [node] ∧
    node.isComponent = false ∧ Platform.flutter.emit node.toValue (.object []) = .ok file ∧
    file.content = Text.joined "\n" spilledLines ∧
    ¬OnlyComments (· == '\n') file.content.toList := by
  obtain ⟨file, hemit, hcontent⟩ : ∃ file, Platform.flutter.emit
      (sheetNode "a.css" "react" "a.css" (Style.Sheet.ofText spilledSheet)).toValue (.object []) =
        .ok file ∧ file.content = Text.joined "\n" spilledLines := ⟨_, rfl, by decide⟩
  refine ⟨_, file, nodes_sheet _ _ _ _, rfl, hemit, hcontent, ?_⟩
  rw [hcontent]
  decide

end Target

end Restack
