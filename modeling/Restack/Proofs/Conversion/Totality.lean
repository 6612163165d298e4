import Restack.Conversion.Stages
import Restack.Proofs.Conversion.SourceFiles

/-!
# Conversions have results

A conversion of source files with a record of options always has a result: what goes wrong with one
file or one node becomes a remark. The options are only asked for two fields, so that options that
agree in these have the same result.
-/

namespace Restack.Conversion

namespace Outcome

variable {α β : Type} {step : β → Except Fault (Outcome α)} {P : α → Prop}

/-- A stage passes over all items if it passes over each of them, and what holds of all that comes
of each item holds of all that comes of the stage. -/
theorem gather_isOk {items : List β}
    (h : ∀ item ∈ items, ∃ outcome, step item = .ok outcome ∧ ∀ a ∈ outcome.passed, P a) :
    ∃ outcome, gather step items = .ok outcome ∧ ∀ a ∈ outcome.passed, P a := by
  induction items with
  | nil => exact ⟨empty, rfl, by simp [empty]⟩
  | cons item rest ih =>
    obtain ⟨first, hfirst, hpassed⟩ := h item List.mem_cons_self
    obtain ⟨others, hothers, hrest⟩ := ih fun other hother =>
      h other (List.mem_cons_of_mem _ hother)
    refine ⟨first.append others, ?_, ?_⟩
    · rw [gather, hfirst, hothers]
      rfl
    · intro a ha
      rcases List.mem_append.mp ha with ha | ha
      · exact hpassed a ha
      · exact hrest a ha

end Outcome

/-- A report that nodes are made from: the summary of a script, or the report on a style sheet. -/
inductive IsReport : Value → Prop where
  | script (tree : Script.Tree) : IsReport (Script.Summary.ofTree tree).toValue
  | sheet (path code : String) : IsReport (Style.Sheet.report path code)

/-- The report on a script is its summary, or says why it could not be read. -/
theorem report_script_cases (parser : Script.Parser) (path code : String) :
    (∃ tree, parser (Script.Dialect.ofPath path) code = .ok tree ∧
      Script.report parser path code = (Script.Summary.ofTree tree).toValue) ∨
    ∃ faulty, parser (Script.Dialect.ofPath path) code = .error faulty ∧
      Script.report parser path code = Script.failure path faulty.message := by
  unfold Script.report Script.Summary.ofScript
  cases parser (Script.Dialect.ofPath path) code with
  | ok tree => exact .inl ⟨tree, rfl, rfl⟩
  | error faulty => exact .inr ⟨faulty, rfl, rfl⟩

/-- A source file has a report that nodes are made from, or says why there is none, or is neither a
script nor a style sheet. -/
theorem reportOn_isOk (parser : Script.Parser) {file : Value} (h : file.IsSourceFile)
    (path : String) :
    ∃ report, reportOn parser path file = .ok report ∧ ∀ found ∈ report,
      IsReport found ∨ ∃ reason, found = Script.failure path reason := by
  obtain ⟨content, hcontent⟩ := h.content
  unfold reportOn
  rw [hcontent]
  by_cases hscript : scriptEndings.any (Text.hasEnd · path) = true
  · rw [if_pos hscript]
    refine ⟨some (Script.report parser path content), rfl, ?_⟩
    rintro _ ⟨⟩
    rcases report_script_cases parser path content with ⟨tree, -, htree⟩ | ⟨faulty, -, hreason⟩
    · exact .inl (htree ▸ .script tree)
    · exact .inr ⟨_, hreason⟩
  · rw [if_neg hscript]
    by_cases hsheet : sheetEndings.any (Text.hasEnd · path) = true
    · rw [if_pos hsheet]
      refine ⟨some (Style.Sheet.report path content), rfl, ?_⟩
      rintro _ ⟨⟩
      exact .inl (.sheet path content)
    · rw [if_neg hsheet]
      exact ⟨none, rfl, by simp⟩

/-- A report that nodes are made from has a type of its own. -/
theorem IsReport.get_type {report : Value} (h : IsReport report) :
    ∃ type, report.get "type" = .ok (.str type) ∧ type ≠ "Error" := by
  cases h with
  | script tree => exact ⟨"Program", rfl, by decide⟩
  | sheet path code => exact ⟨"Stylesheet", rfl, by decide⟩

/-- A source file is parsed, or left out with a remark. -/
theorem parseSource_isOk (parser : Script.Parser) {file : Value} (h : file.IsSourceFile) :
    ∃ outcome, parseSource parser file = .ok outcome ∧
      ∀ parsed ∈ outcome.passed, parsed.file.IsSourceFile ∧ IsReport parsed.report := by
  obtain ⟨path, hpath⟩ := h.path
  obtain ⟨report, hreport, hfound⟩ := reportOn_isOk parser h path
  unfold parseSource
  simp only [hpath, Value.textFor, bind, Except.bind, hreport]
  cases report with
  | none => exact ⟨.empty, rfl, by simp [Outcome.empty]⟩
  | some report =>
    rcases hfound report rfl with hreport | ⟨reason, rfl⟩
    · obtain ⟨type, htype, herror⟩ := hreport.get_type
      simp only [htype, Value.beq_str_iff, Value.str.injEq, if_neg herror]
      exact ⟨_, rfl, by simpa using ⟨h, hreport⟩⟩
    · exact ⟨_, rfl, by simp⟩

/-- What is parsed of a source file is lowered, or left out with a remark. -/
theorem lowerReport_isOk {parsed : Parsed} (h : parsed.file.IsSourceFile) (framework : String) :
    ∃ outcome, lowerReport framework parsed = .ok outcome := by
  obtain ⟨path, hpath⟩ := h.path
  unfold lowerReport
  simp only [hpath, bind, Except.bind]
  split
  · exact ⟨_, rfl⟩
  · exact ⟨_, rfl⟩

/-- A node is written, or left out with a remark. -/
theorem emitNode_isOk {node : Value} (h : node.IsRecord) (platform : Target.Platform)
    (options : Value) : ∃ outcome, emitNode platform options node = .ok outcome := by
  obtain ⟨name, hname⟩ := h.get_ok "name"
  have hfailed : ∀ files fault, ∃ outcome, emitNode.failed node files fault = .ok outcome := by
    intro files fault
    unfold emitNode.failed
    rw [hname]
    exact ⟨_, rfl⟩
  unfold emitNode
  split
  · exact hfailed _ _
  · split
    · exact hfailed _ _
    · exact ⟨_, rfl⟩

/-- All nodes are written or left out. -/
theorem emitNodes_isOk {nodes : List Value} (h : ∀ node ∈ nodes, node.IsRecord)
    (target : String) (options : Value) :
    ∃ outcome, emitNodes target options nodes = .ok outcome := by
  unfold emitNodes
  cases Target.Platform.ofName? target with
  | none => exact ⟨_, rfl⟩
  | some platform =>
    obtain ⟨outcome, houtcome, -⟩ := Outcome.gather_isOk (P := fun _ => True) fun node hnode => by
      obtain ⟨outcome, houtcome⟩ := emitNode_isOk (h node hnode) platform options
      exact ⟨outcome, houtcome, fun _ _ => trivial⟩
    exact ⟨outcome, houtcome⟩

/-- The files beside those of nodes can be written for every record of options, and there is at
least one of them. -/
theorem projectFiles_isOk {options : Value} (h : options.IsRecord) (source target : String)
    (parsed nodes : Nat) (moment : Time.Moment) :
    ∃ files, projectFiles source target options parsed nodes moment = .ok files ∧ files ≠ [] := by
  obtain ⟨tests, htests⟩ := h.get_ok "generateTests"
  have hconfig : ∃ files, Target.configFiles target options = .ok files := by
    unfold Target.configFiles
    split
    · rename_i platform _
      cases platform with
      | flutter => exact ⟨_, rfl⟩
      | compose => exact ⟨_, rfl⟩
      | react =>
        unfold Target.Platform.configFiles
        rw [htests]
        exact ⟨_, rfl⟩
    · exact ⟨_, rfl⟩
  obtain ⟨files, hfiles⟩ := hconfig
  refine ⟨_, by unfold projectFiles; rw [hfiles]; rfl, by simp⟩

/-- A conversion of source files with a record of options has a result, and is successful. -/
theorem convert_isOk (parser : Script.Parser) {files : List Value} {options : Value}
    (hfiles : ∀ file ∈ files, file.IsSourceFile) (hoptions : options.IsRecord)
    (source target : String) (moment : Time.Moment) :
    ∃ result, convert parser files source target options moment = .ok result ∧
      result.success = true := by
  obtain ⟨parsed, hparsed, hsources⟩ := Outcome.gather_isOk fun file hfile =>
    parseSource_isOk parser (hfiles file hfile)
  obtain ⟨lowered, hlowered, -⟩ := Outcome.gather_isOk (P := fun _ => True) fun found hfound => by
    obtain ⟨outcome, houtcome⟩ := lowerReport_isOk (hsources found hfound).1 source
    exact ⟨outcome, houtcome, fun _ _ => trivial⟩
  have hnodes : ∀ node ∈ lowered.passed.map Ir.Node.toValue, node.IsRecord := by
    intro node hnode
    obtain ⟨_, _, rfl⟩ := List.mem_map.mp hnode
    exact ⟨_, rfl⟩
  obtain ⟨emitted, hemitted⟩ := emitNodes_isOk hnodes target options
  obtain ⟨more, hmore, hne⟩ :=
    projectFiles_isOk hoptions source target parsed.passed.length lowered.passed.length moment
  unfold convert parseSources lowerReports
  simp only [hparsed, hlowered, hemitted, hmore, bind, Except.bind]
  exact ⟨_, rfl, by simp [hne]⟩

end Restack.Conversion
