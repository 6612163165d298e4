import Mathlib.Data.List.Perm.Basic
import Restack.Proofs.Analysis.Frameworks
import Restack.Proofs.Analysis.Shares

/-!
# Reports on a project

A report rests on the files of known languages: each of them is counted, each language has one
entry, and files of unknown languages count for nothing but their frameworks. The order of the files
does not matter, but for languages with equal percentages, which stand as they are met.
-/

namespace Restack

section Steps

variable {α β : Type} {step : α → Except Fault β} {items others : List α} {results : List β}

/-- Steps over a list come to what each of them comes to. -/
theorem mapM_eq_ok_iff :
    items.mapM step = .ok results ↔
      List.Forall₂ (fun item result => step item = .ok result) items results := by
  induction items generalizing results with
  | nil =>
    rw [List.forall₂_nil_left_iff, List.mapM_nil]
    exact ⟨fun h => by cases h; rfl, fun h => h ▸ rfl⟩
  | cons item rest ih =>
    rw [List.forall₂_cons_left_iff, List.mapM_cons]
    constructor
    · intro h
      obtain ⟨first, hfirst, h⟩ := exists_of_bind_eq_ok h
      obtain ⟨more, hmore, h⟩ := exists_of_bind_eq_ok h
      cases h
      exact ⟨first, more, hfirst, ih.mp hmore, rfl⟩
    · rintro ⟨first, more, hfirst, hmore, rfl⟩
      rw [hfirst, ih.mpr hmore]
      rfl

/-- Steps over a list in another order come to the same in another order. -/
theorem mapM_perm (h : others.Perm items) (hitems : items.mapM step = .ok results) :
    ∃ found, others.mapM step = .ok found ∧ found.Perm results := by
  obtain ⟨found, hfound, hperm⟩ := List.perm_comp_forall₂ h (mapM_eq_ok_iff.mp hitems)
  exact ⟨found, mapM_eq_ok_iff.mpr hfound, hperm⟩

end Steps

namespace Analysis

/-- What a report says of a language is what the files of the language say. -/
structure LanguageShare.IsOf (tables : Tables) (language : String) (own : List SourceFile)
    (totalLines : Nat) (share : LanguageShare) : Prop where
  title : share.title = (tables.languageTitles.lookup language).getD language
  percentage : share.percentage = percentageOf (linesIn own) totalLines
  files : share.files = own.length
  icon : share.icon = (tables.icons.lookup language).getD "fas fa-file-code"
  purpose : share.purpose = purposeOf tables language own

/-- Reports say the same, but for the order of languages with equal percentages. -/
structure Report.Agrees (report other : Report) : Prop where
  totalFiles : report.totalFiles = other.totalFiles
  totalLines : report.totalLines = other.totalLines
  frameworks : report.frameworks = other.frameworks
  languages : report.languages.Perm other.languages
  percentages : report.languages.map (·.percentage) = other.languages.map (·.percentage)

variable {tables : Tables} {records : List Value} {files : List SourceFile}

/-- A report on files. -/
theorem analyze_eq (hrecords : records.mapM (SourceFile.ofValue .notText) = .ok files) :
    analyze tables records = .ok
      { languages := sharesOf tables (knownFiles tables files)
        frameworks := ((tables.frameworks.map (·.name)).filter
          fun name => IsSpokenFor tables files name).map
            fun name => (tables.frameworkTitles.lookup name).getD name
        totalFiles := (knownFiles tables files).length
        totalLines := linesIn ((knownFiles tables files).map (·.2)) } := by
  unfold analyze
  rw [hrecords, frameworksOf_eq hrecords]
  rfl

/-- Files are analyzed exactly if all of them are source files. -/
theorem analyze_isOk_iff :
    (∃ report, analyze tables records = .ok report) ↔ ∀ file ∈ records, file.IsSourceFile := by
  have hread : (∃ files, records.mapM (SourceFile.ofValue .notText) = .ok files) ↔
      ∀ file ∈ records, file.IsSourceFile := by
    simp only [mapM_isOk_iff, SourceFile.ofValue_isOk_iff]
  rw [← hread]
  constructor
  · rintro ⟨report, h⟩
    obtain ⟨files, hfiles, -⟩ := exists_of_bind_eq_ok h
    exact ⟨files, hfiles⟩
  · rintro ⟨files, hfiles⟩
    exact ⟨_, analyze_eq hfiles⟩

/-- What is said of each known language. -/
theorem isOf_shareOf {language : String} (hlanguage : language ≠ unknownLanguage) :
    (shareOf tables (knownFiles tables files) language).IsOf tables language
      (files.filter (languageOf tables · = language))
      (linesIn ((knownFiles tables files).map (·.2))) := by
  have hown := @filter_knownFiles tables files _ hlanguage
  unfold shareOf
  dsimp only
  rw [hown]
  exact ⟨rfl, rfl, rfl, rfl, rfl⟩

/-- Reports on the same files in another order agree. -/
theorem exists_agrees (hrecords : records.mapM (SourceFile.ofValue .notText) = .ok files)
    {report : Report} (hreport : analyze tables records = .ok report) {others : List Value}
    (hothers : others.Perm records) :
    ∃ other, analyze tables others = .ok other ∧ report.Agrees other := by
  obtain ⟨more, hmore, hfiles⟩ := mapM_perm hothers hrecords
  have hknown : (knownFiles tables files).Perm (knownFiles tables more) :=
    hfiles.symm.filterMap _
  rw [analyze_eq hrecords] at hreport
  cases hreport
  refine ⟨_, analyze_eq hmore, ?_, ?_, ?_, ?_, ?_⟩
  · exact hknown.length_eq
  · exact linesIn_perm (hknown.map _)
  · refine congrArg (List.map _) (List.filter_congr fun name _ => decide_eq_decide.mpr ?_)
    exact ⟨fun h => h.mono hfiles.symm.subset, fun h => h.mono hfiles.subset⟩
  · exact sharesOf_perm tables hknown
  · exact percentages_perm tables hknown

/-- **A report rests on the files of known languages.** Their number and that of their lines are
told, each of them is counted for one of the languages, each language that is met has one entry, and
there are lines wherever there is an entry, so that nothing is divided by zero. In whatever order
the files come, the reports agree, and files of unknown languages that are put in anywhere change
neither the entries nor the totals. -/
theorem analyze_rests_on_known
    (hrecords : records.mapM (SourceFile.ofValue .notText) = .ok files) :
    ∃ report, analyze tables records = .ok report ∧
      report.totalFiles = (files.filter (languageOf tables · ≠ unknownLanguage)).length ∧
      report.totalLines = ((files.filter (languageOf tables · ≠ unknownLanguage)).map
        fun file => SourceFile.lineCount file.content).sum ∧
      (report.languages.map (·.files)).sum = report.totalFiles ∧
      (∃ order : List String, order.Nodup ∧
        (∀ language, language ∈ order ↔
          language ≠ unknownLanguage ∧ ∃ file ∈ files, languageOf tables file = language) ∧
        List.Forall₂ (fun language share => LanguageShare.IsOf tables language
            (files.filter (languageOf tables · = language)) report.totalLines share)
          order report.languages) ∧
      (report.languages ≠ [] → 0 < report.totalLines) ∧
      (∀ others, others.Perm records →
        ∃ other, analyze tables others = .ok other ∧ report.Agrees other) ∧
      ∀ others more, others.mapM (SourceFile.ofValue .notText) = .ok more →
        more.filter (languageOf tables · ≠ unknownLanguage) =
          files.filter (languageOf tables · ≠ unknownLanguage) →
        ∃ other, analyze tables others = .ok other ∧ other.languages = report.languages ∧
          other.totalFiles = report.totalFiles ∧ other.totalLines = report.totalLines := by
  have hreport := @analyze_eq tables _ _ hrecords
  obtain ⟨order, horder, hshares⟩ := exists_order tables (knownFiles tables files)
  have hlanguage : ∀ language, language ∈ order ↔
      language ≠ unknownLanguage ∧ ∃ file ∈ files, languageOf tables file = language := by
    intro language
    rw [horder.mem_iff, mem_languages_iff]
  have hlines : linesIn ((knownFiles tables files).map (·.2)) =
      ((files.filter (languageOf tables · ≠ unknownLanguage)).map
        fun file => SourceFile.lineCount file.content).sum := by
    rw [map_snd_knownFiles, linesIn_eq_sum]
  refine ⟨_, hreport, ?_, hlines, ?_, ⟨order, horder.nodup_iff.mpr (nodup_eraseDups _), hlanguage,
    ?_⟩, ?_, fun others hothers => exists_agrees hrecords hreport hothers, ?_⟩
  · rw [knownFiles_eq, List.length_map]
  · rw [hshares, List.map_map, (horder.map _).sum_nat]
    refine .trans (congrArg List.sum (List.map_congr_left fun language _ => ?_)) (sum_files _)
    exact List.length_map _
  · rw [hshares, List.forall₂_map_right_iff, List.forall₂_same]
    exact fun language hmem => isOf_shareOf ((hlanguage language).mp hmem).1
  · intro hne
    refine linesIn_pos fun hnone => hne ?_
    rw [List.map_eq_nil_iff.mp hnone]
    simp [sharesOf]
  · intro others more hmore hsame
    have hknown : knownFiles tables more = knownFiles tables files := by
      rw [knownFiles_eq, knownFiles_eq, hsame]
    refine ⟨_, analyze_eq hmore, ?_⟩
    rw [hknown]
    exact ⟨rfl, rfl, rfl⟩

/-- A script and a module. -/
def scriptAndModule : List SourceFile := [⟨"a.js", "x\ny\nz"⟩, ⟨"b.py", "def f():\n    pass"⟩]

/-- A file of an unknown language between two others changes neither what is said of them nor the
totals, and neither does their order. -/
theorem analyze_rests_on_known_between :
    let inserted : List SourceFile := [⟨"a.js", "x\ny\nz"⟩, ⟨"blob.xyz", "qqqq\nwwww"⟩,
      ⟨"b.py", "def f():\n    pass"⟩]
    (recordsOf scriptAndModule).mapM (SourceFile.ofValue .notText) = .ok scriptAndModule ∧
      (recordsOf inserted).mapM (SourceFile.ofValue .notText) = .ok inserted ∧
      inserted.filter (languageOf .standard · ≠ unknownLanguage) =
        scriptAndModule.filter (languageOf .standard · ≠ unknownLanguage) ∧
      ∃ report turned other, analyze .standard (recordsOf scriptAndModule) = .ok report ∧
        report.totalFiles = 2 ∧ report.totalLines = 5 ∧
        analyze .standard (recordsOf scriptAndModule).reverse = .ok turned ∧
        report.Agrees turned ∧
        analyze .standard (recordsOf inserted) = .ok other ∧ other.languages = report.languages ∧
        other.totalFiles = 2 ∧ other.totalLines = 5 := by
  intro inserted
  have hrecords : (recordsOf scriptAndModule).mapM (SourceFile.ofValue .notText) =
      .ok scriptAndModule := rfl
  have hinserted : (recordsOf inserted).mapM (SourceFile.ofValue .notText) = .ok inserted := rfl
  have hsame : inserted.filter (languageOf .standard · ≠ unknownLanguage) =
      scriptAndModule.filter (languageOf .standard · ≠ unknownLanguage) := by
    decide +kernel
  obtain ⟨report, hreport, hfiles, hlines, -, -, -, hturned, hother⟩ :=
    @analyze_rests_on_known .standard _ _ hrecords
  have htwo : report.totalFiles = 2 := by
    rw [hfiles]
    decide +kernel
  have hfive : report.totalLines = 5 := by
    rw [hlines]
    decide +kernel
  obtain ⟨turned, hanalyzed, hagrees⟩ := hturned _ (List.reverse_perm _)
  obtain ⟨other, hread, hlanguages, hcount, htotal⟩ := hother _ _ hinserted hsame
  exact ⟨hrecords, hinserted, hsame, report, turned, other, hreport, htwo, hfive, hanalyzed,
    hagrees, hread, hlanguages, hcount.trans htwo, htotal.trans hfive⟩

end Analysis

end Restack
