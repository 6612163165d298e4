import Mathlib.Data.List.Nodup
import Restack.Proofs.Conversion.SourceFiles

/-!
# The frameworks of a project

A framework is found exactly if a single file speaks for it, by its path and by what stands in it.
That files are looked at one after the other, and frameworks that have been found are passed over,
makes no difference: what is found only grows, by the frameworks that each file speaks for.
-/

namespace Restack.Analysis

/-- A file speaks for a framework, both by its path and by its content. -/
structure Framework.IsSeenIn (framework : Framework) (file : SourceFile) : Prop where
  path : ∃ pattern ∈ framework.paths, pattern.occursIn file.path = true
  content : ∃ pattern ∈ framework.contents, pattern.occursIn file.content = true

/-- What a framework is seen by is what its two tests look for: an ending of the path and a part of
the content. -/
theorem Framework.isSeenIn_iff {framework : Framework} {file : SourceFile} :
    framework.IsSeenIn file ↔
      framework.fitsPath file.path = true ∧ framework.fitsContent file.content = true := by
  rw [fitsPath, fitsContent, List.any_eq_true, List.any_eq_true]
  exact ⟨fun h => ⟨h.path, h.content⟩, fun h => ⟨h.1, h.2⟩⟩

instance (framework : Framework) (file : SourceFile) : Decidable (framework.IsSeenIn file) :=
  decidable_of_iff _ Framework.isSeenIn_iff.symm

/-- Files speak for a name: one of them speaks for a framework that is called so. -/
def IsSpokenFor (tables : Tables) (files : List SourceFile) (name : String) : Prop :=
  ∃ framework ∈ tables.frameworks, framework.name = name ∧
    ∃ file ∈ files, framework.IsSeenIn file

instance (tables : Tables) (files : List SourceFile) :
    DecidablePred (IsSpokenFor tables files) := fun _ =>
  inferInstanceAs (Decidable (∃ _ ∈ _, _ ∧ _))

/-- Steps that only add to what has been found: each adds the names that its item stands for. -/
theorem foldlM_adds {α : Type} {step : List String → α → Except Fault (List String)}
    {adds : α → String → Prop} {items : List α}
    (h : ∀ item ∈ items, ∀ found, ∃ next, step found item = .ok next ∧
      ∀ name, name ∈ next ↔ name ∈ found ∨ adds item name) (found : List String) :
    ∃ last, items.foldlM step found = .ok last ∧
      ∀ name, name ∈ last ↔ name ∈ found ∨ ∃ item ∈ items, adds item name := by
  induction items generalizing found with
  | nil => exact ⟨found, rfl, by simp⟩
  | cons item rest ih =>
    obtain ⟨next, hnext, hmem⟩ := h item List.mem_cons_self found
    obtain ⟨last, hlast, hall⟩ :=
      ih (fun other hother => h other (List.mem_cons_of_mem _ hother)) next
    refine ⟨last, ?_, fun name => ?_⟩
    · rw [List.foldlM_cons, hnext]
      exact hlast
    · rw [hall, hmem, List.exists_mem_cons_iff, or_assoc]

section Steps

variable {record : Value} {file : SourceFile}

/-- Looking for a framework in a file adds its name if the file speaks for it. -/
theorem addFramework_adds (hrecord : SourceFile.ofValue .notText record = .ok file)
    (framework : Framework) (found : List String) :
    ∃ next, addFramework record found framework = .ok next ∧
      ∀ name, name ∈ next ↔ name ∈ found ∨ framework.name = name ∧ framework.IsSeenIn file := by
  obtain ⟨hpath, hcontent⟩ := SourceFile.fields_of_ofValue hrecord
  unfold addFramework
  rw [hpath, hcontent]
  by_cases hfound : found.contains framework.name = true
  · refine ⟨found, if_pos hfound, fun name => ?_⟩
    rw [List.contains_iff_mem] at hfound
    rw [iff_self_or]
    rintro ⟨rfl, -⟩
    exact hfound
  · rw [if_neg hfound]
    cases hfits : framework.fitsPath file.path with
    | false =>
      refine ⟨found, by simp only [searched, bind, Except.bind, hfits]; rfl, fun name => ?_⟩
      simp [Framework.isSeenIn_iff, hfits]
    | true =>
      refine ⟨if framework.fitsContent file.content then found ++ [framework.name] else found,
        by simp only [searched, bind, Except.bind, hfits]; rfl, fun name => ?_⟩
      cases hcontents : framework.fitsContent file.content with
      | false => simp [Framework.isSeenIn_iff, hcontents]
      | true => simp [Framework.isSeenIn_iff, hfits, hcontents, eq_comm]

/-- Looking for all frameworks in a file adds the names that it speaks for. -/
theorem addFrameworks_adds (hrecord : SourceFile.ofValue .notText record = .ok file)
    (tables : Tables) (found : List String) :
    ∃ next, tables.frameworks.foldlM (addFramework record) found = .ok next ∧
      ∀ name, name ∈ next ↔ name ∈ found ∨ ∃ framework ∈ tables.frameworks,
        framework.name = name ∧ framework.IsSeenIn file :=
  foldlM_adds (fun framework _ found => addFramework_adds hrecord framework found) found

end Steps

variable {tables : Tables} {records : List Value} {files : List SourceFile}

/-- What is found in files, in the order of the table: the names that they speak for. -/
theorem frameworksOf_eq (hrecords : records.mapM (SourceFile.ofValue .notText) = .ok files) :
    frameworksOf tables records =
      .ok ((tables.frameworks.map (·.name)).filter fun name => IsSpokenFor tables files name) := by
  have hrecord : ∀ record ∈ records, ∀ found, ∃ next,
      tables.frameworks.foldlM (addFramework record) found = .ok next ∧
        ∀ name, name ∈ next ↔ name ∈ found ∨ ∃ file ∈ files,
          SourceFile.ofValue .notText record = .ok file ∧ ∃ framework ∈ tables.frameworks,
            framework.name = name ∧ framework.IsSeenIn file := by
    intro record hrecord found
    obtain ⟨file, hfile⟩ := mapM_isOk_iff.mp ⟨files, hrecords⟩ record hrecord
    have hmem : file ∈ files := (mem_mapM_iff hrecords).mpr ⟨record, hrecord, hfile⟩
    obtain ⟨next, hnext, hadds⟩ := addFrameworks_adds hfile tables found
    refine ⟨next, hnext, fun name => ?_⟩
    rw [hadds, hfile]
    simp [hmem]
  obtain ⟨found, hfound, hmem⟩ := foldlM_adds hrecord []
  have hall : ∀ name, name ∈ found ↔ IsSpokenFor tables files name := by
    intro name
    rw [hmem, or_iff_right List.not_mem_nil]
    constructor
    · rintro ⟨record, -, file, hfile, -, framework, hframework, hname, hseen⟩
      exact ⟨framework, hframework, hname, file, hfile, hseen⟩
    · rintro ⟨framework, hframework, hname, file, hfile, hseen⟩
      obtain ⟨record, hrecord, hread⟩ := (mem_mapM_iff hrecords).mp hfile
      exact ⟨record, hrecord, file, hfile, hread, framework, hframework, hname, hseen⟩
  unfold frameworksOf
  rw [hfound]
  refine congrArg Except.ok (List.filter_congr fun name _ => ?_)
  rw [Bool.eq_iff_iff, List.contains_iff_mem, hall, decide_eq_true_eq]

/-- Where each framework has a name of its own, a name is spoken for if the framework is. -/
theorem isSpokenFor_iff (hnames : (tables.frameworks.map (·.name)).Nodup) {framework : Framework}
    (hframework : framework ∈ tables.frameworks) :
    IsSpokenFor tables files framework.name ↔ ∃ file ∈ files, framework.IsSeenIn file := by
  constructor
  · rintro ⟨other, hother, hname, hseen⟩
    rwa [List.inj_on_of_nodup_map hnames hother hframework hname] at hseen
  · exact fun hseen => ⟨framework, hframework, rfl, hseen⟩

/-- More files speak for more. -/
theorem IsSpokenFor.mono {others : List SourceFile} (hfiles : files ⊆ others) {name : String}
    (h : IsSpokenFor tables files name) : IsSpokenFor tables others name := by
  obtain ⟨framework, hframework, hname, file, hfile, hseen⟩ := h
  exact ⟨framework, hframework, hname, file, hfiles hfile, hseen⟩

/-- A name that two lists of files speak for together is one that either of them speaks for. -/
theorem isSpokenFor_append {others : List SourceFile} {name : String} :
    IsSpokenFor tables (files ++ others) name ↔
      IsSpokenFor tables files name ∨ IsSpokenFor tables others name := by
  simp only [IsSpokenFor, List.mem_append, or_and_right, exists_or, and_or_left]

/-- **A framework is found exactly if one file speaks for it.** What is found in files are the
frameworks that some single file fits by one of their patterns for paths and by one of their
patterns for contents, each once and in the order of the table. So two lists of files together give
what either of them gives, and files that are added take nothing away; that one file fits by its
path and another one by its content does not count. -/
theorem frameworksOf_detects (hnames : (tables.frameworks.map (·.name)).Nodup)
    {others : List Value} {more : List SourceFile}
    (hrecords : records.mapM (SourceFile.ofValue .notText) = .ok files)
    (hothers : others.mapM (SourceFile.ofValue .notText) = .ok more) :
    ∃ found added both, frameworksOf tables records = .ok found ∧
      frameworksOf tables others = .ok added ∧ frameworksOf tables (records ++ others) = .ok both ∧
      found = (tables.frameworks.filter fun framework =>
        ∃ file ∈ files, framework.IsSeenIn file).map (·.name) ∧
      found.Nodup ∧
      (∀ framework ∈ tables.frameworks,
        framework.name ∈ found ↔ ∃ file ∈ files, framework.IsSeenIn file) ∧
      both = (tables.frameworks.map (·.name)).filter (fun name => name ∈ found ∨ name ∈ added) ∧
      (files ⊆ more → found.Sublist added) := by
  have hboth : (records ++ others).mapM (SourceFile.ofValue .notText) = .ok (files ++ more) := by
    rw [List.mapM_append, hrecords, hothers]
    rfl
  refine ⟨_, _, _, frameworksOf_eq hrecords, frameworksOf_eq hothers, frameworksOf_eq hboth,
    ?_, hnames.filter _, fun framework hframework => ?_, ?_, fun hfiles => ?_⟩
  · rw [List.filter_map]
    refine congrArg (List.map _) (List.filter_congr fun framework hframework => ?_)
    rw [Bool.eq_iff_iff, Function.comp_apply, decide_eq_true_eq, decide_eq_true_eq,
      isSpokenFor_iff hnames hframework]
  · rw [List.mem_filter, decide_eq_true_eq, isSpokenFor_iff hnames hframework,
      and_iff_right (List.mem_map_of_mem hframework)]
  · refine List.filter_congr fun name hname => ?_
    simp only [List.mem_filter, hname, true_and, decide_eq_true_eq, isSpokenFor_append]
  · refine List.monotone_filter_right _ fun name hname => ?_
    rw [decide_eq_true_eq] at hname ⊢
    exact hname.mono hfiles

/-- A page that does not say what it is made with, and notes that do. -/
def pageAndNotes : List SourceFile := [⟨"Cart.jsx", "cart"⟩, ⟨"notes.txt", "import React"⟩]

/-- The records of files. -/
def recordsOf (files : List SourceFile) : List Value :=
  files.map fun file => .object [("path", .str file.path), ("content", .str file.content)]

/-- A path in one file and a content in another do not make a framework, and one file with both
does. -/
theorem frameworksOf_detects_apart :
    let page : SourceFile := ⟨"App.jsx", "import React"⟩
    (Tables.standard.frameworks.map (·.name)).Nodup ∧
      (recordsOf pageAndNotes).mapM (SourceFile.ofValue .notText) = .ok pageAndNotes ∧
      (recordsOf [page]).mapM (SourceFile.ofValue .notText) = .ok [page] ∧
      frameworksOf .standard (recordsOf pageAndNotes) = .ok [] ∧
      frameworksOf .standard (recordsOf pageAndNotes ++ recordsOf [page]) = .ok ["react"] := by
  intro page
  have hnames : (Tables.standard.frameworks.map (·.name)).Nodup := by decide
  have hrecords : (recordsOf pageAndNotes).mapM (SourceFile.ofValue .notText) =
      .ok pageAndNotes := rfl
  have hpage : (recordsOf [page]).mapM (SourceFile.ofValue .notText) = .ok [page] := rfl
  obtain ⟨found, added, both, hfound, hadded, hboth, hnone, -, -, hall, -⟩ :=
    frameworksOf_detects hnames hrecords hpage
  obtain ⟨one, _, _, hone, -, -, hseen, -⟩ := frameworksOf_detects hnames hpage hpage
  have hempty : found = [] := by
    rw [hnone]
    decide +kernel
  have hreact : added = ["react"] := by
    rw [Except.ok.inj (hadded.symm.trans hone), hseen]
    decide +kernel
  refine ⟨hnames, hrecords, hpage, hempty ▸ hfound, ?_⟩
  rw [hboth, hall, hempty, hreact]
  decide +kernel

end Restack.Analysis
