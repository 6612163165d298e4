import Mathlib.Algebra.GroupWithZero.Nat
import Mathlib.Data.List.Forall2
import Restack.Proofs.Intake.Folders

/-!
# The limits on archives

What an archive gives is told by its entries as a whole. Those that count are the files that are
neither left out nor too large; the archive is refused exactly if these take up too much together,
although they are counted one after the other, and otherwise each of them that keeps something of
its path becomes one file.
-/

namespace Restack.Intake

open Restack.Text Restack.Archive

/-- An entry counts if it is a file that is neither left out nor too large. -/
structure Counts (settings : Settings) (entry : Entry) : Prop where
  not_folder : ¬['/'] <:+ entry.name.toList
  not_skipped : isSkipped entry.name.toList = false
  size_le : entry.data.size ≤ settings.maxFileSize

/-- The test for entries that count decides what counts. -/
theorem counts_iff {settings : Settings} {entry : Entry} :
    counts settings entry = true ↔ Counts settings entry := by
  constructor
  · intro h
    have hskipped := isSkipped_eq_false h
    simp only [counts, Bool.and_eq_true, decide_eq_true_eq] at h
    refine ⟨fun hfolder => ?_, hskipped, h.2⟩
    rw [(isSkipped_iff _).mpr (Or.inl hfolder)] at hskipped
    cases hskipped
  · intro h
    simp [counts, h.not_skipped, h.size_le]

instance (settings : Settings) (entry : Entry) : Decidable (Counts settings entry) :=
  decidable_of_iff _ counts_iff

/-- The entries that count, in their order. -/
def counted (settings : Settings) (entries : List Entry) : List Entry :=
  entries.filter fun entry => Counts settings entry

/-- A file is what becomes of an entry: it has the clean path, and the text of the entry unless the
path is that of a file whose content is not text. -/
structure IsTakenAs (entry : Entry) (file : ProjectFile) : Prop where
  path : file.path.toList = cleanPath entry.name.toList
  content : file.content =
    if isBinary file.path.toList then ProjectFile.placeholder file.path else textOfOctets entry.data
  size : file.size = entry.data.size
  type : file.type = fileType file.path.toList

variable {settings : Settings} {entries : List Entry}

/-- The entries that pass the test are those that count. -/
theorem filter_counts_eq : entries.filter (counts settings) = counted settings entries :=
  List.filter_congr fun entry _ => by
    rw [Bool.eq_iff_iff, decide_eq_true_eq, counts_iff]

/-- Entries overflow exactly if those that count are larger in all than the limit. -/
theorem overflows_iff (hlimit : 0 ≤ settings.maxTotalSize) :
    Overflows settings entries ↔ settings.maxTotalSize < totalSize (counted settings entries) := by
  rw [Overflows, filter_counts_eq, and_iff_right_iff_imp]
  intro hover hnil
  rw [hnil, totalSize] at hover
  omega

/-- A file made of an entry is what the entry is taken as. -/
theorem isTakenAs_ofOctets (entry : Entry) :
    IsTakenAs entry (.ofOctets (String.ofList (cleanPath entry.name.toList)) entry.data) where
  path := String.toList_ofList
  content := by rw [ProjectFile.ofOctets]
  size := by rw [ProjectFile.ofOctets]
  type := by rw [ProjectFile.ofOctets]

/-- Entries become files one by one, except those of whose path nothing is left. -/
theorem forall₂_isTakenAs (entries : List Entry) :
    List.Forall₂ IsTakenAs (entries.filter fun entry => cleanPath entry.name.toList ≠ [])
      (entries.filterMap fileOf?) := by
  induction entries with
  | nil => exact .nil
  | cons entry rest ih =>
    by_cases hpath : cleanPath entry.name.toList = []
    · have hfile : fileOf? entry = none := by
        rw [fileOf?, hpath]
        rfl
      rw [List.filter_cons_of_neg (by simpa using hpath), List.filterMap_cons_none hfile]
      exact ih
    · have hfile : fileOf? entry =
          some (.ofOctets (String.ofList (cleanPath entry.name.toList)) entry.data) :=
        if_neg (by simpa using hpath)
      rw [List.filter_cons_of_pos (by simpa using hpath), List.filterMap_cons_some hfile]
      exact .cons (isTakenAs_ofOctets entry) ih

/-- Each file that was taken comes from an entry. -/
theorem exists_entry_of_forall₂ {files : List ProjectFile}
    (h : List.Forall₂ IsTakenAs entries files) {file : ProjectFile} (hfile : file ∈ files) :
    ∃ entry ∈ entries, IsTakenAs entry file := by
  induction h with
  | nil => cases hfile
  | cons htaken _ ih =>
    rcases List.mem_cons.mp hfile with rfl | hfile
    · exact ⟨_, List.mem_cons_self, htaken⟩
    · obtain ⟨entry, hentry, htaken⟩ := ih hfile
      exact ⟨entry, List.mem_cons_of_mem _ hentry, htaken⟩

/-- Files that were taken are as large as their entries. -/
theorem sum_size_of_forall₂ {files : List ProjectFile}
    (h : List.Forall₂ IsTakenAs entries files) : (files.map (·.size)).sum = totalSize entries := by
  induction h with
  | nil => rfl
  | cons hfile _ ih => rw [List.map_cons, List.sum_cons, ih, hfile.size, totalSize]

/-- Files that come from entries that count keep the limits. -/
theorem sizes_of_forall₂ {files : List ProjectFile}
    (h : List.Forall₂ IsTakenAs
      ((counted settings entries).filter fun entry => cleanPath entry.name.toList ≠ []) files)
    (htotal : totalSize (counted settings entries) ≤ settings.maxTotalSize) :
    (∀ file ∈ files, (file.size : Int) ≤ settings.maxFileSize) ∧
      ((files.map (·.size)).sum : Nat) ≤ settings.maxTotalSize := by
  constructor
  · intro file hfile
    obtain ⟨entry, hentry, htaken⟩ := exists_entry_of_forall₂ h hfile
    have hcounted := (List.mem_filter.mp (List.mem_filter.mp hentry).1).2
    rw [htaken.size]
    exact (of_decide_eq_true hcounted).size_le
  · rw [sum_size_of_forall₂ h]
    have hsum : totalSize ((counted settings entries).filter
        fun entry => cleanPath entry.name.toList ≠ []) ≤ totalSize (counted settings entries) :=
      totalSize_le_of_sublist List.filter_sublist
    omega

/-- **The limits on archives are exact.** An archive is refused exactly if the entries that count
are too large together. Otherwise these entries become files, in their order and each of them as it
is, but for those of whose path nothing is left; no file is larger than a file may be, and all of
them together are not larger than they may be. The order of the entries makes no difference to
whether the archive is refused, nor to which files it gives. -/
theorem filesOfArchive_exact (hlimit : 0 ≤ settings.maxTotalSize) (entries : List Entry) :
    (filesOfArchive settings entries = .error (.totalTooLarge settings.maxTotalSize) ↔
      settings.maxTotalSize < totalSize (counted settings entries)) ∧
    (totalSize (counted settings entries) ≤ settings.maxTotalSize →
      ∃ files, filesOfArchive settings entries = .ok files ∧
        List.Forall₂ IsTakenAs
          ((counted settings entries).filter fun entry => cleanPath entry.name.toList ≠ []) files ∧
        (∀ file ∈ files, (file.size : Int) ≤ settings.maxFileSize) ∧
        ((files.map (·.size)).sum : Nat) ≤ settings.maxTotalSize) ∧
    ∀ others : List Entry, others.Perm entries →
      Agree settings (filesOfArchive settings others) (filesOfArchive settings entries) := by
  have hover : Overflows settings entries ↔
      settings.maxTotalSize < totalSize (counted settings entries) := overflows_iff hlimit
  refine ⟨?_, fun htotal => ?_, fun others hothers => ?_⟩
  · rw [filesOfArchive_eq, ← hover]
    split <;> rename_i h <;> simp only [h, reduceCtorEq]
  · have hfits : ¬Overflows settings entries := by
      rw [hover]
      omega
    rw [filesOfArchive_eq, if_neg hfits, filter_counts_eq]
    have hfiles := forall₂_isTakenAs (counted settings entries)
    exact ⟨_, rfl, hfiles, sizes_of_forall₂ hfiles htotal⟩
  · have hcounted := hothers.filter (counts settings)
    rw [filesOfArchive_eq, filesOfArchive_eq]
    by_cases h : Overflows settings entries
    · rw [if_pos h, if_pos ((overflows_congr hcounted).mpr h)]
      exact .refused
    · rw [if_neg h, if_neg (mt (overflows_congr hcounted).mp h)]
      exact .taken (hcounted.filterMap fileOf?)

/-- Settings that let in four octets a file, and six for all. -/
def narrow : Settings := ⟨4, 6, "WARNING", "typescript"⟩

/-- An archive with a folder, a file that is left out, one that is too large, one of whose path
nothing is left, and one that is taken in. -/
def cartArchive : List Entry :=
  [⟨"src/", octetsOfText ""⟩, ⟨"yarn.lock", octetsOfText "a"⟩, ⟨"big.js", octetsOfText "12345"⟩,
    ⟨"..", octetsOfText "ab"⟩, ⟨"src\\Cart.js", octetsOfText "cart"⟩]

/-- One file is taken in, in whatever order, and one octet more is too much. -/
theorem filesOfArchive_exact_cart :
    0 ≤ narrow.maxTotalSize ∧
      filesOfArchive narrow (⟨"x.js", octetsOfText "x"⟩ :: cartArchive) =
        .error (.totalTooLarge 6) ∧
      (∃ files, filesOfArchive narrow cartArchive = .ok files ∧
        List.Forall₂ IsTakenAs [⟨"src\\Cart.js", octetsOfText "cart"⟩] files) ∧
      Agree narrow (filesOfArchive narrow cartArchive.reverse)
        (filesOfArchive narrow cartArchive) := by
  have hlimit : 0 ≤ narrow.maxTotalSize := by decide
  obtain ⟨-, htaken, horder⟩ := filesOfArchive_exact hlimit cartArchive
  obtain ⟨files, hfiles, hone, -⟩ := htaken (by decide +kernel)
  refine ⟨hlimit, ?_, ⟨files, hfiles, ?_⟩, horder _ cartArchive.reverse_perm⟩
  · exact (filesOfArchive_exact hlimit _).1.mpr (by decide +kernel)
  · have hkept : (counted narrow cartArchive).filter
        (fun entry => cleanPath entry.name.toList ≠ []) =
          [⟨"src\\Cart.js", octetsOfText "cart"⟩] := by
      rfl
    rw [← hkept]
    exact hone

end Restack.Intake
