import Restack.Intake.Selection

/-!
# What is taken in, as a whole

The limit on all files together is asked about after each of them, but what has been used only
grows: it is passed at some file exactly if all of them together pass it. The order of the entries
makes no difference to that.
-/

namespace Restack.Intake

open Restack.Archive

/-- What counts is not left out. -/
theorem isSkipped_eq_false {settings : Settings} {entry : Entry}
    (h : counts settings entry = true) : isSkipped entry.name.toList = false := by
  simp only [counts, Bool.and_eq_true, Bool.not_eq_true'] at h
  exact h.1

/-- The number of octets of some entries together. -/
def totalSize : List Entry → Nat
  | [] => 0
  | entry :: rest => entry.data.size + totalSize rest

/-- The entries that count are too large together. -/
def Overflows (settings : Settings) (entries : List Entry) : Prop :=
  entries.filter (counts settings) ≠ [] ∧
    settings.maxTotalSize < totalSize (entries.filter (counts settings))

instance (settings : Settings) (entries : List Entry) : Decidable (Overflows settings entries) :=
  inferInstanceAs (Decidable (_ ∧ _))

/-- A limit is passed at some entry exactly if there are entries and all of them together pass
it. -/
theorem withinLimit_eq (limit used : Int) (entries : List Entry) :
    withinLimit limit used entries =
      if entries ≠ [] ∧ limit < used + totalSize entries then .error (.totalTooLarge limit)
      else .ok entries := by
  induction entries generalizing used with
  | nil => rfl
  | cons entry rest ih =>
    have htotal : (totalSize (entry :: rest) : Int) = entry.data.size + totalSize rest := by
      simp [totalSize]
    rw [withinLimit, ih, htotal]
    by_cases hentry : limit < used + entry.data.size
    · have hall : limit < used + (entry.data.size + totalSize rest) := by omega
      simp [hentry, hall]
    · by_cases hrest : rest = []
      · subst hrest
        simp [hentry, totalSize, Except.map]
      · have hsame : limit < used + entry.data.size + totalSize rest ↔
            limit < used + (entry.data.size + totalSize rest) := by omega
        simp only [hentry, hrest, hsame, if_false, ne_eq, not_false_eq_true, true_and,
          reduceCtorEq]
        split <;> rfl

/-- The entries that count are taken, unless they are too large together. -/
theorem select_eq (settings : Settings) (entries : List Entry) :
    select settings entries =
      if Overflows settings entries then .error (.totalTooLarge settings.maxTotalSize)
      else .ok (entries.filter (counts settings)) := by
  rw [select, withinLimit_eq, Int.zero_add]
  rfl

/-- The files of an archive are those of the entries that count, unless these are too large
together. -/
theorem filesOfArchive_eq (settings : Settings) (entries : List Entry) :
    filesOfArchive settings entries =
      if Overflows settings entries then .error (.totalTooLarge settings.maxTotalSize)
      else .ok ((entries.filter (counts settings)).filterMap fileOf?) := by
  rw [filesOfArchive, select_eq]
  split <;> rfl

/-- Files come from entries that count, under their tidied paths. -/
theorem mem_filesOfArchive {settings : Settings} {entries : List Entry} {files : List ProjectFile}
    (h : filesOfArchive settings entries = .ok files) (file : ProjectFile) :
    file ∈ files ↔ ∃ entry ∈ entries, counts settings entry = true ∧
      cleanPath entry.name.toList ≠ [] ∧
      file = .ofOctets (String.ofList (cleanPath entry.name.toList)) entry.data := by
  rw [filesOfArchive_eq] at h
  split at h
  · cases h
  · cases h
    rw [List.mem_filterMap]
    refine exists_congr fun entry => ?_
    rw [List.mem_filter, and_assoc]
    refine and_congr_right fun _ => and_congr_right fun _ => ?_
    unfold fileOf?
    cases hpath : cleanPath entry.name.toList with
    | nil => simp
    | cons c rest => simp [eq_comm]

variable {settings : Settings} {first second : List Entry}

/-- The order of entries does not matter to their size. -/
theorem totalSize_of_perm (h : first.Perm second) : totalSize first = totalSize second := by
  induction h with
  | nil => rfl
  | cons entry _ ih => rw [totalSize, totalSize, ih]
  | swap entry other rest =>
    simp only [totalSize]
    omega
  | trans _ _ ihfirst ihsecond => exact ihfirst.trans ihsecond

/-- Fewer entries are not larger. -/
theorem totalSize_le_of_sublist (h : first.Sublist second) :
    totalSize first ≤ totalSize second := by
  induction h with
  | slnil => exact Nat.le_refl _
  | cons entry _ ih =>
    rw [totalSize]
    omega
  | cons_cons entry _ ih =>
    rw [totalSize, totalSize]
    omega

/-- Too large together is a matter of the entries that count, not of their order. -/
theorem overflows_congr
    (h : (first.filter (counts settings)).Perm (second.filter (counts settings))) :
    Overflows settings first ↔ Overflows settings second := by
  have htotal := totalSize_of_perm h
  have hempty : first.filter (counts settings) = [] ↔ second.filter (counts settings) = [] := by
    rw [← List.length_eq_zero_iff, h.length_eq, List.length_eq_zero_iff]
  rw [Overflows, Overflows, htotal, ne_eq, ne_eq, hempty]

/-- If some entries are too large together, so are more of them. -/
theorem Overflows.of_sublist (h : first.Sublist second) (hfirst : Overflows settings first) :
    Overflows settings second := by
  have hcounted := h.filter (counts settings)
  obtain ⟨hne, hlimit⟩ := hfirst
  refine ⟨fun hnil => hne (List.eq_nil_of_sublist_nil (hnil ▸ hcounted)), ?_⟩
  have htotal := totalSize_le_of_sublist hcounted
  omega

end Restack.Intake
