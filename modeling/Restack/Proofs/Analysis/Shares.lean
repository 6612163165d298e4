import Mathlib.Algebra.BigOperators.Group.List.Lemmas
import Mathlib.Algebra.GroupWithZero.Nat
import Restack.Analysis.Detection
import Restack.Proofs.Number.Magnitudes
import Restack.Proofs.Text.Stretches

/-!
# The shares of the languages

What is said of a language does not depend on the order of its files: their number and that of their
lines are sums, and no word that a purpose is guessed by reaches from one file into the next. Every
known file counts for one language. Shares are compared as numbers, since there are lines wherever
there is a language, so that sorting puts the same percentages in the same places.
-/

namespace Restack.Analysis

open Restack.Text

section Purposes

variable {texts others words : List String}

/-- Texts are looked through one by one: a word without a blank does not reach from one of them into
the next. -/
theorem speaksOf_iff (hwords : ∀ word ∈ words, word.toList ≠ [] ∧ ' ' ∉ word.toList) :
    speaksOf texts words = true ↔
      ∃ word ∈ words, ∃ text ∈ texts, hasPart word (lowered text) = true := by
  unfold speaksOf hasPart joined
  rw [List.any_eq_true]
  refine exists_congr fun word => and_congr_right fun hword => ?_
  obtain ⟨hne, hblank⟩ := hwords word hword
  rw [String.toList_ofList, occurs_iff_infix]
  change _ <:+: joinWith [' '] _ ↔ _
  rw [isInfix_joinWith_iff hblank hne]
  simp only [List.mem_map, exists_exists_and_eq_and, occurs_iff_infix]

/-- Whether words occur in texts that are searched one after the other does not depend on their
order, since no word goes over a blank. -/
theorem speaksOf_perm (h : texts.Perm others)
    (hwords : ∀ word ∈ words, word.toList ≠ [] ∧ ' ' ∉ word.toList) :
    speaksOf texts words = speaksOf others words := by
  rw [Bool.eq_iff_iff, speaksOf_iff hwords, speaksOf_iff hwords]
  simp only [h.mem_iff]

/-- What files are for does not depend on their order. -/
theorem purposeOf_perm (tables : Tables) (language : String) {files others : List SourceFile}
    (h : files.Perm others) :
    purposeOf tables language files = purposeOf tables language others := by
  unfold purposeOf
  dsimp only
  rw [speaksOf_perm (h.map (·.path)) (by decide), speaksOf_perm (h.map (·.content)) (by decide),
    speaksOf_perm (h.map (·.content)) (by decide), speaksOf_perm (h.map (·.path)) (by decide),
    speaksOf_perm (h.map (·.content)) (by decide), speaksOf_perm (h.map (·.content)) (by decide)]

end Purposes

/-- The lines of files are counted file by file. -/
theorem linesIn_eq_sum (files : List SourceFile) :
    linesIn files = (files.map fun file => SourceFile.lineCount file.content).sum :=
  rfl

/-- The order of files does not matter to their number of lines. -/
theorem linesIn_perm {files others : List SourceFile} (h : files.Perm others) :
    linesIn files = linesIn others := by
  rw [linesIn_eq_sum, linesIn_eq_sum]
  exact (h.map _).sum_nat

/-- Every file has a line. -/
theorem linesIn_pos {files : List SourceFile} (h : files ≠ []) : 0 < linesIn files := by
  cases files with
  | nil => exact absurd rfl h
  | cons file rest => exact Nat.add_pos_left (Nat.succ_pos _) _

section Known

variable {tables : Tables} {files : List SourceFile}

/-- A file has a language unless it is the unknown one. -/
theorem languageOf?_eq (tables : Tables) (file : SourceFile) :
    languageOf? tables file =
      if languageOf tables file = unknownLanguage then none else some (languageOf tables file) := by
  simp only [languageOf?, beq_iff_eq]

/-- The known files are the files whose language is told, each with it. -/
theorem knownFiles_eq (tables : Tables) (files : List SourceFile) :
    knownFiles tables files =
      (files.filter (languageOf tables · ≠ unknownLanguage)).map
        fun file => (languageOf tables file, file) := by
  unfold knownFiles
  induction files with
  | nil => rfl
  | cons file rest ih =>
    rw [List.filterMap_cons, List.filter_cons, ih, languageOf?_eq]
    by_cases hlanguage : languageOf tables file = unknownLanguage <;> simp [hlanguage]

/-- The files with a language are those whose language is not the unknown one, in order. -/
theorem map_snd_knownFiles (tables : Tables) (files : List SourceFile) :
    (knownFiles tables files).map (·.2) =
      files.filter (languageOf tables · ≠ unknownLanguage) := by
  rw [knownFiles_eq, List.map_map]
  exact List.map_id _

/-- The known files of a language are its files. -/
theorem filter_knownFiles {language : String} (h : language ≠ unknownLanguage) :
    ((knownFiles tables files).filter (·.1 == language)).map (·.2) =
      files.filter (languageOf tables · = language) := by
  rw [knownFiles_eq, List.filter_map, List.map_map, List.filter_filter]
  refine (List.map_id _).trans (List.filter_congr fun file _ => ?_)
  by_cases hlanguage : languageOf tables file = language <;> simp [hlanguage, h]

/-- The languages of a project are those of its files, without the unknown one. -/
theorem mem_languages_iff {language : String} :
    language ∈ ((knownFiles tables files).map (·.1)).eraseDups ↔
      language ≠ unknownLanguage ∧ ∃ file ∈ files, languageOf tables file = language := by
  rw [List.mem_eraseDups, knownFiles_eq, List.map_map, List.mem_map]
  constructor
  · rintro ⟨file, hfile, rfl⟩
    rw [List.mem_filter, decide_eq_true_eq] at hfile
    exact ⟨hfile.2, file, hfile.1, rfl⟩
  · rintro ⟨hknown, file, hfile, rfl⟩
    exact ⟨file, List.mem_filter.mpr ⟨hfile, decide_eq_true hknown⟩, rfl⟩

end Known

/-- Of equal items only the first is kept. -/
theorem nodup_eraseDups : ∀ items : List String, items.eraseDups.Nodup
  | [] => List.nodup_nil
  | item :: rest => by
    rw [List.eraseDups_cons, List.nodup_cons]
    refine ⟨fun hmem => ?_, nodup_eraseDups _⟩
    rw [List.mem_eraseDups, List.mem_filter] at hmem
    simp at hmem
termination_by items => items.length
decreasing_by exact Nat.lt_succ_of_le (List.length_filter_le _ _)

/-- Leaving out what came before keeps the same items, whatever the order. -/
theorem eraseDups_perm {items others : List String} (h : items.Perm others) :
    items.eraseDups.Perm others.eraseDups := by
  rw [List.perm_ext_iff_of_nodup (nodup_eraseDups _) (nodup_eraseDups _)]
  intro item
  rw [List.mem_eraseDups, List.mem_eraseDups, h.mem_iff]

section Sorted

variable {tables : Tables} {known others : List (String × SourceFile)}

/-- Every known file is counted for one language. -/
theorem sum_files (known : List (String × SourceFile)) :
    (((known.map (·.1)).eraseDups).map fun language =>
      (known.filter (·.1 == language)).length).sum = known.length := by
  have hperm : (known.map (·.1)).eraseDups.Perm (known.map (·.1)).dedup := by
    rw [List.perm_ext_iff_of_nodup (nodup_eraseDups _) (List.nodup_dedup _)]
    intro language
    rw [List.mem_eraseDups, List.mem_dedup]
  have hcount : ∀ language, (known.map (·.1)).count language =
      (known.filter (·.1 == language)).length := by
    intro language
    rw [List.count_eq_countP, List.countP_map, List.countP_eq_length_filter]
    rfl
  rw [(hperm.map _).sum_nat]
  simp only [← hcount]
  rw [List.sum_map_count_dedup_eq_length, List.length_map]

/-- What is said of a language does not depend on the order of the files. -/
theorem shareOf_perm (tables : Tables) (h : known.Perm others) (language : String) :
    shareOf tables known language = shareOf tables others language := by
  have hown := (h.filter (·.1 == language)).map (·.2)
  unfold shareOf
  dsimp only
  rw [linesIn_perm hown, linesIn_perm (h.map (·.2)), hown.length_eq,
    purposeOf_perm tables language hown]

/-- The languages with the largest shares first. -/
theorem exists_order (tables : Tables) (known : List (String × SourceFile)) :
    ∃ order : List String, order.Perm (known.map (·.1)).eraseDups ∧
      sharesOf tables known = order.map (shareOf tables known) := by
  let before (a b : String) : Bool :=
    (shareOf tables known b).percentage ≤ (shareOf tables known a).percentage
  have hsorted := List.map_mergeSort (r := before) (f := shareOf tables known)
    (s := fun a b => b.percentage ≤ a.percentage) (l := (known.map (·.1)).eraseDups)
    fun _ _ _ _ => rfl
  exact ⟨_, List.mergeSort_perm _ before, hsorted.symm⟩

/-- The order of files does not matter to the shares of languages, but for their order. -/
theorem sharesOf_perm (tables : Tables) (h : known.Perm others) :
    (sharesOf tables known).Perm (sharesOf tables others) := by
  obtain ⟨order, horder, hshares⟩ := exists_order tables known
  obtain ⟨order', horder', hshares'⟩ := exists_order tables others
  rw [hshares, hshares', List.map_congr_left fun language _ => shareOf_perm tables h language]
  exact ((horder.trans (eraseDups_perm (h.map (·.1)))).trans horder'.symm).map _

/-- Where there are lines, a share of them is a number without a sign. -/
theorem isMagnitude_percentageOf (lines : Nat) {total : Nat} (htotal : 0 < total) :
    Number.IsMagnitude (percentageOf lines total) := by
  have hhundred : Number.IsPositive 100.0 := ⟨by decide +kernel, by decide +kernel⟩
  have hshare := (Number.isMagnitude_quotient lines htotal).mul hhundred
  unfold percentageOf
  dsimp only
  cases hround : Number.roundToTenth? (Number.quotient lines total * 100.0) with
  | none => exact hshare
  | some rounded => exact hshare.roundToTenth? hround

/-- The percentages are sorted like the numbers that their bits are. -/
theorem map_percentage_sharesOf (tables : Tables) (known : List (String × SourceFile)) :
    (sharesOf tables known).map (·.percentage.toBits.toNat) =
      ((((known.map (·.1)).eraseDups.map (shareOf tables known)).map
        (·.percentage.toBits.toNat))).mergeSort fun a b => b ≤ a := by
  have hnumber : ∀ share ∈ (known.map (·.1)).eraseDups.map (shareOf tables known),
      Number.IsMagnitude share.percentage := by
    rintro share hshare
    obtain ⟨language, hlanguage, rfl⟩ := List.mem_map.mp hshare
    obtain ⟨entry, hentry, -⟩ := List.mem_map.mp (List.mem_eraseDups.mp hlanguage)
    refine isMagnitude_percentageOf _ (linesIn_pos ?_)
    exact List.ne_nil_of_mem (List.mem_map_of_mem hentry)
  refine List.map_mergeSort fun a ha b hb => ?_
  exact decide_eq_decide.mpr ((hnumber b hb).le_iff (hnumber a ha))

/-- Sorting forgets the order of whole numbers. -/
theorem mergeSort_eq_of_perm {numbers others : List Nat} (h : numbers.Perm others) :
    (numbers.mergeSort fun a b => b ≤ a) = others.mergeSort fun a b => b ≤ a := by
  have hsorted : ∀ l : List Nat, (l.mergeSort fun a b => b ≤ a).Pairwise fun a b => b ≤ a := by
    intro l
    let before (a b : Nat) : Bool := b ≤ a
    have htrans : ∀ a b c, before a b = true → before b c = true → before a c = true := by
      simp only [before, decide_eq_true_eq]
      exact fun a b c hba hcb => Nat.le_trans hcb hba
    have htotal : ∀ a b, (before a b || before b a) = true := by
      simp only [before, Bool.or_eq_true, decide_eq_true_eq]
      exact fun a b => Nat.le_total b a
    exact (List.pairwise_mergeSort htrans htotal l).imp of_decide_eq_true
  refine List.Perm.eq_of_pairwise (fun a b _ _ hba hab => Nat.le_antisymm hab hba)
    (hsorted _) (hsorted _) ?_
  exact (List.mergeSort_perm _ _).trans (h.trans (List.mergeSort_perm _ _).symm)

/-- In whatever order the files come, the same percentages stand in the same places. -/
theorem percentages_perm (tables : Tables) (h : known.Perm others) :
    (sharesOf tables known).map (·.percentage) = (sharesOf tables others).map (·.percentage) := by
  refine List.map_injective_iff.mpr Number.toNat_toBits_injective ?_
  have hshares := (eraseDups_perm (h.map (·.1))).map (shareOf tables known)
  rw [List.map_map, List.map_map]
  refine (map_percentage_sharesOf tables known).trans (.trans ?_
    (map_percentage_sharesOf tables others).symm)
  rw [← List.map_congr_left fun language _ => shareOf_perm tables h language]
  exact mergeSort_eq_of_perm (hshares.map _)

end Sorted

end Restack.Analysis
