import Mathlib.Tactic.ByContra
import Restack.Proofs.Text.Pieces
import Restack.Text.Case

/-!
# Lower case between slashes

A slash has no case, is the lower case of nothing else, and separates words, so that what stands
before it does not decide on the form of a sigma behind it, nor the other way round. A path is put
into lower case part by part.
-/

namespace Restack.Text

/-- What is found in a table is an entry of it. -/
theorem mem_of_searchTable {α : Type} {table : Array α} {order : α → Ordering} {entry : α}
    (h : searchTable table order = some entry) : entry ∈ table ∧ order entry = .eq := by
  have hgo : ∀ fuel low high, searchTable.go table order fuel low high = some entry →
      entry ∈ table ∧ order entry = .eq := by
    intro fuel
    induction fuel with
    | zero =>
      intro low high h
      cases h
    | succ fuel ih =>
      intro low high h
      rw [searchTable.go] at h
      split at h
      · cases hmiddle : table[(low + high) / 2]? with
        | none =>
          simp only [hmiddle] at h
          cases h
        | some middle =>
          simp only [hmiddle] at h
          cases horder : order middle with
          | lt =>
            simp only [horder] at h
            exact ih _ _ h
          | gt =>
            simp only [horder] at h
            exact ih _ _ h
          | eq =>
            simp only [horder, Option.some.injEq] at h
            exact h ▸ ⟨Array.mem_of_getElem? hmiddle, horder⟩
      · cases h
  exact hgo _ _ _ h

/-- Of all numbers, the slash has one only. -/
theorem eq_of_ofNat_eq_slash {n : Nat} (h : Char.ofNat n = '/') : n = 47 := by
  have hvalid : n.isValidChar := by
    by_contra hinvalid
    rw [Char.ofNat, dif_neg hinvalid] at h
    revert h
    decide
  have hn : (Char.ofNat n).toNat = n := by
    rw [Char.ofNat, dif_pos hvalid]
    rfl
  rw [h] at hn
  exact hn.symm

/-- No run of letters is moved onto the slash. -/
theorem moveByRun_ne_slash {c : Char} (hc : c ≠ '/') : moveByRun lowerRuns c ≠ '/' := by
  have htable : ∀ run ∈ lowerRuns.toList, (47 : Int) < run.1 + run.2.2.2 := by decide +kernel
  unfold moveByRun
  split
  · rename_i first last stride distance hfound
    obtain ⟨hmem, horder⟩ := mem_of_searchTable hfound
    have hmoved : (47 : Int) < first + distance := htable _ (Array.mem_toList_iff.mpr hmem)
    have hfirst : first ≤ c.toNat := by
      by_contra hlt
      simp [rangeOrder, Nat.lt_of_not_le hlt] at horder
    split
    · intro h
      have hnumber := eq_of_ofNat_eq_slash h
      omega
    · exact hc
  · exact hc

/-- The slash is the lower case of itself only. -/
theorem eq_slash_of_mem_lowerChar {c : Char} (h : '/' ∈ lowerChar c) : c = '/' := by
  by_contra hc
  unfold lowerChar at h
  split at h
  · split at h
    · rename_i hupper
      have hlarge : 'A' ≤ c := (by simpa using hupper : 'A' ≤ c ∧ c ≤ 'Z').1
      have hlow : 65 ≤ c.toNat := UInt32.le_iff_toNat_le.mp (Char.le_def.mp hlarge)
      have hnumber := eq_of_ofNat_eq_slash (List.mem_singleton.mp h).symm
      omega
    · exact hc (List.mem_singleton.mp h).symm
  · split at h
    · rename_i letters hletters
      have hletters : letters = [105, 775] := by
        rw [lowerExpansions, List.lookup_cons, List.lookup_nil] at hletters
        split at hletters
        · exact (Option.some.inj hletters).symm
        · cases hletters
      rw [hletters] at h
      revert h
      decide
    · exact moveByRun_ne_slash hc (List.mem_singleton.mp h).symm

/-- A text without slashes has none in lower case. -/
theorem slash_not_mem_lower {s : List Char} (h : '/' ∉ s) : '/' ∉ lower s := by
  have hgo : ∀ before, '/' ∉ s → '/' ∉ lower.go before s := by
    induction s with
    | nil => exact fun _ _ => List.not_mem_nil
    | cons c rest ih =>
      intro before h
      obtain ⟨hc, hrest⟩ := not_or.mp (mt List.mem_cons.mpr h)
      rw [lower.go]
      split
      · refine List.not_mem_cons_of_ne_of_not_mem (fun hsigma => ?_) (ih hrest _ hrest)
        have hnumber := eq_of_ofNat_eq_slash hsigma.symm
        revert hnumber
        split <;> decide
      · rw [List.mem_append, not_or]
        exact ⟨fun hmem => hc (eq_slash_of_mem_lowerChar hmem).symm, ih hrest _ hrest⟩
  exact hgo [] h

/-- What stands behind a slash does not matter to a letter before it. -/
theorem nextIsCased_append_slash (s rest : List Char) :
    nextIsCased (s ++ '/' :: rest) = nextIsCased s := by
  have hpassed : inRanges caseIgnorableRanges 47 = false := by decide +kernel
  have hcased : inRanges casedRanges 47 = false := by decide +kernel
  unfold nextIsCased
  rw [List.dropWhile_append]
  cases hs : s.dropWhile fun c => inRanges caseIgnorableRanges c.toNat with
  | nil => simp [hpassed, hcased, List.dropWhile]
  | cons c others => simp

/-- What stands before a slash does not matter to the letters behind it. -/
theorem lower_go_append_slash (s before further : List Char) :
    lower.go (before ++ '/' :: further) s = lower.go before s := by
  induction s generalizing before with
  | nil => rfl
  | cons c rest ih =>
    rw [lower.go, lower.go, nextIsCased_append_slash, ← List.cons_append, ih]

/-- The parts of a text before and behind a slash are put into lower case on their own. -/
theorem lower_append_slash (first second : List Char) :
    lower (first ++ '/' :: second) = lower first ++ '/' :: lower second := by
  have hgo : ∀ before, lower.go before (first ++ '/' :: second) =
      lower.go before first ++ '/' :: lower second := by
    induction first with
    | nil =>
      intro before
      have hslash : lower.go before ('/' :: second) = '/' :: lower.go ('/' :: before) second := rfl
      rw [List.nil_append, hslash]
      exact congrArg ('/' :: ·) (lower_go_append_slash second [] before)
    | cons c rest ih =>
      intro before
      rw [List.cons_append, lower.go, lower.go, nextIsCased_append_slash, ih]
      split
      · rfl
      · rw [List.append_assoc]
  exact hgo []

/-- The parts of a path in lower case are the parts in lower case. -/
theorem splitOn_lower (s : List Char) :
    (lower s).splitOn '/' = (s.splitOn '/').map lower := by
  have hjoin : ∀ parts : List (List Char), parts ≠ [] →
      lower (['/'].intercalate parts) = ['/'].intercalate (parts.map lower) := by
    intro parts hne
    induction parts with
    | nil => exact absurd rfl hne
    | cons part rest ih =>
      cases rest with
      | nil => rw [List.map_cons, List.map_nil, List.intercalate_singleton,
          List.intercalate_singleton]
      | cons next rest =>
        rw [List.map_cons, List.map_cons, List.intercalate_cons_cons, List.intercalate_cons_cons,
          List.append_assoc, List.append_assoc, List.singleton_append, List.singleton_append,
          lower_append_slash, ih (List.cons_ne_nil _ _), List.map_cons]
  have hparts : ∀ part ∈ (s.splitOn '/').map lower, '/' ∉ part := by
    intro part hpart
    obtain ⟨piece, hpiece, rfl⟩ := List.mem_map.mp hpart
    exact slash_not_mem_lower (not_mem_of_mem_splitOn hpiece)
  have hne : s.splitOn '/' ≠ [] := List.splitOn_ne_nil _ _
  calc
    (lower s).splitOn '/' = (lower (['/'].intercalate (s.splitOn '/'))).splitOn '/' := by
      rw [List.intercalate_splitOn]
    _ = (['/'].intercalate ((s.splitOn '/').map lower)).splitOn '/' := by rw [hjoin _ hne]
    _ = (s.splitOn '/').map lower := List.splitOn_intercalate _ hparts (by simp)

end Restack.Text
