import Restack.Text.Split

/-!
# Texts and their pieces

Joining is what the library means by intercalating, and the tests for parts are what it means by
beginnings, ends and infixes. What stands between two separators is one of the pieces, and not the
last.
-/

namespace Restack.Text

/-- Joining puts the separator between the pieces. -/
theorem joinWith_eq_intercalate (separator : List Char) (pieces : List (List Char)) :
    joinWith separator pieces = separator.intercalate pieces := by
  induction pieces with
  | nil => rfl
  | cons piece rest ih =>
    cases rest with
    | nil => rw [joinWith, List.intercalate_singleton]
    | cons next rest =>
      rw [joinWith, ih, List.intercalate_cons_cons]
      exact List.cons_ne_nil _ _

/-- What stands in a text that was joined stands in a piece or in the separator. -/
theorem mem_joinWith {separator : List Char} {pieces : List (List Char)} {c : Char}
    (h : c ∈ joinWith separator pieces) : c ∈ separator ∨ ∃ piece ∈ pieces, c ∈ piece := by
  induction pieces with
  | nil => cases h
  | cons piece rest ih =>
    cases rest with
    | nil => exact .inr ⟨piece, List.mem_cons_self, h⟩
    | cons next rest =>
      rw [joinWith, List.mem_append, List.mem_append] at h
      · rcases h with (h | h) | h
        · exact .inr ⟨piece, List.mem_cons_self, h⟩
        · exact .inl h
        · refine (ih h).imp_right fun ⟨other, hother, hc⟩ => ?_
          exact ⟨other, List.mem_cons_of_mem _ hother, hc⟩
      · exact List.cons_ne_nil _ _

/-- Where the last piece is told apart, each piece before it is followed by the separator. -/
theorem joinWith_concat (separator : List Char) (pieces : List (List Char)) (last : List Char) :
    joinWith separator (pieces ++ [last]) = pieces.flatMap (· ++ separator) ++ last := by
  induction pieces with
  | nil => rfl
  | cons piece rest ih =>
    rw [List.cons_append, joinWith, ih, List.flatMap_cons, ← List.append_assoc]
    exact List.append_ne_nil_of_right_ne_nil _ (List.cons_ne_nil _ _)

/-- The first piece goes up to the first separator. -/
theorem head?_splitOnP (separates : Char → Bool) (s : List Char) :
    (s.splitOnP separates).head? = some (s.takeWhile fun c => !separates c) := by
  induction s with
  | nil => rfl
  | cons c rest ih =>
    rw [List.splitOnP_cons_eq_if_modifyHead]
    cases hc : separates c with
    | true => simp [hc]
    | false => simp [hc, ih]

/-- A separator is in no piece. -/
theorem not_mem_of_mem_splitOn {separator : Char} {s piece : List Char}
    (h : piece ∈ s.splitOn separator) : separator ∉ piece := by
  induction s generalizing piece with
  | nil =>
    rw [List.splitOn_nil, List.mem_singleton] at h
    rw [h]
    exact List.not_mem_nil
  | cons c rest ih =>
    rw [List.splitOn_cons_eq_if_modifyHead] at h
    split at h
    · rcases List.mem_cons.mp h with rfl | h
      · exact List.not_mem_nil
      · exact ih h
    · rename_i hc
      cases hpieces : rest.splitOn separator with
      | nil => exact absurd hpieces (List.splitOn_ne_nil _ _)
      | cons first others =>
        rw [hpieces] at h ih
        rcases List.mem_cons.mp h with rfl | h
        · have hne : separator ≠ c := by simpa using Ne.symm (ne_of_beq_false (by simpa using hc))
          exact List.not_mem_cons_of_ne_of_not_mem hne (ih List.mem_cons_self)
        · exact ih (List.mem_cons_of_mem _ h)

/-- Splitting at a character is what it is for lists. -/
theorem splitOnChar_eq_splitOn (separator : Char) (s : List Char) :
    splitOnChar separator s = s.splitOn separator := by
  induction s with
  | nil => rfl
  | cons c rest ih =>
    rw [splitOnChar, List.splitOn_cons_eq_if_modifyHead, ih]
    cases hpieces : rest.splitOn separator with
    | nil => exact absurd hpieces (List.splitOn_ne_nil _ _)
    | cons first others => rfl

/-- Each separator makes one more piece. -/
theorem length_splitOnChar (separator : Char) (s : List Char) :
    (splitOnChar separator s).length = s.count separator + 1 := by
  induction s with
  | nil => rfl
  | cons c rest ih =>
    rw [splitOnChar]
    by_cases hc : c = separator
    · simp [hc, ih]
    · cases hpieces : splitOnChar separator rest with
      | nil =>
        rw [hpieces] at ih
        simp at ih
      | cons piece pieces =>
        rw [hpieces] at ih
        simpa [hc] using ih

/-- A line feed is in no line. -/
theorem not_mem_of_mem_lines {line s : String} (h : line ∈ lines s) : '\n' ∉ line.toList := by
  obtain ⟨piece, hpiece, rfl⟩ := List.mem_map.mp h
  rw [splitOnChar_eq_splitOn] at hpiece
  rw [String.toList_ofList]
  exact not_mem_of_mem_splitOn hpiece

/-- Pieces of two texts with a separator between them. -/
theorem intercalate_append {separator : List Char} {first second : List (List Char)}
    (hfirst : first ≠ []) (hsecond : second ≠ []) :
    separator.intercalate (first ++ second) =
      separator.intercalate first ++ separator ++ separator.intercalate second := by
  induction first with
  | nil => exact absurd rfl hfirst
  | cons piece rest ih =>
    by_cases hrest : rest = []
    · subst hrest
      rw [List.singleton_append, List.intercalate_cons_of_ne_nil hsecond,
        List.intercalate_singleton]
    · rw [List.cons_append, List.intercalate_cons_of_ne_nil (by simp [hrest]), ih hrest,
        List.intercalate_cons_of_ne_nil hrest]
      simp only [List.append_assoc]

/-- What is left after a part stood behind it. -/
theorem afterPart?_eq_some_iff {part s tail : List Char} :
    afterPart? part s = some tail ↔ s = part ++ tail := by
  induction part generalizing s with
  | nil => simp [afterPart?, eq_comm]
  | cons p part ih =>
    cases s with
    | nil => simp [afterPart?]
    | cons c rest =>
      rw [afterPart?]
      split
      · rename_i hc
        rw [ih, beq_iff_eq.mp hc]
        simp
      · rename_i hc
        have hne : c ≠ p := fun h => hc (by simp [h])
        simp [hne]

/-- What stands before and behind the first occurrence of a part. -/
theorem eq_of_cutAt {part s before after : List Char} (h : cutAt part s = some (before, after)) :
    s = before ++ (part ++ after) := by
  induction s generalizing before with
  | nil =>
    rw [cutAt] at h
    split at h
    · rename_i hpart
      cases h
      rw [List.isEmpty_iff.mp hpart]
      rfl
    · cases h
  | cons c rest ih =>
    rw [cutAt] at h
    split at h
    · rename_i tail htail
      cases h
      rw [List.nil_append]
      exact afterPart?_eq_some_iff.mp htail
    · obtain ⟨halves, hhalves, heq⟩ := Option.map_eq_some_iff.mp h
      cases heq
      rw [ih hhalves]
      rfl

/-- No part of a text occurs before its first occurrence. -/
theorem length_le_of_cutAt {part s before after front back : List Char}
    (h : cutAt part s = some (before, after)) (hs : s = front ++ (part ++ back)) :
    before.length ≤ front.length := by
  induction s generalizing before front with
  | nil =>
    rw [cutAt] at h
    split at h
    · cases h
      exact Nat.zero_le _
    · cases h
  | cons c rest ih =>
    rw [cutAt] at h
    split at h
    · cases h
      exact Nat.zero_le _
    · rename_i hnone
      obtain ⟨halves, hhalves, heq⟩ := Option.map_eq_some_iff.mp h
      cases heq
      cases front with
      | nil =>
        rw [List.nil_append] at hs
        rw [afterPart?_eq_some_iff.mpr hs] at hnone
        cases hnone
      | cons d front => exact Nat.succ_le_succ (ih hhalves (List.cons.inj hs).2)

/-- A text starts with what stands in front of it. -/
theorem startsWith_iff_prefix {part s : List Char} : startsWith part s = true ↔ part <+: s := by
  rw [startsWith, Option.isSome_iff_exists]
  simp only [afterPart?_eq_some_iff]
  exact ⟨fun ⟨tail, h⟩ => ⟨tail, h.symm⟩, fun ⟨tail, h⟩ => ⟨tail, h.symm⟩⟩

/-- A text ends with what stands at its end. -/
theorem endsWith_iff_suffix {part s : List Char} : endsWith part s = true ↔ part <:+ s := by
  rw [endsWith, startsWith_iff_prefix, List.reverse_prefix]

/-- A part occurs in a text if it is a stretch of it. -/
theorem occurs_iff_infix {part s : List Char} : occurs part s = true ↔ part <:+: s := by
  unfold occurs
  induction s with
  | nil =>
    rw [cutAt]
    cases part <;> simp
  | cons c rest ih =>
    rw [cutAt, List.infix_cons_iff]
    cases hpart : afterPart? part (c :: rest) with
    | some tail =>
      have hbegins : part <+: c :: rest := ⟨tail, (afterPart?_eq_some_iff.mp hpart).symm⟩
      simp [hbegins]
    | none =>
      have hbegins : ¬part <+: c :: rest := by
        rintro ⟨tail, htail⟩
        rw [afterPart?_eq_some_iff.mpr htail.symm] at hpart
        cases hpart
      rw [Option.isSome_map, ih]
      simp [hbegins]

/-- What stands between two separators is a piece, and it is not the last one. -/
theorem enclosed_infix_iff {separator : Char} {name s : List Char} (hname : separator ∉ name) :
    separator :: (name ++ [separator]) <:+: separator :: s ↔
      name ∈ (s.splitOn separator).dropLast := by
  constructor
  · rintro ⟨before, after, h⟩
    have hsplit : (before ++ separator :: (name ++ separator :: after)).splitOn separator =
        [] :: s.splitOn separator := by
      have heq : before ++ separator :: (name ++ separator :: after) = separator :: s := by
        simpa using h
      rw [heq, List.splitOn_cons_eq_if_modifyHead, if_pos (beq_self_eq_true _)]
    rw [List.splitOn_append_cons_self, List.splitOn_append_cons_self_of_not_mem hname] at hsplit
    obtain ⟨first, others, hbefore⟩ :=
      List.exists_cons_of_ne_nil (List.splitOn_ne_nil separator before)
    rw [hbefore, List.cons_append] at hsplit
    rw [← (List.cons.inj hsplit).2, List.dropLast_append_of_ne_nil (List.cons_ne_nil _ _),
      List.dropLast_cons_of_ne_nil (List.splitOn_ne_nil _ _)]
    exact List.mem_append_right _ List.mem_cons_self
  · intro h
    obtain ⟨before, after, hpieces⟩ := List.append_of_mem h
    have hne : s.splitOn separator ≠ [] := List.splitOn_ne_nil _ _
    -- The pieces are those before the name, the name, and at least one more.
    have hall : s.splitOn separator =
        before ++ name :: after ++ [(s.splitOn separator).getLast hne] := by
      rw [← hpieces, List.dropLast_concat_getLast]
    have hsplit : [] :: s.splitOn separator = ([] :: before) ++ ([name] ++ (after ++
        [(s.splitOn separator).getLast hne])) := by
      simpa using hall
    have hs : separator :: s = [separator].intercalate ([] :: s.splitOn separator) := by
      rw [List.intercalate_cons_of_ne_nil hne, List.intercalate_splitOn]
      rfl
    rw [hs, hsplit, intercalate_append (by simp) (by simp), intercalate_append (by simp) (by simp),
      List.intercalate_singleton]
    refine ⟨[separator].intercalate ([] :: before), [separator].intercalate (after ++
      [(s.splitOn separator).getLast hne]), ?_⟩
    simp only [List.append_assoc, List.cons_append, List.nil_append]

end Restack.Text
