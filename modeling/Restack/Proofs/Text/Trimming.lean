import Mathlib.Data.List.DropRight
import Restack.Text.Blank
import Restack.Text.Word

/-!
# Trimmed texts

A trimmed text neither begins nor ends with a blank, and a text of this kind is left as it is.
Signs, digits and letters of ASCII are no blanks.
-/

namespace Restack.Text

variable {s : List Char} {c : Char}

/-- The visible characters of ASCII are no blanks. -/
theorem isBlank_eq_false_of_visible (hlow : '!' ≤ c) (hhigh : c ≤ '~') : isBlank c = false := by
  have hlow : 33 ≤ c.toNat := hlow
  have hhigh : c.toNat ≤ 126 := hhigh
  simp only [isBlank, Bool.or_eq_false_iff, Bool.and_eq_false_iff, decide_eq_false_iff_not,
    beq_eq_false_iff_ne]
  omega

/-- The codes of letters stand in two rows. -/
theorem toNat_of_isAsciiLetter (h : isAsciiLetter c = true) :
    97 ≤ c.toNat ∧ c.toNat ≤ 122 ∨ 65 ≤ c.toNat ∧ c.toNat ≤ 90 := by
  simp only [isAsciiLetter, Bool.or_eq_true, Bool.and_eq_true, decide_eq_true_eq] at h
  exact h

/-- Letters are no blanks. -/
theorem isBlank_of_isAsciiLetter (h : isAsciiLetter c = true) : isBlank c = false := by
  have hcode := toNat_of_isAsciiLetter h
  exact isBlank_eq_false_of_visible (show 33 ≤ c.toNat by omega) (show c.toNat ≤ 126 by omega)

/-- The codes of digits stand in a row. -/
theorem toNat_of_isAsciiDigit (h : isAsciiDigit c = true) : 48 ≤ c.toNat ∧ c.toNat ≤ 57 := by
  simp only [isAsciiDigit, Bool.and_eq_true, decide_eq_true_eq] at h
  exact h

/-- Digits are no blanks. -/
theorem isBlank_of_isAsciiDigit (h : isAsciiDigit c = true) : isBlank c = false := by
  have hcode := toNat_of_isAsciiDigit h
  exact isBlank_eq_false_of_visible (show 33 ≤ c.toNat by omega) (show c.toNat ≤ 126 by omega)

/-- Blanks do not stand at the ends of a text. -/
structure IsTrimmed (s : List Char) : Prop where
  head : ∀ c ∈ s.head?, isBlank c = false
  last : ∀ c ∈ s.getLast?, isBlank c = false

/-- Dropping a tail is what it is for lists. -/
theorem dropTail_eq_rdropWhile (p : Char → Bool) (s : List Char) :
    dropTail p s = s.rdropWhile p :=
  rfl

/-- A blank in front is taken off. -/
theorem trim_cons_of_blank (h : isBlank c = true) (s : List Char) : trim (c :: s) = trim s := by
  rw [trim, stripBoth, List.dropWhile_cons_of_pos h]
  rfl

/-- There are no blanks around a trimmed text. -/
theorem isTrimmed_trim (s : List Char) : IsTrimmed (trim s) := by
  rw [trim, stripBoth, dropTail_eq_rdropWhile]
  constructor
  · intro c hc
    obtain ⟨rest, hrest⟩ := List.rdropWhile_prefix isBlank (l := s.dropWhile isBlank)
    cases hkept : (s.dropWhile isBlank).rdropWhile isBlank with
    | nil => simp [hkept] at hc
    | cons d others =>
      rw [hkept] at hc hrest
      cases hc
      have hhead := List.head?_dropWhile_not isBlank s
      rw [← hrest] at hhead
      simpa using hhead
  · intro c hc
    obtain ⟨hne, rfl⟩ := List.mem_getLast?_eq_getLast hc
    exact Bool.eq_false_iff.mpr (List.rdropWhile_last_not isBlank _ hne)

/-- Nothing is removed at the ends of a trimmed text as long as only blanks are. -/
theorem IsTrimmed.stripBoth_eq {p : Char → Bool} (h : IsTrimmed s)
    (hp : ∀ c, p c = true → isBlank c = true) : stripBoth p s = s := by
  have hfront : s.dropWhile p = s := by
    cases s with
    | nil => rfl
    | cons c rest =>
      refine List.dropWhile_cons_of_neg fun hc => ?_
      simpa [h.head c rfl] using hp c hc
  rw [stripBoth, hfront, dropTail_eq_rdropWhile, List.rdropWhile_eq_self_iff]
  intro hne hlast
  simpa [h.last _ (List.getLast?_eq_some_getLast hne)] using hp _ hlast

/-- Nothing is taken off a text without blanks around it. -/
theorem IsTrimmed.trim_eq (h : IsTrimmed s) : trim s = s :=
  h.stripBoth_eq fun _ => id

/-- A text is trimmed if it begins as a trimmed one and does not end with a blank. -/
theorem IsTrimmed.append {t : List Char} (h : IsTrimmed s) (hne : s ≠ [])
    (hlast : ∀ c ∈ t.getLast?, isBlank c = false) : IsTrimmed (s ++ t) := by
  constructor
  · intro c hc
    rw [List.head?_append_of_ne_nil _ hne] at hc
    exact h.head c hc
  · intro c hc
    rw [List.getLast?_append, Option.mem_def, Option.or_eq_some_iff] at hc
    rcases hc with hback | ⟨-, hfront⟩
    · exact hlast c hback
    · exact h.last c hfront

/-- Behind a trimmed text, blanks are removed at the end only. -/
theorem IsTrimmed.trim_append (h : IsTrimmed s) (hne : s ≠ []) (t : List Char) :
    trim (s ++ t) = s ++ dropTail isBlank t := by
  have hfront : (s ++ t).dropWhile isBlank = s ++ t := by
    cases s with
    | nil => exact absurd rfl hne
    | cons c rest => exact List.dropWhile_cons_of_neg (by simp [h.head c rfl])
  have hback : s.reverse.dropWhile isBlank = s.reverse := by
    cases hlast : s.reverse with
    | nil => rfl
    | cons c rest =>
      refine List.dropWhile_cons_of_neg ?_
      simp [h.last c (by rw [← List.head?_reverse, hlast]; rfl)]
  rw [trim, stripBoth, hfront, dropTail, dropTail, List.reverse_append, List.dropWhile_append,
    hback]
  split
  · rename_i hblank
    rw [List.isEmpty_iff.mp hblank]
    simp
  · simp

section Ends

variable {p : Char → Bool} {t : List Char}

/-- What is removed at the end may be put behind a text. -/
theorem dropTail_append_of_forall (h : ∀ c ∈ t, p c = true) (s : List Char) :
    dropTail p (s ++ t) = dropTail p s := by
  have hrest : ∀ c ∈ t.reverse, p c = true := fun c hc => h c (List.mem_reverse.mp hc)
  rw [dropTail, List.reverse_append, List.dropWhile_append_of_pos hrest, dropTail]

/-- Nothing is dropped if the last character does not satisfy the test. -/
theorem dropTail_eq_self (h : ∀ c ∈ s.getLast?, p c = false) : dropTail p s = s := by
  rw [dropTail_eq_rdropWhile, List.rdropWhile_eq_self_iff]
  intro hne
  exact Bool.eq_false_iff.mp (h _ (List.getLast?_eq_some_getLast hne))

/-- What is left does not end with what is removed. -/
theorem getLast?_dropTail (p : Char → Bool) (s : List Char) :
    ∀ c ∈ (dropTail p s).getLast?, p c = false := by
  intro c hc
  obtain ⟨hne, rfl⟩ := List.mem_getLast?_eq_getLast hc
  exact Bool.eq_false_iff.mpr (List.rdropWhile_last_not p s hne)

/-- What is dropped as a tail satisfies the test. -/
theorem exists_dropTail (p : Char → Bool) (s : List Char) :
    ∃ tail, s = dropTail p s ++ tail ∧ ∀ c ∈ tail, p c = true :=
  ⟨s.rtakeWhile p, List.rdropWhile_append_rtakeWhile.symm, fun _ => List.mem_rtakeWhile_imp⟩

/-- Blanks may be put around a text that is trimmed. -/
theorem trim_append_blanks {front back : List Char} (hfront : ∀ c ∈ front, isBlank c = true)
    (hback : ∀ c ∈ back, isBlank c = true) (s : List Char) :
    trim (front ++ s ++ back) = trim s := by
  have hrest : (front ++ s ++ back).dropWhile isBlank = (s ++ back).dropWhile isBlank := by
    rw [List.append_assoc, List.dropWhile_append_of_pos hfront]
  rw [trim, stripBoth, hrest, List.dropWhile_append]
  split
  · rename_i hblank
    have hnone : back.dropWhile isBlank = [] := List.dropWhile_eq_nil_iff.mpr hback
    rw [hnone, trim, stripBoth, List.isEmpty_iff.mp hblank]
  · rw [dropTail_append_of_forall hback, trim, stripBoth]

/-- A text has blanks around what is left when it is trimmed. -/
theorem exists_trim (s : List Char) :
    ∃ front back, s = front ++ trim s ++ back ∧ (∀ c ∈ front, isBlank c = true) ∧
      ∀ c ∈ back, isBlank c = true := by
  obtain ⟨back, hrest, hback⟩ := exists_dropTail isBlank (s.dropWhile isBlank)
  refine ⟨s.takeWhile isBlank, back, ?_, fun c hc => List.mem_takeWhile_imp hc, hback⟩
  rw [List.append_assoc, trim, stripBoth, ← hrest, List.takeWhile_append_dropWhile]

end Ends

/-- What is left when the tail is dropped stands in front. -/
theorem isPrefix_dropTail {α : Type} (p : α → Bool) (s : List α) : dropTail p s <+: s :=
  List.rdropWhile_prefix p s

/-- A text without blanks. -/
theorem IsTrimmed.of_forall (h : ∀ c ∈ s, isBlank c = false) : IsTrimmed s :=
  ⟨fun c hc => h c (List.mem_of_mem_head? hc), fun c hc => h c (List.mem_of_mem_getLast? hc)⟩

end Restack.Text
