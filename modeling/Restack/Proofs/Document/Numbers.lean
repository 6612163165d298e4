import Mathlib.Data.List.TakeDrop
import Restack.Proofs.Number.Decimals
import Restack.Document.Reader

/-!
# Numbers of data documents

A number with neither fraction nor exponent is a whole number, and has to have few enough digits;
any other is a float. Reading a number goes as far as the number does.
-/

namespace Restack.Document

open Number (IsFraction IsExponentSign SpellsExponent ofAsciiDigits minusIf signed)
open Script (IsWholePart)
open Text (isAsciiDigit)

/-- The text of a number and the value that it denotes. -/
inductive SpellsNumber : List Char → Document → Prop where
  | whole {negative : Bool} {whole : List Char} (hwhole : IsWholePart whole)
    (hfew : whole.length ≤ Number.maxDigits) :
    SpellsNumber (minusIf negative ++ whole) (.int (signed negative (ofAsciiDigits whole)))
  | float {negative : Bool} {whole fraction decimals exponent : List Char} {e : Int}
    (hwhole : IsWholePart whole) (hfraction : IsFraction fraction decimals)
    (hexponent : SpellsExponent exponent e) (hparts : fraction ++ exponent ≠ []) :
    SpellsNumber (minusIf negative ++ (whole ++ (fraction ++ exponent)))
      (.float (signed negative
        (Number.floatOfDecimal (ofAsciiDigits (whole ++ decimals)) (e - decimals.length))))

/-- Characters that a number may go on with. -/
def goesOn (c : Char) : Bool :=
  isAsciiDigit c || c == '.' || c == 'e' || c == 'E'

variable {digits whole fraction decimals exponent rest s text : List Char} {e : Int} {v : Document}

/-- What is taken as digits is made of digits, and stood in front. -/
theorem of_spanDigits (h : spanDigits s = (digits, rest)) :
    s = digits ++ rest ∧ ∀ c ∈ digits, isAsciiDigit c = true := by
  rw [spanDigits, List.span_eq_takeWhile_dropWhile] at h
  cases h
  exact ⟨List.takeWhile_append_dropWhile.symm, fun c hc => List.mem_takeWhile_imp hc⟩

/-- Digits are taken up to a character that is none. -/
theorem spanDigits_append (hdigits : ∀ c ∈ digits, isAsciiDigit c = true)
    (hrest : ∀ c ∈ rest.head?, isAsciiDigit c = false) :
    spanDigits (digits ++ rest) = (digits, rest) := by
  rw [spanDigits, List.span_eq_takeWhile_dropWhile, List.takeWhile_append_of_pos hdigits,
    List.dropWhile_append_of_pos hdigits]
  cases rest with
  | nil => simp
  | cons c rest => simp [hrest c rfl]

/-- What is read as a whole part is one, and stood in front. -/
theorem of_readWhole? (h : readWhole? s = some (whole, rest)) :
    s = whole ++ rest ∧ IsWholePart whole := by
  unfold readWhole? at h
  split at h
  · cases h
    exact ⟨rfl, List.cons_ne_nil _ _, List.forall_mem_singleton.mpr rfl, fun _ => rfl⟩
  · rename_i c after hzero
    split at h
    · rename_i hc
      have hspan := Option.some.inj h
      obtain ⟨hs, hdigits⟩ := of_spanDigits hspan
      rw [spanDigits, List.span_eq_takeWhile_dropWhile, List.takeWhile_cons_of_pos hc] at hspan
      cases hspan
      refine ⟨hs, List.cons_ne_nil _ _, hdigits, fun hhead => ?_⟩
      cases hhead
      exact absurd rfl hzero
    · cases h
  · cases h

/-- A whole part is read if no digit follows. -/
theorem readWhole?_append (hwhole : IsWholePart whole)
    (hrest : ∀ c ∈ rest.head?, isAsciiDigit c = false) :
    readWhole? (whole ++ rest) = some (whole, rest) := by
  obtain ⟨c, others, rfl⟩ := List.exists_cons_of_ne_nil hwhole.ne_nil
  by_cases hzero : c = '0'
  · have hothers := hwhole.zero (congrArg some hzero)
    cases hothers
    rfl
  · have hc := hwhole.digits c List.mem_cons_self
    have hspan := spanDigits_append hwhole.digits hrest
    rw [List.cons_append] at hspan ⊢
    rw [readWhole?, if_pos hc, hspan]
    simpa using hzero

/-- What is read as a fraction is one, and stood in front. -/
theorem of_readFraction (h : readFraction s = (fraction, rest)) :
    s = fraction ++ rest ∧ ∃ decimals, IsFraction fraction decimals := by
  unfold readFraction at h
  split at h
  · split at h
    · cases h
      exact ⟨rfl, [], .absent⟩
    · rename_i digits after hne hspan
      obtain ⟨rfl, hdigits⟩ := of_spanDigits hspan
      cases h
      exact ⟨rfl, _, .present hne hdigits⟩
  · cases h
    exact ⟨rfl, [], .absent⟩

/-- A fraction is read if neither a digit nor a point follows. -/
theorem readFraction_append (hfraction : IsFraction fraction decimals)
    (hrest : ∀ c ∈ rest.head?, isAsciiDigit c = false ∧ c ≠ '.') :
    readFraction (fraction ++ rest) = (fraction, rest) := by
  cases hfraction with
  | absent =>
    cases rest with
    | nil => rfl
    | cons c rest =>
      rw [List.nil_append, readFraction]
      rintro more ⟨⟩
      exact (hrest '.' rfl).2 rfl
  | present hne hdigits =>
    rw [List.cons_append, readFraction, spanDigits_append hdigits fun c hc => (hrest c hc).1]
    obtain ⟨c, others, rfl⟩ := List.exists_cons_of_ne_nil hne
    rfl

/-- What is read as an exponent is one, and stood in front. -/
theorem of_readExponent (h : readExponent s = (exponent, rest)) :
    s = exponent ++ rest ∧ ∃ e, SpellsExponent exponent e := by
  unfold readExponent at h
  split at h
  · split at h
    · rename_i mark after hmark
      have hmark : mark = 'e' ∨ mark = 'E' := by simpa using hmark
      split at h
      rename_i sign behind hsplit
      have hsign : ∃ negative, after = sign ++ behind ∧ IsExponentSign sign negative := by
        split at hsplit <;> cases hsplit
        · exact ⟨true, rfl, .minus⟩
        · exact ⟨false, rfl, .plus⟩
        · exact ⟨false, rfl, .absent⟩
      obtain ⟨negative, rfl, hsign⟩ := hsign
      split at h
      · cases h
        exact ⟨rfl, 0, .absent⟩
      · rename_i digits after hne hspan
        obtain ⟨rfl, hdigits⟩ := of_spanDigits hspan
        cases h
        exact ⟨by simp, _, .present hmark hsign hne hdigits⟩
    · cases h
      exact ⟨rfl, 0, .absent⟩
  · cases h
    exact ⟨rfl, 0, .absent⟩

/-- What stands before the end of a number does not go on with digits. -/
theorem not_digit_of_ends (hrest : ∀ c ∈ rest.head?, goesOn c = false) :
    ∀ c ∈ rest.head?, isAsciiDigit c = false := by
  intro c hc
  have hend := hrest c hc
  simp only [goesOn, Bool.or_eq_false_iff] at hend
  exact hend.1.1.1

/-- Where nothing goes on with a number there is no exponent. -/
theorem readExponent_of_ends (hrest : ∀ c ∈ rest.head?, goesOn c = false) :
    readExponent rest = ([], rest) := by
  unfold readExponent
  split
  · rename_i c after
    have hend := hrest c rfl
    simp only [goesOn, Bool.or_eq_false_iff] at hend
    rw [if_neg (by simp [hend])]
  · rfl

/-- An exponent is read if nothing goes on with the number. -/
theorem readExponent_append (hexponent : SpellsExponent exponent e)
    (hrest : ∀ c ∈ rest.head?, goesOn c = false) :
    readExponent (exponent ++ rest) = (exponent, rest) := by
  cases hexponent with
  | absent => exact readExponent_of_ends hrest
  | @present mark sign digits negative hmark hsign hne hdigits =>
    have hmark : (mark == 'e' || mark == 'E') = true := by simpa using hmark
    have hspan := spanDigits_append hdigits (not_digit_of_ends hrest)
    obtain ⟨d, others, rfl⟩ := List.exists_cons_of_ne_nil hne
    have hd : isAsciiDigit d = true := hdigits d List.mem_cons_self
    rw [List.cons_append, List.append_assoc]
    cases hsign with
    | absent =>
      rw [List.nil_append, readExponent, if_pos hmark, hspan]
      · rintro more ⟨⟩
        exact absurd hd (by decide)
      · rintro more ⟨⟩
        exact absurd hd (by decide)
    | plus =>
      rw [List.cons_append, List.nil_append, readExponent, if_pos hmark, hspan]
    | minus =>
      rw [List.cons_append, List.nil_append, readExponent, if_pos hmark, hspan]

/-- What is read of a number is what its text denotes. -/
theorem exists_of_readNumber (h : readNumber s = .ok (v, rest)) :
    ∃ text, SpellsNumber text v ∧ s = text ++ rest := by
  unfold readNumber at h
  split at h
  rename_i sign behind hsplit
  have hsign : ∃ negative, s = minusIf negative ++ behind ∧ sign = minusIf negative := by
    split at hsplit <;> cases hsplit
    · exact ⟨true, rfl, rfl⟩
    · exact ⟨false, rfl, rfl⟩
  obtain ⟨negative, rfl, rfl⟩ := hsign
  split at h
  · cases h
  · rename_i whole behind hread
    obtain ⟨rfl, hwhole⟩ := of_readWhole? hread
    split at h
    rename_i fraction behind hread
    obtain ⟨rfl, decimals, hfraction⟩ := of_readFraction hread
    split at h
    rename_i exponent behind hread
    obtain ⟨rfl, e, hexponent⟩ := of_readExponent hread
    split at h
    · rename_i hnone
      simp only [Bool.and_eq_true, List.isEmpty_iff] at hnone
      obtain ⟨rfl, rfl⟩ := hnone
      rw [Number.readInt?_eq hwhole] at h
      by_cases hmany : Number.maxDigits < whole.length
      · rw [if_pos hmany] at h
        cases h
      · rw [if_neg hmany] at h
        cases h
        exact ⟨_, .whole hwhole (Nat.le_of_not_lt hmany), by simp⟩
    · rename_i hparts
      rw [List.append_assoc, List.append_assoc,
        Number.readFloat?_eq hwhole hfraction hexponent] at h
      cases h
      refine ⟨_, .float hwhole hfraction hexponent fun hnone => hparts ?_, by simp⟩
      simpa using hnone

/-- What is read where the parts of a number stand. -/
theorem readNumber_parts (hwhole : IsWholePart whole) (hfraction : IsFraction fraction decimals)
    (hexponent : SpellsExponent exponent e) (hrest : ∀ c ∈ rest.head?, goesOn c = false)
    (negative : Bool) :
    readNumber (minusIf negative ++ (whole ++ (fraction ++ (exponent ++ rest)))) =
      if fraction = [] ∧ exponent = [] then
        if Number.maxDigits < whole.length then
          .error (.tooManyDigits whole.length,
            minusIf negative ++ (whole ++ (fraction ++ (exponent ++ rest))))
        else .ok (.int (signed negative (ofAsciiDigits whole)), rest)
      else
        .ok (.float (signed negative
          (Number.floatOfDecimal (ofAsciiDigits (whole ++ decimals)) (e - decimals.length))),
            rest) := by
  have hbehindFraction : ∀ c ∈ (exponent ++ rest).head?, isAsciiDigit c = false ∧ c ≠ '.' := by
    intro c hc
    rw [List.head?_append, Option.mem_def, Option.or_eq_some_iff] at hc
    rcases hc with hmark | ⟨-, hend⟩
    · rcases hexponent.head?_cases c hmark with rfl | rfl <;> decide
    · have hends := hrest c hend
      simp only [goesOn, Bool.or_eq_false_iff, beq_eq_false_iff_ne] at hends
      exact hends.1.1
  have hbehindWhole : ∀ c ∈ (fraction ++ (exponent ++ rest)).head?, isAsciiDigit c = false := by
    cases hfraction with
    | absent => exact fun c hc => (hbehindFraction c hc).1
    | present =>
      rintro _ ⟨⟩
      rfl
  unfold readNumber
  split
  rename_i sign behind hsplit
  have hsign : behind = whole ++ (fraction ++ (exponent ++ rest)) ∧ sign = minusIf negative := by
    obtain ⟨c, others, rfl⟩ := List.exists_cons_of_ne_nil hwhole.ne_nil
    cases negative with
    | true =>
      cases hsplit
      exact ⟨rfl, rfl⟩
    | false =>
      split at hsplit
      · rename_i more hminus
        cases hminus
        exact absurd (hwhole.digits '-' List.mem_cons_self) (by decide)
      · cases hsplit
        exact ⟨rfl, rfl⟩
  obtain ⟨rfl, rfl⟩ := hsign
  rw [readWhole?_append hwhole hbehindWhole]
  dsimp only
  rw [readFraction_append hfraction hbehindFraction]
  dsimp only
  rw [readExponent_append hexponent hrest]
  dsimp only
  rw [List.append_assoc, List.append_assoc, Number.readInt?_eq hwhole,
    Number.readFloat?_eq hwhole hfraction hexponent]
  simp only [Bool.and_eq_true, List.isEmpty_iff]
  by_cases hmany : Number.maxDigits < whole.length
  · simp only [if_pos hmany]
  · simp only [if_neg hmany]

/-- A number is read as the value that it spells if nothing goes on with it. -/
theorem SpellsNumber.readNumber_eq (h : SpellsNumber text v)
    (hrest : ∀ c ∈ rest.head?, goesOn c = false) : readNumber (text ++ rest) = .ok (v, rest) := by
  cases h with
  | @whole negative whole hwhole hfew =>
    have hread := readNumber_parts hwhole .absent .absent hrest negative
    rw [List.append_assoc]
    simpa [Nat.not_lt.mpr hfew] using hread
  | @float negative whole fraction decimals exponent e hwhole hfraction hexponent hparts =>
    have hread := readNumber_parts hwhole hfraction hexponent hrest negative
    rw [if_neg (by simpa using hparts)] at hread
    simpa using hread

end Restack.Document
