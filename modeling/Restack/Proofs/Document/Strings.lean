import Restack.Document.Reader

/-!
# Strings of data documents

Between its marks a string spells its signs. A character stands for itself, and an escape for what
its letter or its UTF-16 units say; a unit of a pair that stands alone is a sign of its own. Reading
a string goes to the first mark that is not escaped, and gives what the text before it spells.
-/

namespace Restack.Document

variable {s rest text : List Char} {spelled : List Symbol} {n : Nat} {c : Char} {symbol : Symbol}

/-- Four hexadecimal digits and the UTF-16 unit that they denote. -/
structure DenotesUnit (digits : List Char) (n : Nat) : Prop where
  length : digits.length = 4
  number : hexNumber? digits = some n

/-- A text that begins with the escape of a unit that closes a pair. -/
def BeginsClosing (s : List Char) : Prop :=
  ∃ digits n rest, DenotesUnit digits n ∧ ClosesPair n ∧ s = '\\' :: 'u' :: (digits ++ rest)

/-- The text of units behind an escaping `u` and the sign that they stand for. It counts whether a
unit that closes a pair comes next. -/
inductive SpellsUnits (closingNext : Prop) : List Char → Symbol → Prop where
  | single {digits : List Char} {n : Nat} (hunit : DenotesUnit digits n) (hopens : ¬OpensPair n)
    (hcloses : ¬ClosesPair n) : SpellsUnits closingNext digits (.char (Char.ofNat n))
  | pair {first second : List Char} {high low : Nat} (hfirst : DenotesUnit first high)
    (hopens : OpensPair high) (hsecond : DenotesUnit second low) (hcloses : ClosesPair low) :
    SpellsUnits closingNext (first ++ '\\' :: 'u' :: second)
      (.char (Char.ofNat (0x10000 + (high - 0xD800) * 0x400 + (low - 0xDC00))))
  | opening {digits : List Char} {n : Nat} (hunit : DenotesUnit digits n) (hopens : OpensPair n)
    (halone : ¬closingNext) : SpellsUnits closingNext digits (.unit n (.inl hopens))
  | closing {digits : List Char} {n : Nat} (hunit : DenotesUnit digits n) (hcloses : ClosesPair n) :
    SpellsUnits closingNext digits (.unit n (.inr hcloses))

/-- The text between the marks of a string and the signs that it spells. -/
inductive SpellsString : List Char → List Symbol → Prop where
  | nil : SpellsString [] []
  | plain {c : Char} {text : List Char} {spelled : List Symbol} (hmark : c ≠ '\x22')
    (hescape : c ≠ '\\') (hcontrol : 32 ≤ c.toNat) (h : SpellsString text spelled) :
    SpellsString (c :: text) (.char c :: spelled)
  | letter {letter c : Char} {text : List Char} {spelled : List Symbol}
    (hletter : shortEscape? letter = some c) (h : SpellsString text spelled) :
    SpellsString ('\\' :: letter :: text) (.char c :: spelled)
  | units {units text : List Char} {symbol : Symbol} {spelled : List Symbol}
    (hunits : SpellsUnits (BeginsClosing text) units symbol) (h : SpellsString text spelled) :
    SpellsString ('\\' :: 'u' :: (units ++ text)) (symbol :: spelled)

/-- A unit does not both open and close a pair. -/
theorem ClosesPair.not_opensPair (h : ClosesPair n) : ¬OpensPair n := fun hopens =>
  absurd (Nat.le_trans h.1 hopens.2) (by decide)

/-- A unit is written with four digits. -/
theorem DenotesUnit.exists_digits {digits : List Char} (h : DenotesUnit digits n) :
    ∃ a b c d, digits = [a, b, c, d] := by
  match digits, h.length with
  | [a, b, c, d], _ => exact ⟨a, b, c, d, rfl⟩

/-- The mark of a string is no hexadecimal digit. -/
theorem DenotesUnit.mark_not_mem {digits : List Char} (h : DenotesUnit digits n) :
    '\x22' ∉ digits := by
  intro hmark
  have hnumber := h.number
  obtain ⟨a, b, c, d, rfl⟩ := h.exists_digits
  have hnone : hexValue? '\x22' = none := rfl
  simp only [List.mem_cons, List.not_mem_nil, or_false] at hmark
  rcases hmark with rfl | rfl | rfl | rfl <;> simp [hexNumber?, hnone] at hnumber

/-- A unit is read exactly if four digits that denote it stand in front, with something behind them.
-/
theorem readUnit?_eq_some_iff :
    readUnit? s = some (n, rest) ↔
      ∃ digits, DenotesUnit digits n ∧ rest ≠ [] ∧ s = digits ++ rest := by
  constructor
  · intro h
    unfold readUnit? at h
    split at h
    · rename_i a b c d e more
      obtain ⟨m, hm, heq⟩ := Option.map_eq_some_iff.mp h
      cases heq
      exact ⟨[a, b, c, d], ⟨rfl, hm⟩, List.cons_ne_nil e more, rfl⟩
    · cases h
  · rintro ⟨digits, hunit, hrest, rfl⟩
    have hnumber := hunit.number
    obtain ⟨a, b, c, d, rfl⟩ := hunit.exists_digits
    obtain ⟨e, more, rfl⟩ := List.exists_cons_of_ne_nil hrest
    rw [List.cons_append, List.cons_append, List.cons_append, List.cons_append, List.nil_append,
      readUnit?, hnumber]
    rfl

/-- A unit that closes a pair is read exactly if its escape stands in front, with something behind
it. -/
theorem readLowUnit?_eq_some_iff :
    readLowUnit? s = some (n, rest) ↔
      ∃ digits, DenotesUnit digits n ∧ ClosesPair n ∧ rest ≠ [] ∧
        s = '\\' :: 'u' :: (digits ++ rest) := by
  constructor
  · intro h
    unfold readLowUnit? at h
    split at h
    · split at h
      · rename_i hunit
        split at h
        · rename_i hcloses
          cases h
          obtain ⟨digits, hdigits, hrest, rfl⟩ := readUnit?_eq_some_iff.mp hunit
          exact ⟨digits, hdigits, hcloses, hrest, rfl⟩
        · cases h
      · cases h
    · cases h
  · rintro ⟨digits, hunit, hcloses, hrest, rfl⟩
    have hread := readUnit?_eq_some_iff.mpr ⟨digits, hunit, hrest, rfl⟩
    rw [readLowUnit?, hread]
    exact if_pos hcloses

/-- Within a string the mark that ends it does not belong to a unit. -/
theorem isSome_readLowUnit?_iff :
    (readLowUnit? (text ++ '\x22' :: rest)).isSome = true ↔ BeginsClosing text := by
  constructor
  · intro h
    obtain ⟨⟨n, after⟩, hread⟩ := Option.isSome_iff_exists.mp h
    obtain ⟨digits, hunit, hcloses, -, hsplit⟩ := readLowUnit?_eq_some_iff.mp hread
    have hmark : '\x22' ∉ '\\' :: 'u' :: digits := by simpa using hunit.mark_not_mem
    rw [← List.cons_append, ← List.cons_append] at hsplit
    rcases List.append_eq_append_iff.mp hsplit with ⟨more, hdigits, hmore⟩ | ⟨more, rfl, -⟩
    · cases more with
      | nil => exact ⟨digits, n, [], hunit, hcloses, by simpa using hdigits.symm⟩
      | cons d more =>
        rw [(List.cons.inj hmore).1] at hmark
        exact absurd (hdigits ▸ List.mem_append_right _ List.mem_cons_self) hmark
    · exact ⟨digits, n, more, hunit, hcloses, rfl⟩
  · rintro ⟨digits, n, after, hunit, hcloses, rfl⟩
    have hread : readLowUnit? ('\\' :: 'u' :: (digits ++ after) ++ '\x22' :: rest) =
        some (n, after ++ '\x22' :: rest) :=
      readLowUnit?_eq_some_iff.mpr ⟨digits, hunit, hcloses, by simp, by simp⟩
    rw [hread]
    rfl

/-- A symbol is read after the sign of an escape exactly if what stands in front spells it. Whether
a unit that opens a pair stands alone depends on what follows. -/
theorem readUnits_eq_ok_iff :
    readUnits s = .ok (symbol, rest) ↔
      ∃ units, SpellsUnits ((readLowUnit? rest).isSome = true) units symbol ∧ rest ≠ [] ∧
        s = units ++ rest := by
  constructor
  · intro h
    unfold readUnits at h
    split at h
    · cases h
    · rename_i high after hunit
      obtain ⟨digits, hdigits, hafter, rfl⟩ := readUnit?_eq_some_iff.mp hunit
      split at h
      · rename_i hopens
        split at h
        · rename_i hlow
          obtain ⟨rfl, rfl⟩ := Prod.mk.inj (Except.ok.inj h)
          obtain ⟨second, hsecond, hcloses, hrest, rfl⟩ := readLowUnit?_eq_some_iff.mp hlow
          exact ⟨_, .pair hdigits hopens hsecond hcloses, hrest, by simp⟩
        · rename_i hlow
          cases h
          exact ⟨digits, .opening hdigits hopens (by simp [hlow]), hafter, rfl⟩
      · rename_i hopens
        split at h
        · rename_i hcloses
          cases h
          exact ⟨digits, .closing hdigits hcloses, hafter, rfl⟩
        · rename_i hcloses
          cases h
          exact ⟨digits, .single hdigits hopens hcloses, hafter, rfl⟩
  · rintro ⟨units, hunits, hrest, rfl⟩
    cases hunits with
    | single hunit hopens hcloses =>
      have hread := readUnit?_eq_some_iff.mpr ⟨units, hunit, hrest, rfl⟩
      rw [readUnits, hread]
      dsimp only
      rw [dif_neg hopens, dif_neg hcloses]
    | @pair first second high low hfirst hopens hsecond hcloses =>
      have hread : readUnit? (first ++ '\\' :: 'u' :: second ++ rest) =
          some (high, '\\' :: 'u' :: (second ++ rest)) :=
        readUnit?_eq_some_iff.mpr ⟨first, hfirst, by simp, by simp⟩
      have hlow := readLowUnit?_eq_some_iff.mpr ⟨second, hsecond, hcloses, hrest, rfl⟩
      rw [readUnits, hread]
      dsimp only
      rw [dif_pos hopens, hlow]
    | opening hunit hopens halone =>
      have hread := readUnit?_eq_some_iff.mpr ⟨units, hunit, hrest, rfl⟩
      have hlow : readLowUnit? rest = none := by simpa using halone
      rw [readUnits, hread]
      dsimp only
      rw [dif_pos hopens, hlow]
    | closing hunit hcloses =>
      have hread := readUnit?_eq_some_iff.mpr ⟨units, hunit, hrest, rfl⟩
      rw [readUnits, hread]
      dsimp only
      rw [dif_neg hcloses.not_opensPair, dif_pos hcloses]

section Steps

variable (start : List Char) (done : List Symbol) (fuel : Nat)

/-- A quote ends a text. -/
theorem readString_mark (rest : List Char) :
    readString start (fuel + 1) done ('\x22' :: rest) = .ok (⟨done.reverse⟩, rest) := by
  rw [readString.eq_def]
  rfl

/-- A character that is neither a quote, a backslash nor a control stands for itself. -/
theorem readString_plain (hmark : c ≠ '\x22') (hescape : c ≠ '\\') (hcontrol : 32 ≤ c.toNat)
    (rest : List Char) :
    readString start (fuel + 1) done (c :: rest) =
      readString start fuel (.char c :: done) rest := by
  rw [readString.eq_def]
  dsimp only
  rw [if_neg (by simpa using hmark), if_neg (by simpa using hescape), if_neg (by omega)]

/-- A letter after a backslash stands for its character. -/
theorem readString_letter {letter : Char} (hletter : shortEscape? letter = some c)
    (rest : List Char) :
    readString start (fuel + 1) done ('\\' :: letter :: rest) =
      readString start fuel (.char c :: done) rest := by
  have hu : letter = 'u' → False := by
    rintro rfl
    cases hletter
  rw [readString.eq_5 _ _ _ _ _ _ hu, if_neg (by decide), if_pos (by rfl), hletter]

/-- Units after a backslash stand for their symbol. -/
theorem readString_units (hunits : readUnits s = .ok (symbol, rest)) :
    readString start (fuel + 1) done ('\\' :: 'u' :: s) =
      readString start fuel (symbol :: done) rest := by
  rw [readString, if_neg (by decide), if_pos (by rfl), hunits]

end Steps

/-- What is read of a string is what the text before its mark spells. -/
theorem exists_of_readString {start : List Char} {done : List Symbol} {fuel : Nat} {read : Str}
    (h : readString start fuel done s = .ok (read, rest)) :
    ∃ text spelled, SpellsString text spelled ∧ s = text ++ '\x22' :: rest ∧
      read = ⟨done.reverse ++ spelled⟩ := by
  induction fuel generalizing done s with
  | zero => cases h
  | succ fuel ih =>
    cases s with
    | nil => cases h
    | cons c after =>
      rw [readString.eq_def] at h
      dsimp only at h
      split at h
      · rename_i hmark
        obtain ⟨rfl, rfl⟩ := Prod.mk.inj (Except.ok.inj h)
        exact ⟨[], [], .nil, by rw [beq_iff_eq.mp hmark]; rfl, by rw [List.append_nil]⟩
      · rename_i hmark
        split at h
        · rename_i hescape
          rw [beq_iff_eq.mp hescape]
          split at h
          · cases h
          · split at h
            · rename_i hunits
              obtain ⟨units, hspells, -, rfl⟩ := readUnits_eq_ok_iff.mp hunits
              obtain ⟨text, spelled, hrest, rfl, rfl⟩ := ih h
              rw [isSome_readLowUnit?_iff] at hspells
              exact ⟨_, _, .units hspells hrest, by simp, by simp⟩
            · cases h
          · split at h
            · rename_i hletter
              obtain ⟨text, spelled, hrest, rfl, rfl⟩ := ih h
              exact ⟨_, _, .letter hletter hrest, rfl, by simp⟩
            · cases h
        · rename_i hescape
          split at h
          · cases h
          · rename_i hcontrol
            obtain ⟨text, spelled, hrest, rfl, rfl⟩ := ih h
            exact ⟨_, _, .plain (by simpa using hmark) (by simpa using hescape) (by omega) hrest,
              rfl, by simp⟩

/-- A string is read to its mark. -/
theorem SpellsString.readString_eq (h : SpellsString text spelled) (start rest : List Char) :
    ∀ (done : List Symbol) {fuel : Nat}, text.length < fuel →
      readString start fuel done (text ++ '\x22' :: rest) =
        .ok (⟨done.reverse ++ spelled⟩, rest) := by
  induction h with
  | nil =>
    intro done fuel hfuel
    obtain ⟨fuel, rfl⟩ := Nat.exists_eq_succ_of_ne_zero (Nat.ne_zero_of_lt hfuel)
    rw [List.nil_append, readString_mark, List.append_nil]
  | plain hmark hescape hcontrol _ ih =>
    intro done fuel hfuel
    obtain ⟨fuel, rfl⟩ := Nat.exists_eq_succ_of_ne_zero (Nat.ne_zero_of_lt hfuel)
    rw [List.cons_append, readString_plain _ _ _ hmark hescape hcontrol,
      ih _ (Nat.lt_of_succ_lt_succ hfuel), List.reverse_cons, List.append_assoc]
    rfl
  | letter hletter _ ih =>
    intro done fuel hfuel
    obtain ⟨fuel, rfl⟩ := Nat.exists_eq_succ_of_ne_zero (Nat.ne_zero_of_lt hfuel)
    simp only [List.length_cons] at hfuel
    rw [List.cons_append, List.cons_append, readString_letter _ _ _ hletter, ih _ (by omega),
      List.reverse_cons, List.append_assoc]
    rfl
  | @units units text symbol spelled hunits _ ih =>
    intro done fuel hfuel
    obtain ⟨fuel, rfl⟩ := Nat.exists_eq_succ_of_ne_zero (Nat.ne_zero_of_lt hfuel)
    simp only [List.length_cons, List.length_append] at hfuel
    have hread : readUnits (units ++ (text ++ '\x22' :: rest)) =
        .ok (symbol, text ++ '\x22' :: rest) := by
      refine readUnits_eq_ok_iff.mpr ⟨units, ?_, by simp, rfl⟩
      rwa [isSome_readLowUnit?_iff]
    rw [List.cons_append, List.cons_append, List.append_assoc, readString_units _ _ _ hread,
      ih _ (by omega), List.reverse_cons, List.append_assoc]
    rfl

end Restack.Document
