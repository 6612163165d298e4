import Restack.Number.FloatText
import Restack.Script.Lexeme

/-!
# Numbers that are written out

The text of a whole number without a sign is a number of a script from its first to its last
character, and so is the text of a finite float without a sign. A float is never written with digits
alone.
-/

namespace Restack.Script

open Text (isAsciiDigit)

/-- Digits that may stand before a point: a zero stands there alone. -/
structure IsWholePart (s : List Char) : Prop where
  ne_nil : s ≠ []
  digits : ∀ c ∈ s, isAsciiDigit c = true
  zero : s.head? = some '0' → s = ['0']

/-- An exponent with its sign, or nothing. -/
inductive IsExponentPart : List Char → Prop where
  | none : IsExponentPart []
  | some {sign : Char} {digits : List Char} (hsign : sign = '+' ∨ sign = '-') (hne : digits ≠ [])
    (hdigits : ∀ c ∈ digits, isAsciiDigit c = true) : IsExponentPart ('e' :: sign :: digits)

/-- A number in base ten: its whole part, its fraction behind a point, and its exponent. -/
inductive IsDecimal : List Char → Prop where
  | plain {whole exponent : List Char} (hwhole : IsWholePart whole)
    (hexponent : IsExponentPart exponent) : IsDecimal (whole ++ exponent)
  | pointed {whole fraction exponent : List Char} (hwhole : IsWholePart whole)
    (hfraction : ∀ c ∈ fraction, isAsciiDigit c = true) (hexponent : IsExponentPart exponent) :
    IsDecimal (whole ++ '.' :: (fraction ++ exponent))

namespace Lexeme

/-- A run of digits is taken up to what neither is a digit nor joins digits. -/
theorem takeDigitRun_append {digits rest : List Char}
    (hdigits : ∀ c ∈ digits, isAsciiDigit c = true)
    (hrest : ∀ c ∈ rest.head?, isAsciiDigit c = false ∧ c ≠ '_') (inside : Bool) :
    takeDigitRun isAsciiDigit inside (digits ++ rest) = (digits, rest) := by
  induction digits generalizing inside with
  | nil =>
    cases rest with
    | nil => rfl
    | cons c rest =>
      obtain ⟨hdigit, hline⟩ := hrest c rfl
      rw [List.nil_append, takeDigitRun, if_neg (by simp [hdigit]), if_neg (by simp [hline])]
  | cons c digits ih =>
    obtain ⟨hc, hdigits⟩ := List.forall_mem_cons.mp hdigits
    rw [List.cons_append, takeDigitRun, if_pos hc, ih hdigits]

/-- A text of digits is taken as one run. -/
theorem takeDigitRun1_of_digits {digits : List Char} (hne : digits ≠ [])
    (hdigits : ∀ c ∈ digits, isAsciiDigit c = true) :
    takeDigitRun1 isAsciiDigit digits = some (digits, []) := by
  have hrun : takeDigitRun isAsciiDigit false (digits ++ []) = (digits, []) :=
    @takeDigitRun_append digits [] hdigits nofun false
  rw [List.append_nil] at hrun
  cases digits with
  | nil => exact absurd rfl hne
  | cons c digits => rw [takeDigitRun1, hrun]

/-- An exponent is taken as a whole. -/
theorem takeExponent_eq {exponent : List Char} (h : IsExponentPart exponent) :
    takeExponent exponent = (exponent, []) := by
  cases h with
  | none => rfl
  | some hsign hne hdigits =>
    have hrun := takeDigitRun1_of_digits hne hdigits
    rcases hsign with rfl | rfl
    · simp [takeExponent, hrun]
    · simp [takeExponent, hrun]

/-- A point may follow a whole part. -/
theorem beforePoint_of_isWholePart {whole : List Char} (h : IsWholePart whole) :
    beforePoint whole = true := by
  unfold beforePoint
  split
  · rfl
  · cases h.zero rfl
  · rfl

/-- A number by the digits before its point and what comes behind them. -/
def takeBehind (whole : List Char) : List Char → Taken
  | '.' :: after =>
    let f := takeDigitRun isAsciiDigit false after
    let e := takeExponent f.2
    some (whole ++ '.' :: (f.1 ++ e.1), e.2)
  | rest =>
    match takeExponent rest with
    | ([], _) => withBigMark (some (whole, rest))
    | (e, after) => some (whole ++ e, after)

/-- A decimal number goes on behind its whole part. -/
theorem takeDecimal_append {whole rest : List Char} (hwhole : IsWholePart whole)
    (hrest : ∀ c ∈ rest.head?, isAsciiDigit c = false ∧ c ≠ '_') :
    takeDecimal (whole ++ rest) = takeBehind whole rest := by
  have hrun := takeDigitRun_append hwhole.digits hrest false
  have hpoint := beforePoint_of_isWholePart hwhole
  cases whole with
  | nil => exact absurd rfl hwhole.ne_nil
  | cons c others =>
    unfold takeDecimal
    rw [hrun]
    dsimp only
    rw [hpoint, if_neg (by decide)]
    split
    · rfl
    · rename_i hplain
      exact (takeBehind.eq_2 _ _ hplain).symm

/-- What an exponent begins with does not go on with a run of digits. -/
theorem head?_of_isExponentPart {exponent : List Char} (h : IsExponentPart exponent) :
    ∀ c ∈ exponent.head?, isAsciiDigit c = false ∧ c ≠ '_' := by
  cases h with
  | none => exact nofun
  | some =>
    rintro _ ⟨⟩
    decide

/-- A decimal number is taken as a whole. -/
theorem takeDecimal_eq {s : List Char} (h : IsDecimal s) : takeDecimal s = some (s, []) := by
  cases h with
  | plain hwhole hexponent =>
    rw [takeDecimal_append hwhole (head?_of_isExponentPart hexponent)]
    have htaken := takeExponent_eq hexponent
    cases hexponent with
    | none => rw [takeBehind, htaken, List.append_nil, withBigMark] <;> exact nofun
    | some =>
      rw [takeBehind, htaken]
      exact nofun
  | @pointed whole fraction exponent hwhole hfraction hexponent =>
    have hpoint : ∀ c ∈ ('.' :: (fraction ++ exponent)).head?,
        isAsciiDigit c = false ∧ c ≠ '_' := by
      rintro _ ⟨⟩
      decide
    rw [takeDecimal_append hwhole hpoint, takeBehind,
      takeDigitRun_append hfraction (head?_of_isExponentPart hexponent), takeExponent_eq hexponent]

/-- Characters that a number in base ten may go on with behind its first one. -/
def goesOn (c : Char) : Bool :=
  isAsciiDigit c || c == '.' || c == 'e'

/-- A number begins with a character of its whole part, and goes on behind it. -/
theorem exists_cons_of_isWholePart {whole tail : List Char} (hwhole : IsWholePart whole)
    (htail : ∀ d ∈ tail.head?, goesOn d = true) :
    ∃ c rest, whole ++ tail = c :: rest ∧ ∀ d ∈ rest.head?, goesOn d = true := by
  have hdigits := hwhole.digits
  match hw : whole with
  | [] => exact absurd rfl hwhole.ne_nil
  | [c] => exact ⟨c, tail, rfl, htail⟩
  | c :: d :: others =>
    refine ⟨c, d :: others ++ tail, rfl, ?_⟩
    rintro _ ⟨⟩
    rw [goesOn, hdigits d (List.mem_cons_of_mem _ List.mem_cons_self)]
    rfl

/-- A number in base ten does not look like one in another base. -/
theorem number_eq_takeDecimal {c : Char} {rest : List Char}
    (h : ∀ d ∈ rest.head?, goesOn d = true) : number (c :: rest) = takeDecimal (c :: rest) := by
  have hbased : ∀ (letters : List Char) (p : Char → Bool), letters.any goesOn = false →
      takeBased letters p (c :: rest) = none := by
    intro letters p hletters
    unfold takeBased
    split
    · rename_i d others heq
      cases heq
      rw [if_neg]
      intro hmem
      exact List.any_eq_false.mp hletters d (List.contains_iff_mem.mp hmem) (h d rfl)
    · rfl
  rw [number, hbased _ _ rfl, hbased _ _ rfl, hbased _ _ rfl]

/-- A number in base ten is read to its end. -/
theorem number_eq {s : List Char} (h : IsDecimal s) : number s = some (s, []) := by
  have hsecond : ∃ c rest, s = c :: rest ∧ ∀ d ∈ rest.head?, goesOn d = true := by
    cases h with
    | plain hwhole hexponent =>
      refine exists_cons_of_isWholePart hwhole ?_
      cases hexponent with
      | none => exact nofun
      | some =>
        rintro _ ⟨⟩
        rfl
    | pointed hwhole =>
      refine exists_cons_of_isWholePart hwhole ?_
      rintro _ ⟨⟩
      rfl
  obtain ⟨c, rest, rfl, hrest⟩ := hsecond
  rw [number_eq_takeDecimal hrest, takeDecimal_eq h]

end Lexeme

/-! ## Texts of whole numbers and of floats -/

open Number (Decimal decimalText exponentDigits positional scientific)

/-- The digits that a number is written with are digits of ASCII. -/
theorem isAsciiDigit_of_mem_toDigits {n : Nat} {c : Char} (h : c ∈ Nat.toDigits 10 n) :
    isAsciiDigit c = true := by
  have hdigit := Nat.isDigit_of_mem_toDigits (by decide) (by decide) h
  exact hdigit

/-- A number other than zero is not written with a zero in front. -/
theorem head?_toDigits_ne_zero {n : Nat} (hn : n ≠ 0) :
    (Nat.toDigits 10 n).head? ≠ some '0' := by
  induction n using Nat.strongRecOn with
  | ind n ih =>
    rw [Nat.toDigits_eq_if (by decide)]
    split
    · rename_i hsmall
      have hall : ∀ n < 10, n ≠ 0 → ([n.digitChar] : List Char).head? ≠ some '0' := by decide
      exact hall n hsmall hn
    · rename_i hlarge
      have hfront := ih (n / 10) (by omega) (by omega)
      rw [List.head?_append]
      cases hhead : (Nat.toDigits 10 (n / 10)).head? with
      | none => exact absurd (List.head?_eq_none_iff.mp hhead) Nat.toDigits_ne_nil
      | some c => rwa [hhead] at hfront

/-- A whole number is written without zeros in front. -/
theorem isWholePart_toDigits (n : Nat) : IsWholePart (Nat.toDigits 10 n) where
  ne_nil := Nat.toDigits_ne_nil
  digits _ := isAsciiDigit_of_mem_toDigits
  zero h := by
    by_cases hn : n = 0
    · rw [hn]
      rfl
    · exact absurd h (head?_toDigits_ne_zero hn)

/-- A whole number without a sign is written as a number of a script. -/
theorem isDecimal_toDigits (n : Nat) : IsDecimal (Nat.toDigits 10 n) := by
  have hplain := IsDecimal.plain (isWholePart_toDigits n) .none
  rwa [List.append_nil] at hplain

/-- An exponent is written as one, with its sign and two digits or more. -/
theorem isExponentPart_exponentDigits (n : Nat) {sign : Char} (hsign : sign = '+' ∨ sign = '-') :
    IsExponentPart ('e' :: sign :: exponentDigits n) := by
  unfold exponentDigits
  split
  · exact .some hsign (List.cons_ne_nil _ _)
      (List.forall_mem_cons.mpr ⟨rfl, fun _ => isAsciiDigit_of_mem_toDigits⟩)
  · exact .some hsign Nat.toDigits_ne_nil fun _ => isAsciiDigit_of_mem_toDigits

section Texts

variable {digits : List Char}

/-- A zero alone is a whole part. -/
theorem isWholePart_zero : IsWholePart ['0'] where
  ne_nil := List.cons_ne_nil _ _
  digits := List.all_eq_true.mp rfl
  zero _ := rfl

/-- Digits that begin like a number without zeros in front. -/
theorem IsWholePart.of_head {s : List Char} (h : IsWholePart digits)
    (hzero : digits.head? ≠ some '0') (hhead : s.head? = digits.head?)
    (hs : ∀ c ∈ s, isAsciiDigit c = true) : IsWholePart s where
  ne_nil hnil := by
    rw [hnil] at hhead
    exact h.ne_nil (List.head?_eq_none_iff.mp hhead.symm)
  digits := hs
  zero hs := absurd (hhead.symm.trans hs) hzero

/-- A whole number may have a fraction that says nothing. -/
theorem IsDecimal.pointZero {whole : List Char} (h : IsWholePart whole) :
    IsDecimal (whole ++ ['.', '0']) :=
  @IsDecimal.pointed whole ['0'] [] h (List.all_eq_true.mp rfl) .none

/-- A number that is written without an exponent is a decimal number. -/
theorem isDecimal_positional (hdigits : IsWholePart digits) (hzero : digits.head? ≠ some '0')
    (point : Int) : IsDecimal (positional digits point) := by
  have hzeros : ∀ n, ∀ c ∈ List.replicate n '0', isAsciiDigit c = true := fun n c hc =>
    (List.eq_of_mem_replicate hc) ▸ rfl
  unfold positional
  split
  · have hall : ∀ c ∈ List.replicate (-point).toNat '0' ++ digits, isAsciiDigit c = true :=
      List.forall_mem_append.mpr ⟨hzeros _, hdigits.digits⟩
    have hpointed := IsDecimal.pointed isWholePart_zero hall .none
    rwa [List.append_nil] at hpointed
  · rename_i hpoint
    cases digits with
    | nil => exact absurd rfl hdigits.ne_nil
    | cons c rest =>
      split
      · have hwhole := hdigits.of_head hzero
          (s := c :: rest ++ List.replicate (point.toNat - (c :: rest).length) '0') rfl
          (List.forall_mem_append.mpr ⟨hdigits.digits, hzeros _⟩)
        exact .pointZero hwhole
      · have hhead : ((c :: rest).take point.toNat).head? = some c := by
          obtain ⟨n, hn⟩ := Nat.exists_eq_succ_of_ne_zero (n := point.toNat) (by omega)
          rw [hn]
          rfl
        have hwhole := hdigits.of_head hzero hhead fun d hd =>
          hdigits.digits d (List.mem_of_mem_take hd)
        have hfraction : ∀ d ∈ (c :: rest).drop point.toNat, isAsciiDigit d = true :=
          fun d hd => hdigits.digits d (List.mem_of_mem_drop hd)
        have hpointed := IsDecimal.pointed hwhole hfraction .none
        rwa [List.append_nil] at hpointed

/-- A number that is written with an exponent is a decimal number. -/
theorem isDecimal_scientific (hdigits : IsWholePart digits) (hzero : digits.head? ≠ some '0')
    (exponent : Int) : IsDecimal (scientific digits exponent) := by
  have hsign : (if exponent < 0 then '-' else '+') = '+' ∨
      (if exponent < 0 then '-' else '+') = '-' := by
    split <;> simp
  have hexponent := isExponentPart_exponentDigits exponent.natAbs hsign
  unfold scientific
  dsimp only
  split
  · rename_i c second rest
    have hwhole := hdigits.of_head hzero (s := [c]) rfl
      fun d hd => hdigits.digits d (List.mem_singleton.mp hd ▸ List.mem_cons_self)
    exact .pointed hwhole (fun d hd => hdigits.digits d (List.mem_cons_of_mem _ hd)) hexponent
  · exact .plain hdigits hexponent

end Texts

/-- A decimal number is written as a number of a script. -/
theorem isDecimal_decimalText (d : Decimal) : IsDecimal (decimalText d) := by
  unfold decimalText
  dsimp only
  split
  · exact .pointZero isWholePart_zero
  · rename_i hd
    have hdigits : d.digits ≠ 0 := by simpa using hd
    split
    · exact isDecimal_positional (isWholePart_toDigits _) (head?_toDigits_ne_zero hdigits) _
    · exact isDecimal_scientific (isWholePart_toDigits _) (head?_toDigits_ne_zero hdigits) _

/-- A float that is not infinite and is a number. -/
def IsFinite (x : Float) : Prop :=
  (Number.floatParts x).2.1 ≠ 2047

/-- A float without a sign is written as a number of a script exactly if it is finite. -/
theorem number_floatText_iff {x : Float} (h : (Number.floatParts x).1 = false) :
    Lexeme.number (Number.floatText x).toList = some ((Number.floatText x).toList, []) ↔
      IsFinite x := by
  unfold IsFinite Number.floatText
  generalize Number.floatParts x = parts at h
  obtain ⟨negative, exponent, fraction⟩ := parts
  obtain rfl : negative = false := h
  dsimp only
  by_cases hexponent : exponent = 2047
  · rw [if_pos (by simpa using hexponent)]
    refine iff_of_false ?_ fun hfinite => hfinite hexponent
    split
    · decide
    · decide
  · rw [if_neg (by simpa using hexponent)]
    refine iff_of_true ?_ hexponent
    rw [if_neg Bool.false_ne_true, String.toList_ofList]
    exact Lexeme.number_eq (isDecimal_decimalText _)

/-- The text of a decimal number has a point or an exponent. -/
theorem exists_mem_decimalText (d : Decimal) : '.' ∈ decimalText d ∨ 'e' ∈ decimalText d := by
  unfold decimalText
  dsimp only
  split
  · simp
  · split
    · left
      unfold positional
      split
      · simp
      · split <;> simp
    · right
      simp [scientific]

/-- A float is not written with digits alone. -/
theorem exists_mem_floatText (x : Float) :
    ∃ c ∈ ['.', 'e', 'n'], c ∈ (Number.floatText x).toList := by
  unfold Number.floatText
  split
  rename_i negative exponent fraction _
  split
  · refine ⟨'n', by decide, ?_⟩
    split
    · decide
    · split
      · decide
      · decide
  · have hmark : ∃ c ∈ ['.', 'e', 'n'], c ∈ decimalText (Number.shortestDecimal x) := by
      rcases exists_mem_decimalText (Number.shortestDecimal x) with hpoint | hexponent
      · exact ⟨'.', by decide, hpoint⟩
      · exact ⟨'e', by decide, hexponent⟩
    obtain ⟨c, hc, hmem⟩ := hmark
    refine ⟨c, hc, ?_⟩
    dsimp only
    split <;> simp [hmem]

end Restack.Script
