import Restack.Proofs.Number.Numerals
import Restack.Proofs.Script.Numerals
import Restack.Proofs.Text.Trimming

/-!
# Numbers in base ten

A number in base ten has a whole part, perhaps a minus before it, and perhaps a fraction and an
exponent behind it. What is read of it is the number that these parts denote; a whole number is read
only if its digits are not too many.
-/

namespace Restack.Number

open Text (isAsciiDigit digitValue? isBlank)
open Script (IsWholePart)

variable {digits whole fraction exponent rest s : List Char} {c : Char} {negative : Bool} {e : Int}

/-- The number that digits of ASCII denote. -/
def ofAsciiDigits (digits : List Char) : Nat :=
  ofDigits (digits.map fun c => c.toNat - '0'.toNat)

/-- A number below zero or not. -/
def signed {α : Type} [Neg α] (negative : Bool) (x : α) : α :=
  if negative then -x else x

/-- The minus of a number below zero. -/
def minusIf (negative : Bool) : List Char :=
  if negative then ['-'] else []

/-- A fraction and its digits, or nothing. -/
inductive IsFraction : List Char → List Char → Prop where
  | absent : IsFraction [] []
  | present {digits : List Char} (hne : digits ≠ [])
    (hdigits : ∀ c ∈ digits, isAsciiDigit c = true) : IsFraction ('.' :: digits) digits

/-- The sign of an exponent, and whether the exponent is below zero. -/
inductive IsExponentSign : List Char → Bool → Prop where
  | absent : IsExponentSign [] false
  | plus : IsExponentSign ['+'] false
  | minus : IsExponentSign ['-'] true

/-- An exponent and the number that it denotes, or nothing. -/
inductive SpellsExponent : List Char → Int → Prop where
  | absent : SpellsExponent [] 0
  | present {mark : Char} {sign digits : List Char} {negative : Bool}
    (hmark : mark = 'e' ∨ mark = 'E') (hsign : IsExponentSign sign negative) (hne : digits ≠ [])
    (hdigits : ∀ c ∈ digits, isAsciiDigit c = true) :
    SpellsExponent (mark :: (sign ++ digits)) (signed negative (ofAsciiDigits digits))

/-- The digits of ASCII are digits with the values that they have there. -/
theorem digitValue?_of_isAsciiDigit (h : isAsciiDigit c = true) :
    digitValue? c = some (c.toNat - '0'.toNat) := by
  have hcode := Text.toNat_of_isAsciiDigit h
  rw [digitValue?, if_pos (by omega), if_pos h]

/-- Digits of ASCII are taken off up to a character that is neither a digit nor a low line. -/
theorem takeDigits_append (hdigits : ∀ c ∈ digits, isAsciiDigit c = true)
    (hrest : ∀ c ∈ rest.head?, digitValue? c = none ∧ c ≠ '_') :
    takeDigits (digits ++ rest) = (digits.map fun c => c.toNat - '0'.toNat, rest) := by
  have hgo : ∀ inside, takeDigits.go inside (digits ++ rest) =
      (digits.map fun c => c.toNat - '0'.toNat, rest) := by
    induction digits with
    | nil =>
      intro inside
      cases rest with
      | nil => rfl
      | cons c rest =>
        obtain ⟨hdigit, hline⟩ := hrest c rfl
        rw [List.nil_append, takeDigits.go, hdigit]
        dsimp only
        rw [if_neg (by simp [hline])]
        rfl
    | cons c digits ih =>
      obtain ⟨hc, hdigits⟩ := List.forall_mem_cons.mp hdigits
      intro inside
      rw [List.cons_append, takeDigits.go, digitValue?_of_isAsciiDigit hc]
      dsimp only
      rw [ih hdigits]
      rfl
  exact hgo false

/-- A text of digits is taken as its digits. -/
theorem takeDigits_of_digits (hdigits : ∀ c ∈ digits, isAsciiDigit c = true) :
    takeDigits digits = (digits.map fun c => c.toNat - '0'.toNat, []) := by
  have htaken : takeDigits (digits ++ []) = _ :=
    takeDigits_append hdigits fun c hc => by cases hc
  rwa [List.append_nil] at htaken

/-- A digit is no sign. -/
theorem readSign_of_digit (h : ∀ c ∈ s.head?, isAsciiDigit c = true) : readSign s = (false, s) := by
  unfold readSign
  split
  · exact absurd (h '-' rfl) (by decide)
  · exact absurd (h '+' rfl) (by decide)
  · rfl

/-- A minus in front of digits is read as a sign. -/
theorem readSign_minusIf (h : ∀ c ∈ s.head?, isAsciiDigit c = true) :
    readSign (minusIf negative ++ s) = (negative, s) := by
  cases negative with
  | true => rfl
  | false => exact readSign_of_digit h

/-- The sign of an exponent is read as such. -/
theorem IsExponentSign.readSign_eq {sign : List Char} (hsign : IsExponentSign sign negative)
    (h : ∀ c ∈ s.head?, isAsciiDigit c = true) : readSign (sign ++ s) = (negative, s) := by
  cases hsign with
  | absent => exact readSign_of_digit h
  | plus => rfl
  | minus => rfl

/-- A text of digits begins with a digit. -/
theorem head?_of_digits (hdigits : ∀ c ∈ digits, isAsciiDigit c = true) :
    ∀ c ∈ digits.head?, isAsciiDigit c = true :=
  fun c hc => hdigits c (List.mem_of_mem_head? hc)

/-- An exponent is read as what it spells. -/
theorem SpellsExponent.readExponent?_eq (h : SpellsExponent exponent e) :
    readExponent? exponent = some e := by
  cases h with
  | absent => rfl
  | @present mark sign digits negative hmark hsign hne hdigits =>
    have hbig : (mark == 'e' || mark == 'E') = true := by simpa using hmark
    have htaken := takeDigits_of_digits hdigits
    rw [readExponent?, if_pos hbig, hsign.readSign_eq (head?_of_digits hdigits)]
    cases digits with
    | nil => exact absurd rfl hne
    | cons c digits =>
      dsimp only
      rw [htaken]
      rfl

/-- Characters that a number may go on with behind its whole part. -/
def IsBehindWhole (c : Char) : Prop := c = '.' ∨ c = 'e' ∨ c = 'E'

/-- The digits of the whole part end where the number goes on otherwise. -/
theorem IsBehindWhole.ends (h : IsBehindWhole c) : digitValue? c = none ∧ c ≠ '_' := by
  rcases h with rfl | rfl | rfl <;> exact ⟨rfl, by decide⟩

/-- An exponent begins with its letter. -/
theorem SpellsExponent.head?_cases (h : SpellsExponent exponent e) :
    ∀ c ∈ exponent.head?, c = 'e' ∨ c = 'E' := by
  cases h with
  | absent => exact fun c hc => by cases hc
  | present hmark =>
    rintro _ ⟨⟩
    exact hmark

/-- The float that a whole part, a fraction and an exponent denote. -/
theorem readDigitFloat?_eq {decimals : List Char} (hwhole : IsWholePart whole)
    (hfraction : IsFraction fraction decimals) (hexponent : SpellsExponent exponent e) :
    readDigitFloat? (whole ++ (fraction ++ exponent)) =
      some (floatOfDecimal (ofAsciiDigits (whole ++ decimals)) (e - decimals.length)) := by
  obtain ⟨c, others, rfl⟩ := List.exists_cons_of_ne_nil hwhole.ne_nil
  have hbehind : ∀ c ∈ exponent.head?, digitValue? c = none ∧ c ≠ '_' := fun c hc =>
    IsBehindWhole.ends (Or.inr (hexponent.head?_cases c hc))
  have hread := hexponent.readExponent?_eq
  cases hfraction with
  | absent =>
    rw [List.nil_append, readDigitFloat?, takeDigits_append hwhole.digits hbehind]
    cases exponent with
    | nil => simp [hread, ofAsciiDigits]
    | cons mark more =>
      rcases hexponent.head?_cases mark rfl with rfl | rfl
      · simp [hread, ofAsciiDigits]
      · simp [hread, ofAsciiDigits]
  | present hne hdigits =>
    have hpoint : ∀ d ∈ ('.' :: decimals ++ exponent).head?, digitValue? d = none ∧ d ≠ '_' := by
      rintro _ ⟨⟩
      exact IsBehindWhole.ends (.inl rfl)
    rw [readDigitFloat?, takeDigits_append hwhole.digits hpoint, List.cons_append]
    simp [takeDigits_append hdigits hbehind, hread, ofAsciiDigits]

/-- There are no blanks in a sign. -/
theorem isBlank_of_mem_minusIf : ∀ c ∈ minusIf negative, isBlank c = false := by
  cases negative with
  | true => exact fun c hc => List.mem_singleton.mp hc ▸ rfl
  | false => exact nofun

/-- There are no blanks in a fraction. -/
theorem IsFraction.isBlank {decimals : List Char} (h : IsFraction fraction decimals) :
    ∀ c ∈ fraction, isBlank c = false := by
  cases h with
  | absent => exact nofun
  | present hne hdigits =>
    exact List.forall_mem_cons.mpr ⟨rfl, fun c hc => Text.isBlank_of_isAsciiDigit (hdigits c hc)⟩

/-- There are no blanks in an exponent. -/
theorem SpellsExponent.isBlank (h : SpellsExponent exponent e) :
    ∀ c ∈ exponent, isBlank c = false := by
  cases h with
  | absent => exact nofun
  | @present mark sign digits negative hmark hsign hne hdigits =>
    have hmark : isBlank mark = false := by rcases hmark with rfl | rfl <;> rfl
    have hsign : ∀ c ∈ sign, isBlank c = false := by
      cases hsign with
      | absent => exact nofun
      | plus => exact fun c hc => List.mem_singleton.mp hc ▸ rfl
      | minus => exact fun c hc => List.mem_singleton.mp hc ▸ rfl
    refine List.forall_mem_cons.mpr ⟨hmark, List.forall_mem_append.mpr ⟨hsign, fun c hc => ?_⟩⟩
    exact Text.isBlank_of_isAsciiDigit (hdigits c hc)

/-- There are no blanks in a whole part. -/
theorem isBlank_of_isWholePart (h : IsWholePart whole) : ∀ c ∈ whole, isBlank c = false :=
  fun c hc => Text.isBlank_of_isAsciiDigit (h.digits c hc)

/-- A whole number is read unless it has too many digits. -/
theorem readInt?_eq (h : IsWholePart whole) :
    readInt? (minusIf negative ++ whole) =
      if maxDigits < whole.length then none
      else some (signed negative (ofAsciiDigits whole : Int)) := by
  have htrimmed : Text.IsTrimmed (minusIf negative ++ whole) := Text.IsTrimmed.of_forall
    (List.forall_mem_append.mpr ⟨isBlank_of_mem_minusIf, isBlank_of_isWholePart h⟩)
  obtain ⟨c, others, rfl⟩ := List.exists_cons_of_ne_nil h.ne_nil
  rw [readInt?, unpadded_eq htrimmed, readSign_minusIf (head?_of_digits h.digits)]
  dsimp only
  rw [takeDigits_of_digits h.digits]
  simp [signed, ofAsciiDigits]

/-- A digit stays as it is in small letters. -/
theorem head?_lower_of_isAsciiDigit (h : isAsciiDigit c = true) (s : List Char) :
    (Text.lower (c :: s)).head? = some c := by
  have hcode := Text.toNat_of_isAsciiDigit h
  have hcapital : ¬('A' ≤ c && c ≤ 'Z') = true := by
    have hbelow : ¬65 ≤ c.toNat := by omega
    simpa [Char.le_def, UInt32.le_iff_toNat_le] using fun h => absurd h hbelow
  have hself : Text.lowerChar c = [c] := by
    rw [Text.lowerChar, if_pos (by omega), if_neg hcapital]
  have hsigma : ¬(c.toNat == 0x3A3) = true := by
    rw [beq_iff_eq]
    omega
  rw [Text.lower, Text.lower.go, if_neg hsigma, hself]
  rfl

/-- A float is read from its parts. -/
theorem readFloat?_eq {decimals : List Char} (hwhole : IsWholePart whole)
    (hfraction : IsFraction fraction decimals) (hexponent : SpellsExponent exponent e) :
    readFloat? (minusIf negative ++ (whole ++ (fraction ++ exponent))) =
      some (signed negative
        (floatOfDecimal (ofAsciiDigits (whole ++ decimals)) (e - decimals.length))) := by
  have htrimmed : Text.IsTrimmed (minusIf negative ++ (whole ++ (fraction ++ exponent))) := by
    refine Text.IsTrimmed.of_forall (List.forall_mem_append.mpr ⟨isBlank_of_mem_minusIf, ?_⟩)
    refine List.forall_mem_append.mpr ⟨isBlank_of_isWholePart hwhole, ?_⟩
    exact List.forall_mem_append.mpr ⟨hfraction.isBlank, hexponent.isBlank⟩
  have hread := readDigitFloat?_eq hwhole hfraction hexponent
  obtain ⟨c, others, rfl⟩ := List.exists_cons_of_ne_nil hwhole.ne_nil
  have hc : isAsciiDigit c = true := hwhole.digits c List.mem_cons_self
  have hhead : ∀ d ∈ (c :: others ++ (fraction ++ exponent)).head?, isAsciiDigit d = true := by
    rintro _ ⟨⟩
    exact hc
  have hword : ∀ word : String, word.toList.head?.any isAsciiDigit = false →
      (String.ofList (Text.lower (c :: others ++ (fraction ++ exponent))) == word) = false := by
    intro word hletter
    refine beq_false_of_ne ?_
    rintro rfl
    rw [String.toList_ofList, List.cons_append, head?_lower_of_isAsciiDigit hc, Option.any_some, hc]
      at hletter
    cases hletter
  rw [readFloat?, unpadded_eq htrimmed, readSign_minusIf hhead]
  dsimp only
  rw [hword "inf" (by decide), hword "infinity" (by decide), hword "nan" (by decide), hread]
  rfl

end Restack.Number
