import Mathlib.Tactic.ByContra
import Restack.Number.Numeral
import Restack.Proofs.Text.Trimming

/-!
# Whole numbers and floats

Whatever is read as a whole number can be read as a float as well, and a whole number without a sign
is not negative. A float is made of digits, of a few signs and letters, and of nothing else.
-/

namespace Restack.Number

open Restack.Text

variable {s : List Char} {n : Int}

/-- A trimmed text has no blanks around it that a numeral might have. -/
theorem unpadded_eq (h : IsTrimmed s) : unpadded s = s :=
  h.stripBoth_eq fun _ hc => (Bool.and_eq_true_iff.mp hc).1

/-- A whole number is made of digits alone behind its sign. -/
theorem digits_of_readInt? (h : readInt? s = some n) :
    ∃ d digits, takeDigits (readSign (unpadded s)).2 = (d :: digits, []) ∧
      n = if (readSign (unpadded s)).1 then -(ofDigits (d :: digits) : Int)
        else ofDigits (d :: digits) := by
  unfold readInt? at h
  dsimp only at h
  split at h
  · rename_i digits d rest hdigits
    split at h
    · cases h
    · cases h
      exact ⟨d, rest, hdigits, rfl⟩
  · cases h

/-- A whole number can be read as a float. -/
theorem isSome_readFloat?_of_readInt? (h : readInt? s = some n) : (readFloat? s).isSome = true := by
  obtain ⟨d, digits, hdigits, -⟩ := digits_of_readInt? h
  have hread : (readDigitFloat? (readSign (unpadded s)).2).isSome = true := by
    unfold readDigitFloat?
    rw [hdigits]
    rfl
  unfold readFloat?
  dsimp only
  split
  · rfl
  · split
    · rfl
    · rw [Option.isSome_map, hread]

/-- A whole number without a sign is not negative. -/
theorem nonneg_of_readInt? (h : readInt? s = some n) (hsign : (readSign (unpadded s)).1 = false) :
    0 ≤ n := by
  obtain ⟨d, digits, -, rfl⟩ := digits_of_readInt? h
  rw [hsign]
  exact Int.natCast_nonneg _

/-- Whether a character belongs to no numeral: it is no digit of any script, none of the signs and
letters of floats, and stays as it is in small letters. -/
def isForeign (c : Char) : Bool :=
  (digitValue? c).isNone && !("_.+-eE".toList ++ "infinity".toList ++ "nan".toList).contains c &&
    c.toNat != 0x3A3 && lowerChar c == [c]

section Foreign

variable {c : Char} {s : List Char}

/-- Digits are not foreign to numerals. -/
theorem not_isForeign_of_digitValue? {d : Nat} (h : digitValue? c = some d) :
    isForeign c = false := by
  rw [isForeign, h]
  rfl

/-- Digits are what they are taken off for, or low lines between them. -/
theorem exists_takeDigits (s : List Char) :
    ∃ taken, s = taken ++ (takeDigits s).2 ∧ ∀ c ∈ taken, isForeign c = false := by
  have hgo : ∀ inside, ∃ taken, s = taken ++ (takeDigits.go inside s).2 ∧
      ∀ c ∈ taken, isForeign c = false := by
    induction s with
    | nil => exact fun _ => ⟨[], rfl, nofun⟩
    | cons c rest ih =>
      intro inside
      rw [takeDigits.go]
      cases hdigit : digitValue? c with
      | some d =>
        obtain ⟨taken, hrest, htaken⟩ := ih true
        have hc : isForeign c = false := not_isForeign_of_digitValue? hdigit
        exact ⟨c :: taken, congrArg (c :: ·) hrest, List.forall_mem_cons.mpr ⟨hc, htaken⟩⟩
      | none =>
        dsimp only
        split
        · rename_i hline
          obtain ⟨taken, hrest, htaken⟩ := ih false
          have hc : c = '_' := by
            simp only [Bool.and_eq_true, beq_iff_eq] at hline
            exact hline.1.2
          subst hc
          exact ⟨'_' :: taken, congrArg ('_' :: ·) hrest, List.forall_mem_cons.mpr ⟨rfl, htaken⟩⟩
        · exact ⟨[], rfl, nofun⟩
  exact hgo false

/-- What is read as a sign stood in front and is not foreign to numerals. -/
theorem exists_readSign (s : List Char) :
    ∃ sign, s = sign ++ (readSign s).2 ∧ ∀ c ∈ sign, isForeign c = false := by
  unfold readSign
  split
  · exact ⟨['-'], rfl, fun c hc => List.mem_singleton.mp hc ▸ rfl⟩
  · exact ⟨['+'], rfl, fun c hc => List.mem_singleton.mp hc ▸ rfl⟩
  · exact ⟨[], rfl, nofun⟩

/-- A character that belongs to no numeral stays when a text is put into small letters. -/
theorem mem_lower_of_isForeign (hc : isForeign c = true) (h : c ∈ s) : c ∈ lower s := by
  simp only [isForeign, Bool.and_eq_true, bne_iff_ne, beq_iff_eq] at hc
  obtain ⟨⟨-, hsigma⟩, hsmall⟩ := hc
  have hgo : ∀ before, c ∈ lower.go before s := by
    induction s with
    | nil => cases h
    | cons d rest ih =>
      intro before
      rw [lower.go]
      rcases List.mem_cons.mp h with rfl | hrest
      · rw [if_neg (by simpa using hsigma), hsmall]
        exact List.mem_cons_self
      · split
        · exact List.mem_cons_of_mem _ (ih hrest _)
        · exact List.mem_append_right _ (ih hrest _)
  exact hgo []

/-- A text that comes to one of the words for floats has nothing foreign in it. -/
theorem not_isForeign_of_lower {word : List Char} (hword : lower s = word)
    (hletters : word.any isForeign = false) : ∀ c ∈ s, isForeign c = false := by
  intro c hc
  by_contra hforeign
  have hmem := mem_lower_of_isForeign (by simpa using hforeign) hc
  exact List.any_eq_false.mp hletters c (hword ▸ hmem) (by simpa using hforeign)

/-- Digits that are taken to the end hold nothing foreign. -/
theorem not_isForeign_of_takeDigits {digits : List Nat} (h : takeDigits s = (digits, [])) :
    ∀ c ∈ s, isForeign c = false := by
  obtain ⟨taken, hs, htaken⟩ := exists_takeDigits s
  rw [h, List.append_nil] at hs
  exact hs ▸ htaken

/-- An exponent holds nothing foreign. -/
theorem not_isForeign_of_readExponent? (h : (readExponent? s).isSome = true) :
    ∀ c ∈ s, isForeign c = false := by
  unfold readExponent? at h
  split at h
  · exact nofun
  · rename_i mark rest
    split at h
    · rename_i hmark
      obtain ⟨sign, hrest, hsign⟩ := exists_readSign rest
      have hmark : isForeign mark = false := by
        simp only [Bool.or_eq_true, beq_iff_eq] at hmark
        rcases hmark with rfl | rfl <;> rfl
      dsimp only at h
      split at h
      · rename_i hdigits
        have hall := not_isForeign_of_takeDigits hdigits
        rw [hrest]
        exact List.forall_mem_cons.mpr ⟨hmark, List.forall_mem_append.mpr ⟨hsign, hall⟩⟩
      · cases h
    · cases h

/-- A float that begins with a digit holds nothing foreign. -/
theorem not_isForeign_of_readDigitFloat? (h : (readDigitFloat? s).isSome = true) :
    ∀ c ∈ s, isForeign c = false := by
  obtain ⟨whole, hs, hwhole⟩ := exists_takeDigits s
  -- Whether there is a fraction or not, the exponent comes last.
  have hexponent : ∀ {rest : List Char} {missing : Bool} {value : Int → Float},
      (if missing then none else (readExponent? rest).map value).isSome = true →
        ∀ c ∈ rest, isForeign c = false := by
    intro rest missing value h
    cases missing with
    | true => cases h
    | false => exact not_isForeign_of_readExponent? ((Option.isSome_map ..).symm.trans h)
  unfold readDigitFloat? at h
  rw [hs]
  refine List.forall_mem_append.mpr ⟨hwhole, ?_⟩
  dsimp only at h
  split at h
  · rename_i more hpoint
    obtain ⟨fraction, hmore, hfraction⟩ := exists_takeDigits more
    rw [hpoint, hmore]
    refine List.forall_mem_cons.mpr ⟨rfl, List.forall_mem_append.mpr ⟨hfraction, ?_⟩⟩
    exact hexponent h
  · exact hexponent h

/-- Nothing in the text of a float is foreign to numerals. -/
theorem not_isForeign_of_readFloat? (h : (readFloat? s).isSome = true) :
    ∀ c ∈ unpadded s, isForeign c = false := by
  obtain ⟨sign, hs, hsign⟩ := exists_readSign (unpadded s)
  rw [hs]
  refine List.forall_mem_append.mpr ⟨hsign, ?_⟩
  have hword : ∀ {word : String}, String.ofList (lower (readSign (unpadded s)).2) = word →
      lower (readSign (unpadded s)).2 = word.toList := by
    rintro _ rfl
    exact String.toList_ofList.symm
  unfold readFloat? at h
  dsimp only at h
  split at h
  · rename_i hinfinite
    simp only [Bool.or_eq_true, beq_iff_eq] at hinfinite
    rcases hinfinite with hshort | hlong
    · exact not_isForeign_of_lower (hword hshort) (by decide)
    · exact not_isForeign_of_lower (hword hlong) (by decide)
  · split at h
    · rename_i hnan
      exact not_isForeign_of_lower (hword (beq_iff_eq.mp hnan)) (by decide)
    · rw [Option.isSome_map] at h
      exact not_isForeign_of_readDigitFloat? h

end Foreign

end Restack.Number
