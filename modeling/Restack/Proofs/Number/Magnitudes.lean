import Mathlib.Algebra.GroupWithZero.Nat
import Restack.Number.Rounding

/-!
# Numbers without a sign

Among the floats without a sign that are numbers, the order is that of their bits: the exponent
stands in front of the fraction, and the fraction of a float that is not among the smallest has a
leading one that is left out. Decimal numbers are such floats, and so are quotients of whole
numbers, as long as nothing is divided by zero. A float that is read from a text without a sign has
no sign itself, however large or small the number is.
-/

namespace Restack.Number

open Float.Model (Format UnpackedFloat)
open Float.Model.UnpackedFloat (Accuracy Sign)

/-- The bits of infinity. Without a sign, larger bits are not those of a number. -/
def infinityBits : Nat := 2047 * 2 ^ 52

/-- A float in parts that is a number without a sign. -/
inductive IsAmount : UnpackedFloat → Prop where
  | zero : IsAmount (.zero .positive)
  | finite {m : Nat} {e : Int} {hm : 0 < m} : IsAmount (.finite .positive m e hm)
  | infinity : IsAmount (.infinity .positive)

/-- The place that a float in parts has among those without a sign. -/
inductive HasRank : UnpackedFloat → Nat → Prop where
  | zero : HasRank (.zero .positive) 0
  | finite {m : Nat} {e : Int} {hm : 0 < m} (hlow : -1074 ≤ e) (hhigh : e ≤ 971)
      (hsize : m < 2 ^ 53) (hnormal : 2 ^ 52 ≤ m ∨ e = -1074) :
      HasRank (.finite .positive m e hm) ((e + 1074).toNat * 2 ^ 52 + m)
  | infinity : HasRank (.infinity .positive) infinityBits

section Amounts

variable {spec : Format} {x : UnpackedFloat}

/-- What is an amount in either case is one. -/
theorem IsAmount.dite {c : Prop} [Decidable c] {x : c → UnpackedFloat} {y : ¬c → UnpackedFloat}
    (hx : ∀ h, IsAmount (x h)) (hy : ∀ h, IsAmount (y h)) :
    IsAmount (if h : c then x h else y h) := by
  by_cases h : c
  · rw [dif_pos h]
    exact hx h
  · rw [dif_neg h]
    exact hy h

/-- Of two amounts either is one. -/
theorem IsAmount.ite {c : Prop} [Decidable c] {x y : UnpackedFloat} (hx : IsAmount x)
    (hy : IsAmount y) : IsAmount (if c then x else y) :=
  .dite (fun _ => hx) fun _ => hy

/-- What is rounded without a sign is an amount. -/
theorem isAmount_roundWithAccuracy (m : Nat) (e : Int) (accuracy : Accuracy) :
    IsAmount (UnpackedFloat.roundWithAccuracy spec .positive m e accuracy) :=
  .dite (fun _ => .zero) fun _ => .finite

/-- An amount times a finite one is an amount. -/
theorem IsAmount.mul_finite (hx : IsAmount x) {m : Nat} {e : Int} {hm : 0 < m} :
    IsAmount (UnpackedFloat.mul spec x (.finite .positive m e hm)) := by
  cases hx with
  | zero => exact .zero
  | finite => exact isAmount_roundWithAccuracy ..
  | infinity => exact .infinity

/-- An amount divided by a finite one is an amount. -/
theorem IsAmount.div_finite (hx : IsAmount x) {m : Nat} {e : Int} {hm : 0 < m} :
    IsAmount (UnpackedFloat.div spec x (.finite .positive m e hm)) := by
  cases hx with
  | zero => exact .zero
  | finite => exact isAmount_roundWithAccuracy ..
  | infinity => exact .infinity

/-- Whole numbers without a sign are amounts. -/
theorem isAmount_ofNat (n : Nat) : IsAmount (UnpackedFloat.ofNat spec n) := by
  unfold UnpackedFloat.ofNat UnpackedFloat.ofInt UnpackedFloat.normalize
  split
  · rename_i h
    rw [Int.compare_eq_lt] at h
    omega
  · exact .zero
  · exact isAmount_roundWithAccuracy ..

/-- Decimal numbers without a sign are amounts. -/
theorem isAmount_ofScientific (m : Nat) (e : Int) :
    IsAmount (UnpackedFloat.ofScientific spec m e) :=
  .dite (fun _ => .zero) fun _ =>
    .ite .infinity (.ite .zero (.ite (.mul_finite .finite) (.div_finite .finite)))

/-- The exact parts of a whole number are an amount. -/
theorem isAmount_exactParts (n : Nat) : IsAmount (exactParts n) :=
  .dite (fun _ => .zero) fun _ => .finite

/-- In the bits of a float without a sign the exponent stands in front of the fraction. -/
theorem toNat_packComponents (exponent : BitVec 11) (fraction : BitVec 52) :
    (UnpackedFloat.packComponents .binary64 .positive exponent fraction).toNat =
      exponent.toNat * 2 ^ 52 + fraction.toNat := by
  change ((0 <<< 11 ||| exponent.toNat) <<< 52) ||| fraction.toNat = _
  rw [Nat.zero_shiftLeft, Nat.zero_or, Nat.shiftLeft_eq, Nat.mul_comm,
    Nat.two_pow_add_eq_or_of_lt fraction.isLt]

/-- The bits of an amount are at most those of infinity. -/
theorem IsAmount.toNat_pack_le (hx : IsAmount x) :
    (UnpackedFloat.pack .binary64 x).toNat ≤ infinityBits := by
  cases hx with
  | zero => exact Nat.zero_le _
  | infinity => exact Nat.le_refl _
  | finite =>
    rename_i m e _
    have hfraction : m % 2 ^ 52 < 2 ^ 52 := Nat.mod_lt m (by decide)
    unfold UnpackedFloat.pack
    dsimp only
    split
    · exact Nat.le_refl _
    · rename_i hexponent
      have hlt : ¬2 ^ 11 ≤ (e + 1023 + 52).toNat + 1 := hexponent
      split
      · rw [toNat_packComponents, BitVec.toNat_ofNat, BitVec.toNat_ofNat, infinityBits]
        change (e + 1023 + 52).toNat % 2 ^ 11 * 2 ^ 52 + m % 2 ^ 52 ≤ _
        omega
      · rw [toNat_packComponents, BitVec.toNat_ofNat, infinityBits]
        change 0 * 2 ^ 52 + m % 2 ^ 52 ≤ _
        omega

end Amounts

section Ranks

variable {x y : UnpackedFloat} {a b : Nat}

/-- Finite amounts are compared by their exponents first. -/
theorem le_finite_iff {m n : Nat} {e f : Int} {hm : 0 < m} {hn : 0 < n} :
    (UnpackedFloat.finite .positive m e hm).le (.finite .positive n f hn) = true ↔
      e < f ∨ e = f ∧ m ≤ n := by
  change ((compare e f).then (compare m n)).isLE = true ↔ _
  rcases Int.lt_trichotomy e f with h | rfl | h
  · rw [Int.compare_eq_lt.mpr h]
    exact iff_of_true rfl (Or.inl h)
  · rw [Int.compare_eq_eq.mpr rfl]
    simp [Nat.isLE_compare]
  · rw [Int.compare_eq_gt.mpr h]
    refine iff_of_false Bool.false_ne_true ?_
    omega

/-- Floats in parts are compared by their places. -/
theorem HasRank.le_iff (hx : HasRank x a) (hy : HasRank y b) : x.le y = true ↔ a ≤ b := by
  cases hx with
  | zero => cases hy <;> exact iff_of_true rfl (Nat.zero_le _)
  | finite hlow hhigh hsize hnormal =>
    cases hy with
    | zero =>
      refine iff_of_false Bool.false_ne_true ?_
      omega
    | finite hlow' hhigh' hsize' hnormal' =>
      rw [le_finite_iff]
      omega
    | infinity =>
      refine iff_of_true rfl ?_
      rw [infinityBits]
      omega
  | infinity =>
    cases hy with
    | zero => exact iff_of_false Bool.false_ne_true (by decide)
    | finite hlow hhigh hsize hnormal =>
      refine iff_of_false Bool.false_ne_true ?_
      rw [infinityBits]
      omega
    | infinity => exact iff_of_true rfl (Nat.le_refl _)

/-- Only amounts have a rank. -/
theorem HasRank.isAmount (hx : HasRank x a) : IsAmount x := by
  cases hx with
  | zero => exact .zero
  | finite => exact .finite
  | infinity => exact .infinity

/-- A place strictly between those of zero and infinity is that of a finite number. -/
theorem HasRank.exists_finite (hx : HasRank x a) (hpos : 0 < a) (hlt : a < infinityBits) :
    ∃ m e hm, x = .finite .positive m e hm := by
  cases hx with
  | zero => exact absurd hpos (Nat.lt_irrefl 0)
  | finite => exact ⟨_, _, _, rfl⟩
  | infinity => exact absurd hlt (Nat.lt_irrefl _)

/-- The smallest floats are their fractions. -/
theorem hasRank_small {m : Nat} {e : Int} {hm : 0 < m} (hsize : m < 2 ^ 52) (he : e = -1074) :
    HasRank (.finite .positive m e hm) m := by
  subst he
  have hrank := @HasRank.finite m _ hm (Int.le_refl (-1074)) (by decide) (by omega) (Or.inr rfl)
  rwa [show ((-1074 : Int) + 1074).toNat * 2 ^ 52 + m = m by omega] at hrank

/-- The other floats have a one in front of their fractions. -/
theorem hasRank_large {exponent fraction m : Nat} {e : Int} {hm : 0 < m}
    (hpos : 0 < exponent) (hlt : exponent < 2047) (hfraction : fraction < 2 ^ 52)
    (hsize : m = 2 ^ 52 + fraction) (he : e = exponent - 1075) :
    HasRank (.finite .positive m e hm) (exponent * 2 ^ 52 + fraction) := by
  subst hsize he
  have hrank := @HasRank.finite _ (exponent - 1075) hm (by omega) (by omega) (by omega)
    (Or.inl (by omega))
  rwa [show ((exponent : Int) - 1075 + 1074).toNat * 2 ^ 52 + (2 ^ 52 + fraction) =
    exponent * 2 ^ 52 + fraction by omega] at hrank

/-- A float whose first bit is not set has no minus sign. -/
theorem unpackSign_of_lt {b : BitVec 64} (h : b.toNat < Nat.pow 2 63) :
    Sign.ofBitVec (@UnpackedFloat.unpackSign .binary64 b) = .positive := by
  have hbits : @UnpackedFloat.unpackSign .binary64 b = 0#1 := by
    apply BitVec.eq_of_toNat_eq
    unfold UnpackedFloat.unpackSign
    rw [BitVec.toNat_cast, BitVec.extractLsb_toNat]
    change b.toNat >>> 63 % 2 = 0
    rw [Nat.shiftRight_eq_div_pow]
    exact congrArg (· % 2) (Nat.div_eq_of_lt h)
  rw [hbits]
  rfl

/-- The place of a float is the number that its bits are. -/
theorem hasRank_unpack {b : BitVec 64} (hb : b.toNat ≤ infinityBits) :
    HasRank (UnpackedFloat.unpack .binary64 b) b.toNat := by
  let exponent := @UnpackedFloat.unpackExponent .binary64 b
  let fraction := @UnpackedFloat.unpackMantissa .binary64 b
  have hsign := unpackSign_of_lt (Nat.lt_of_le_of_lt hb (by decide))
  have hexponent : exponent.toNat = b.toNat / 2 ^ 52 := by
    change (b.toNat >>> 52) % 2 ^ 11 = _
    rw [Nat.shiftRight_eq_div_pow]
    unfold infinityBits at hb
    exact Nat.mod_eq_of_lt (by omega)
  have hfraction : fraction.toNat = b.toNat % 2 ^ 52 := rfl
  have hfields : b.toNat = exponent.toNat * 2 ^ 52 + fraction.toNat := by omega
  rw [infinityBits, hfields] at hb
  unfold UnpackedFloat.unpack
  dsimp only
  rw [hsign, hfields]
  change HasRank (if exponent = -1#11 then if fraction = 0#52 then _ else _
    else if exponent = 0#11 then _ else _) _
  by_cases hlast : exponent = -1#11
  · have hvalue : exponent.toNat = 2047 := congrArg BitVec.toNat hlast
    have hnone : fraction.toNat = 0 := by omega
    rw [if_pos hlast, if_pos (BitVec.eq_of_toNat_eq hnone), hvalue, hnone]
    exact .infinity
  · rw [if_neg hlast]
    by_cases hfirst : exponent = 0#11
    · have hvalue : exponent.toNat = 0 := congrArg BitVec.toNat hfirst
      rw [if_pos hfirst, hvalue, Nat.zero_mul, Nat.zero_add]
      change HasRank (if h : fraction = 0#52 then _ else _) _
      by_cases hnone : fraction = 0#52
      · have hzero : fraction.toNat = 0 := congrArg BitVec.toNat hnone
        rw [dif_pos hnone, hzero]
        exact .zero
      · rw [dif_neg hnone]
        exact hasRank_small fraction.isLt rfl
    · have hpos : exponent.toNat ≠ 0 := fun h => hfirst (BitVec.eq_of_toNat_eq h)
      have hlt : exponent.toNat ≠ 2047 := fun h => hlast (BitVec.eq_of_toNat_eq h)
      rw [if_neg hfirst]
      refine hasRank_large (by omega) (by omega) fraction.isLt ?_ rfl
      change 2 ^ 52 ||| fraction.toNat = _
      rw [Nat.or_comm, Nat.or_two_pow_eq_add_of_lt fraction.isLt, Nat.add_comm]

end Ranks

variable {x y : Float}

/-- A float has no minus sign. -/
def HasNoSign (x : Float) : Prop :=
  x.toBits.toNat < Nat.pow 2 63

/-- The parts of a float without a sign tell that it has none. -/
theorem HasNoSign.floatParts (h : HasNoSign x) : (floatParts x).1 = false :=
  decide_eq_false (Nat.not_le_of_lt h)

/-- A float is a number without a sign: zero, infinity or something in between. -/
def IsMagnitude (x : Float) : Prop :=
  x.toBits.toNat ≤ infinityBits

/-- A magnitude has no sign. -/
theorem IsMagnitude.hasNoSign (h : IsMagnitude x) : HasNoSign x :=
  Nat.lt_of_le_of_lt h (by decide)

/-- The rank of a magnitude is the number of its bits. -/
theorem IsMagnitude.hasRank (h : IsMagnitude x) : HasRank x.toModel.unpack x.toBits.toNat :=
  hasRank_unpack h

/-- Numbers without a sign are compared by their bits. -/
theorem IsMagnitude.le_iff (hx : IsMagnitude x) (hy : IsMagnitude y) :
    x ≤ y ↔ x.toBits.toNat ≤ y.toBits.toNat :=
  (iff_of_eq (decide_eq_true_eq ..)).trans (hx.hasRank.le_iff hy.hasRank)

/-- A packed amount is a magnitude. -/
theorem isMagnitude_pack {x : UnpackedFloat} (hx : IsAmount x) : IsMagnitude (.ofModel (.pack x)) :=
  hx.toNat_pack_le

/-- Floats with the same bits are the same. -/
theorem toNat_toBits_injective : Function.Injective fun x : Float => x.toBits.toNat := by
  intro x y h
  rcases x with ⟨⟨bits, _⟩⟩
  rcases y with ⟨⟨others, _⟩⟩
  have hbits : bits = others := UInt64.toNat_inj.mp h
  subst hbits
  rfl

/-- A float is finite and more than zero. -/
structure IsPositive (x : Float) : Prop where
  pos : 0 < x.toBits.toNat
  lt : x.toBits.toNat < infinityBits

/-- Positive floats are magnitudes. -/
theorem IsPositive.isMagnitude (h : IsPositive x) : IsMagnitude x :=
  Nat.le_of_lt h.lt

/-- Positive floats are finite. -/
theorem IsPositive.exists_finite (h : IsPositive x) :
    ∃ m e hm, x.toModel.unpack = .finite .positive m e hm :=
  h.isMagnitude.hasRank.exists_finite h.pos h.lt

/-- A magnitude times a positive float is one. -/
theorem IsMagnitude.mul (hx : IsMagnitude x) (hy : IsPositive y) : IsMagnitude (x * y) := by
  obtain ⟨m, e, hm, hfinite⟩ := hy.exists_finite
  have hproduct : IsAmount (x.toModel.unpack.mul .binary64 y.toModel.unpack) := by
    rw [hfinite]
    exact hx.hasRank.isAmount.mul_finite
  exact isMagnitude_pack hproduct

/-- A magnitude divided by a positive float is one. -/
theorem IsMagnitude.div (hx : IsMagnitude x) (hy : IsPositive y) : IsMagnitude (x / y) := by
  obtain ⟨m, e, hm, hfinite⟩ := hy.exists_finite
  have hquotient : IsAmount (x.toModel.unpack.div .binary64 y.toModel.unpack) := by
    rw [hfinite]
    exact hx.hasRank.isAmount.div_finite
  exact isMagnitude_pack hquotient

/-- Machine words give magnitudes. -/
theorem isMagnitude_toFloat (n : UInt64) : IsMagnitude n.toFloat :=
  isMagnitude_pack (isAmount_ofNat n.toNat)

/-- The powers of ten that are exact are positive. -/
theorem isPositive_powerOfTen : ∀ x ∈ Float.exactlyRepresentablePowersOfTen, IsPositive x := by
  have hall : ∀ x ∈ Float.exactlyRepresentablePowersOfTen,
      0 < x.toBits.toNat ∧ x.toBits.toNat < infinityBits := by
    decide +kernel
  exact fun x hx => ⟨(hall x hx).1, (hall x hx).2⟩

/-- A decimal number becomes a number without a sign. -/
theorem isMagnitude_ofScientific (m : Nat) (isSmall : Bool) (e : Nat) :
    IsMagnitude (Float.ofScientific m isSmall e) := by
  unfold Float.ofScientific
  split
  · rename_i hsmall
    have hlt : e < Float.exactlyRepresentablePowersOfTen.size := Nat.lt_succ_of_le hsmall.2
    have hpower := isPositive_powerOfTen _ (Array.getElem_mem hlt)
    dsimp only
    split
    · exact (isMagnitude_toFloat _).div hpower
    · exact (isMagnitude_toFloat _).mul hpower
  · exact isMagnitude_pack (isAmount_ofScientific _ _)

/-- Infinity is a magnitude. -/
theorem isMagnitude_infinity : IsMagnitude (1.0 / 0.0) := by
  unfold IsMagnitude
  decide +kernel

/-- The float of a decimal number without a sign is a magnitude. -/
theorem isMagnitude_floatOfDecimal (n : Nat) (exponent : Int) :
    IsMagnitude (floatOfDecimal n exponent) := by
  unfold floatOfDecimal
  dsimp only
  split
  · exact isMagnitude_ofScientific 0 true 1
  · split
    · exact isMagnitude_infinity
    · split
      · exact isMagnitude_ofScientific 0 true 1
      · split
        · exact isMagnitude_ofScientific n true _
        · exact isMagnitude_ofScientific n false _

/-- A quotient is a number, unless it is by zero. -/
theorem isMagnitude_quotient (n : Nat) {d : Nat} (hd : 0 < d) : IsMagnitude (quotient n d) := by
  have hquotient : IsAmount ((exactParts n).div .binary64 (exactParts d)) := by
    rw [exactParts.eq_1 d, dif_neg (Nat.ne_of_gt hd)]
    exact (isAmount_exactParts n).div_finite
  -- The bits are read as a float, which puts them in parts once more.
  exact (hasRank_unpack hquotient.toNat_pack_le).isAmount.toNat_pack_le

/-- A number without a sign that is rounded is one again. -/
theorem IsMagnitude.roundToTenth? (hx : IsMagnitude x) (h : roundToTenth? x = some y) :
    IsMagnitude y := by
  unfold Number.roundToTenth? at h
  dsimp only at h
  rw [hx.hasNoSign.floatParts] at h
  split at h
  · split at h
    · cases h
      exact hx
    · cases h
  · split at h
    · cases h
    · cases h
      exact isMagnitude_floatOfDecimal _ _

/-- What is read from digits has no sign. -/
theorem hasNoSign_of_readDigitFloat? {s : List Char} (h : readDigitFloat? s = some x) :
    HasNoSign x := by
  unfold readDigitFloat? at h
  dsimp only at h
  rw [Option.ite_none_left_eq_some] at h
  obtain ⟨exponent, -, rfl⟩ := Option.map_eq_some_iff.mp h.2
  exact (isMagnitude_floatOfDecimal _ _).hasNoSign

/-- A text without a sign is read as a float without a sign. -/
theorem hasNoSign_of_readFloat? {s : List Char} (h : readFloat? s = some x)
    (hsign : (readSign (unpadded s)).1 = false) : HasNoSign x := by
  unfold readFloat? at h
  dsimp only at h
  rw [hsign] at h
  split at h
  · cases h
    exact isMagnitude_infinity.hasNoSign
  · split at h
    · cases h
      unfold HasNoSign
      decide +kernel
    · obtain ⟨y, hy, rfl⟩ := Option.map_eq_some_iff.mp h
      exact hasNoSign_of_readDigitFloat? hy

end Restack.Number
