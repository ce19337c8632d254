import Gamebook.Number.Finite
import Mathlib.Algebra.Order.Field.Power
import Mathlib.Data.Rat.Cast.Order
import Mathlib.Tactic.FieldSimp
import Mathlib.Tactic.Linarith
import Mathlib.Tactic.NormNum
import Mathlib.Tactic.Positivity
import Mathlib.Tactic.Ring

/-!
# Rounding to finite numbers

A product that is rounded is finite as long as it stays below the middle between the greatest finite
number and the power of two above it.  This module bounds what is rounded from above: rounding goes
to the nearest significand, so it passes none that is nearer, and it adds at most one in the last of
53 bits.

Main results:

- Definition `Finite.magnitude`: the value of a number without its sign.
- Theorem `Finite.roundWithAccuracy_spec`: rounding does not pass a significand that is nearer.
- Theorem `Finite.magnitude_round_le`: rounding adds at most one part in `2 ^ 52`.
- Theorems `Finite.magnitude_toFloat_le_mul` and `Finite.magnitude_tenTo_le`: how far integers and
  powers of ten are rounded up.
- Theorem `Finite.isFinite_mul_of_lt`: products below the overflow are finite.
- Theorems `Finite.isFinite_mul_tenTo_of_le_tenTo` and `Finite.isFinite_mul_tenTo_of_le_greatest`:
  which integers can be scaled by powers of ten.
-/

namespace Gamebook

namespace Finite

open Float.Model Float.Model.UnpackedFloat

/-! ## Magnitudes -/

/-- The value of a finite number without its sign; there is none of what is not finite. -/
def magnitude : UnpackedFloat → ℚ
  | .finite _ m e _ => m * 2 ^ e
  | _ => 0

@[simp]
theorem magnitude_zero (s : Sign) : magnitude (.zero s) = 0 :=
  rfl

@[simp]
theorem magnitude_finite (s : Sign) (m : ℕ) (e : ℤ) (hm : 0 < m) :
    magnitude (.finite s m e hm) = m * 2 ^ e :=
  rfl

/-- The least value that is rounded to infinity: halfway between the greatest finite number and the
power of two that comes after it. -/
def overflow : ℚ :=
  (2 ^ 54 - 1) * 2 ^ 970

/-- Values below the overflow are below the power of two that comes after the finite numbers. -/
theorem overflow_lt : overflow < 2 ^ (1024 : ℤ) := by
  calc overflow < 2 ^ 54 * 2 ^ 970 := mul_lt_mul_of_pos_right (by norm_num) (by positivity)
    _ = 2 ^ (54 + 970) := (pow_add 2 54 970).symm
    _ = 2 ^ (1024 : ℤ) := (zpow_natCast 2 1024).symm

/-- Twice the overflow is an odd number of units in the last place. -/
theorem two_mul_overflow : 2 * overflow = (2 ^ 54 - 1) * 2 ^ (971 : ℤ) := by
  have hpow : (2 : ℚ) ^ (971 : ℤ) = 2 ^ 970 * 2 := (zpow_natCast 2 971).trans (pow_succ 2 970)
  rw [overflow, hpow, mul_left_comm, mul_comm 2]

theorem magnitude_nonneg (u : UnpackedFloat) : 0 ≤ magnitude u := by
  cases u with
  | finite s m e hm => exact mul_nonneg (Nat.cast_nonneg m) (zpow_nonneg (by norm_num) e)
  | _ => exact le_refl 0

/-- A value is at least its leading bit. -/
theorem two_zpow_log2_le {m : ℕ} (hm : m ≠ 0) (e : ℤ) :
    (2 : ℚ) ^ ((m.log2 : ℤ) + e) ≤ m * 2 ^ e := by
  have hlog : (2 : ℚ) ^ m.log2 ≤ m := by exact_mod_cast Nat.log2_self_le hm
  rw [zpow_add₀ (by norm_num), zpow_natCast]
  exact mul_le_mul_of_nonneg_right hlog (zpow_nonneg (by norm_num) e)

/-- Dropping bits does not raise a value. -/
theorem shiftRight_mul_le (m shift : ℕ) (e : ℤ) :
    ((m >>> shift : ℕ) : ℚ) * 2 ^ (e + shift) ≤ m * 2 ^ e := by
  have hdrop : ((m >>> shift : ℕ) : ℚ) * 2 ^ shift ≤ m := by
    rw [Nat.shiftRight_eq_div_pow]
    exact_mod_cast Nat.div_mul_le_self m (2 ^ shift)
  calc ((m >>> shift : ℕ) : ℚ) * 2 ^ (e + shift)
      = (m >>> shift : ℕ) * 2 ^ shift * 2 ^ e := by
        rw [zpow_add₀ (by norm_num), zpow_natCast]
        ring
    _ ≤ m * 2 ^ e := mul_le_mul_of_nonneg_right hdrop (zpow_nonneg (by norm_num) e)

/-- Adding bits does not change a value. -/
theorem shiftLeft_mul (m shift : ℕ) :
    ((m <<< shift : ℕ) : ℚ) * 2 ^ (-(shift : ℤ)) = m := by
  rw [Nat.shiftLeft_eq, zpow_neg, zpow_natCast]
  push_cast
  field_simp

/-! ## Nearest significands -/

/-- The first bit that is dropped. -/
theorem roundBit_shift_succ (m shift : ℕ) :
    (ExtendedMantissa.ofMantissaAndAccuracy m .exact >>> (shift + 1)).roundBit =
      ((m >>> shift) % 2 != 0) := by
  have hstep : (ExtendedMantissa.ofMantissaAndAccuracy m .exact >>> (shift + 1)).roundBit =
      ((ExtendedMantissa.ofMantissaAndAccuracy m .exact >>> shift).mantissa % 2 != 0) := rfl
  rw [hstep, mantissa_shift, mantissa_ofMantissaAndAccuracy]

/-- Nothing is added where the first bit that is dropped is not set. -/
theorem roundedMantissa_of_roundBit {em : ExtendedMantissa} (hbit : em.roundBit = false) :
    em.roundedMantissa = em.mantissa := by
  obtain ⟨m, _ | _, _ | _⟩ := em
  · rfl
  · rfl
  · cases hbit
  · cases hbit

/-- Rounding does not pass a significand that is nearer. -/
theorem roundedMantissa_shift_le {m t shift : ℕ} (hm : 2 * m < (2 * t + 1) * 2 ^ shift) :
    (ExtendedMantissa.ofMantissaAndAccuracy m .exact >>> shift).roundedMantissa ≤ t := by
  have hmantissa : (ExtendedMantissa.ofMantissaAndAccuracy m .exact >>> shift).mantissa =
      m / 2 ^ shift := by
    rw [mantissa_shift, mantissa_ofMantissaAndAccuracy, Nat.shiftRight_eq_div_pow]
  have hle : m / 2 ^ shift ≤ t := by
    have hless : m < (t + 1) * 2 ^ shift := by
      have hdouble : (2 * t + 1) * 2 ^ shift ≤ 2 * ((t + 1) * 2 ^ shift) := by
        rw [← Nat.mul_assoc]
        exact Nat.mul_le_mul_right _ (by omega)
      omega
    exact Nat.lt_succ_iff.1 ((Nat.div_lt_iff_lt_mul (Nat.two_pow_pos shift)).2 hless)
  rcases Nat.lt_or_eq_of_le hle with hlt | heq
  · have hbound := (roundedMantissa_bounds
      (ExtendedMantissa.ofMantissaAndAccuracy m .exact >>> shift)).2
    omega
  · -- the bits that are kept are those of `t`, so less than half a bit is dropped
    have hbit : (ExtendedMantissa.ofMantissaAndAccuracy m .exact >>> shift).roundBit = false := by
      cases shift with
      | zero => rfl
      | succ shift =>
        have hhalf : m / 2 ^ shift / 2 = t := by
          rw [Nat.div_div_eq_div_mul, ← Nat.pow_succ]
          exact heq
        have hless : m / 2 ^ shift < 2 * t + 1 := by
          rw [Nat.pow_succ, ← Nat.mul_assoc] at hm
          rw [Nat.div_lt_iff_lt_mul (Nat.two_pow_pos shift)]
          omega
        rw [roundBit_shift_succ, Nat.shiftRight_eq_div_pow, bne_eq_false_iff_eq]
        omega
    rw [roundedMantissa_of_roundBit hbit, hmantissa, heq]

/-! ## Rounding -/

/-- The exponent that a significand is rounded at. -/
def roundedExponent (m : ℕ) (e : ℤ) : ℤ :=
  max e (max (m.log2 + e - 52) (-1074))

/-- Rounding gives a number of at most 53 bits, and does not pass a significand that is nearer. -/
theorem roundWithAccuracy_spec {m t : ℕ} {e f : ℤ} (hf : roundedExponent m e = f)
    (hm : 2 * m < (2 * t + 1) * 2 ^ (f - e).toNat) (s : Sign) :
    magnitude (roundWithAccuracy Format.binary64 s m e .exact) ≤ t * 2 ^ f ∧
      (t < 2 ^ 53 → Fits f (roundWithAccuracy Format.binary64 s m e .exact)) ∧
      ∀ r n g hn, roundWithAccuracy Format.binary64 s m e .exact = .finite r n g hn →
        -1074 ≤ g := by
  obtain ⟨-, hexponent⟩ := shiftToTargetExponent_spec m e .exact
  have hfirst : (shiftToTargetExponent Format.binary64 m e .exact).1.roundedMantissa ≤ t := by
    rw [shiftToTargetExponent, shiftToExponent, targetExponent_eq]
    apply roundedMantissa_shift_le
    have hshift : (max (m.log2 + e - 52) (-1074) - e).toNat = (f - e).toNat := by
      rw [← hf, roundedExponent]
      omega
    rw [hshift]
    exact hm
  rw [roundedExponent] at hf
  rw [hf] at hexponent
  rw [roundWithAccuracy]
  generalize shiftToTargetExponent Format.binary64 m e .exact = shifted at hfirst hexponent
  obtain ⟨em, e₁⟩ := shifted
  dsimp only at hfirst hexponent ⊢
  subst hexponent
  obtain ⟨hbits, hexponent₂⟩ := shiftToTargetExponent_spec em.roundedMantissa e₁ .exact
  have hvalue : ((shiftToTargetExponent Format.binary64 em.roundedMantissa e₁ .exact).1.mantissa :
      ℚ) * 2 ^ (shiftToTargetExponent Format.binary64 em.roundedMantissa e₁ .exact).2 ≤
        t * 2 ^ e₁ := by
    refine le_trans ?_ (mul_le_mul_of_nonneg_right (Nat.cast_le.2 hfirst)
      (zpow_nonneg (by norm_num) e₁))
    rw [shiftToTargetExponent, shiftToExponent, mantissa_shift, mantissa_ofMantissaAndAccuracy]
    exact shiftRight_mul_le _ _ _
  generalize shiftToTargetExponent Format.binary64 em.roundedMantissa e₁ .exact = shifted
    at hbits hexponent₂ hvalue
  by_cases hzero : shifted.1.mantissa = 0
  · rw [dif_pos hzero]
    refine ⟨?_, fun _ => .zero s, ?_⟩
    · exact mul_nonneg (Nat.cast_nonneg t) (zpow_nonneg (by norm_num) e₁)
    · intro r n g hn heq
      cases heq
  · rw [dif_neg hzero]
    refine ⟨hvalue, fun ht => .finite hbits ?_, ?_⟩
    · have hlog : em.roundedMantissa.log2 ≤ 52 := by
        by_cases hnone : em.roundedMantissa = 0
        · rw [hnone, Nat.log2_zero]
          exact Nat.zero_le 52
        · exact Nat.le_of_lt_succ ((Nat.log2_lt hnone).2 (by omega))
      omega
    · intro r n g hn heq
      cases heq
      omega

/-- A value below the overflow is rounded to a finite number. -/
theorem fits_round_of_lt {m : ℕ} {e : ℤ} (he : e ≤ 971) (hm : (m : ℚ) * 2 ^ e < overflow)
    (s : Sign) : Fits 971 (roundWithAccuracy Format.binary64 s m e .exact) := by
  have hlog : (m.log2 : ℤ) + e ≤ 1023 := by
    by_cases hzero : m = 0
    · rw [hzero, Nat.log2_zero]
      omega
    · have hpow : (2 : ℚ) ^ ((m.log2 : ℤ) + e) < 2 ^ (1024 : ℤ) :=
        lt_of_le_of_lt (two_zpow_log2_le hzero e) (lt_trans hm overflow_lt)
      have hless := (zpow_lt_zpow_iff_right₀ (by norm_num : (1 : ℚ) < 2)).1 hpow
      omega
  by_cases hsmall : (m.log2 : ℤ) + e ≤ 1022 ∧ e ≤ 970
  · exact fits_roundWithAccuracy 970 hsmall.2 (by omega) (by decide) s .exact
  · have hexponent : roundedExponent m e = 971 := by
      rw [roundedExponent]
      omega
    -- the greatest significand is nearer than the power of two above it
    have hnearer : 2 * m < (2 * (2 ^ 53 - 1) + 1) * 2 ^ (971 - e).toNat := by
      have hscaled : (2 : ℚ) * m < (2 ^ 54 - 1) * 2 ^ (971 - e) := by
        rw [zpow_sub₀ (by norm_num), ← mul_div_assoc, lt_div_iff₀ (zpow_pos (by norm_num) e)]
        calc (2 : ℚ) * m * 2 ^ e = 2 * (m * 2 ^ e) := by ring
          _ < 2 * overflow := by linarith
          _ = (2 ^ 54 - 1) * 2 ^ (971 : ℤ) := two_mul_overflow
      have hnat : (971 - e) = ((971 - e).toNat : ℤ) := by omega
      rw [hnat, zpow_natCast] at hscaled
      have hcast : ((2 * m : ℕ) : ℚ) <
          (((2 * (2 ^ 53 - 1) + 1) * 2 ^ (971 - e).toNat : ℕ) : ℚ) := by
        push_cast
        norm_num at hscaled ⊢
        exact hscaled
      exact_mod_cast hcast
    exact (roundWithAccuracy_spec hexponent hnearer s).2.1 (by norm_num)

/-! ## Packing -/

/-- The value of a normal number, read off its fields. -/
theorem magnitude_unpack {b : BitVec Format.binary64.numBits} (hones : unpackExponent b ≠ -1#11)
    (hzero : unpackExponent b ≠ 0#11) :
    magnitude (UnpackedFloat.unpack Format.binary64 b) =
      ((2 ^ 52 + (unpackMantissa b).toNat : ℕ) : ℚ) *
        2 ^ ((unpackExponent b).toNat - 1075 : ℤ) := by
  have hbias := exponentBias_eq
  have hwidth := mantissaBitsWithoutImplicit_eq
  have hleading : (1#1 ++ unpackMantissa b).toNat = 2 ^ 52 + (unpackMantissa b).toNat := by
    rw [BitVec.toNat_append, ← Nat.shiftLeft_add_eq_or_of_lt (unpackMantissa b).isLt]
    rfl
  have hexponent : ((unpackExponent b).toNat : ℤ) - (Format.binary64.exponentBias +
      Format.binary64.mantissaBitsWithoutImplicit) = (unpackExponent b).toNat - 1075 := by
    omega
  delta UnpackedFloat.unpack
  dsimp only
  rw [if_neg hones, if_neg hzero, magnitude_finite, hleading, hexponent]

/-- The value of a subnormal number, read off its fields. -/
theorem magnitude_unpack_of_zero {b : BitVec Format.binary64.numBits}
    (hzero : unpackExponent b = 0#11) :
    magnitude (UnpackedFloat.unpack Format.binary64 b) =
      ((unpackMantissa b).toNat : ℚ) * 2 ^ (-1074 : ℤ) := by
  have hbias := exponentBias_eq
  have hwidth := mantissaBitsWithoutImplicit_eq
  have hones : unpackExponent b ≠ -1#11 := by
    rw [hzero]
    decide
  have hexponent : ((unpackExponent b).toNat : ℤ) - (Format.binary64.exponentBias +
      Format.binary64.mantissaBitsWithoutImplicit) + 1 = -1074 := by
    have hnone : (unpackExponent b).toNat = 0 := by
      rw [hzero]
      rfl
    omega
  delta UnpackedFloat.unpack
  dsimp only
  rw [if_neg hones, if_pos hzero]
  by_cases hnone : unpackMantissa b = 0#52
  · have hnothing : ((unpackMantissa b).toNat : ℚ) = 0 := by
      rw [hnone]
      rfl
    rw [dif_pos hnone, magnitude_zero, hnothing, zero_mul]
  · rw [dif_neg hnone, magnitude_finite, hexponent]

/-- Packing does not raise a number with an exponent that can be kept. -/
theorem magnitude_pack_le {s : Sign} {m : ℕ} {e : ℤ} {hm : 0 < m}
    (hfits : Fits 971 (.finite s m e hm)) (he : -1074 ≤ e) :
    magnitude (Float.Model.pack (.finite s m e hm)).unpack ≤ m * 2 ^ e := by
  obtain ⟨hsignificand, hexponent⟩ : m.log2 ≤ 52 ∧ e ≤ 971 := by
    cases hfits with
    | finite hsignificand hexponent => exact ⟨hsignificand, hexponent⟩
  have hless : m < 2 ^ 53 := (Nat.log2_lt (Nat.ne_of_gt hm)).1 (Nat.lt_succ_of_le hsignificand)
  have hbias := exponentBias_eq
  have hwidth := mantissaBitsWithoutImplicit_eq
  have hfield : (e + Format.binary64.exponentBias +
      Format.binary64.mantissaBitsWithoutImplicit).toNat = (e + 1075).toNat := by omega
  change magnitude (UnpackedFloat.unpack Format.binary64
    (UnpackedFloat.pack Format.binary64 (.finite s m e hm))) ≤ m * 2 ^ e
  delta UnpackedFloat.pack
  dsimp only
  rw [hfield, if_neg (by omega)]
  by_cases hnormal : m.log2 + 1 = Format.binary64.mantissaBits
  · have hleading : 2 ^ 52 ≤ m := by
      have hlog : m.log2 = 52 := Nat.succ.inj hnormal
      exact (Nat.le_log2 (Nat.ne_of_gt hm)).1 (Nat.le_of_eq hlog.symm)
    have htoNat : (BitVec.ofNat 11 (e + 1075).toNat).toNat = (e + 1075).toNat :=
      toNat_exponentField (by omega)
    have hones : BitVec.ofNat 11 (e + 1075).toNat ≠ -1#11 := by
      intro hones
      rw [hones] at htoNat
      have hall : (-1#11 : BitVec 11).toNat = 2047 := rfl
      omega
    have hzero : BitVec.ofNat 11 (e + 1075).toNat ≠ 0#11 := by
      intro hzero
      rw [hzero] at htoNat
      have hnone : (0#11 : BitVec 11).toNat = 0 := rfl
      omega
    have hsignificand : 2 ^ 52 + (BitVec.ofNat 52 m).toNat = m := by
      rw [BitVec.toNat_ofNat]
      omega
    have hkept : ((e + 1075).toNat : ℤ) - 1075 = e := by omega
    rw [if_pos hnormal, magnitude_unpack]
    · rw [unpackMantissa_packComponents, unpackExponent_packComponents]
      change ((2 ^ 52 + (BitVec.ofNat 52 m).toNat : ℕ) : ℚ) *
        2 ^ ((BitVec.ofNat 11 (e + 1075).toNat).toNat - 1075 : ℤ) ≤ m * 2 ^ e
      rw [htoNat, hkept, hsignificand]
    · rw [unpackExponent_packComponents]
      exact hones
    · rw [unpackExponent_packComponents]
      exact hzero
  · rw [if_neg hnormal, magnitude_unpack_of_zero unpackExponent_packComponents,
      unpackMantissa_packComponents]
    apply mul_le_mul
    · exact Nat.cast_le.2 (BitVec.toNat_ofNat .. ▸ Nat.mod_le _ _)
    · exact zpow_le_zpow_right₀ (by norm_num) he
    · exact zpow_nonneg (by norm_num) _
    · exact Nat.cast_nonneg m

/-- What is rounded at an exponent stays within the bound after packing. -/
theorem magnitude_packed_le {m t : ℕ} {e f : ℤ} (hf : roundedExponent m e = f)
    (hm : 2 * m < (2 * t + 1) * 2 ^ (f - e).toNat) (s : Sign)
    (hfits : Fits 971 (roundWithAccuracy Format.binary64 s m e .exact)) :
    magnitude (Float.Model.pack (roundWithAccuracy Format.binary64 s m e .exact)).unpack ≤
      t * 2 ^ f := by
  obtain ⟨hvalue, -, hleast⟩ := roundWithAccuracy_spec hf hm s
  generalize roundWithAccuracy Format.binary64 s m e .exact = u at hvalue hleast hfits
  cases hfits with
  | zero s =>
    have hzero : magnitude (Float.Model.pack (.zero s)).unpack = 0 := by
      cases s <;> decide +kernel
    rw [hzero]
    exact hvalue
  | @finite r n g hn hsignificand hexponent =>
    have hfinite : Fits 971 (.finite r n g hn) := .finite hsignificand hexponent
    have hpacked := magnitude_pack_le hfinite (hleast r n g hn rfl)
    exact le_trans hpacked hvalue

/-- Rounding adds at most one part in `2 ^ 52`. -/
theorem magnitude_round_le {m : ℕ} {e : ℤ} (hm : 52 ≤ m.log2) (he : -1074 ≤ e) (s : Sign)
    (hfits : Fits 971 (roundWithAccuracy Format.binary64 s m e .exact)) :
    magnitude (Float.Model.pack (roundWithAccuracy Format.binary64 s m e .exact)).unpack ≤
      m * 2 ^ e * (1 + 1 / 2 ^ 52) := by
  obtain ⟨shift, hshift⟩ := Nat.exists_eq_add_of_le hm
  have hexponent : roundedExponent m e = e + shift := by
    rw [roundedExponent]
    omega
  have hnearer : 2 * m < (2 * (m / 2 ^ shift + 1) + 1) * 2 ^ (e + shift - e).toNat := by
    have hdiv := Nat.lt_mul_div_succ m (Nat.two_pow_pos shift)
    have hdropped : (e + shift - e).toNat = shift := by omega
    rw [hdropped, Nat.add_mul, Nat.mul_assoc, Nat.mul_comm (m / 2 ^ shift + 1)]
    omega
  -- the significand has 53 bits, so one in its last place is no more than one part in `2 ^ 52`
  have hplace : ((m / 2 ^ shift + 1 : ℕ) : ℚ) * 2 ^ shift ≤ m * (1 + 1 / 2 ^ 52) := by
    have hdrop : ((m / 2 ^ shift : ℕ) : ℚ) * 2 ^ shift ≤ m := by
      exact_mod_cast Nat.div_mul_le_self m (2 ^ shift)
    have hleading : (2 : ℚ) ^ shift * 2 ^ 52 ≤ m := by
      rw [← pow_add, Nat.add_comm, ← hshift]
      exact_mod_cast Nat.log2_self_le (fun hzero => by
        rw [hzero, Nat.log2_zero] at hm
        omega)
    push_cast
    linarith
  refine le_trans (magnitude_packed_le hexponent hnearer s hfits) ?_
  calc ((m / 2 ^ shift + 1 : ℕ) : ℚ) * 2 ^ (e + shift)
      = (m / 2 ^ shift + 1 : ℕ) * 2 ^ shift * 2 ^ e := by
        rw [zpow_add₀ (by norm_num), zpow_natCast]
        ring
    _ ≤ m * (1 + 1 / 2 ^ 52) * 2 ^ e :=
        mul_le_mul_of_nonneg_right hplace (zpow_nonneg (by norm_num) e)
    _ = m * 2 ^ e * (1 + 1 / 2 ^ 52) := by ring

/-! ## Integers and powers of ten -/

/-- An integer of 64 bits is rounded from its exact value, with at least 53 bits. -/
theorem unpack_toFloat {n : UInt64} (hn : n.toNat ≠ 0) :
    n.toFloat.toModel.unpack =
      (Float.Model.pack (roundWithAccuracy Format.binary64 .positive
        (n.toNat <<< (52 - n.toNat.log2)) (-((52 - n.toNat.log2 : ℕ) : ℤ)) .exact)).unpack := by
  have hshift : (0 - max ((n.toNat.log2 : ℤ) + 0 - 52) (-1074)).toNat = 52 - n.toNat.log2 := by
    omega
  have hround : UnpackedFloat.ofInt Format.binary64 n.toNat =
      roundWithAccuracy Format.binary64 .positive (n.toNat <<< (52 - n.toNat.log2))
        (-((52 - n.toNat.log2 : ℕ) : ℤ)) .exact := by
    have hpos : compare (n.toNat : ℤ) 0 = .gt := Int.compare_eq_gt.2 (by omega)
    rw [UnpackedFloat.ofInt, UnpackedFloat.normalize, hpos]
    simp only [UnpackedFloat.round, targetExponent_eq, decreaseExponent, hshift, Int.toNat_natCast]
    rw [Int.zero_sub]
  rw [← hround]
  rfl

/-- The value that an integer is rounded from is the integer. -/
theorem fits_unpack_toFloat (n : UInt64) :
    Fits 971 (roundWithAccuracy Format.binary64 .positive (n.toNat <<< (52 - n.toNat.log2))
      (-((52 - n.toNat.log2 : ℕ) : ℤ)) .exact) := by
  apply fits_round_of_lt (by omega)
  rw [shiftLeft_mul]
  have hless : (n.toNat : ℚ) < 2 ^ 64 := by exact_mod_cast n.toNat_lt
  exact lt_trans hless (lt_of_lt_of_le (by norm_num : (2 : ℚ) ^ 64 < (2 ^ 54 - 1) * 2 ^ 11)
    (mul_le_mul_of_nonneg_left (pow_le_pow_right₀ (by norm_num) (by norm_num)) (by norm_num)))

/-- An integer of at most 53 bits is not rounded up. -/
theorem magnitude_toFloat_le {n : UInt64} (hn : n.toNat < 2 ^ 53) :
    magnitude n.toFloat.toModel.unpack ≤ n.toNat := by
  by_cases hzero : n.toNat = 0
  · have heq : n = 0 := UInt64.toNat_inj.1 hzero
    rw [heq]
    decide +kernel
  · have hlog : n.toNat.log2 ≤ 52 := Nat.le_of_lt_succ ((Nat.log2_lt hzero).2 hn)
    have hshifted := log2_shiftLeft_le n.toNat (52 - n.toNat.log2)
    have hexponent : roundedExponent (n.toNat <<< (52 - n.toNat.log2))
        (-((52 - n.toNat.log2 : ℕ) : ℤ)) = -((52 - n.toNat.log2 : ℕ) : ℤ) := by
      rw [roundedExponent]
      omega
    rw [unpack_toFloat hzero]
    refine le_trans (magnitude_packed_le (t := n.toNat <<< (52 - n.toNat.log2)) hexponent ?_
      .positive (fits_unpack_toFloat n)) (le_of_eq (shiftLeft_mul _ _))
    rw [Int.sub_self, Int.toNat_zero, Nat.pow_zero]
    omega

/-- An integer of 54 bits is rounded to an even one, which passes no other that is nearer. -/
theorem magnitude_toFloat_le_even {n : UInt64} {t : ℕ} (hlog : n.toNat.log2 = 53)
    (hn : n.toNat < 2 * t + 1) : magnitude n.toFloat.toModel.unpack ≤ t * 2 := by
  have hzero : n.toNat ≠ 0 := by
    intro hzero
    rw [hzero, Nat.log2_zero] at hlog
    cases hlog
  have hfits := fits_unpack_toFloat n
  have hround := unpack_toFloat hzero
  rw [hlog, Nat.sub_eq_zero_of_le (by decide), Nat.shiftLeft_zero, Nat.cast_zero, neg_zero]
    at hfits hround
  have hexponent : roundedExponent n.toNat 0 = 1 := by
    rw [roundedExponent, hlog]
    decide
  have hnearer : 2 * n.toNat < (2 * t + 1) * 2 ^ (1 - 0 : ℤ).toNat := by
    change 2 * n.toNat < (2 * t + 1) * 2
    omega
  rw [hround, ← zpow_one (2 : ℚ)]
  exact magnitude_packed_le hexponent hnearer .positive hfits

/-- An integer of 64 bits is rounded up by at most one part in `2 ^ 52`. -/
theorem magnitude_toFloat_le_mul (n : UInt64) :
    magnitude n.toFloat.toModel.unpack ≤ n.toNat * (1 + 1 / 2 ^ 52) := by
  by_cases hn : n.toNat < 2 ^ 53
  · refine le_trans (magnitude_toFloat_le hn) (le_mul_of_one_le_right (Nat.cast_nonneg _) ?_)
    norm_num
  · have hzero : n.toNat ≠ 0 := by omega
    have hlog : 53 ≤ n.toNat.log2 := (Nat.le_log2 hzero).2 (Nat.le_of_not_lt hn)
    have hnone : 52 - n.toNat.log2 = 0 := by omega
    have hfits := fits_unpack_toFloat n
    have hround := unpack_toFloat hzero
    rw [hnone, Nat.shiftLeft_zero] at hfits hround
    rw [hround]
    refine le_trans (magnitude_round_le (by omega) (by decide) .positive hfits) (le_of_eq ?_)
    norm_num

/-- The powers of ten that are finite numbers stay below the overflow, rounded up twice. -/
theorem tenTo_lt_overflow : (10 : ℚ) ^ 308 * (1 + 1 / 2 ^ 52) ^ 2 < overflow := by
  have hnat : 10 ^ 308 * (2 ^ 52 + 1) ^ 2 + 2 ^ 970 * (2 ^ 52) ^ 2 <
      2 ^ 54 * 2 ^ 970 * (2 ^ 52) ^ 2 := by decide +kernel
  have hcast : (10 : ℚ) ^ 308 * (2 ^ 52 + 1) ^ 2 + 2 ^ 970 * (2 ^ 52) ^ 2 <
      2 ^ 54 * 2 ^ 970 * (2 ^ 52) ^ 2 := by exact_mod_cast hnat
  rw [overflow, one_add_div (by norm_num), div_pow, ← mul_div_assoc, div_lt_iff₀ (by norm_num),
    sub_mul, one_mul, sub_mul]
  exact lt_sub_iff_add_lt.2 hcast

/-- A power of ten is rounded up by at most one part in `2 ^ 52`. -/
theorem magnitude_tenTo_le {power : ℕ} (hpower : power ≤ 308) :
    magnitude (Float.ofScientific 1 false power).toModel.unpack ≤
      10 ^ power * (1 + 1 / 2 ^ 52) := by
  by_cases hsmall : power ≤ 22
  · have hall : ∀ p ≤ 22,
        magnitude (Float.ofScientific 1 false p).toModel.unpack ≤ 10 ^ p := by decide +kernel
    exact le_trans (hall power hsmall) (le_mul_of_one_le_right (by positivity) (by norm_num))
  · have hvalue : ((1 <<< 53 * 10 ^ power : ℕ) : ℚ) * 2 ^ (-53 : ℤ) = 10 ^ power := by
      norm_num [Nat.one_shiftLeft]
      ring
    have hlog : 52 ≤ (1 <<< 53 * 10 ^ power).log2 := by
      have hpos : 0 < 10 ^ power := Nat.pow_pos (by decide)
      have hle : 2 ^ 52 ≤ 1 <<< 53 * 10 ^ power :=
        Nat.le_trans (by decide) (Nat.le_mul_of_pos_right (1 <<< 53) hpos)
      exact (Nat.le_log2 (by omega)).2 hle
    have hbelow : ((1 <<< 53 * 10 ^ power : ℕ) : ℚ) * 2 ^ (-53 : ℤ) < overflow := by
      rw [hvalue]
      refine lt_of_le_of_lt ?_ tenTo_lt_overflow
      calc (10 : ℚ) ^ power ≤ 10 ^ 308 := pow_le_pow_right₀ (by norm_num) hpower
        _ ≤ 10 ^ 308 * (1 + 1 / 2 ^ 52) ^ 2 :=
          le_mul_of_one_le_right (by positivity) (one_le_pow₀ (by norm_num))
    rw [unpack_tenTo (Nat.lt_of_not_le hsmall) hpower, Nat.pow_eq, ← hvalue]
    exact magnitude_round_le hlog (by decide) .positive
      (fits_round_of_lt (by decide) hbelow .positive)

/-! ## Products -/

/-- A product that stays below the overflow is finite, if one factor has all of its 53 bits. -/
theorem isFinite_mul_of_lt {x y : Float} {power : ℤ} (hx : x.isFinite = true)
    (hy : AtLeast power y.toModel.unpack)
    (hproduct : magnitude x.toModel.unpack * magnitude y.toModel.unpack < overflow) :
    (x * y).isFinite = true := by
  have hunpack : (x * y).toModel.unpack = (Float.Model.pack (UnpackedFloat.mul Format.binary64
      x.toModel.unpack y.toModel.unpack)).unpack := rfl
  suffices hfits : Fits 971
      (UnpackedFloat.mul Format.binary64 x.toModel.unpack y.toModel.unpack) by
    have hpacked := hfits.packed (Int.le_refl _)
    rw [← hunpack] at hpacked
    exact hpacked.isFinite
  have hfits := fits_of_isFinite hx
  generalize x.toModel.unpack = u at hfits hproduct ⊢
  generalize y.toModel.unpack = v at hy hproduct ⊢
  cases hy with
  | @finite t n f hn hsignificand _ =>
    cases hfits with
    | zero s => exact .zero _
    | @finite s m e hm _ _ =>
      have hvalue : ((m * n : ℕ) : ℚ) * 2 ^ (e + f) = m * 2 ^ e * (n * 2 ^ f) := by
        rw [Nat.cast_mul, zpow_add₀ (by norm_num)]
        ring
      have hbelow : ((m * n : ℕ) : ℚ) * 2 ^ (e + f) < overflow := hvalue ▸ hproduct
      have hexponent : e + f ≤ 971 := by
        have hlog : 52 ≤ (m * n).log2 :=
          (Nat.le_log2 (Nat.mul_pos hm hn).ne').2 (Nat.le_trans
            ((Nat.le_log2 (Nat.ne_of_gt hn)).1 hsignificand) (Nat.le_mul_of_pos_left n hm))
        have hpow := lt_trans
          (lt_of_le_of_lt (two_zpow_log2_le (Nat.mul_pos hm hn).ne' (e + f)) hbelow) overflow_lt
        have hless := (zpow_lt_zpow_iff_right₀ (by norm_num : (1 : ℚ) < 2)).1 hpow
        omega
      exact fits_round_of_lt hexponent hbelow (s * t)

/-- The greatest finite number. -/
def greatest : ℕ :=
  (2 ^ 53 - 1) * 2 ^ 971

section Scaling

variable {n : UInt64} {power : ℕ}

/-- An integer times a power of ten is finite if the bounds of both stay below the overflow. -/
theorem isFinite_mul_tenTo_of_lt {a b : ℚ} (hpower : power ≤ 308)
    (ha : magnitude n.toFloat.toModel.unpack ≤ a)
    (hb : magnitude (Float.ofScientific 1 false power).toModel.unpack ≤ b)
    (hab : a * b < overflow) :
    (n.toFloat * Float.ofScientific 1 false power).isFinite = true := by
  refine isFinite_mul_of_lt (isFinite_toFloat n) (atLeast_tenTo hpower) (lt_of_le_of_lt ?_ hab)
  exact mul_le_mul ha hb (magnitude_nonneg _) (le_trans (magnitude_nonneg _) ha)

/-- Products up to the greatest power of ten that is a finite number are finite. -/
theorem isFinite_mul_tenTo_of_le_tenTo (hpower : power ≤ 308)
    (hproduct : n.toNat * 10 ^ power ≤ 10 ^ 308) :
    (n.toFloat * Float.ofScientific 1 false power).isFinite = true := by
  refine isFinite_mul_tenTo_of_lt hpower (magnitude_toFloat_le_mul n) (magnitude_tenTo_le hpower)
    (lt_of_le_of_lt ?_ tenTo_lt_overflow)
  have hcast : (n.toNat : ℚ) * 10 ^ power ≤ 10 ^ 308 := by exact_mod_cast hproduct
  calc (n.toNat : ℚ) * (1 + 1 / 2 ^ 52) * (10 ^ power * (1 + 1 / 2 ^ 52))
      = n.toNat * 10 ^ power * (1 + 1 / 2 ^ 52) ^ 2 := by ring
    _ ≤ 10 ^ 308 * (1 + 1 / 2 ^ 52) ^ 2 := mul_le_mul_of_nonneg_right hcast (by positivity)

/-- Products with the power of ten that leaves seventeen digits of the greatest number are finite up
to that number. -/
theorem isFinite_mul_tenTo_of_seventeen (hproduct : n.toNat * 10 ^ 292 ≤ greatest) :
    (n.toFloat * Float.ofScientific 1 false 292).isFinite = true := by
  have htenTo : magnitude (Float.ofScientific 1 false 292).toModel.unpack ≤
      4512985939662074 * 2 ^ 918 := by decide +kernel
  have hle : n.toNat ≤ 17976931348623157 := by
    have hless : greatest < 17976931348623158 * 10 ^ 292 := by decide +kernel
    have hlt : n.toNat < 17976931348623158 :=
      lt_of_mul_lt_mul_right (lt_of_le_of_lt hproduct hless) (Nat.zero_le _)
    exact Nat.le_of_lt_succ hlt
  -- the greatest of them is halfway between two numbers and rounded down
  have hrounded : magnitude n.toFloat.toModel.unpack ≤ 17976931348623156 := by
    rcases Nat.lt_or_eq_of_le hle with hlt | heq
    · by_cases hsmall : n.toNat < 2 ^ 53
      · refine le_trans (magnitude_toFloat_le hsmall) ?_
        exact_mod_cast Nat.le_of_lt_succ hlt
      · have hzero : n.toNat ≠ 0 := by omega
        have hlog : n.toNat.log2 = 53 := (Nat.log2_eq_iff hzero).2 (by omega)
        have heven : n.toNat < 2 * 8988465674311578 + 1 := by omega
        exact le_trans (magnitude_toFloat_le_even hlog heven) (by norm_num)
    · have hgreatest : n = 17976931348623157 := UInt64.toNat_inj.1 heq
      rw [hgreatest]
      decide +kernel
  exact isFinite_mul_tenTo_of_lt (by decide) hrounded htenTo (by decide +kernel)

/-- Products of at most seventeen digits are finite up to the greatest number. -/
theorem isFinite_mul_tenTo_of_le_greatest (hpower : power ≤ 308) (hn : n.toNat ≤ 10 ^ 17)
    (hproduct : n.toNat * 10 ^ power ≤ greatest) :
    (n.toFloat * Float.ofScientific 1 false power).isFinite = true := by
  rcases Nat.lt_trichotomy power 292 with hless | rfl | hmore
  · apply isFinite_mul_tenTo_of_le_tenTo hpower
    calc n.toNat * 10 ^ power ≤ 10 ^ 17 * 10 ^ power := Nat.mul_le_mul_right _ hn
      _ = 10 ^ (17 + power) := (pow_add 10 17 power).symm
      _ ≤ 10 ^ 308 := pow_le_pow_right₀ (by decide) (by omega)
  · exact isFinite_mul_tenTo_of_seventeen hproduct
  · obtain ⟨more, rfl⟩ := Nat.exists_eq_add_of_le hmore
    -- at most sixteen digits are left, so the integer is exact
    have hdigits : n.toNat * 10 ^ more ≤ 1797693134862315 := by
      have hless : greatest < 1797693134862316 * 10 ^ 293 := by decide +kernel
      have hsplit : n.toNat * 10 ^ (292 + 1 + more) = n.toNat * 10 ^ more * 10 ^ 293 := by
        rw [Nat.add_comm, pow_add, mul_assoc]
      rw [hsplit] at hproduct
      have hlt : n.toNat * 10 ^ more < 1797693134862316 :=
        lt_of_mul_lt_mul_right (lt_of_le_of_lt hproduct hless) (Nat.zero_le _)
      exact Nat.le_of_lt_succ hlt
    have hexact : n.toNat < 2 ^ 53 := by
      have hle := Nat.le_mul_of_pos_right n.toNat (Nat.pow_pos (by decide) : 0 < 10 ^ more)
      omega
    refine isFinite_mul_tenTo_of_lt hpower (magnitude_toFloat_le hexact) (magnitude_tenTo_le hpower)
      ?_
    have hcast : (n.toNat : ℚ) * 10 ^ more ≤ 1797693134862315 := by exact_mod_cast hdigits
    calc (n.toNat : ℚ) * (10 ^ (292 + 1 + more) * (1 + 1 / 2 ^ 52))
        = n.toNat * 10 ^ more * (10 ^ 293 * (1 + 1 / 2 ^ 52)) := by
          rw [Nat.add_comm, pow_add, mul_assoc, ← mul_assoc]
      _ ≤ 1797693134862315 * (10 ^ 293 * (1 + 1 / 2 ^ 52)) :=
          mul_le_mul_of_nonneg_right hcast (by positivity)
      _ < overflow := by decide +kernel

end Scaling

end Finite

end Gamebook
