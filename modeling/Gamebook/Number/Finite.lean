/-!
# Finite numbers

Which operations on numbers give finite results.  A number of 64 bits is unpacked into a significand
of at most 53 bits and an exponent of two; it is finite as long as the exponent stays within its
range, so all bounds here are bounds on the exponent.

Main results:

- Definition `Finite.Fits`: a number whose exponent is bounded.
- Theorem `Finite.fits_roundWithAccuracy`: rounding keeps the bound, up to one.
- Theorem `Finite.fits_toFloat`: integers of 64 bits are finite numbers.
- Theorems `Finite.isFinite_neg`, `Finite.isFinite_mul` and `Finite.fits_div`: negation,
  multiplication and division.
- Theorem `Finite.beq_self`: a finite number is equal to itself.
-/

namespace Gamebook

namespace Finite

open Float.Model Float.Model.UnpackedFloat

/-! ## Bits -/

/-- A number of some bits has its leading bit below them. -/
theorem log2_toNat_le {w : Nat} (x : BitVec (w + 1)) : x.toNat.log2 ≤ w := by
  by_cases hzero : x.toNat = 0
  · rw [hzero, Nat.log2_zero]
    exact Nat.zero_le w
  · exact Nat.le_of_lt_succ ((Nat.log2_lt hzero).2 x.isLt)

/-- A number with a leading bit above the lowest one is not zero. -/
theorem ne_zero_of_lt_log2 {m bits : Nat} (hm : bits < m.log2) : m ≠ 0 := by
  intro hzero
  rw [hzero, Nat.log2_zero] at hm
  exact Nat.not_lt_zero bits hm

/-- Shifting a number adds no more bits than it is shifted by. -/
theorem log2_shiftLeft_le (n shift : Nat) : (n <<< shift).log2 ≤ n.log2 + shift := by
  by_cases hzero : n = 0
  · rw [hzero, Nat.zero_shiftLeft, Nat.log2_zero]
    exact Nat.zero_le _
  · have hpos : n <<< shift ≠ 0 := by
      rw [Nat.shiftLeft_eq]
      exact Nat.mul_ne_zero hzero (Nat.ne_of_gt (Nat.two_pow_pos _))
    apply Nat.le_of_lt_succ
    apply (Nat.log2_lt hpos).2
    have hpow : 2 ^ (n.log2 + shift).succ = 2 ^ (n.log2 + 1) * 2 ^ shift := by
      rw [← Nat.pow_add]
      congr 1
      omega
    rw [Nat.shiftLeft_eq, hpow]
    exact Nat.mul_lt_mul_of_pos_right Nat.lt_log2_self (Nat.two_pow_pos _)

/-- A quotient has no more bits than those that the dividend has beyond the divisor. -/
theorem log2_div_le {m n : Nat} (hn : 0 < n) : (m / n).log2 ≤ m.log2 - n.log2 := by
  by_cases hzero : m / n = 0
  · rw [hzero, Nat.log2_zero]
    exact Nat.zero_le _
  · apply Nat.le_of_lt_succ
    apply (Nat.log2_lt hzero).2
    have hmul : m / n * 2 ^ n.log2 ≤ m :=
      Nat.le_trans (Nat.mul_le_mul_left _ (Nat.log2_self_le (Nat.ne_of_gt hn)))
        (Nat.div_mul_le_self _ _)
    have hpow : 2 ^ (m.log2 + 1) ≤ 2 ^ (m.log2 - n.log2).succ * 2 ^ n.log2 := by
      rw [← Nat.pow_add]
      exact Nat.pow_le_pow_right (by decide) (by omega)
    have hless : m < 2 ^ (m.log2 - n.log2).succ * 2 ^ n.log2 :=
      Nat.lt_of_lt_of_le Nat.lt_log2_self hpow
    exact Nat.lt_of_mul_lt_mul_right (Nat.lt_of_le_of_lt hmul hless)

/-- Multiplying by a power of two adds its bits. -/
theorem log2_shiftLeft_mul_lt {n shift bits : Nat} (hn : n ≠ 0) (hbits : n.log2 < bits) :
    (1 <<< shift * n).log2 < shift + bits := by
  have hne : 2 ^ shift * n ≠ 0 := Nat.mul_ne_zero (Nat.ne_of_gt (Nat.two_pow_pos shift)) hn
  rw [Nat.one_shiftLeft, Nat.log2_lt hne, Nat.pow_add]
  exact Nat.mul_lt_mul_of_pos_left ((Nat.log2_lt hn).1 hbits) (Nat.two_pow_pos shift)

/-! ## Bounds on exponents -/

/-- The number is finite, with a significand of at most 53 bits and an exponent up to a bound. -/
inductive Fits (bound : Int) : UnpackedFloat → Prop
  | zero (s : Sign) : Fits bound (.zero s)
  | finite {s : Sign} {m : Nat} {e : Int} {hm : 0 < m} (hsignificand : m.log2 ≤ 52)
      (hexponent : e ≤ bound) : Fits bound (.finite s m e hm)

/-- A bound may be raised. -/
theorem Fits.mono {bound limit : Int} {u : UnpackedFloat} (hfits : Fits bound u)
    (hle : bound ≤ limit) : Fits limit u := by
  cases hfits with
  | zero s => exact .zero s
  | finite hsignificand hexponent =>
    exact .finite hsignificand (Int.le_trans hexponent hle)

/-! ## Packing -/

theorem exponentBias_eq : (Format.binary64.exponentBias : Int) = 1023 := by decide

theorem mantissaBitsWithoutImplicit_eq :
    (Format.binary64.mantissaBitsWithoutImplicit : Int) = 52 :=
  rfl

/-- An exponent field holds an exponent that is small enough. -/
theorem toNat_exponentField {n : Nat} (hn : n ≤ 2046) : (BitVec.ofNat 11 n).toNat = n := by
  rw [BitVec.toNat_ofNat, Nat.mod_eq_of_lt (by omega)]

/-- A number whose exponent field is not all ones is finite, and its exponent is bounded by the
field. -/
theorem fits_unpack {b : BitVec Format.binary64.numBits} (hb : unpackExponent b ≠ -1#11) :
    Fits (max ((unpackExponent b).toNat - 1075) (-1074))
      (UnpackedFloat.unpack Format.binary64 b) := by
  have hfraction : (unpackMantissa b).toNat.log2 ≤ 51 := log2_toNat_le (unpackMantissa b)
  have hnormal : (1#1 ++ unpackMantissa b).toNat.log2 ≤ 52 :=
    log2_toNat_le (w := 52) (1#1 ++ unpackMantissa b)
  have hbias := exponentBias_eq
  have hwidth := mantissaBitsWithoutImplicit_eq
  delta UnpackedFloat.unpack
  dsimp only
  rw [if_neg hb]
  by_cases hzero : unpackExponent b = 0#11
  · rw [if_pos hzero]
    by_cases hnone : unpackMantissa b = 0#52
    · rw [dif_pos hnone]
      exact .zero _
    · rw [dif_neg hnone]
      refine .finite (Nat.le_succ_of_le hfraction) ?_
      rw [hzero, BitVec.toNat_ofNat]
      omega
  · rw [if_neg hzero]
    exact .finite hnormal (by omega)

/-- The exponent field of a number that fits the finite ones is not all ones, and holds its
exponent or nothing. -/
theorem unpackExponent_pack {bound : Int} {u : UnpackedFloat} (hfits : Fits bound u)
    (hbound : bound ≤ 971) :
    unpackExponent (UnpackedFloat.pack Format.binary64 u) ≠ -1#11 ∧
      ((unpackExponent (UnpackedFloat.pack Format.binary64 u)).toNat : Int) - 1075 ≤
        max bound (-1074) := by
  have hbias : ∀ e : Int, e + Format.binary64.exponentBias +
      Format.binary64.mantissaBitsWithoutImplicit = e + 1075 := by
    intro e
    have hbias := exponentBias_eq
    have hwidth := mantissaBitsWithoutImplicit_eq
    omega
  cases hfits with
  | zero s =>
    change unpackExponent (packComponents Format.binary64 s 0 0) ≠ -1#11 ∧
      ((unpackExponent (packComponents Format.binary64 s 0 0)).toNat : Int) - 1075 ≤
        max bound (-1074)
    rw [unpackExponent_packComponents]
    refine ⟨by decide, ?_⟩
    change ((0 : Nat) : Int) - 1075 ≤ max bound (-1074)
    omega
  | @finite s m e hm _ he =>
    delta UnpackedFloat.pack
    dsimp only
    simp only [hbias]
    rw [if_neg (by omega)]
    split
    · rw [unpackExponent_packComponents]
      have htoNat : (BitVec.ofNat 11 (e + 1075).toNat).toNat = (e + 1075).toNat :=
        toNat_exponentField (by omega)
      refine ⟨fun hones => ?_, ?_⟩
      · have hones' := congrArg BitVec.toNat hones
        rw [htoNat] at hones'
        simp at hones'
        omega
      · rw [htoNat]
        omega
    · rw [unpackExponent_packComponents]
      refine ⟨by decide, ?_⟩
      change ((0 : Nat) : Int) - 1075 ≤ max bound (-1074)
      omega

/-- A number that fits the finite ones still fits after packing. -/
theorem Fits.packed {bound : Int} {u : UnpackedFloat} (hfits : Fits bound u)
    (hbound : bound ≤ 971) : Fits (max bound (-1074)) (Float.Model.pack u).unpack := by
  obtain ⟨hones, hexponent⟩ := unpackExponent_pack hfits hbound
  exact (fits_unpack hones).mono (by omega)

/-- What fits is finite. -/
theorem Fits.isFinite {bound : Int} {x : Float} (hfits : Fits bound x.toModel.unpack) :
    x.isFinite = true := by
  change x.toModel.unpack.isFinite = true
  generalize x.toModel.unpack = u at hfits ⊢
  cases hfits with
  | zero s => rfl
  | finite _ _ => rfl

/-- The exponent field of a finite number is not all ones. -/
theorem unpackExponent_of_isFinite {b : BitVec Format.binary64.numBits}
    (hb : (UnpackedFloat.unpack Format.binary64 b).isFinite = true) :
    unpackExponent b ≠ -1#11 ∧ (unpackExponent b).toNat ≤ 2046 := by
  have hones : unpackExponent b ≠ -1#11 := by
    intro hones
    delta UnpackedFloat.unpack at hb
    dsimp only at hb
    rw [if_pos hones] at hb
    split at hb <;> cases hb
  have hlt : (unpackExponent b).toNat < 2 ^ 11 := (unpackExponent b).isLt
  have hne : (unpackExponent b).toNat ≠ 2047 := fun heq => hones (BitVec.eq_of_toNat_eq heq)
  exact ⟨hones, by omega⟩

/-- A finite number fits the greatest exponent. -/
theorem fits_of_isFinite {x : Float} (hx : x.isFinite = true) : Fits 971 x.toModel.unpack := by
  obtain ⟨hones, hfield⟩ := unpackExponent_of_isFinite (b := x.toModel.toBits.toBitVec) hx
  exact (fits_unpack hones).mono (by omega)

/-! ## Rounding -/

/-- Shifting drops the last bits of a significand. -/
theorem mantissa_shift (em : ExtendedMantissa) (shift : Nat) :
    (em >>> shift).mantissa = em.mantissa >>> shift := by
  induction shift with
  | zero => rfl
  | succ shift ih =>
    have hone : (em >>> (shift + 1)).mantissa = (em >>> shift).mantissa / 2 := rfl
    rw [hone, ih, Nat.shiftRight_succ]

/-- An accuracy does not change the significand that it is kept with. -/
theorem mantissa_ofMantissaAndAccuracy (m : Nat) (accuracy : Accuracy) :
    (ExtendedMantissa.ofMantissaAndAccuracy m accuracy).mantissa = m := by
  rcases accuracy with _ | (_ | _ | _) <;> rfl

/-- Rounding a significand adds at most one to it. -/
theorem roundedMantissa_bounds (em : ExtendedMantissa) :
    em.mantissa ≤ em.roundedMantissa ∧ em.roundedMantissa ≤ em.mantissa + 1 := by
  obtain ⟨m, _ | _, _ | _⟩ := em <;>
    simp only [ExtendedMantissa.roundedMantissa, ExtendedMantissa.accuracy,
      Accuracy.roundToNearestEven] <;> omega

/-- The exponent that is aimed at keeps 53 bits, unless it would be too small. -/
theorem targetExponent_of (total : Int) :
    Format.binary64.targetExponent total = max (total - 53) (-1074) := by
  have hwidth : (Format.binary64.mantissaBits : Int) = 53 := rfl
  have hleast : Format.binary64.minExponent = -1074 := rfl
  rw [Format.targetExponent, hwidth, hleast]

/-- The exponent that a significand and an exponent are shifted to. -/
theorem targetExponent_eq (m : Nat) (e : Int) :
    Format.binary64.targetExponent (totalExponent m e) = max (m.log2 + e - 52) (-1074) := by
  rw [targetExponent_of, totalExponent]
  congr 1
  omega

/-- Shifting leaves at most 53 bits, and raises the exponent no further than it must. -/
theorem shiftToTargetExponent_spec (m : Nat) (e : Int) (accuracy : Accuracy) :
    (shiftToTargetExponent Format.binary64 m e accuracy).1.mantissa.log2 ≤ 52 ∧
      (shiftToTargetExponent Format.binary64 m e accuracy).2 =
        max e (max (m.log2 + e - 52) (-1074)) := by
  rw [shiftToTargetExponent, shiftToExponent, targetExponent_eq]
  constructor
  · rw [mantissa_shift, mantissa_ofMantissaAndAccuracy]
    generalize hshift : (max (m.log2 + e - 52) (-1074) - e).toNat = shift
    by_cases hzero : m >>> shift = 0
    · rw [hzero, Nat.log2_zero]
      exact Nat.zero_le 52
    · apply Nat.le_of_lt_succ
      rw [Nat.log2_lt hzero, Nat.shiftRight_eq_div_pow, Nat.div_lt_iff_lt_mul (Nat.two_pow_pos _),
        ← Nat.pow_add]
      exact Nat.lt_of_lt_of_le Nat.lt_log2_self (Nat.pow_le_pow_right (by decide) (by omega))
  · simp only
    omega

/-- Rounding raises the exponent no further than the significand needs, up to one. -/
theorem fits_roundWithAccuracy {m : Nat} {e : Int} (bound : Int) (hexponent : e ≤ bound)
    (hsignificand : (m.log2 : Int) + e ≤ bound + 52) (hbound : -1074 ≤ bound) (s : Sign)
    (accuracy : Accuracy) :
    Fits (bound + 1) (roundWithAccuracy Format.binary64 s m e accuracy) := by
  obtain ⟨hfirst, hexponent₁⟩ := shiftToTargetExponent_spec m e accuracy
  rw [roundWithAccuracy]
  generalize shiftToTargetExponent Format.binary64 m e accuracy = shifted at hfirst hexponent₁
  obtain ⟨em, e₁⟩ := shifted
  obtain ⟨-, hrounded⟩ := roundedMantissa_bounds em
  dsimp only at hfirst hexponent₁ ⊢
  obtain ⟨hsecond, hexponent₂⟩ :=
    shiftToTargetExponent_spec em.roundedMantissa e₁ .exact
  generalize shiftToTargetExponent Format.binary64 em.roundedMantissa e₁ .exact = shifted
    at hsecond hexponent₂
  have hlog : em.roundedMantissa.log2 ≤ 53 := by
    have hbits : em.mantissa < 2 ^ 53 :=
      Nat.lt_of_lt_of_le Nat.lt_log2_self
        (Nat.pow_le_pow_right (by decide) (Nat.succ_le_succ hfirst))
    by_cases hzero : em.roundedMantissa = 0
    · rw [hzero, Nat.log2_zero]
      exact Nat.zero_le 53
    · apply Nat.le_of_lt_succ
      rw [Nat.log2_lt hzero]
      omega
  by_cases hzero : shifted.1.mantissa = 0
  · rw [dif_pos hzero]
    exact .zero s
  · rw [dif_neg hzero]
    exact .finite hsecond (by omega)

/-! ## Integers -/

/-- A natural number of 64 bits is rounded to a number with a small exponent. -/
theorem fits_round {n : Nat} (hn : n.log2 ≤ 63) (s : Sign) :
    Fits 12 (UnpackedFloat.round Format.binary64 s n 0) := by
  rw [UnpackedFloat.round, targetExponent_eq, decreaseExponent]
  generalize hshift : (0 - max ((n.log2 : Int) + 0 - 52) (-1074)).toNat = shift
  have hshifted := log2_shiftLeft_le n shift
  exact fits_roundWithAccuracy 11 (by omega) (by omega) (by decide) s .exact

/-- An integer of 64 bits is a finite number with a small exponent. -/
theorem fits_toFloat (n : UInt64) : Fits 12 n.toFloat.toModel.unpack := by
  have hfits : Fits 12 (UnpackedFloat.ofInt Format.binary64 n.toNat) := by
    have hn : n.toNat.log2 ≤ 63 := log2_toNat_le n.toBitVec
    rw [UnpackedFloat.ofInt, UnpackedFloat.normalize]
    split
    · next hneg => exact absurd (Int.compare_eq_lt.1 hneg) (by omega)
    · exact .zero _
    · exact fits_round hn .positive
  exact hfits.packed (by decide)

/-- An integer of 64 bits is a finite number. -/
theorem isFinite_toFloat (n : UInt64) : n.toFloat.isFinite = true :=
  (fits_toFloat n).isFinite

/-! ## Signs -/

/-- The negative of a finite number is finite. -/
theorem isFinite_neg {x : Float} (hx : x.isFinite = true) : (-x).isFinite = true := by
  have hfits : Fits 971 x.toModel.unpack.neg := by
    have hfits := fits_of_isFinite hx
    generalize x.toModel.unpack = u at hfits ⊢
    cases hfits with
    | zero s => exact .zero _
    | finite hsignificand hexponent => exact .finite hsignificand hexponent
  exact (hfits.packed (Int.le_refl _)).isFinite

/-! ## Multiplying -/

/-- A number whose exponent field is all ones only where its fraction is zero is not an invalid
one. -/
theorem isNaN_unpack {b : BitVec Format.binary64.numBits}
    (hb : unpackExponent b = -1#11 → unpackMantissa b = 0#52) :
    (UnpackedFloat.unpack Format.binary64 b).isNaN = false := by
  delta UnpackedFloat.unpack
  dsimp only
  by_cases hones : unpackExponent b = -1#11
  · rw [if_pos hones, if_pos (hb hones)]
    rfl
  rw [if_neg hones]
  by_cases hzero : unpackExponent b = 0#11
  · rw [if_pos hzero]
    by_cases hnone : unpackMantissa b = 0#52
    · rw [dif_pos hnone]
      rfl
    · rw [dif_neg hnone]
      rfl
  · rw [if_neg hzero]
    rfl

/-- Packing a zero does not give an invalid number. -/
theorem isNaN_pack_zero (s : Sign) : (Float.Model.pack (.zero s)).unpack.isNaN = false := by
  cases s <;> decide

/-- Packing a finite number does not give an invalid one. -/
theorem isNaN_pack_finite (s : Sign) (m : Nat) (e : Int) (hm : 0 < m) :
    (Float.Model.pack (.finite s m e hm)).unpack.isNaN = false := by
  apply isNaN_unpack
  intro hones
  change unpackExponent (UnpackedFloat.pack Format.binary64 (.finite s m e hm)) = -1#11 at hones
  change unpackMantissa (UnpackedFloat.pack Format.binary64 (.finite s m e hm)) = 0#52
  delta UnpackedFloat.pack at hones ⊢
  dsimp only at hones ⊢
  split at hones
  · next hover =>
    rw [if_pos hover]
    exact unpackMantissa_packComponents
  · next hover =>
    split at hones
    · rw [unpackExponent_packComponents] at hones
      have hfield := congrArg BitVec.toNat hones
      rw [BitVec.toNat_ofNat, Nat.mod_eq_of_lt (by omega)] at hfield
      exact (hover (Nat.le_of_eq (congrArg Nat.succ hfield).symm)).elim
    · rw [unpackExponent_packComponents] at hones
      cases hones

/-- Packing a rounded number does not give an invalid one. -/
theorem isNaN_pack_roundWithAccuracy (s : Sign) (m : Nat) (e : Int) (accuracy : Accuracy) :
    (Float.Model.pack (roundWithAccuracy Format.binary64 s m e accuracy)).unpack.isNaN =
      false := by
  rw [roundWithAccuracy]
  generalize shiftToTargetExponent Format.binary64 m e accuracy = shifted
  obtain ⟨em, e₁⟩ := shifted
  dsimp only
  generalize shiftToTargetExponent Format.binary64 em.roundedMantissa e₁ .exact = shifted
  by_cases hzero : shifted.1.mantissa = 0
  · rw [dif_pos hzero]
    exact isNaN_pack_zero s
  · rw [dif_neg hzero]
    exact isNaN_pack_finite s _ _ _

/-- A product of finite numbers is finite, or else infinite. -/
theorem isFinite_mul {x y : Float} (hx : x.isFinite = true) (hy : y.isFinite = true)
    (hinf : (x * y).isInf = false) : (x * y).isFinite = true := by
  have hunpack : (x * y).toModel.unpack = (Float.Model.pack (UnpackedFloat.mul Format.binary64
      x.toModel.unpack y.toModel.unpack)).unpack := rfl
  have hnan : (x * y).toModel.unpack.isNaN = false := by
    have hfitsx := fits_of_isFinite hx
    have hfitsy := fits_of_isFinite hy
    rw [hunpack]
    generalize x.toModel.unpack = u at hfitsx ⊢
    generalize y.toModel.unpack = v at hfitsy ⊢
    cases hfitsx with
    | zero s =>
      cases hfitsy with
      | zero t => exact isNaN_pack_zero _
      | finite _ _ => exact isNaN_pack_zero _
    | finite _ _ =>
      cases hfitsy with
      | zero t => exact isNaN_pack_zero _
      | finite _ _ =>
        exact isNaN_pack_roundWithAccuracy _ _ _ _
  change (x * y).toModel.unpack.isInf = false at hinf
  change (x * y).toModel.unpack.isFinite = true
  cases hproduct : (x * y).toModel.unpack with
  | zero => rfl
  | finite => rfl
  | infinity => rw [hproduct] at hinf; cases hinf
  | notANumber => rw [hproduct] at hnan; cases hnan

/-! ## Dividing -/

/-- The number has a significand of 53 bits and is at least a power of two. -/
inductive AtLeast (power : Int) : UnpackedFloat → Prop
  | finite {s : Sign} {m : Nat} {e : Int} {hm : 0 < m} (hsignificand : 52 ≤ m.log2)
      (hexponent : power ≤ e + 52) : AtLeast power (.finite s m e hm)

/-- Being at least a power of two is being at least a smaller one. -/
theorem AtLeast.mono {power less : Int} {u : UnpackedFloat} (hatLeast : AtLeast power u)
    (hle : less ≤ power) : AtLeast less u := by
  cases hatLeast with
  | finite hsignificand hexponent => exact .finite hsignificand (Int.le_trans hle hexponent)

/-- A quotient has an exponent that is smaller by as much as the divisor is great. -/
theorem fits_div {bound power : Int} (limit : Int) {u v : UnpackedFloat} (hu : Fits bound u)
    (hv : AtLeast power v) (hlimit : bound - power ≤ limit) (hleast : -1074 ≤ limit) :
    Fits (limit + 1) (UnpackedFloat.div Format.binary64 u v) := by
  cases hv with
  | @finite t n f hn hsignificand hpower =>
    cases hu with
    | zero s => exact .zero _
    | @finite s m e hm hm52 hbound =>
      have hdiv : UnpackedFloat.div Format.binary64 (.finite s m e hm) (.finite t n f hn) =
          roundWithAccuracy Format.binary64 (s / t) (divCore Format.binary64 m e n f).1
            (divCore Format.binary64 m e n f).2.1 (divCore Format.binary64 m e n f).2.2 :=
        rfl
      rw [hdiv, divCore]
      rw [targetExponent_of]
      have htotal : totalExponent m e - totalExponent n f - 53 =
          m.log2 + e - (n.log2 + f) - 53 := by
        rw [totalExponent, totalExponent]
        omega
      rw [htotal]
      generalize hexponent :
        min (e - f) (max (m.log2 + e - (n.log2 + f) - 53) (-1074)) = exponent
      generalize hshift : (e - f - exponent).toNat = shift
      have hquotient : (m <<< shift / n).log2 ≤ m.log2 + shift - n.log2 :=
        Nat.le_trans (log2_div_le hn) (Nat.sub_le_sub_right (log2_shiftLeft_le m shift) _)
      dsimp only
      exact fits_roundWithAccuracy limit (by omega) (by omega) hleast _ _

/-! ## Powers of ten -/

/-- A number whose exponent field is neither all ones nor all zeros is at least the power of two
that the field stands for. -/
theorem atLeast_unpack {b : BitVec Format.binary64.numBits} (hones : unpackExponent b ≠ -1#11)
    (hzero : unpackExponent b ≠ 0#11) :
    AtLeast ((unpackExponent b).toNat - 1023) (UnpackedFloat.unpack Format.binary64 b) := by
  have hbias := exponentBias_eq
  have hwidth := mantissaBitsWithoutImplicit_eq
  have hleading : 2 ^ 52 ≤ (1#1 ++ unpackMantissa b).toNat := by
    rw [BitVec.toNat_append]
    exact Nat.left_le_or
  have hlog : 52 ≤ (1#1 ++ unpackMantissa b).toNat.log2 :=
    (Nat.le_log2 (Nat.ne_of_gt (Nat.lt_of_lt_of_le (by decide) hleading))).2 hleading
  delta UnpackedFloat.unpack
  dsimp only
  rw [if_neg hones, if_neg hzero]
  exact .finite hlog (by omega)

/-- A number that is at least a power of two still is after packing. -/
theorem AtLeast.packed {power : Int} {u : UnpackedFloat} (hatLeast : AtLeast power u)
    (hfits : Fits 971 u) (hpower : 0 ≤ power) : AtLeast power (Float.Model.pack u).unpack := by
  cases hatLeast with
  | @finite s m e hm hsignificand hexponent =>
    cases hfits with
    | finite hm52 he =>
    have hlog : m.log2 + 1 = Format.binary64.mantissaBits :=
      congrArg Nat.succ (Nat.le_antisymm hm52 hsignificand)
    have hbias := exponentBias_eq
    have hwidth := mantissaBitsWithoutImplicit_eq
    have hfield : (e + Format.binary64.exponentBias +
        Format.binary64.mantissaBitsWithoutImplicit).toNat = (e + 1075).toNat := by omega
    have hpack : UnpackedFloat.pack Format.binary64 (.finite s m e hm) =
        packComponents Format.binary64 s (BitVec.ofNat 11 (e + 1075).toNat)
          (BitVec.ofNat 52 m) := by
      delta UnpackedFloat.pack
      dsimp only
      rw [hfield, if_neg (by omega), if_pos hlog]
    have htoNat : (BitVec.ofNat 11 (e + 1075).toNat).toNat = (e + 1075).toNat :=
      toNat_exponentField (by omega)
    have hones : BitVec.ofNat 11 (e + 1075).toNat ≠ -1#11 := by
      intro hones
      rw [hones] at htoNat
      have hall : (-1#11 : BitVec 11).toNat = 2047 := rfl
      omega
    have hzero : BitVec.ofNat 11 (e + 1075).toNat ≠ 0#11 := by
      intro hzero
      rw [hzero] at htoNat
      have hnone : (0#11 : BitVec 11).toNat = 0 := rfl
      omega
    change AtLeast power (UnpackedFloat.unpack Format.binary64
      (UnpackedFloat.pack Format.binary64 (.finite s m e hm)))
    have hexponentField : unpackExponent (packComponents Format.binary64 s
        (BitVec.ofNat 11 (e + 1075).toNat) (BitVec.ofNat 52 m)) =
          BitVec.ofNat 11 (e + 1075).toNat :=
      unpackExponent_packComponents
    rw [hpack]
    rw [← hexponentField] at htoNat hones hzero
    exact (atLeast_unpack hones hzero).mono (by omega)

/-- Shifting a number of more than 53 bits leaves exactly so many. -/
theorem shiftToTargetExponent_of_le_log2 {m : Nat} {e : Int} (hm : 52 ≤ m.log2) (he : -1074 ≤ e)
    (accuracy : Accuracy) :
    52 ≤ (shiftToTargetExponent Format.binary64 m e accuracy).1.mantissa.log2 ∧
      (shiftToTargetExponent Format.binary64 m e accuracy).2 = m.log2 + e - 52 := by
  have hne : m ≠ 0 := ne_zero_of_lt_log2 hm
  rw [shiftToTargetExponent, shiftToExponent, targetExponent_eq]
  constructor
  · rw [mantissa_shift, mantissa_ofMantissaAndAccuracy]
    generalize hshift : (max (m.log2 + e - 52) (-1074) - e).toNat = shift
    have hleading : 2 ^ 52 ≤ m >>> shift := by
      rw [Nat.shiftRight_eq_div_pow, Nat.le_div_iff_mul_le (Nat.two_pow_pos _), ← Nat.pow_add]
      exact Nat.le_trans (Nat.pow_le_pow_right (by decide) (by omega)) (Nat.log2_self_le hne)
    exact (Nat.le_log2 (Nat.ne_of_gt (Nat.lt_of_lt_of_le (by decide) hleading))).2 hleading
  · simp only
    omega

/-- Rounding a number of more than 53 bits does not make it less than its leading bit. -/
theorem atLeast_roundWithAccuracy {m : Nat} {e : Int} (hm : 52 ≤ m.log2) (he : -1074 ≤ e)
    (s : Sign) (accuracy : Accuracy) :
    AtLeast (m.log2 + e) (roundWithAccuracy Format.binary64 s m e accuracy) := by
  obtain ⟨hfirst, hexponent₁⟩ := shiftToTargetExponent_of_le_log2 hm he accuracy
  rw [roundWithAccuracy]
  generalize shiftToTargetExponent Format.binary64 m e accuracy = shifted at hfirst hexponent₁
  obtain ⟨em, e₁⟩ := shifted
  obtain ⟨hrounded, -⟩ := roundedMantissa_bounds em
  dsimp only at hfirst hexponent₁ ⊢
  have hlog : 52 ≤ em.roundedMantissa.log2 := by
    have hne := ne_zero_of_lt_log2 hfirst
    have hle : 2 ^ 52 ≤ em.roundedMantissa := Nat.le_trans ((Nat.le_log2 hne).1 hfirst) hrounded
    exact (Nat.le_log2 (by omega)).2 hle
  obtain ⟨hsecond, hexponent₂⟩ :=
    shiftToTargetExponent_of_le_log2 (e := e₁) hlog (by omega) .exact
  rw [dif_neg (ne_zero_of_lt_log2 hsecond)]
  exact .finite hsecond (by omega)

/-- A number that is at least a power of two is finite. -/
theorem AtLeast.isFinite {power : Int} {x : Float} (hatLeast : AtLeast power x.toModel.unpack) :
    x.isFinite = true := by
  change x.toModel.unpack.isFinite = true
  generalize x.toModel.unpack = u at hatLeast ⊢
  cases hatLeast with
  | finite _ _ => rfl

instance (power : Int) (u : UnpackedFloat) : Decidable (AtLeast power u) :=
  match u with
  | .finite _ m e _ =>
    decidable_of_iff (52 ≤ m.log2 ∧ power ≤ e + 52)
      ⟨fun h => .finite h.1 h.2, fun | .finite hm he => ⟨hm, he⟩⟩
  | .zero _ => isFalse nofun
  | .infinity _ => isFalse nofun
  | .notANumber => isFalse nofun

/-- The greatest power of ten that is a finite number is at least two. -/
theorem atLeast_tenTo_greatest {power : Nat} (hpower : power ∈ [308]) :
    AtLeast 1 (Float.ofScientific 1 false power).toModel.unpack := by
  revert power
  decide +kernel

/-- A power of ten beyond the first ones is the rounding of its exact value. -/
theorem unpack_tenTo {power : Nat} (hlarge : 22 < power) (hpower : power ≤ 308) :
    (Float.ofScientific 1 false power).toModel.unpack =
      (Float.Model.pack (roundWithAccuracy Format.binary64 .positive (1 <<< 53 * Nat.pow 10 power)
        (-53) .exact)).unpack := by
  have hscientific : UnpackedFloat.ofScientific Format.binary64 1 (Int.ofNat power) =
      roundWithAccuracy Format.binary64 .positive (1 <<< 53 * Nat.pow 10 power) (-53) .exact := by
    have hhigh : ¬(Int.ofNat power > 2 ^ Format.binary64.exponentBits) := by
      change ¬((power : Int) > 2048)
      omega
    have hlow : ¬(Int.ofNat power <
        -((2 ^ Format.binary64.exponentBits : Int) + (1 : Nat).log2)) := by
      change ¬((power : Int) < -2048)
      omega
    have hnonneg : 0 ≤ Int.ofNat power := Int.natCast_nonneg power
    rw [UnpackedFloat.ofScientific, dif_neg (by decide), if_neg hhigh, if_neg hlow,
      if_pos hnonneg]
    rfl
  rw [← hscientific, Float.ofScientific, dif_neg (by omega)]
  rfl

/-- The powers of ten up to the greatest that is a finite number are at least one. -/
theorem atLeast_tenTo {power : Nat} (hpower : power ≤ 308) :
    AtLeast 0 (Float.ofScientific 1 false power).toModel.unpack := by
  by_cases hgreatest : power = 308
  · exact (atLeast_tenTo_greatest (List.mem_singleton.2 hgreatest)).mono (by decide)
  by_cases hsmall : power ≤ 22
  · have hall : ∀ p ≤ 22, AtLeast 0 (Float.ofScientific 1 false p).toModel.unpack := by
      decide +kernel
    exact hall power hsmall
  -- the other powers are the roundings of their exact values
  let m := 1 <<< 53 * 10 ^ power
  have hround : (Float.ofScientific 1 false power).toModel.unpack =
      (Float.Model.pack (roundWithAccuracy Format.binary64 .positive m (-53) .exact)).unpack :=
    unpack_tenTo (Nat.lt_of_not_le hsmall) hpower
  have hpos : 10 ^ power ≠ 0 := Nat.ne_of_gt (Nat.pow_pos (by decide))
  have hten : (10 ^ power).log2 < 1020 :=
    (Nat.log2_lt hpos).2
      (Nat.lt_of_le_of_lt (Nat.pow_le_pow_right (by decide) (by omega : power ≤ 307))
        (by decide +kernel))
  have hlow : 2 ^ 53 ≤ m := Nat.le_mul_of_pos_right _ (Nat.pow_pos (by decide))
  have hne : m ≠ 0 := by omega
  have hlowlog : 53 ≤ m.log2 := (Nat.le_log2 hne).2 hlow
  have hhighlog : m.log2 < 53 + 1020 := log2_shiftLeft_mul_lt hpos hten
  rw [hround]
  have hatLeast := atLeast_roundWithAccuracy (m := m) (e := -53) (by omega) (by decide) .positive
    .exact
  have hfits := fits_roundWithAccuracy (m := m) (e := -53) 970 (by decide) (by omega)
    (by decide) .positive .exact
  exact (hatLeast.mono (by omega)).packed hfits (Int.le_refl _)

/-! ## Equality -/

/-- A finite number is equal to itself. -/
theorem beq_self {x : Float} (hx : x.isFinite = true) : (x == x) = true := by
  have hfits := fits_of_isFinite hx
  change (x.toModel.unpack.compare x.toModel.unpack == some .eq) = true
  generalize x.toModel.unpack = u at hfits ⊢
  cases hfits with
  | zero s => rfl
  | @finite s m e hm _ _ =>
    have hcompare : (compare e e).then (compare m m) = .eq := by
      rw [Int.compare_eq_eq.2 rfl, Nat.compare_eq_eq.2 rfl]
      rfl
    cases s with
    | positive =>
      change (some ((compare e e).then (compare m m)) == some .eq) = true
      rw [hcompare]
      rfl
    | negative =>
      change (some ((compare e e).then (compare m m)).swap == some .eq) = true
      rw [hcompare]
      rfl

end Finite

end Gamebook
