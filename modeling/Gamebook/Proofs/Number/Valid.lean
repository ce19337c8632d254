import Gamebook.Number.Finite
import Gamebook.Proofs.Number.Spelling

/-!
# Spellings stand for numbers

No accepted spelling is read as NaN, so that NaN tells the texts without a numeric reading from all
others.  Sums and products can be invalid where an operand is infinite; the readers add finite
numbers only, and multiply by numbers that are finite and not zero.

Main results:

- Theorems `Number.isNaN_add`, `Number.isNaN_mul`, `Number.isNaN_div` and `Number.isNaN_neg`: which
  operations do not give NaN.
- Theorem `Number.isNaN_toFloat`: no decimal is read as NaN.
- Theorem `Number.isNaN_of_spelled?`: no spelling is read as NaN.
-/

namespace Gamebook

namespace Number

open Gamebook.Finite Float.Model Float.Model.UnpackedFloat

/-! ## Operations -/

/-- Packing a valid number does not give an invalid one. -/
theorem isNaN_pack {u : UnpackedFloat} (hu : u.isNaN = false) :
    (Float.Model.pack u).unpack.isNaN = false := by
  cases u with
  | zero s => exact isNaN_pack_zero s
  | finite s m e hm => exact isNaN_pack_finite s m e hm
  | infinity s => cases s <;> decide
  | notANumber => cases hu

/-- Rounding does not give an invalid number. -/
theorem isNaN_roundWithAccuracy (s : Sign) (m : Nat) (e : Int) (accuracy : Accuracy) :
    (roundWithAccuracy Format.binary64 s m e accuracy).isNaN = false := by
  rw [roundWithAccuracy]
  generalize shiftToTargetExponent Format.binary64 m e accuracy = shifted
  dsimp only
  generalize shiftToTargetExponent Format.binary64 shifted.1.roundedMantissa shifted.2 .exact =
    shifted
  by_cases hzero : shifted.1.mantissa = 0
  · rw [dif_pos hzero]
    rfl
  · rw [dif_neg hzero]
    rfl

/-- Rounding a number with a sign does not give an invalid one. -/
theorem isNaN_normalize (m : Int) (e : Int) (s : Sign) :
    (UnpackedFloat.normalize Format.binary64 m e s).isNaN = false := by
  rw [UnpackedFloat.normalize]
  split
  · exact isNaN_roundWithAccuracy _ _ _ _
  · rfl
  · exact isNaN_roundWithAccuracy _ _ _ _

/-- Adding a finite number to one that is not NaN does not give NaN. -/
theorem isNaN_add {x y : Float} (hx : x.isNaN = false) (hy : y.isFinite = true) :
    (x + y).isNaN = false := by
  have hfits := fits_of_isFinite hy
  change x.toModel.unpack.isNaN = false at hx
  change (Float.Model.pack (UnpackedFloat.add Format.binary64 x.toModel.unpack
    y.toModel.unpack)).unpack.isNaN = false
  apply isNaN_pack
  generalize x.toModel.unpack = u at hx ⊢
  generalize y.toModel.unpack = v at hfits ⊢
  cases u with
  | notANumber => cases hx
  | infinity s => cases hfits <;> rfl
  | zero s =>
    cases hfits with
    | zero t => cases s <;> cases t <;> rfl
    | finite _ _ => rfl
  | finite s m e hm =>
    cases hfits with
    | zero t => rfl
    | finite _ _ => exact isNaN_normalize _ _ _

/-- Multiplying a number that is not NaN by a finite one that is not zero does not give NaN. -/
theorem isNaN_mul {power : Int} {x y : Float} (hx : x.isNaN = false)
    (hy : AtLeast power y.toModel.unpack) : (x * y).isNaN = false := by
  change x.toModel.unpack.isNaN = false at hx
  change (Float.Model.pack (UnpackedFloat.mul Format.binary64 x.toModel.unpack
    y.toModel.unpack)).unpack.isNaN = false
  apply isNaN_pack
  generalize x.toModel.unpack = u at hx ⊢
  generalize y.toModel.unpack = v at hy ⊢
  cases hy with
  | finite _ _ =>
    cases u with
    | notANumber => cases hx
    | infinity s => rfl
    | zero s => rfl
    | finite s m e hm => exact isNaN_roundWithAccuracy _ _ _ _

/-- Dividing a finite number by one that is not zero does not give NaN. -/
theorem isNaN_div {power : Int} {x y : Float} (hx : x.isFinite = true)
    (hy : AtLeast power y.toModel.unpack) : (x / y).isNaN = false := by
  have hfits := fits_of_isFinite hx
  change (Float.Model.pack (UnpackedFloat.div Format.binary64 x.toModel.unpack
    y.toModel.unpack)).unpack.isNaN = false
  apply isNaN_pack
  generalize x.toModel.unpack = u at hfits ⊢
  generalize y.toModel.unpack = v at hy ⊢
  cases hy with
  | finite _ _ =>
    cases hfits with
    | zero s => rfl
    | finite _ _ => exact isNaN_roundWithAccuracy _ _ _ _

/-- Negation does not give NaN. -/
theorem isNaN_neg {x : Float} (hx : x.isNaN = false) : (-x).isNaN = false := by
  change x.toModel.unpack.isNaN = false at hx
  change (Float.Model.pack x.toModel.unpack.neg).unpack.isNaN = false
  apply isNaN_pack
  generalize x.toModel.unpack = u at hx ⊢
  cases u with
  | notANumber => cases hx
  | infinity s => rfl
  | zero s => rfl
  | finite s m e hm => rfl

/-- A finite number is not NaN. -/
theorem isNaN_of_isFinite {x : Float} (hx : x.isFinite = true) : x.isNaN = false := by
  have hfits := fits_of_isFinite hx
  change x.toModel.unpack.isNaN = false
  generalize x.toModel.unpack = u at hfits ⊢
  cases hfits <;> rfl

/-! ## Decimals -/

/-- The powers of ten that the library keeps are at least one. -/
theorem atLeast_powerOfTen {x : Float} (hx : x ∈ Float.exactlyRepresentablePowersOfTen) :
    AtLeast 0 x.toModel.unpack := by
  have hall : ∀ y ∈ Float.exactlyRepresentablePowersOfTen.toList,
      AtLeast 0 y.toModel.unpack := by decide +kernel
  exact hall x (Array.mem_toList_iff.2 hx)

/-- Rounding the value of a decimal does not give an invalid number. -/
theorem isNaN_unpacked_ofScientific (m : Nat) (e : Int) :
    (UnpackedFloat.ofScientific Format.binary64 m e).isNaN = false := by
  rw [UnpackedFloat.ofScientific]
  by_cases hzero : m = 0
  · rw [dif_pos hzero]
    rfl
  rw [dif_neg hzero]
  by_cases hhigh : e > 2 ^ Format.binary64.exponentBits
  · rw [if_pos hhigh]
    rfl
  rw [if_neg hhigh]
  by_cases hlow : e < -(2 ^ Format.binary64.exponentBits + m.log2)
  · rw [if_pos hlow]
    rfl
  rw [if_neg hlow]
  by_cases hnonneg : 0 ≤ e
  · rw [if_pos hnonneg]
    exact isNaN_roundWithAccuracy _ _ _ _
  · rw [if_neg hnonneg]
    exact isNaN_roundWithAccuracy _ _ _ _

/-- No decimal of the library is NaN. -/
theorem isNaN_ofScientific (m : Nat) (negative : Bool) (e : Nat) :
    (Float.ofScientific m negative e).isNaN = false := by
  unfold Float.ofScientific
  split
  · next hsmall =>
    have hten := atLeast_powerOfTen (Array.getElem_mem (Nat.lt_succ_of_le hsmall.2))
    have hfinite := isFinite_toFloat m.toUInt64
    split
    · exact isNaN_div hfinite hten
    · exact isNaN_mul (isNaN_of_isFinite hfinite) hten
  · exact isNaN_pack (isNaN_unpacked_ofScientific m _)

/-- No decimal is read as NaN. -/
theorem isNaN_toFloat (d : Decimal) : d.toFloat.isNaN = false := by
  unfold Decimal.toFloat
  dsimp only
  split
  · decide +kernel
  split
  · decide +kernel
  · exact isNaN_ofScientific _ _ _

/-! ## Spellings -/

/-- The radices are finite numbers that are not zero. -/
theorem atLeast_base (r : Radix) : AtLeast 0 (Float.ofNat r.base).toModel.unpack := by
  cases r <;> decide +kernel

/-- The values of digits are finite numbers. -/
theorem isFinite_ofNat {d : Nat} (hd : d < 16) : (Float.ofNat d).isFinite = true := by
  revert d
  decide +kernel

/-- A digit has a value below the radix. -/
theorem lt_of_digitValue? {radix d : Nat} {c : Char} (hvalue : digitValue? radix c = some d) :
    d < radix := by
  rw [digitValue?, Option.filter_eq_some_iff] at hvalue
  exact of_decide_eq_true hvalue.2

/-- Appending digits to a number does not give NaN. -/
theorem isNaN_foldl (r : Radix) {values : List Nat} (hvalues : ∀ d ∈ values, d < r.base) {x : Float}
    (hx : x.isNaN = false) :
    (values.foldl (fun value d => value * Float.ofNat r.base + Float.ofNat d) x).isNaN = false := by
  induction values generalizing x with
  | nil => exact hx
  | cons d rest ih =>
    rw [List.forall_mem_cons] at hvalues
    have hbase : r.base ≤ 16 := by cases r <;> decide
    have hd : (Float.ofNat d).isFinite = true :=
      isFinite_ofNat (Nat.lt_of_lt_of_le hvalues.1 hbase)
    rw [List.foldl_cons]
    exact ih hvalues.2 (isNaN_add (isNaN_mul hx (atLeast_base r)) hd)

/-- No digits of a radix are read as NaN. -/
theorem isNaN_of_inRadix? {r : Radix} {ds : List Char} {x : Float}
    (hread : inRadix? r.base ds = some x) : x.isNaN = false := by
  unfold inRadix? at hread
  split at hread
  · cases hread
  · rcases Option.map_eq_some_iff.1 hread with ⟨values, hvalues, rfl⟩
    have hlt : ∀ d ∈ values, d < r.base :=
      forall_of_mapM_eq_some (fun _ _ => lt_of_digitValue?) hvalues
    exact isNaN_foldl r hlt (by decide +kernel)

/-- No decimal with a sign is read as NaN. -/
theorem isNaN_of_decimal? {cs : List Char} {x : Float} (hread : decimal? cs = some x) :
    x.isNaN = false := by
  simp only [decimal?] at hread
  split at hread
  · cases hread
  · rcases Option.map_eq_some_iff.1 hread with ⟨power, -, rfl⟩
    split
    · exact isNaN_neg (isNaN_toFloat _)
    · exact isNaN_toFloat _

/-- No spelling is read as NaN. -/
theorem isNaN_of_spelled? {cs : List Char} {x : Float} (hread : spelled? cs = some x) :
    x.isNaN = false := by
  by_cases hempty : cs = []
  · subst hempty
    cases hread
    decide +kernel
  by_cases hmarked : IsMarked cs
  · rcases hmarked with ⟨r, mark, ds, hmark, rfl⟩
    rw [spelled?_of_mark hmark] at hread
    exact isNaN_of_inRadix? hread
  rw [spelled?_of_not_isMarked hempty hmarked] at hread
  split at hread
  · cases hread
    cases (splitSign cs).1 <;> decide +kernel
  · exact isNaN_of_decimal? hread

end Number

end Gamebook
