import Gamebook.Proofs.Decimal.Shortest
import Gamebook.Proofs.Json.Numeral

/-!
# Numerals that are read as finite numbers

A numeral with a fraction or a power of ten is read by scaling a significand of 64 bits.  The digits
that do not fit are dropped, so what is scaled stands for no more than all digits do; a numeral that
stands for at most the greatest power of ten is never refused as too large, nor is one of at most
seventeen digits up to the greatest number.

Main results:

- Definition `Numeral.Parts.text`: the parts of a numeral as they are written.
- Theorem `Numeral.scanParts_text`: the parts are read as they are written.
- Theorem `Numeral.isSome_scaled`: which significands are scaled to finite numbers.
- Theorem `Numeral.Parts.exists_value_eq_real`: which numerals are read as finite numbers.
-/

namespace Gamebook

namespace Json

namespace Numeral

/-! ## Written parts -/

namespace Parts

/-- A fraction as it is written. -/
def fractionText : Option (List Char) → List Char
  | none => []
  | some digits => '.' :: digits

/-- A power of ten as it is written, with its sign. -/
def powerText : Option (Bool × List Char) → List Char
  | none => []
  | some (negative, digits) => 'e' :: (if negative then '-' else '+') :: digits

/-- The parts of a numeral as they are written. -/
def text (parts : Parts) : List Char :=
  (if parts.negative then ['-'] else []) ++
    (parts.integral ++ (fractionText parts.fraction ++ powerText parts.power))

end Parts

/-- Digits, at least one. -/
structure AreDigits (digits : List Char) : Prop where
  ne_nil : digits ≠ []
  isDigit : ∀ c ∈ digits, c.isDigit = true

/-- All parts have digits, and none stands behind a leading zero. -/
structure Parts.IsWritten (parts : Parts) : Prop where
  integral : AreDigits parts.integral
  leadingZero : ∀ rest, parts.integral = '0' :: rest → rest = []
  fraction : ∀ digits ∈ parts.fraction, AreDigits digits
  power : ∀ power ∈ parts.power, AreDigits power.2

section Written

variable {rest : List Char}

/-- An integral part is read up to the next character that is no digit. -/
theorem scanIntegral_written {integral : List Char} (hintegral : AreDigits integral)
    (hzero : ∀ rest, integral = '0' :: rest → rest = [])
    (hrest : ∀ c ∈ rest.head?, c.isDigit = false) :
    scanIntegral (integral ++ rest) = some (integral, rest) := by
  rw [scanIntegral, Number.splitDigits_append_of_all hintegral.isDigit hrest]
  split
  · next heq => exact absurd (Prod.mk.inj heq).1 hintegral.ne_nil
  · next heq =>
    have hnil := hzero _ (Prod.mk.inj heq).1
    cases hnil
  · rfl

/-- A fraction is read up to the next character that is no digit. -/
theorem scanFraction_written {fraction : Option (List Char)}
    (hfraction : ∀ digits ∈ fraction, AreDigits digits)
    (hrest : ∀ c ∈ rest.head?, c.isDigit = false ∧ c ≠ '.') :
    scanFraction (Parts.fractionText fraction ++ rest) = some (fraction, rest) := by
  cases fraction with
  | none =>
    cases rest with
    | nil => rfl
    | cons c rest => exact scanFraction_of_ne (hrest c rfl).2 rest
  | some digits =>
    obtain ⟨hne, hdigits⟩ := hfraction digits rfl
    rw [Parts.fractionText, List.cons_append, scanFraction,
      Number.splitDigits_append_of_all hdigits fun c hc => (hrest c hc).1]
    cases digits with
    | nil => exact absurd rfl hne
    | cons c digits => rfl

/-- A power of ten is read as it is written. -/
theorem scanPower_written {power : Option (Bool × List Char)}
    (hpower : ∀ p ∈ power, AreDigits p.2) :
    scanPower (Parts.powerText power) = some (power, []) := by
  cases power with
  | none => rfl
  | some power =>
    obtain ⟨negative, digits⟩ := power
    obtain ⟨hne, hdigits⟩ := hpower _ rfl
    have hsign : Number.splitSign ((if negative then '-' else '+') :: digits) =
        (negative, digits) := by
      cases negative <;> rfl
    have hsplit : Number.splitDigits (digits ++ []) = (digits, []) :=
      Number.splitDigits_append_of_all hdigits fun _ hc => nomatch hc
    rw [List.append_nil] at hsplit
    rw [Parts.powerText, scanPower, if_pos (Or.inl rfl), hsign]
    dsimp only
    rw [hsplit]
    cases digits with
    | nil => exact absurd rfl hne
    | cons c digits => rfl

/-- A power of ten starts with no digit and no point. -/
theorem head?_powerText (power : Option (Bool × List Char)) :
    ∀ c ∈ (Parts.powerText power).head?, c.isDigit = false ∧ c ≠ '.' := by
  intro c hc
  cases power with
  | none => cases hc
  | some power =>
    cases hc
    decide

/-- What follows an integral part starts with no digit. -/
theorem head?_fractionText (fraction : Option (List Char)) (power : Option (Bool × List Char)) :
    ∀ c ∈ (Parts.fractionText fraction ++ Parts.powerText power).head?, c.isDigit = false := by
  intro c hc
  cases fraction with
  | none => exact (head?_powerText power c hc).1
  | some digits =>
    cases hc
    rfl

/-- The parts of a numeral are read as they are written. -/
theorem scanParts_text {parts : Parts} (hparts : parts.IsWritten) :
    scanParts parts.text = some (parts, []) := by
  have hminus : scanMinus parts.text = (parts.negative, parts.integral ++
      (Parts.fractionText parts.fraction ++ Parts.powerText parts.power)) := by
    rw [Parts.text]
    cases parts.negative with
    | true => rfl
    | false =>
      obtain ⟨c, digits, hdigits⟩ := List.exists_cons_of_ne_nil hparts.integral.ne_nil
      rw [hdigits]
      exact scanMinus_of_isDigit
        (hparts.integral.isDigit c (hdigits ▸ List.mem_cons_self)) _
  rw [scanParts, hminus]
  simp only [scanIntegral_written hparts.integral hparts.leadingZero (head?_fractionText _ _),
    scanFraction_written hparts.fraction (head?_powerText _), scanPower_written hparts.power,
    Option.bind_eq_bind, Option.bind_some]

end Written

/-! ## Values -/

/-- Digits that are appended to a number shift it to the left. -/
theorem mul_pow_le_foldl (digits : List Char) (n : ℕ) :
    n * 10 ^ digits.length ≤ digits.foldl Number.appendDigit n := by
  induction digits generalizing n with
  | nil => exact Nat.le_of_eq (Nat.mul_one n)
  | cons c digits ih =>
    calc n * 10 ^ (digits.length + 1) = 10 * n * 10 ^ digits.length := by ring
      _ ≤ Number.appendDigit n c * 10 ^ digits.length :=
        Nat.mul_le_mul_right _ (Nat.le_add_right _ _)
      _ ≤ digits.foldl Number.appendDigit (Number.appendDigit n c) := ih _

/-- The digits that fit the significand stand for no more than all digits. -/
theorem extend_mul_pow_le (digits : List Char) (n : ℕ) :
    (extend n digits).1 * 10 ^ (extend n digits).2.length ≤
      digits.foldl Number.appendDigit n := by
  induction digits generalizing n with
  | nil => exact Nat.le_of_eq (Nat.mul_one n)
  | cons c digits ih =>
    rw [extend]
    split
    · exact ih _
    · exact mul_pow_le_foldl (c :: digits) n

/-- Digits that are dropped count as a power of ten. -/
theorem mul_pow_le_of_dropped {significand dropped n p : ℕ} {e : ℤ}
    (hkept : significand * 10 ^ dropped ≤ n) (hp : (p : ℤ) = e + dropped) :
    ((significand * 10 ^ p : ℕ) : ℚ) ≤ n * 10 ^ e := by
  have hcast : (significand : ℚ) * 10 ^ dropped ≤ n := by exact_mod_cast hkept
  calc ((significand * 10 ^ p : ℕ) : ℚ) = significand * 10 ^ (p : ℤ) := by
        rw [zpow_natCast]
        push_cast
        rfl
    _ = significand * 10 ^ dropped * 10 ^ e := by
        rw [hp, zpow_add₀ (by norm_num), zpow_natCast]
        ring
    _ ≤ n * 10 ^ e := mul_le_mul_of_nonneg_right hcast (by positivity)

/-- Numbers up to the greatest one have powers of ten that are finite numbers. -/
theorem power_le_of_le_greatest {significand power : ℕ} (hne : significand ≠ 0)
    (hle : significand * 10 ^ power ≤ Finite.greatest) : power ≤ 308 := by
  have hless : Finite.greatest < 10 ^ 309 := by decide +kernel
  have hpower : 10 ^ power ≤ significand * 10 ^ power :=
    Nat.le_mul_of_pos_left _ (Nat.pos_of_ne_zero hne)
  apply Nat.le_of_lt_succ
  apply Nat.lt_of_not_le
  intro hlarge
  have hpow : 10 ^ 309 ≤ 10 ^ power := pow_le_pow_right₀ (by decide) hlarge
  exact not_lt.2 (le_trans hpow (le_trans hpower hle)) hless

/-- A finite number is not infinite. -/
theorem isInf_of_isFinite {x : Float} (hx : x.isFinite = true) : x.isInf = false := by
  change x.toModel.unpack.isFinite = true at hx
  change x.toModel.unpack.isInf = false
  cases hunpack : x.toModel.unpack with
  | infinity s => rw [hunpack] at hx; cases hx
  | _ => rfl

/-- A finite number is a number. -/
theorem isNaN_of_isFinite {x : Float} (hx : x.isFinite = true) : x.isNaN = false := by
  change x.toModel.unpack.isFinite = true at hx
  change x.toModel.unpack.isNaN = false
  cases hunpack : x.toModel.unpack with
  | notANumber => rw [hunpack] at hx; cases hx
  | _ => rfl

/-- A significand is scaled to a finite number if the product is at most the greatest power of ten,
or has at most seventeen digits and is at most the greatest number. -/
theorem isSome_scaled {significand : ℕ} {power : ℤ} (hsignificand : significand < UInt64.size)
    (hproduct : ∀ p : ℕ, power = p → significand * 10 ^ p ≤ 10 ^ 308 ∨
      significand ≤ 10 ^ 17 ∧ significand * 10 ^ p ≤ Finite.greatest) :
    (scaled significand power).isSome = true := by
  unfold scaled
  dsimp only
  split
  · rfl
  next hne =>
  split
  · rfl
  next hneg =>
  obtain ⟨p, rfl⟩ := Int.eq_ofNat_of_zero_le (Int.not_lt.1 hneg)
  have hproduct := hproduct p rfl
  have htoNat : significand.toUInt64.toNat = significand :=
    Nat.mod_eq_of_lt hsignificand
  have hpower : p ≤ 308 := by
    have hgreatest : 10 ^ 308 ≤ Finite.greatest := by decide +kernel
    rcases hproduct with hle | ⟨-, hle⟩
    · exact power_le_of_le_greatest hne (Nat.le_trans hle hgreatest)
    · exact power_le_of_le_greatest hne hle
  have hfinite : (significand.toUInt64.toFloat * tenTo p).isFinite = true := by
    rcases hproduct with hle | ⟨hdigits, hle⟩
    · exact Finite.isFinite_mul_tenTo_of_le_tenTo hpower (htoNat.symm ▸ hle)
    · exact Finite.isFinite_mul_tenTo_of_le_greatest hpower (htoNat.symm ▸ hdigits)
        (htoNat.symm ▸ hle)
  have hinf : ¬(significand.toUInt64.toFloat * tenTo (p : ℤ).natAbs).isInf = true := by
    rw [Int.natAbs_natCast, isInf_of_isFinite hfinite]
    exact Bool.false_ne_true
  rw [dif_neg (by omega), dif_neg hinf]
  rfl

namespace Parts

/-- All digits of a numeral. -/
def digits (parts : Parts) : List Char :=
  parts.integral ++ parts.fraction.getD []

/-- The number that the digits of a numeral stand for. -/
def magnitude (parts : Parts) : ℚ :=
  Number.natOfDigits parts.digits *
    10 ^ (powerOf parts.power - ((parts.fraction.getD []).length : ℤ))

/-- A numeral with a fraction or a power of ten is read as a finite number if it stands for at most
the greatest power of ten, or has at most seventeen digits and stands for at most the greatest
number. -/
theorem exists_value_eq_real {parts : Parts}
    (hreal : ¬(parts.fraction = none ∧ parts.power = none))
    (hintegral : Number.natOfDigits parts.integral < UInt64.size)
    (hbound : parts.magnitude ≤ 10 ^ 308 ∨ Number.natOfDigits parts.digits ≤ 10 ^ 17 ∧
      parts.magnitude ≤ Finite.greatest) :
    ∃ x hx, parts.value = .real x hx := by
  have hextend : extend 0 parts.integral = (Number.natOfDigits parts.integral, []) :=
    extend_of_lt hintegral
  have hall : (parts.fraction.getD []).foldl Number.appendDigit
      (Number.natOfDigits parts.integral) = Number.natOfDigits parts.digits := by
    rw [digits, Number.natOfDigits, Number.natOfDigits, List.foldl_append]
  have hkept := extend_mul_pow_le (parts.fraction.getD []) (Number.natOfDigits parts.integral)
  rw [hall] at hkept
  have hsignificand := extend_lt hintegral (parts.fraction.getD [])
  unfold value
  simp only [hextend]
  rw [dif_neg fun h => hreal ⟨h.1.1, h.1.2.1⟩]
  generalize extend (Number.natOfDigits parts.integral) (parts.fraction.getD []) = kept at *
  obtain ⟨significand, dropped⟩ := kept
  dsimp only at *
  generalize hpower : (([] : List Char).length : ℤ) -
    ((parts.fraction.getD []).length - dropped.length : ℤ) + powerOf parts.power = power
  have hscaled : (scaled significand power).isSome = true := by
    apply isSome_scaled hsignificand
    rintro p rfl
    have hmagnitude : ((significand * 10 ^ p : ℕ) : ℚ) ≤ parts.magnitude := by
      refine mul_pow_le_of_dropped hkept ?_
      rw [← hpower, List.length_nil]
      omega
    rcases hbound with hle | ⟨hdigits, hle⟩
    · exact Or.inl (by exact_mod_cast le_trans hmagnitude hle)
    · refine Or.inr ⟨?_, by exact_mod_cast le_trans hmagnitude hle⟩
      exact le_trans (Nat.le_mul_of_pos_right _ (Nat.pow_pos (by decide))) (le_trans hkept hdigits)
  obtain ⟨x, hx⟩ := Option.isSome_iff_exists.1 hscaled
  rw [hx]
  dsimp only
  split
  · exact ⟨-x.1, Finite.isFinite_neg x.2, rfl⟩
  · exact ⟨x.1, x.2, rfl⟩

end Parts

end Numeral

end Json

end Gamebook
