import Gamebook.Decimal.Shortest
import Gamebook.Proofs.Number.Rounding

/-!
# Bounds of shortest decimals

The decimal that is selected for a value lies among the reals that round to it, so it is hardly
greater than the value.  A decimal that is selected for a value beyond the greatest power of ten has
at most seventeen digits and does not pass the greatest finite number.

Main results:

- Definition `Decimal.value`: the number that a decimal stands for.
- Theorem `Decimal.Span.isSome_onGrid`: a grid that is finer than the interval is wide has a hit.
- Theorem `Decimal.Binary.selected`: what is selected was hit on a grid or is the value itself.
- Theorem `Decimal.Binary.shortest_bounds`: how great a selected decimal is.
- Theorem `Decimal.Binary.isFinite_ofBits`: finite numbers have such magnitudes.
-/

namespace Gamebook

namespace Decimal

/-- The number that a decimal stands for. -/
def value (d : Decimal) : ℚ :=
  d.digits * 10 ^ d.exponent

/-- A power with an integer exponent is a quotient of two with natural exponents. -/
theorem zpow_mul_pow_toNat {b : ℚ} (hb : b ≠ 0) (e : ℤ) :
    b ^ e * b ^ (-e).toNat = b ^ e.toNat := by
  rw [← zpow_natCast, ← zpow_natCast, ← zpow_add₀ hb]
  congr 1
  omega

/-! ## Trailing zeros -/

/-- A decimal without its trailing zeros is the same number, of no more digits. -/
theorem stripZeros_spec (d : Decimal) (hd : 0 < d.digits) :
    0 < d.stripZeros.digits ∧ d.stripZeros.digits ≤ d.digits ∧ d.stripZeros.value = d.value := by
  fun_induction stripZeros d with
  | case1 d hzero ih =>
    have htens : 0 < d.digits / 10 := by omega
    obtain ⟨hpos, hle, hvalue⟩ := ih htens
    refine ⟨hpos, Nat.le_trans hle (Nat.div_le_self _ _), hvalue.trans ?_⟩
    have hdigits : ((d.digits / 10 : ℕ) : ℚ) * 10 = d.digits := by
      exact_mod_cast Nat.div_mul_cancel (Nat.dvd_of_mod_eq_zero hzero.2)
    rw [value, value, ← hdigits, zpow_add_one₀ (by norm_num)]
    ring
  | case2 d _ => exact ⟨hd, Nat.le_refl _, rfl⟩

/-! ## Intervals -/

namespace Span

/-- A whole number has at most some digits exactly when it is below that power of ten. -/
theorem digitCount_le_iff {n k : ℕ} (hk : 0 < k) : digitCount n ≤ k ↔ n < 10 ^ k :=
  Nat.length_toDigits_le_iff (by decide) hk

/-- A whole number is less than the power of ten above its leading digit. -/
theorem lt_pow_digitCount (n : ℕ) : n < 10 ^ digitCount n :=
  (digitCount_le_iff (List.length_pos_iff.2 Nat.toDigits_ne_nil)).1 le_rfl

variable {s : Span} {d : Decimal} {tie : Tie} {place : ℤ}

/-- A decimal of an interval is between its ends. -/
theorem le_of_contains (hd : s.contains d = true) :
    s.low * 10 ^ (-d.exponent).toNat ≤ d.digits * 10 ^ d.exponent.toNat * s.den ∧
      d.digits * 10 ^ d.exponent.toNat * s.den ≤ s.high * 10 ^ (-d.exponent).toNat := by
  unfold contains at hd
  split at hd
  · rw [Bool.and_eq_true, decide_eq_true_eq, decide_eq_true_eq] at hd
    exact hd
  · rw [Bool.and_eq_true, decide_eq_true_eq, decide_eq_true_eq] at hd
    exact ⟨Nat.le_of_lt hd.1, Nat.le_of_lt hd.2⟩

/-- What is strictly between the ends of an interval is a decimal of it. -/
theorem contains_of_lt
    (hlow : s.low * 10 ^ (-d.exponent).toNat < d.digits * 10 ^ d.exponent.toNat * s.den)
    (hhigh : d.digits * 10 ^ d.exponent.toNat * s.den < s.high * 10 ^ (-d.exponent).toNat) :
    s.contains d = true := by
  unfold contains
  split
  · rw [Bool.and_eq_true, decide_eq_true_eq, decide_eq_true_eq]
    exact ⟨Nat.le_of_lt hlow, Nat.le_of_lt hhigh⟩
  · rw [Bool.and_eq_true, decide_eq_true_eq, decide_eq_true_eq]
    exact ⟨hlow, hhigh⟩

/-- A decimal of an interval of positive numbers is positive. -/
theorem digits_pos_of_contains (hlow : 0 < s.low) (hd : s.contains d = true) : 0 < d.digits := by
  apply Nat.pos_of_ne_zero
  intro hzero
  have hle := (le_of_contains hd).1
  rw [hzero, Nat.zero_mul, Nat.zero_mul] at hle
  exact Nat.not_lt.2 hle (Nat.mul_pos hlow (Nat.pow_pos (by decide)))

/-- A decimal of an interval is at most its upper end. -/
theorem value_mul_den_le (hd : s.contains d = true) : d.value * s.den ≤ s.high := by
  have hle : (d.digits : ℚ) * 10 ^ d.exponent.toNat * s.den ≤
      s.high * 10 ^ (-d.exponent).toNat := by exact_mod_cast (le_of_contains hd).2
  have hscale : (0 : ℚ) < 10 ^ (-d.exponent).toNat := by positivity
  rw [← zpow_mul_pow_toNat (by norm_num : (10 : ℚ) ≠ 0)] at hle
  refine le_of_mul_le_mul_right ?_ hscale
  calc d.value * s.den * 10 ^ (-d.exponent).toNat
      = d.digits * (10 ^ d.exponent * 10 ^ (-d.exponent).toNat) * s.den := by
        rw [value]
        ring
    _ ≤ s.high * 10 ^ (-d.exponent).toNat := hle

/-- What is hit on a grid is a decimal of the interval, one of the two that are next to the
value. -/
theorem onGrid_spec (hd : s.onGrid tie place = some d) :
    s.contains d = true ∧
      d.digits ≤ s.mid * 10 ^ (-place).toNat / (s.den * 10 ^ place.toNat) + 1 := by
  unfold onGrid at hd
  simp only at hd
  split at hd
  · next hbelow habove =>
    split at hd <;> cases hd
    · exact ⟨hbelow, Nat.le_succ _⟩
    · exact ⟨habove, Nat.le_refl _⟩
  · next hbelow habove =>
    cases hd
    exact ⟨hbelow, Nat.le_succ _⟩
  · next hbelow habove =>
    cases hd
    exact ⟨habove, Nat.le_refl _⟩
  · cases hd

/-- A grid of whole numbers that is finer than the interval is wide has a hit. -/
theorem isSome_onGrid (hlow : s.low < s.mid) (hhigh : s.mid < s.high) (hden : 0 < s.den)
    (hplace : 0 ≤ place) (hgap : s.low + s.den * 10 ^ place.toNat < s.high) :
    (s.onGrid tie place).isSome = true := by
  have hnone : (-place).toNat = 0 := by omega
  have hstep : 0 < s.den * 10 ^ place.toNat := Nat.mul_pos hden (Nat.pow_pos (by decide))
  have hdiv := Nat.div_add_mod s.mid (s.den * 10 ^ place.toNat)
  have hmod := Nat.mod_lt s.mid hstep
  unfold onGrid
  simp only [Nat.pow_eq, hnone, Nat.pow_zero, Nat.mul_one]
  generalize hq : s.mid / (s.den * 10 ^ place.toNat) = q at hdiv
  have hbelow : q * 10 ^ place.toNat * s.den = s.den * 10 ^ place.toNat * q := by ring
  have habove : (q + 1) * 10 ^ place.toNat * s.den =
      s.den * 10 ^ place.toNat * q + s.den * 10 ^ place.toNat := by ring
  split
  · rfl
  · rfl
  · rfl
  · next hnotBelow hnotAbove =>
    -- one of the neighbours of the value is nearer to it than the end on its side
    by_cases hnear : s.low < s.den * 10 ^ place.toNat * q
    · have hcontains : s.contains ⟨q, place⟩ = true := by
        apply contains_of_lt
        · simp only [hnone, Nat.pow_zero, Nat.mul_one, hbelow]
          exact hnear
        · simp only [hnone, Nat.pow_zero, Nat.mul_one, hbelow]
          omega
      rw [hcontains] at hnotBelow
      cases hnotBelow
    · have hcontains : s.contains ⟨q + 1, place⟩ = true := by
        apply contains_of_lt
        · simp only [hnone, Nat.pow_zero, Nat.mul_one, habove]
          omega
        · simp only [hnone, Nat.pow_zero, Nat.mul_one, habove]
          omega
      rw [hcontains] at hnotAbove
      cases hnotAbove

end Span

/-! ## Selected decimals -/

namespace Binary

variable {x : Binary} {tie : Tie}

/-- The magnitude of a finite number that is not zero.  Only below a power of two is the gap to the
next number narrower. -/
structure IsFinite (x : Binary) : Prop where
  pos : 0 < x.significand
  significand_lt : x.significand < 2 ^ 53
  exponent_le : x.exponent ≤ 971
  eq_of_narrowBelow : x.narrowBelow = true → x.significand = 2 ^ 52

/-- What is selected was hit on one of seventeen grids; where none was hit, it is the value
itself. -/
theorem selected (x : Binary) (tie : Tie) :
    ∃ d : Decimal, x.shortest tie = d.stripZeros ∧
      ((∃ n < 17, x.span.onGrid tie (x.span.leadingPlace - (n + 1 : ℕ)) = some d) ∨
        (∀ n < 17, x.span.onGrid tie (x.span.leadingPlace - (n + 1 : ℕ)) = none) ∧
          d = x.exact) := by
  refine ⟨_, rfl, ?_⟩
  cases hfound : (List.range 17).findSome? fun (n : ℕ) =>
      x.span.onGrid tie (x.span.leadingPlace - (n + 1)) with
  | some d =>
    obtain ⟨n, hn, hhit⟩ := List.exists_of_findSome?_eq_some hfound
    exact Or.inl ⟨n, List.mem_range.1 hn, hhit⟩
  | none =>
    have hnone := List.findSome?_eq_none_iff.1 hfound
    exact Or.inr ⟨fun n hn => hnone n (List.mem_range.2 hn), rfl⟩

/-- The upper end of the interval is half a significand above the value. -/
theorem high_eq (x : Binary) :
    (x.span.high : ℚ) = (x.significand + 1 / 2) * 2 ^ x.exponent * x.span.den := by
  have hscale := zpow_mul_pow_toNat (by norm_num : (2 : ℚ) ≠ 0) x.exponent
  simp only [span, Nat.pow_eq]
  push_cast
  rw [← hscale]
  ring

theorem den_pos (x : Binary) : 0 < x.span.den :=
  Nat.mul_pos (by decide) (Nat.pow_pos (by decide))

theorem low_pos (hx : x.IsFinite) : 0 < x.span.low := by
  refine Nat.mul_pos ?_ (Nat.pow_pos (by decide))
  have hpos := hx.pos
  split <;> omega

/-- A decimal that is hit is at most half a significand above the value. -/
theorem value_le_of_hit {d : Decimal} {place : ℤ} (hd : x.span.onGrid tie place = some d) :
    d.value ≤ (x.significand + 1 / 2) * 2 ^ x.exponent := by
  have hle := Span.value_mul_den_le (Span.onGrid_spec hd).1
  rw [high_eq] at hle
  exact le_of_mul_le_mul_right hle (by exact_mod_cast x.den_pos)

/-- The value itself is written exactly. -/
theorem value_exact (x : Binary) : x.exact.value = x.significand * 2 ^ x.exponent := by
  unfold exact
  split
  · next hexponent =>
    obtain ⟨n, hn⟩ := Int.eq_ofNat_of_zero_le hexponent
    rw [value, hn]
    simp
  · next hexponent =>
    obtain ⟨n, hn⟩ := Int.eq_ofNat_of_zero_le (show 0 ≤ -x.exponent by omega)
    have hneg : x.exponent = -(n : ℤ) := by omega
    rw [value, hneg]
    simp only [neg_neg, Int.toNat_natCast, Nat.pow_eq, zpow_neg, zpow_natCast]
    push_cast
    have hten : (10 : ℚ) ^ n = 2 ^ n * 5 ^ n := by
      rw [← mul_pow]
      norm_num
    rw [hten]
    field_simp

/-! ## Bounds -/

theorem digits_exact_pos (hx : x.IsFinite) : 0 < x.exact.digits := by
  unfold exact
  split <;> exact Nat.mul_pos hx.pos (Nat.pow_pos (by decide))

/-- What is selected is positive. -/
theorem digits_shortest_pos (hx : x.IsFinite) : 0 < (x.shortest tie).digits := by
  obtain ⟨d, hd, hselected⟩ := x.selected tie
  have hpos : 0 < d.digits := by
    rcases hselected with ⟨n, -, hhit⟩ | ⟨-, rfl⟩
    · exact Span.digits_pos_of_contains (low_pos hx) (Span.onGrid_spec hhit).1
    · exact digits_exact_pos hx
  rw [hd]
  exact (stripZeros_spec d hpos).1

/-- What is selected is at most half a significand above the value. -/
theorem value_shortest_le (hx : x.IsFinite) :
    (x.shortest tie).value ≤ (x.significand + 1 / 2) * 2 ^ x.exponent := by
  obtain ⟨d, hd, hselected⟩ := x.selected tie
  rcases hselected with ⟨n, -, hhit⟩ | ⟨-, rfl⟩
  · have hpos := Span.digits_pos_of_contains (low_pos hx) (Span.onGrid_spec hhit).1
    rw [hd, (stripZeros_spec d hpos).2.2]
    exact value_le_of_hit hhit
  · rw [hd, (stripZeros_spec _ (digits_exact_pos hx)).2.2, value_exact]
    exact mul_le_mul_of_nonneg_right (le_add_of_nonneg_right (by norm_num)) (by positivity)

/-! ## Whole numbers -/

/-- A value with an exponent that is not negative is a whole number. -/
def whole (x : Binary) : ℕ :=
  x.significand * 2 ^ x.exponent.toNat

/-- The interval of a whole number has whole ends, but for the denominator. -/
theorem span_of_whole (hx : x.IsFinite) (hexponent : 0 ≤ x.exponent) :
    x.span.den = 4 ∧ x.span.mid = 4 * x.whole ∧
      x.span.high = 4 * x.whole + 2 * 2 ^ x.exponent.toNat ∧
      (x.narrowBelow = false → x.span.low + 2 * 2 ^ x.exponent.toNat = 4 * x.whole) := by
  have hnone : (-x.exponent).toNat = 0 := by omega
  have hpos := hx.pos
  simp only [span, whole, hnone, Nat.pow_eq, Nat.pow_zero, Nat.mul_one, true_and]
  refine ⟨Nat.mul_assoc .., by rw [Nat.add_mul, Nat.mul_assoc], fun hwide => ?_⟩
  rw [if_neg (by rw [hwide]; exact Bool.false_ne_true), ← Nat.add_mul, ← Nat.mul_assoc]
  congr 1
  omega

/-- The leading digit of a whole number is counted from its end. -/
theorem leadingPlace_of_whole (hx : x.IsFinite) (hexponent : 0 ≤ x.exponent) :
    x.span.leadingPlace = Span.digitCount x.whole := by
  obtain ⟨hden, hmid, -, -⟩ := span_of_whole hx hexponent
  have hpos : 0 < x.whole := Nat.mul_pos hx.pos (Nat.pow_pos (by decide))
  rw [Span.leadingPlace, hden, hmid, if_pos (Nat.le_mul_of_pos_right 4 hpos),
    Nat.mul_div_cancel_left _ (by decide)]

/-- What is hit for a whole number of more than seventeen digits has at most seventeen. -/
theorem digits_le_of_hit (hx : x.IsFinite) (hexponent : 0 ≤ x.exponent)
    (hlarge : 10 ^ 17 ≤ x.whole) {d : Decimal} {n : ℕ} (hn : n < 17)
    (hd : x.span.onGrid tie (x.span.leadingPlace - (n + 1 : ℕ)) = some d) :
    d.digits ≤ 10 ^ 17 := by
  obtain ⟨hden, hmid, -, -⟩ := span_of_whole hx hexponent
  have hless := Span.lt_pow_digitCount x.whole
  have hcount : 17 < Span.digitCount x.whole :=
    Nat.lt_of_not_le fun hle => Nat.not_lt.2 hlarge ((Span.digitCount_le_iff (by decide)).1 hle)
  have hle := (Span.onGrid_spec hd).2
  rw [hden, hmid, leadingPlace_of_whole hx hexponent] at hle
  generalize Span.digitCount x.whole = count at hcount hless hle
  have hup : ((count : ℤ) - (n + 1 : ℕ)).toNat = count - (n + 1) := by omega
  have hdown : (-((count : ℤ) - (n + 1 : ℕ))).toNat = 0 := by omega
  rw [hup, hdown, Nat.pow_zero, Nat.mul_one, Nat.mul_div_mul_left _ _ (by decide)] at hle
  have hdiv : x.whole / 10 ^ (count - (n + 1)) < 10 ^ (n + 1) := by
    have hsum : n + 1 + (count - (n + 1)) = count := by omega
    rw [Nat.div_lt_iff_lt_mul (Nat.pow_pos (by decide)), ← Nat.pow_add, hsum]
    exact hless
  calc d.digits ≤ 10 ^ (n + 1) := Nat.le_trans hle hdiv
    _ ≤ 10 ^ 17 := Nat.pow_le_pow_right (by decide) hn

/-- A whole number is hit with seventeen digits if those are finer than the gaps between values. -/
theorem exists_hit (hx : x.IsFinite) (hwide : x.narrowBelow = false) (hexponent : 0 ≤ x.exponent)
    {places : ℕ} (hcount : Span.digitCount x.whole = places + 17)
    (hgap : 10 ^ places < 2 ^ x.exponent.toNat) :
    (x.span.onGrid tie (x.span.leadingPlace - (16 + 1 : ℕ))).isSome = true := by
  obtain ⟨hden, hmid, hhigh, hlow⟩ := span_of_whole hx hexponent
  have hlow := hlow hwide
  have hunit : 0 < 2 ^ x.exponent.toNat := Nat.pow_pos (by decide)
  have hplace : x.span.leadingPlace - (16 + 1 : ℕ) = places := by
    rw [leadingPlace_of_whole hx hexponent, hcount]
    omega
  rw [hplace]
  apply Span.isSome_onGrid
  · omega
  · omega
  · exact x.den_pos
  · exact Int.natCast_nonneg places
  · rw [hden, Int.toNat_natCast]
    omega

/-- A value beyond the greatest power of ten is hit with seventeen digits. -/
theorem exists_hit_of_greatest (hx : x.IsFinite) (hexponent : x.exponent = 971)
    (hlarge : 10 ^ 308 ≤ x.whole) :
    (x.span.onGrid tie (x.span.leadingPlace - (16 + 1 : ℕ))).isSome = true := by
  have hgap : 10 ^ 292 < 2 ^ x.exponent.toNat := by
    rw [hexponent]
    decide +kernel
  have hless : x.whole < 10 ^ (292 + 17) := by
    refine Nat.lt_of_lt_of_le (Nat.mul_lt_mul_of_pos_right hx.significand_lt
      (Nat.pow_pos (by decide))) ?_
    rw [hexponent]
    decide +kernel
  have hcount : Span.digitCount x.whole = 292 + 17 :=
    Nat.le_antisymm ((Span.digitCount_le_iff (by decide)).2 hless) (Nat.lt_of_not_le fun hle =>
      Nat.not_lt.2 hlarge ((Span.digitCount_le_iff (by decide)).1 hle))
  have hwide : x.narrowBelow = false := by
    apply Bool.eq_false_iff.2
    intro hnarrow
    rw [whole, hx.eq_of_narrowBelow hnarrow, hexponent] at hlarge
    exact absurd hlarge (by decide +kernel)
  exact exists_hit hx hwide (by omega) hcount hgap

/-- A decimal that is selected for a value with the greatest exponent has at most seventeen digits,
or is the value itself and less than the greatest power of ten. -/
theorem shortest_of_greatest (hx : x.IsFinite) (hexponent : x.exponent = 971) (tie : Tie) :
    (x.shortest tie).digits ≤ 10 ^ 17 ∨ (x.shortest tie).value ≤ 10 ^ 308 := by
  obtain ⟨d, hd, ⟨n, hn, hhit⟩ | ⟨hnone, rfl⟩⟩ := x.selected tie
  · have hlarge : 10 ^ 17 ≤ x.whole := by
      rw [whole, hexponent]
      exact Nat.le_trans (by decide +kernel : 10 ^ 17 ≤ 2 ^ (971 : ℤ).toNat)
        (Nat.le_mul_of_pos_left _ hx.pos)
    have hpos := Span.digits_pos_of_contains (low_pos hx) (Span.onGrid_spec hhit).1
    left
    rw [hd]
    exact Nat.le_trans (stripZeros_spec d hpos).2.1 (digits_le_of_hit hx (by omega) hlarge hn hhit)
  · have hless : x.whole < 10 ^ 308 := by
      apply Nat.lt_of_not_le
      intro hlarge
      have hhit : (x.span.onGrid tie (x.span.leadingPlace - (16 + 1 : ℕ))).isSome = true :=
        exists_hit_of_greatest hx hexponent hlarge
      rw [hnone 16 (by decide)] at hhit
      cases hhit
    have hwhole : x.exact.value = x.whole := by
      rw [exact, if_pos (by omega), value, zpow_zero, mul_one]
      rfl
    right
    rw [hd, (stripZeros_spec _ (digits_exact_pos hx)).2.2, hwhole]
    exact_mod_cast Nat.le_of_lt hless

/-- A decimal that is selected for a value with a smaller exponent is at most the greatest power of
ten. -/
theorem value_shortest_le_tenTo (hx : x.IsFinite) (hexponent : x.exponent < 971) :
    (x.shortest tie).value ≤ 10 ^ 308 := by
  have hsignificand : (x.significand : ℚ) + 1 / 2 ≤ 2 ^ 53 := by
    have hle : ((x.significand + 1 : ℕ) : ℚ) ≤ ((2 ^ 53 : ℕ) : ℚ) :=
      Nat.cast_le.2 hx.significand_lt
    push_cast at hle
    linarith
  have hpower : (2 : ℚ) ^ x.exponent ≤ 2 ^ (970 : ℤ) :=
    zpow_le_zpow_right₀ (by norm_num) (by omega)
  calc (x.shortest tie).value ≤ (x.significand + 1 / 2) * 2 ^ x.exponent := value_shortest_le hx
    _ ≤ 2 ^ 53 * 2 ^ (970 : ℤ) := mul_le_mul hsignificand hpower (by positivity) (by positivity)
    _ ≤ 10 ^ 308 := by decide +kernel

/-- A decimal that is selected for a value below the greatest number is less than that number. -/
theorem value_shortest_le_greatest (hx : x.IsFinite) (hexponent : x.exponent = 971)
    (hless : x.significand ≠ 2 ^ 53 - 1) : (x.shortest tie).value ≤ Finite.greatest := by
  have hsum : (x.significand : ℚ) + 1 / 2 ≤ ((2 ^ 53 - 1 : ℕ) : ℚ) := by
    have hlt := hx.significand_lt
    have hle : ((x.significand + 1 : ℕ) : ℚ) ≤ ((2 ^ 53 - 1 : ℕ) : ℚ) := Nat.cast_le.2 (by omega)
    push_cast at hle
    linarith
  calc (x.shortest tie).value ≤ (x.significand + 1 / 2) * 2 ^ x.exponent := value_shortest_le hx
    _ ≤ ((2 ^ 53 - 1 : ℕ) : ℚ) * 2 ^ (971 : ℤ) := by
      rw [hexponent]
      exact mul_le_mul_of_nonneg_right hsum (by positivity)
    _ ≤ Finite.greatest := by decide +kernel

/-- The decimal that is selected for the magnitude of a finite number is at most the greatest power
of ten, or has at most seventeen digits and is at most the greatest number. -/
theorem shortest_bounds (hx : x.IsFinite) (tie : Tie) :
    (x.shortest tie).value ≤ 10 ^ 308 ∨
      (x.shortest tie).digits ≤ 10 ^ 17 ∧ (x.shortest tie).value ≤ Finite.greatest := by
  rcases Int.lt_or_eq_of_le hx.exponent_le with hless | hexponent
  · exact Or.inl (value_shortest_le_tenTo hx hless)
  by_cases hgreatest : x.significand = 2 ^ 53 - 1
  · -- the greatest number is the middle of its interval, so its decimal might have been greater
    have heq : x = ⟨2 ^ 53 - 1, 971, false⟩ := by
      have hwide : x.narrowBelow = false := by
        apply Bool.eq_false_iff.2
        intro hnarrow
        have hfirst := hx.eq_of_narrowBelow hnarrow
        omega
      rw [← hgreatest, ← hexponent, ← hwide]
    rw [heq]
    right
    cases tie <;> decide +kernel
  · rcases shortest_of_greatest hx hexponent tie with hdigits | hvalue
    · exact Or.inr ⟨hdigits, value_shortest_le_greatest hx hexponent hgreatest⟩
    · exact Or.inl hvalue

/-! ## Magnitudes of finite numbers -/

/-- The magnitude of a finite number is read from its bits. -/
theorem isFinite_ofBits {y : Float} (hy : y.isFinite = true)
    (hzero : (ofBits y.toBits).significand ≠ 0) : (ofBits y.toBits).IsFinite := by
  have hscale : ((y.toBits >>> 52) &&& 0x7FF).toNat ≤ 2046 := by
    have hfield := (Finite.unpackExponent_of_isFinite (b := y.toModel.toBits.toBitVec) hy).2
    rw [Float.Model.UnpackedFloat.unpackExponent, BitVec.toNat_cast, BitVec.extractLsb_toNat]
      at hfield
    rw [UInt64.toNat_and, UInt64.toNat_shiftRight]
    exact Nat.le_trans (Nat.le_of_eq (Nat.and_two_pow_sub_one_eq_mod _ 11)) hfield
  have hfraction : (y.toBits &&& 0xFFFFFFFFFFFFF).toNat < 2 ^ 52 := by
    rw [UInt64.toNat_and]
    exact Nat.and_lt_two_pow _ (by decide)
  unfold ofBits at hzero ⊢
  simp only at hzero ⊢
  generalize ((y.toBits >>> 52) &&& 0x7FF).toNat = scale at *
  generalize (y.toBits &&& 0xFFFFFFFFFFFFF).toNat = fraction at *
  split
  · next hnone =>
    rw [if_pos hnone] at hzero
    refine ⟨Nat.pos_of_ne_zero hzero, ?_, ?_, fun hnarrow => nomatch hnarrow⟩
    · exact Nat.lt_trans hfraction (by decide)
    · exact (by decide : (-1074 : ℤ) ≤ 971)
  · next hsome =>
    refine ⟨?_, ?_, ?_, fun hnarrow => ?_⟩
    · exact Nat.lt_of_lt_of_le (by decide) (Nat.le_add_right _ fraction)
    · exact Nat.add_lt_add_left hfraction (2 ^ 52)
    · have hexponent : (scale : ℤ) - 1075 ≤ 971 := by omega
      exact hexponent
    · simp only [Bool.and_eq_true, decide_eq_true_eq] at hnarrow
      rw [hnarrow.1]
      rfl

end Binary

end Decimal

end Gamebook
