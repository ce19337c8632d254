import Gamebook.Number

/-!
# Decimal digits of whole numbers

Documents and names spell whole numbers by their decimal digits.  This module relates the digits
that are written for a number to the readers of digits.

Main results:

- Theorem `natOfDigits_toDigits`: reading the digits of a number gives the number.
- Theorem `toList_toString`: an integer is written as its digits, with a minus in front of those of
  a negative one.
- Theorem `eq_nil_of_toDigits_eq_zero_cons`: only zero is written with a leading zero.
- Theorem `word?_toString`: which integers are read as numbers of 64 bits.
-/

namespace Gamebook

namespace Number

/-- Reading the digits that are written for a number gives the number. -/
@[simp]
theorem natOfDigits_toDigits (n : Nat) : natOfDigits (Nat.toDigits 10 n) = n :=
  Nat.ofDigitChars_ten_toDigits

/-- All characters that are written for a number are digits. -/
theorem isDigit_of_mem_toDigits {n : Nat} {c : Char} (hc : c ∈ Nat.toDigits 10 n) :
    c.isDigit = true :=
  Nat.isDigit_of_mem_toDigits (by decide) (by decide) hc

/-- The text of a natural number starts with a digit. -/
theorem exists_toDigits_eq_cons (n : Nat) :
    ∃ c rest, Nat.toDigits 10 n = c :: rest ∧ c.isDigit = true := by
  cases hdigits : Nat.toDigits 10 n with
  | nil => exact absurd hdigits Nat.toDigits_ne_nil
  | cons c rest => exact ⟨c, rest, rfl, isDigit_of_mem_toDigits (hdigits ▸ List.mem_cons_self)⟩

/-- Only zero is written with a leading zero. -/
theorem eq_nil_of_toDigits_eq_zero_cons {n : Nat} {rest : List Char}
    (hdigits : Nat.toDigits 10 n = '0' :: rest) : rest = [] := by
  induction n using Nat.strongRecOn generalizing rest with
  | ind n ih =>
    rw [Nat.toDigits_eq_if (by decide)] at hdigits
    split at hdigits
    · exact (List.cons.inj hdigits).2.symm
    · next hlarge =>
      -- the digits before the last one are those of a smaller number, which is not zero
      rcases exists_toDigits_eq_cons (n / 10) with ⟨c, more, hmore, -⟩
      have hc : c = '0' := by
        rw [hmore] at hdigits
        exact (List.cons.inj hdigits).1
      have hnil : more = [] := ih (n / 10) (by omega) (hc ▸ hmore)
      have hzero : n / 10 = 0 := by
        have hread := natOfDigits_toDigits (n / 10)
        rw [hmore, hc, hnil] at hread
        exact hread.symm
      omega

/-- The text of a natural number has no sign. -/
theorem splitSign_cons_of_isDigit {c : Char} (hc : c.isDigit = true) (rest : List Char) :
    splitSign (c :: rest) = (false, c :: rest) := by
  unfold splitSign
  split
  · next heq => exact absurd hc (by rw [(List.cons.inj heq).1]; decide)
  · next heq => exact absurd hc (by rw [(List.cons.inj heq).1]; decide)
  · rfl

/-- The digits of a number, followed by anything that is no digit, are split off as a whole. -/
theorem splitDigits_append_of_all {digits rest : List Char}
    (hdigits : ∀ c ∈ digits, c.isDigit = true) (hrest : ∀ c ∈ rest.head?, c.isDigit = false) :
    splitDigits (digits ++ rest) = (digits, rest) := by
  have htake : rest.takeWhile Char.isDigit = [] := by
    cases rest with
    | nil => rfl
    | cons c more => simp [hrest c rfl]
  have hdrop : rest.dropWhile Char.isDigit = rest := by
    cases rest with
    | nil => rfl
    | cons c more => simp [hrest c rfl]
  rw [splitDigits, List.takeWhile_append_of_pos hdigits, List.dropWhile_append_of_pos hdigits,
    htake, hdrop, List.append_nil]

/-- An integer is written as its digits, with a minus in front of those of a negative one. -/
theorem toList_toString (n : Int) :
    (toString n).toList =
      if 0 ≤ n then Nat.toDigits 10 n.toNat else '-' :: Nat.toDigits 10 (-n).toNat := by
  rw [Int.toString_eq_repr, Int.repr_eq_if]
  split
  · exact Nat.toList_repr
  · rw [String.toList_append, Nat.toList_repr]
    rfl

/-- Digits without a sign are read where they spell a number of 64 bits. -/
theorem word?_of_digits {text : String} (hne : text.toList ≠ [])
    (hdigits : text.toList.all Char.isDigit = true) :
    word? text =
      if natOfDigits text.toList < UInt64.size then some (natOfDigits text.toList) else none := by
  unfold word?
  split
  · next rest hplus =>
    rw [hplus] at hdigits
    cases hdigits
  · simp only [hne, hdigits, ne_eq, not_false_eq_true, true_and]

/-- Nothing is read where there is a minus. -/
theorem word?_of_minus {text : String} {rest : List Char} (htext : text.toList = '-' :: rest) :
    word? text = none := by
  unfold word?
  rw [htext]
  rfl

/-- The decimal spelling of an integer is read where it is a number of 64 bits. -/
theorem word?_toString (z : Int) :
    word? (toString z) = if 0 ≤ z ∧ z < UInt64.size then some z.toNat else none := by
  have htext := toList_toString z
  by_cases hz : 0 ≤ z
  · rw [if_pos hz] at htext
    have hsize : z.toNat < UInt64.size ↔ 0 ≤ z ∧ z < UInt64.size := by omega
    rw [word?_of_digits, htext, natOfDigits_toDigits]
    · simp only [hsize]
    · rw [htext]
      exact Nat.toDigits_ne_nil
    · rw [htext, List.all_eq_true]
      intro d hd
      exact isDigit_of_mem_toDigits hd
  · rw [if_neg hz] at htext
    rw [word?_of_minus htext, if_neg]
    rintro ⟨hpos, -⟩
    exact hz hpos

end Number

end Gamebook
