import Gamebook.Json.Writer
import Gamebook.Proofs.Number.Digits

/-!
# Numerals that are written

A numeral in a document is followed by something that cannot belong to it: a comma, the end of a
container or of the line.  So what is read of a numeral standing alone is also read of it inside a
document.

Main results:

- Theorem `Numeral.scan_append`: a numeral is read the same before a delimiter.
- Theorem `Numeral.scan_toString`: the text of a whole number is read as that number.
- Definition `ReadsBack`: the text of a finite number is read as that number.
-/

namespace Gamebook

namespace Json

namespace Numeral

/-! ## Delimiters -/

/-- The text does not go on with a character that a numeral may hold. -/
def Delimited (rest : List Char) : Prop :=
  ∀ c ∈ rest.head?, c.isDigit = false ∧ c ≠ '.' ∧ c ≠ 'e' ∧ c ≠ 'E'

variable {rest : List Char}

/-- The digits at the front of a text are the same before a delimiter. -/
theorem splitDigits_append_of_delimited (hrest : Delimited rest) (cs : List Char) :
    Number.splitDigits (cs ++ rest) =
      ((Number.splitDigits cs).1, (Number.splitDigits cs).2 ++ rest) := by
  induction cs with
  | nil => exact Number.splitDigits_append_of_all (List.forall_mem_nil _) fun c hc => (hrest c hc).1
  | cons c cs ih =>
    simp only [Number.splitDigits, Prod.mk.injEq] at ih
    rw [List.cons_append, Number.splitDigits, Number.splitDigits]
    cases hc : c.isDigit with
    | true => simp only [List.takeWhile_cons, List.dropWhile_cons, hc, if_true, ih]
    | false => simp [hc]

/-- A minus at the front of a text is the same before anything. -/
theorem scanMinus_append {cs : List Char} (hcs : cs ≠ []) (rest : List Char) :
    scanMinus (cs ++ rest) = ((scanMinus cs).1, (scanMinus cs).2 ++ rest) := by
  cases cs with
  | nil => exact absurd rfl hcs
  | cons c cs =>
    by_cases hc : c = '-'
    · rw [hc]
      rfl
    · simp [scanMinus, hc]

/-- A sign at the front of a text is the same before anything. -/
theorem splitSign_append {cs : List Char} (hcs : cs ≠ []) (rest : List Char) :
    Number.splitSign (cs ++ rest) = ((Number.splitSign cs).1, (Number.splitSign cs).2 ++ rest) := by
  cases cs with
  | nil => exact absurd rfl hcs
  | cons c cs =>
    by_cases hminus : c = '-'
    · rw [hminus]
      rfl
    · by_cases hplus : c = '+'
      · rw [hplus]
        rfl
      · simp [Number.splitSign, hminus, hplus]

/-- The integral part of a numeral is the same before a delimiter. -/
theorem scanIntegral_append (hrest : Delimited rest) {cs digits after : List Char}
    (hscan : scanIntegral cs = some (digits, after)) :
    scanIntegral (cs ++ rest) = some (digits, after ++ rest) := by
  rw [scanIntegral, splitDigits_append_of_delimited hrest]
  rw [scanIntegral] at hscan
  rcases hsplit : Number.splitDigits cs with ⟨found, left⟩
  rw [hsplit] at hscan
  split at hscan
  · cases hscan
  · cases hscan
  · next hnil hzero =>
    cases hscan
    split
    · next heq =>
      cases heq
      exact absurd rfl (hnil after)
    · next heq =>
      cases heq
      exact absurd rfl (hzero _ _ after)
    · rfl

/-- Without a point there is no fraction. -/
theorem scanFraction_of_ne {c : Char} (hc : c ≠ '.') (cs : List Char) :
    scanFraction (c :: cs) = some (none, c :: cs) := by
  unfold scanFraction
  split
  · next heq => exact absurd (List.cons.inj heq).1 hc
  · rfl

/-- The fraction of a numeral is the same before a delimiter. -/
theorem scanFraction_append (hrest : Delimited rest) {cs after : List Char}
    {fraction : Option (List Char)} (hscan : scanFraction cs = some (fraction, after)) :
    scanFraction (cs ++ rest) = some (fraction, after ++ rest) := by
  cases cs with
  | nil =>
    cases hscan
    cases rest with
    | nil => rfl
    | cons c rest => exact scanFraction_of_ne (hrest c rfl).2.1 rest
  | cons c cs =>
    by_cases hc : c = '.'
    · subst hc
      rw [scanFraction] at hscan
      rw [List.cons_append, scanFraction, splitDigits_append_of_delimited hrest]
      rcases hsplit : Number.splitDigits cs with ⟨found, left⟩
      rw [hsplit] at hscan
      cases found with
      | nil => cases hscan
      | cons d found =>
        cases hscan
        rfl
    · rw [scanFraction_of_ne hc] at hscan
      cases hscan
      exact scanFraction_of_ne hc (cs ++ rest)

/-- The exponent of a numeral is the same before a delimiter. -/
theorem scanPower_append (hrest : Delimited rest) {cs after : List Char}
    {power : Option (Bool × List Char)} (hscan : scanPower cs = some (power, after)) :
    scanPower (cs ++ rest) = some (power, after ++ rest) := by
  cases cs with
  | nil =>
    cases hscan
    cases rest with
    | nil => rfl
    | cons c rest =>
      rcases hrest c rfl with ⟨-, -, he, hE⟩
      simp [scanPower, he, hE]
  | cons c cs =>
    rw [scanPower] at hscan
    rw [List.cons_append, scanPower]
    split at hscan
    · next hc =>
      rw [if_pos hc]
      have hcs : cs ≠ [] := by
        intro hnil
        rw [hnil] at hscan
        cases hscan
      rw [splitSign_append hcs]
      simp only [splitDigits_append_of_delimited hrest] at hscan ⊢
      rcases hsplit : Number.splitDigits (Number.splitSign cs).2 with ⟨found, left⟩
      rw [hsplit] at hscan
      cases found with
      | nil => cases hscan
      | cons d found =>
        cases hscan
        rfl
    · next hc =>
      cases hscan
      rw [if_neg hc]
      rfl

/-- A numeral is read the same before a delimiter. -/
theorem scan_append (hrest : Delimited rest) {cs after : List Char} {n : Numeral}
    (hscan : scan cs = some (n, after)) : scan (cs ++ rest) = some (n, after ++ rest) := by
  have hcs : cs ≠ [] := by
    intro hnil
    have hless := length_scan hscan
    rw [hnil] at hless
    cases hless
  simp only [scan, scanParts, Option.map_eq_some_iff, Option.bind_eq_bind,
    Option.bind_eq_some_iff] at hscan ⊢
  rcases hscan with
    ⟨_, ⟨⟨integral, rest₁⟩, hintegral, ⟨fraction, rest₂⟩, hfraction, ⟨power, rest₃⟩, hpower,
      hparts⟩, hvalue⟩
  cases hparts
  cases hvalue
  rw [scanMinus_append hcs]
  exact ⟨_, ⟨(integral, rest₁ ++ rest), scanIntegral_append hrest hintegral,
    (fraction, rest₂ ++ rest), scanFraction_append hrest hfraction,
    (power, rest₃ ++ rest), scanPower_append hrest hpower, rfl⟩, rfl⟩

/-- A numeral starts with a minus or a digit. -/
theorem scan_eq_none {c : Char} (hminus : c ≠ '-') (hdigit : c.isDigit = false) (cs : List Char) :
    scan (c :: cs) = none := by
  have hsign : scanMinus (c :: cs) = (false, c :: cs) := by
    unfold scanMinus
    split
    · next heq => exact absurd (List.cons.inj heq).1 hminus
    · rfl
  have hintegral : scanIntegral (c :: cs) = none := by
    have hsplit : (Number.splitDigits (c :: cs)).1 = [] := by
      rw [Number.splitDigits, List.takeWhile_cons, hdigit]
      rfl
    rw [scanIntegral]
    split
    · rfl
    · rfl
    · next hne _ => exact (hne _ (Prod.ext hsplit rfl)).elim
  rw [scan, scanParts, hsign]
  simp only [hintegral, Option.bind_eq_bind, Option.bind_none, Option.map_none]

/-! ## Whole numbers -/

/-- A numeral that is read from the start of a text stays below what it is read as. -/
theorem le_foldl_appendDigit (digits : List Char) (n : Nat) :
    n ≤ digits.foldl Number.appendDigit n := by
  induction digits generalizing n with
  | nil => exact Nat.le_refl n
  | cons c digits ih =>
    have hlonger : n ≤ Number.appendDigit n c := by
      rw [Number.appendDigit]
      omega
    exact Nat.le_trans hlonger (ih _)

/-- Digits that spell a number of 64 bits all fit the significand. -/
theorem extend_of_lt {digits : List Char} {n : Nat}
    (hdigits : digits.foldl Number.appendDigit n < UInt64.size) :
    extend n digits = (digits.foldl Number.appendDigit n, []) := by
  induction digits generalizing n with
  | nil => rfl
  | cons c digits ih =>
    rw [List.foldl_cons] at hdigits ⊢
    rw [extend, if_pos (Nat.lt_of_le_of_lt (le_foldl_appendDigit digits _) hdigits)]
    exact ih hdigits

/-- The digits that are written for a number are read as an integral part. -/
theorem scanIntegral_toDigits (n : Nat) :
    scanIntegral (Nat.toDigits 10 n) = some (Nat.toDigits 10 n, []) := by
  have hsplit : Number.splitDigits (Nat.toDigits 10 n) = (Nat.toDigits 10 n, []) := by
    have happend : Number.splitDigits (Nat.toDigits 10 n ++ []) = (Nat.toDigits 10 n, []) :=
      Number.splitDigits_append_of_all (fun _ hc => Number.isDigit_of_mem_toDigits hc)
        (fun _ hc => nomatch hc)
    rwa [List.append_nil] at happend
  rw [scanIntegral, hsplit]
  split
  · next heq => exact absurd (Prod.mk.inj heq).1 Nat.toDigits_ne_nil
  · next heq =>
    have hnil := Number.eq_nil_of_toDigits_eq_zero_cons (Prod.mk.inj heq).1
    cases hnil
  · rfl

/-- Without a minus there is no sign. -/
theorem scanMinus_of_isDigit {c : Char} (hc : c.isDigit = true) (cs : List Char) :
    scanMinus (c :: cs) = (false, c :: cs) := by
  unfold scanMinus
  split
  · next heq => exact absurd hc (by rw [(List.cons.inj heq).1]; decide)
  · rfl

/-- The parts of a whole number are its sign and the digits of its magnitude. -/
theorem scanParts_toString (n : Int) :
    scanParts (toString n).toList =
      some (⟨decide (n < 0), Nat.toDigits 10 n.natAbs, none, none⟩, []) := by
  rw [Number.toList_toString]
  by_cases hnonneg : 0 ≤ n
  · rcases Number.exists_toDigits_eq_cons n.toNat with ⟨c, digits, hdigits, hc⟩
    have hminus : scanMinus (Nat.toDigits 10 n.toNat) = (false, Nat.toDigits 10 n.toNat) := by
      rw [hdigits]
      exact scanMinus_of_isDigit hc digits
    have hsign : decide (n < 0) = false := by
      rw [decide_eq_false_iff_not]
      omega
    have habs : n.toNat = n.natAbs := by omega
    rw [if_pos hnonneg, scanParts, hminus]
    simp only [scanIntegral_toDigits, Option.bind_eq_bind, Option.bind_some, hsign, habs]
    rfl
  · have hsign : decide (n < 0) = true := by
      rw [decide_eq_true_eq]
      omega
    have habs : (-n).toNat = n.natAbs := by omega
    rw [if_neg hnonneg, scanParts, scanMinus]
    simp only [scanIntegral_toDigits, Option.bind_eq_bind, Option.bind_some, hsign, habs]
    rfl

/-- A number is its magnitude with its sign. -/
theorem signed_natAbs (n : Int) : signed (decide (n < 0)) n.natAbs = n := by
  rw [signed]
  by_cases hneg : n < 0
  · rw [if_pos (decide_eq_true hneg)]
    omega
  · rw [if_neg (by rwa [decide_eq_true_eq])]
    omega

/-- The text of a whole number is read as that number. -/
theorem scan_toString {n : Int} (hn : IsExact n) :
    scan (toString n).toList = some (.whole n hn, []) := by
  rcases hn with ⟨hleast, hless⟩
  have hextend : extend 0 (Nat.toDigits 10 n.natAbs) = (n.natAbs, []) := by
    have hread : (Nat.toDigits 10 n.natAbs).foldl Number.appendDigit 0 = n.natAbs :=
      Number.natOfDigits_toDigits n.natAbs
    have hsize : (Nat.toDigits 10 n.natAbs).foldl Number.appendDigit 0 < UInt64.size := by
      rw [hread]
      have hmin : Int64.minValue.toInt = -9223372036854775808 := rfl
      have hsize : UInt64.size = 18446744073709551616 := rfl
      omega
    rw [extend_of_lt hsize, hread]
  have hvalue : (⟨decide (n < 0), Nat.toDigits 10 n.natAbs, none, none⟩ : Parts).value =
      .whole n ⟨hleast, hless⟩ := by
    unfold Parts.value
    rw [dif_pos]
    · simp only [hextend, signed_natAbs]
    · rw [hextend]
      refine ⟨⟨rfl, rfl, rfl, ?_⟩, (signed_natAbs n).symm ▸ hleast⟩
      rintro ⟨hneg, hzero⟩
      have hneg' := of_decide_eq_true hneg
      simp only at hzero
      omega
  rw [scan, scanParts_toString, Option.map_some]
  simp only [hvalue]

end Numeral

/-- The text of a number is read as that number. -/
def ReadsBack (x : Float) : Prop :=
  ∃ hx : x.isFinite = true, Numeral.scan (numberText x).toList = some (.real x hx, [])

/-- The number of a numeral that is not whole. -/
def Numeral.real? : Numeral → Option Float
  | real x _ => some x
  | _ => none

/-- Whether a number reads back can be computed. -/
theorem readsBack_iff {x : Float} :
    ReadsBack x ↔
      (Numeral.scan (numberText x).toList).map (fun (n, rest) => (n.real?, rest)) =
        some (some x, []) := by
  constructor
  · rintro ⟨hx, hscan⟩
    rw [hscan]
    rfl
  · intro hscan
    rcases Option.map_eq_some_iff.1 hscan with ⟨⟨n, rest⟩, hscan, heq⟩
    cases n with
    | real y hy =>
      cases heq
      exact ⟨hy, hscan⟩
    | _ => cases heq

instance (x : Float) : Decidable (ReadsBack x) :=
  decidable_of_iff _ readsBack_iff.symm

end Json

end Gamebook
