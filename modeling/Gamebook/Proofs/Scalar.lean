import Gamebook.Proofs.Number.Digits
import Gamebook.Scalar

/-!
# Sameness and order of scalars

Scalars are the same when their canonical texts are, and the order of scalars tells no more than
those texts.  So whatever is kept in the order of names is found under every spelling of a name.

Main results:

- Theorem `Scalar.toInt?_eq`: the integer that a scalar spells is read off its canonical text.
- Instance of `Std.LawfulBEqOrd`: two scalars compare as equal exactly when they are the same.
-/

namespace Gamebook

/-! ## Spelled integers -/

/-- The decimal spelling of an integer spells it. -/
@[simp]
theorem spelledInt?_toString (n : Int64) : spelledInt? (toString n) = some n := by
  have htext : (toString n).toList =
      if 0 ≤ n.toInt then Nat.toDigits 10 n.toInt.toNat
      else '-' :: Nat.toDigits 10 (-n.toInt).toNat :=
    Number.toList_toString n.toInt
  have hread : Int64.ofInt
      (if (Number.splitSign (toString n).toList).1
        then -(Number.natOfDigits (Number.splitSign (toString n).toList).2 : Int)
        else Number.natOfDigits (Number.splitSign (toString n).toList).2) = n := by
    rw [htext]
    by_cases hn : 0 ≤ n.toInt
    · rcases Number.exists_toDigits_eq_cons n.toInt.toNat with ⟨c, rest, hdigits, hc⟩
      rw [if_pos hn, hdigits, Number.splitSign_cons_of_isDigit hc, ← hdigits]
      simp only [Number.natOfDigits_toDigits, Int.toNat_of_nonneg hn, Bool.false_eq_true, if_false,
        Int64.ofInt_toInt]
    · rw [if_neg hn]
      have hneg : 0 ≤ -n.toInt := by omega
      simp only [Number.splitSign, Number.natOfDigits_toDigits, Int.toNat_of_nonneg hneg, if_true,
        Int.neg_neg, Int64.ofInt_toInt]
  unfold spelledInt?
  simp only [hread, if_true]

/-- A text that spells an integer is its decimal spelling. -/
theorem eq_toString_of_spelledInt? {text : String} {n : Int64} (htext : spelledInt? text = some n) :
    text = toString n := by
  simp only [spelledInt?, Option.ite_none_right_eq_some, Option.some.injEq] at htext
  rcases htext with ⟨hspelling, rfl⟩
  exact hspelling.symm

namespace Scalar

/-- The integer of a scalar is the one that its canonical text spells. -/
theorem toInt?_eq (s : Scalar) : s.toInt? = spelledInt? s.canonical := by
  cases s with
  | int n => exact (spelledInt?_toString n).symm
  | number x => rfl
  | text t => rfl

/-! ## Sameness -/

/-- Scalars are the same when their canonical texts are equal, also where they are compared as
integers. -/
theorem beq_iff {a b : Scalar} : (a == b) = true ↔ a.canonical = b.canonical := by
  have hint : ∀ m n : Int64, (m == n) = true ↔ toString m = toString n := by
    intro m n
    rw [beq_iff_eq]
    refine ⟨congrArg toString, fun htext => ?_⟩
    have hspelled := congrArg spelledInt? htext
    rwa [spelledInt?_toString, spelledInt?_toString, Option.some.injEq] at hspelled
  have htext : (a.canonical == b.canonical) = true ↔ a.canonical = b.canonical := beq_iff_eq
  cases a with
  | int m =>
    cases b with
    | int n => exact hint m n
    | _ => exact htext
  | _ => exact htext

/-- Two scalars compare as equal exactly when they are the same. -/
instance : Std.LawfulBEqOrd Scalar where
  compare_eq_iff_beq {a b} := by
    rw [beq_iff, compare_def, toInt?_eq, toInt?_eq]
    cases ha : spelledInt? a.canonical with
    | none =>
      cases hb : spelledInt? b.canonical with
      | none => exact Std.LawfulEqOrd.compare_eq_iff_eq
      | some n =>
        constructor
        · intro h
          cases h
        · intro h
          rw [h, hb] at ha
          cases ha
    | some m =>
      cases hb : spelledInt? b.canonical with
      | none =>
        constructor
        · intro h
          cases h
        · intro h
          rw [h, hb] at ha
          cases ha
      | some n =>
        -- both texts are the spellings of the integers that are compared
        rw [Std.LawfulEqOrd.compare_eq_iff_eq, eq_toString_of_spelledInt? ha,
          eq_toString_of_spelledInt? hb]
        constructor
        · intro h
          rw [h]
        · intro h
          have hsame := congrArg spelledInt? h
          simpa using hsame

/-- Sameness of scalars is an equivalence. -/
instance : EquivBEq Scalar :=
  @Std.LawfulBEqCmp.equivBEq Scalar _ compare _ _

/-- Scalars that are the same compare alike with every scalar. -/
theorem compare_congr {a b : Scalar} (hab : (a == b) = true) (c : Scalar) :
    compare a c = compare b c :=
  Std.TransCmp.congr_left (Std.LawfulBEqOrd.compare_eq_iff_beq.2 hab)

end Scalar

end Gamebook
