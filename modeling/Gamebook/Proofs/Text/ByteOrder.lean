import Mathlib.Data.String.Basic

/-!
# Text by code points and by bytes

Texts are compared by their code points.  Their bytes in UTF-8 compare in the same order, since a
longer encoding starts with a greater byte and an encoding of the same length spells the code point
in the same radix.

Main results:

- Theorem `Text.compare_encode_append`: the lesser character has the lesser encoding, whatever
  follows it.
- Theorem `Text.compare_eq_compare_bytes`: texts compare as their bytes do.
-/

namespace Gamebook

namespace Text

/-- The bytes of a text in UTF-8. -/
def bytes (text : String) : List UInt8 :=
  text.toUTF8.data.toList

/-- The bytes of a text are those of its characters. -/
theorem bytes_eq (text : String) : bytes text = text.toList.flatMap String.utf8EncodeChar := by
  rw [bytes, String.toUTF8_eq_toByteArray, ← String.ofList_toList (s := text),
    String.toByteArray_ofList, List.utf8Encode, List.data_toByteArray, String.toList_ofList]

/-- Bytes compare as the numbers that they hold. -/
theorem compare_ofNat {m n : Nat} (hm : m < 256) (hn : n < 256) :
    compare (UInt8.ofNat m) (UInt8.ofNat n) = compare m n := by
  have hlt : UInt8.ofNat m < UInt8.ofNat n ↔ m < n := by
    rw [UInt8.lt_iff_toNat_lt, UInt8.toNat_ofNat_of_lt' hm, UInt8.toNat_ofNat_of_lt' hn]
  have heq : UInt8.ofNat m = UInt8.ofNat n ↔ m = n := by
    rw [← UInt8.toNat_inj, UInt8.toNat_ofNat_of_lt' hm, UInt8.toNat_ofNat_of_lt' hn]
  change compareOfLessAndEq _ _ = compareOfLessAndEq _ _
  simp only [compareOfLessAndEq, hlt, heq]

/-- The lesser character has the lesser encoding, whatever follows it. -/
theorem compare_encode_append {c d : Char} (hcd : c < d) (xs ys : List UInt8) :
    compare (String.utf8EncodeChar c ++ xs) (String.utf8EncodeChar d ++ ys) = .lt := by
  have hless : c.val.toNat < d.val.toNat := hcd
  have hlast : d.val.toNat < 0x110000 := by
    rcases d.valid with h | h <;> omega
  unfold String.utf8EncodeChar
  dsimp only
  generalize c.val.toNat = v at *
  generalize d.val.toNat = w at *
  -- the digits of a number are the remainders of one division after the other
  have htwo : ∀ u : Nat, u / 4096 = u / 64 / 64 := by omega
  have hthree : ∀ u : Nat, u / 262144 = u / 64 / 64 / 64 := by omega
  simp only [htwo, hthree]
  split_ifs
  all_goals
    simp (disch := omega) only [List.cons_append, List.nil_append, List.compare_cons_cons,
      compare_ofNat, Ordering.then_eq_lt, Nat.compare_eq_lt, Nat.compare_eq_eq]
    omega

/-- What two texts begin with alike does not count. -/
theorem compare_append_append (shared xs ys : List UInt8) :
    compare (shared ++ xs) (shared ++ ys) = compare xs ys := by
  induction shared with
  | nil => rfl
  | cons b shared ih =>
    rw [List.cons_append, List.cons_append, List.compare_cons_cons, Std.ReflOrd.compare_self,
      Ordering.eq_then, ih]

/-- A character has at least one byte. -/
theorem compare_nil_encode_append (d : Char) (ys : List UInt8) :
    compare [] (String.utf8EncodeChar d ++ ys) = .lt := by
  unfold String.utf8EncodeChar
  dsimp only
  split_ifs <;> rfl

/-- The lesser text has the lesser bytes. -/
theorem compare_flatMap_encode {cs ds : List Char} (hlex : List.Lex (· < ·) cs ds) :
    compare (cs.flatMap String.utf8EncodeChar) (ds.flatMap String.utf8EncodeChar) = .lt := by
  induction hlex with
  | nil => exact compare_nil_encode_append _ _
  | rel hcd => exact compare_encode_append hcd _ _
  | cons _ ih =>
    rw [List.flatMap_cons, List.flatMap_cons, compare_append_append]
    exact ih

/-- Texts compare as their bytes do. -/
theorem compare_eq_compare_bytes (s t : String) : compare s t = compare (bytes s) (bytes t) := by
  have hlt : ∀ {s t : String}, compare s t = .lt → compare (bytes s) (bytes t) = .lt := by
    intro s t hst
    rw [bytes_eq, bytes_eq]
    apply compare_flatMap_encode
    exact (List.lt_iff_lex_lt _ _).1 (String.lt_iff.1 (Std.LawfulLTCmp.eq_lt_iff_lt.1 hst))
  cases hst : compare s t with
  | lt => exact (hlt hst).symm
  | eq => rw [Std.LawfulEqOrd.eq_of_compare hst, Std.ReflOrd.compare_self]
  | gt => exact (Std.OrientedCmp.gt_of_lt (hlt (Std.OrientedCmp.lt_of_gt hst))).symm

end Text

end Gamebook
