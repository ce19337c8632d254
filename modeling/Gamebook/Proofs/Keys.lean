import Gamebook.Proofs.Scalar
import Gamebook.Proofs.Table
import Gamebook.Proofs.Text.ByteOrder
import Gamebook.Story

/-!
# Scalars as keys

Tables and sets are keyed by scalars, some by their order and some by their hashes.  Equality, order
and hashing all go through the canonical text, so that an entry is found under every spelling of its
key and under no other one.

Main results:

- Theorem `Scalar.toInt?_eq_some_iff`: which texts spell an integer.
- Instance of `LawfulHashable`: scalars that are the same have the same hash.
- Theorem `Story.firstId_eq_some_iff`: the first section is the one with the least name.
- Theorem `Scalar.compares_lawfully`: all of it together.
-/

namespace Gamebook

namespace Scalar

/-! ## Integers -/

/-- A scalar spells an integer exactly when its text is the decimal spelling of the integer. -/
theorem toInt?_eq_some_iff {a : Scalar} {n : Int64} :
    a.toInt? = some n ↔ a.canonical = toString n.toInt := by
  rw [toInt?_eq]
  constructor
  · intro hspelled
    exact eq_toString_of_spelledInt? hspelled
  · intro htext
    rw [htext]
    exact spelledInt?_toString n

/-! ## Order -/

/-- Integers compare by their values. -/
theorem compare_of_toInt? {a b : Scalar} {m n : Int64} (ha : a.toInt? = some m)
    (hb : b.toInt? = some n) : compare a b = compare m.toInt n.toInt := by
  rw [compare_def, ha, hb]
  change compareOfLessAndEq m n = compareOfLessAndEq m.toInt n.toInt
  simp only [compareOfLessAndEq, Int64.lt_iff_toInt_lt, Int64.toInt_inj]

/-- Integers come before all other scalars. -/
theorem compare_of_toInt?_eq_none {a b : Scalar} {m : Int64} (ha : a.toInt? = some m)
    (hb : b.toInt? = none) : compare a b = .lt := by
  rw [compare_def, ha, hb]

/-- Scalars that spell no integers compare by the bytes of their texts. -/
theorem compare_of_none {a b : Scalar} (ha : a.toInt? = none) (hb : b.toInt? = none) :
    compare a b = compare (Text.bytes a.canonical) (Text.bytes b.canonical) := by
  rw [compare_def, ha, hb]
  exact Text.compare_eq_compare_bytes a.canonical b.canonical

/-- Two scalars compare as equal exactly when they are the same. -/
theorem compare_eq_iff {a b : Scalar} : compare a b = .eq ↔ (a == b) = true :=
  Std.LawfulBEqOrd.compare_eq_iff_beq

/-! ## Hashes -/

/-- Scalars that are the same have the same hash. -/
instance : LawfulHashable Scalar where
  hash_eq _ _ hab := congrArg (fun text : String => hash text) (beq_iff.1 hab)

end Scalar

/-! ## The first section -/

/-- The first section is the one whose name comes before all others. -/
theorem Story.firstId_eq_some_iff {s : Story} {id : SectionId} :
    s.firstId = some id ↔ id ∈ s.ids ∧ ∀ other ∈ s.ids, (compare id other).isLE = true := by
  have hascending : s.ids.Pairwise fun a b => compare a b = .lt := by
    rw [ids, Table.keys, List.pairwise_map]
    exact s.sections.ascending
  rw [firstId]
  cases hids : s.ids with
  | nil => simp
  | cons first rest =>
    rw [hids] at hascending
    rcases List.pairwise_cons.1 hascending with ⟨hfirst, -⟩
    rw [List.head?_cons, Option.some.injEq]
    constructor
    · rintro rfl
      refine ⟨List.mem_cons_self, ?_⟩
      intro other hother
      rcases List.mem_cons.1 hother with rfl | hother
      · rw [Std.ReflOrd.compare_self]
        rfl
      · rw [hfirst other hother]
        rfl
    · rintro ⟨hid, hleast⟩
      rcases List.mem_cons.1 hid with rfl | hid
      · rfl
      · have hbefore := hleast first List.mem_cons_self
        rw [Std.OrientedCmp.gt_of_lt (hfirst id hid)] at hbefore
        cases hbefore

/-! ## Comparison -/

/-- Scalars compare lawfully.  Which integer a scalar spells is a matter of its canonical text; the
comparison is a total order that agrees with sameness, with the canonical texts and with the hashes;
integers come first, by value, and all other scalars after them, by the bytes of their texts.  So
ordered tables and hash sets keep one entry for all spellings of a name, and the first section is
the one with the least name. -/
theorem Scalar.compares_lawfully :
    (∀ (a : Scalar) (n : Int64), a.toInt? = some n ↔ a.canonical = toString n.toInt) ∧
    (∀ a b : Scalar, a.canonical = b.canonical → a.toInt? = b.toInt?) ∧
    (∀ a : Scalar, compare a a = .eq) ∧
    (∀ a b : Scalar, compare a b = (compare b a).swap) ∧
    (∀ a b : Scalar, (compare a b).isLE = true → (compare b a).isLE = true → (a == b) = true) ∧
    (∀ a b c : Scalar, (compare a b).isLE = true → (compare b c).isLE = true →
      (compare a c).isLE = true) ∧
    (∀ a b : Scalar, (compare a b).isLE = true ∨ (compare b a).isLE = true) ∧
    (∀ a b : Scalar, compare a b = .eq ↔ (a == b) = true) ∧
    (∀ a b : Scalar, (a == b) = true ↔ a.canonical = b.canonical) ∧
    (∀ a b : Scalar, (a == b) = true → hash a = hash b) ∧
    (∀ (a b : Scalar) (m n : Int64), a.toInt? = some m → b.toInt? = some n →
      compare a b = compare m.toInt n.toInt) ∧
    (∀ (a b : Scalar) (m : Int64), a.toInt? = some m → b.toInt? = none → compare a b = .lt) ∧
    (∀ a b : Scalar, a.toInt? = none → b.toInt? = none →
      compare a b = compare (Text.bytes a.canonical) (Text.bytes b.canonical)) ∧
    (∀ (ν : Type) (t : Table SectionId ν) (new id : SectionId) (value : ν),
      (t.contains id = true ↔ ∃ key ∈ t.keys, (id == key) = true) ∧
      (Table.empty : Table SectionId ν).find? id = none ∧
      (t.insert new value).find? id = (if id == new then some value else t.find? id) ∧
      (t.erase new).find? id = (if id == new then none else t.find? id)) ∧
    (∀ (s : Std.HashSet SectionId) (new id : SectionId),
      (s.contains id = true ↔ ∃ key ∈ s.toList, (id == key) = true) ∧
      (∅ : Std.HashSet SectionId).contains id = false ∧
      (s.insert new).contains id = (new == id || s.contains id) ∧
      (s.erase new).contains id = (!(new == id) && s.contains id)) ∧
    ∀ (s : Story) (id : SectionId), s.firstId = some id ↔
      id ∈ s.ids ∧ ∀ other ∈ s.ids, (compare id other).isLE = true := by
  refine ⟨fun _ _ => toInt?_eq_some_iff, ?_, fun _ => Std.ReflOrd.compare_self,
    fun _ _ => Std.OrientedOrd.eq_swap, ?_, fun _ _ _ => Std.TransOrd.isLE_trans, ?_,
    fun _ _ => compare_eq_iff, fun _ _ => beq_iff, fun _ _ => LawfulHashable.hash_eq _ _,
    fun _ _ _ _ => compare_of_toInt?, fun _ _ _ => compare_of_toInt?_eq_none,
    fun _ _ => compare_of_none, ?_, ?_, fun _ _ => Story.firstId_eq_some_iff⟩
  · intro a b htext
    rw [toInt?_eq, toInt?_eq, htext]
  · intro a b hab hba
    exact compare_eq_iff.1 (Std.OrientedCmp.isLE_antisymm hab hba)
  · intro a b
    rw [Std.OrientedOrd.eq_swap (a := b)]
    cases compare a b <;> simp
  · intro ν t new id value
    simp only [← compare_eq_iff]
    refine ⟨Table.contains_eq_true_iff, Table.find?_empty id, ?_, Table.find?_erase t new id⟩
    split
    · next heq => exact Table.find?_insert_of_eq t value heq
    · next hne => exact Table.find?_insert_of_ne t value hne
  · intro s new id
    refine ⟨?_, Std.HashSet.contains_empty, Std.HashSet.contains_insert,
      Std.HashSet.contains_erase⟩
    rw [← Std.HashSet.contains_toList, List.contains_eq_any_beq, List.any_eq_true]

/-- The integer twelve, its text and the texts of other numbers compare lawfully. -/
theorem Scalar.twelve_compares_lawfully :
    (Scalar.int 12).toInt? = (Scalar.text "12").toInt? ∧
    (Scalar.int 12 == Scalar.text "12") = true ∧
    hash (Scalar.int 12) = hash (Scalar.text "12") ∧
    compare (Scalar.text "-3") (Scalar.int 12) = compare (-3 : Int) 12 ∧
    compare (Scalar.text "12") (Scalar.text "012") = .lt ∧
    (compare (Scalar.text "-3") (Scalar.text "012")).isLE = true ∧
    compare (Scalar.text "012") (Scalar.number 1.5) =
      compare (Text.bytes "012") (Text.bytes "1.5") := by
  obtain ⟨-, htext, -, -, hantisymm, htrans, -, -, -, hhash, hvalues, hfirst, hbytes, -⟩ :=
    compares_lawfully
  have hspelled : (Scalar.text "12").toInt? = some 12 := by decide +kernel
  have hnegative : (Scalar.text "-3").toInt? = some (-3) := by decide +kernel
  have hzero : (Scalar.text "012").toInt? = none := by decide +kernel
  have hhalf : (Scalar.number 1.5).toInt? = none := by decide +kernel
  have hsame : (Scalar.int 12 == Scalar.text "12") = true :=
    hantisymm _ _ (by decide +kernel) (by decide +kernel)
  have hlt : compare (Scalar.text "-3") (Scalar.int 12) = compare (-3 : Int) 12 :=
    hvalues _ _ (-3) 12 hnegative rfl
  have hlast : compare (Scalar.text "12") (Scalar.text "012") = .lt := hfirst _ _ _ hspelled hzero
  have hnumber : (Scalar.number 1.5).canonical = "1.5" := by decide +kernel
  have hless : compare (Scalar.text "012") (Scalar.number 1.5) =
      compare (Text.bytes "012") (Text.bytes (Scalar.number 1.5).canonical) :=
    hbytes _ _ hzero hhalf
  rw [hnumber] at hless
  exact ⟨htext _ _ (by decide +kernel), hsame, hhash _ _ hsame, hlt, hlast,
    htrans _ (.text "12") _ (by decide +kernel) (by decide +kernel), hless⟩

end Gamebook
