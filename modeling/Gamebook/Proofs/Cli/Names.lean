import Gamebook.Proofs.Keys

/-!
# Names that are typed

The name of a section is typed as a text.  It is kept as an integer where the text is the decimal
spelling of one, and as the text otherwise; either way it is the same name as the text itself, so it
finds the section with that text.  Readers of integers take more than decimal spellings, a plus and
leading zeros among them; what they read is held against the spelling of the integer.

Main results:

- Definition `Number.integer?`: the integer of 64 bits that digits with a sign spell.
- Theorem `Number.integer?_toString`: the decimal spelling of an integer is read as that integer.
- Theorem `spelledInt?_eq_some_iff`: a text spells an integer when it is read as the integer and is
  its decimal spelling.
- Theorem `SectionId.typed_addresses`: which section a name that is typed addresses.
-/

namespace Gamebook

/-! ## Integers -/

namespace Number

/-- The integer that digits stand for behind a sign. -/
def signedValue (negative : Bool) (digits : List Char) : Int :=
  if negative then -natOfDigits digits else natOfDigits digits

/-- The integer of 64 bits that decimal digits spell, with a plus or a minus before them or without;
there may be zeros in front. -/
def integer? (text : String) : Option Int64 :=
  let (negative, digits) := splitSign text.toList
  let value := signedValue negative digits
  if (digits ≠ [] ∧ digits.all Char.isDigit) ∧
      Int64.minValue.toInt ≤ value ∧ value ≤ Int64.maxValue.toInt then
    some (Int64.ofInt value)
  else none

/-- Digits are read as the integer that they stand for, if it is one of 64 bits. -/
theorem integer?_of_splitSign {text : String} {negative : Bool} {m : Nat} {n : Int64}
    (hsplit : splitSign text.toList = (negative, Nat.toDigits 10 m))
    (hvalue : signedValue negative (Nat.toDigits 10 m) = n.toInt) : integer? text = some n := by
  have hdigits : (Nat.toDigits 10 m).all Char.isDigit = true :=
    List.all_eq_true.2 fun _ hc => isDigit_of_mem_toDigits hc
  have hleast : Int64.minValue.toInt ≤ n.toInt := n.minValue_le_toInt
  have hgreatest : n.toInt ≤ Int64.maxValue.toInt := Int64.le_iff_toInt_le.1 n.le_maxValue
  unfold integer?
  rw [hsplit]
  simp only [hvalue]
  rw [if_pos ⟨⟨Nat.toDigits_ne_nil, hdigits⟩, hleast, hgreatest⟩, Int64.ofInt_toInt]

/-- The decimal spelling of an integer is read as that integer. -/
theorem integer?_toString (n : Int64) : integer? (toString n) = some n := by
  have htext : (toString n).toList =
      if 0 ≤ n.toInt then Nat.toDigits 10 n.toInt.toNat
      else '-' :: Nat.toDigits 10 (-n.toInt).toNat :=
    toList_toString n.toInt
  by_cases hn : 0 ≤ n.toInt
  · rw [if_pos hn] at htext
    have hsplit : splitSign (toString n).toList = (false, Nat.toDigits 10 n.toInt.toNat) := by
      rcases exists_toDigits_eq_cons n.toInt.toNat with ⟨c, rest, hdigits, hc⟩
      rw [htext, hdigits]
      exact splitSign_cons_of_isDigit hc rest
    apply integer?_of_splitSign hsplit
    rw [signedValue, if_neg Bool.false_ne_true, natOfDigits_toDigits, Int.toNat_of_nonneg hn]
  · rw [if_neg hn] at htext
    have hneg : 0 ≤ -n.toInt := by omega
    have hsplit : splitSign (toString n).toList = (true, Nat.toDigits 10 (-n.toInt).toNat) := by
      rw [htext]
      rfl
    apply integer?_of_splitSign hsplit
    rw [signedValue, if_pos rfl, natOfDigits_toDigits, Int.toNat_of_nonneg hneg, Int.neg_neg]

end Number

/-- A text spells an integer when it is read as that integer and is its decimal spelling. -/
theorem spelledInt?_eq_some_iff {text : String} {n : Int64} :
    spelledInt? text = some n ↔ Number.integer? text = some n ∧ toString n = text := by
  constructor
  · intro hspelled
    rw [eq_toString_of_spelledInt? hspelled]
    exact ⟨Number.integer?_toString n, rfl⟩
  · rintro ⟨-, rfl⟩
    exact spelledInt?_toString n

/-! ## Names -/

namespace SectionId

variable {text : String}

/-- The name that is typed as the decimal spelling of an integer is that integer. -/
theorem ofText_of_spelledInt? {n : Int64} (hspelled : spelledInt? text = some n) :
    ofText text = .int n := by
  rw [ofText, hspelled]

/-- Any other text that is typed is a name itself. -/
theorem ofText_of_none (hspelled : spelledInt? text = none) : ofText text = .text text := by
  rw [ofText, hspelled]

/-- The name that is typed is identified by the text. -/
@[simp]
theorem canonical_ofText (text : String) : (ofText text).canonical = text := by
  cases hspelled : spelledInt? text with
  | none => rw [ofText_of_none hspelled, Scalar.canonical]
  | some n =>
    rw [ofText_of_spelledInt? hspelled, Scalar.canonical]
    exact (eq_toString_of_spelledInt? hspelled).symm

/-- The name that is typed is an integer exactly where the text spells one. -/
theorem ofText_eq_int_iff {n : Int64} : ofText text = .int n ↔ spelledInt? text = some n := by
  constructor
  · intro hint
    cases hspelled : spelledInt? text with
    | none =>
      rw [ofText_of_none hspelled] at hint
      cases hint
    | some m =>
      rw [ofText_of_spelledInt? hspelled] at hint
      cases hint
      rfl
  · exact ofText_of_spelledInt?

/-- The name that is typed is the text itself exactly where the text spells no integer. -/
theorem ofText_eq_text_iff : ofText text = .text text ↔ spelledInt? text = none := by
  constructor
  · intro htext
    cases hspelled : spelledInt? text with
    | none => rfl
    | some n =>
      rw [ofText_of_spelledInt? hspelled] at htext
      cases htext
  · exact ofText_of_none

/-- A name compares as equal to what is typed when it is identified by the text. -/
theorem compare_ofText_eq_iff {key : SectionId} :
    compare (ofText text) key = .eq ↔ key.canonical = text := by
  rw [Scalar.compare_eq_iff, Scalar.beq_iff, canonical_ofText]
  exact eq_comm

/-- A name that is typed addresses the section with that text.  It is identified by the text and is
the same name as the text itself; so it finds a section exactly where the name of one is identified
by the text, and finds that section.  It is an integer exactly where the text spells one, that is
where the text is read as an integer of 64 bits and is the decimal spelling of that integer, and
otherwise it is the text.  Whatever the name of a section is, its text is typed for it. -/
theorem typed_addresses (text : String) :
    (ofText text).canonical = text ∧
    (ofText text == Scalar.text text) = true ∧
    (∀ s : Story, s.hasSection (ofText text) = true ↔ ∃ key ∈ s.ids, key.canonical = text) ∧
    (∀ (s : Story) (sec : Section), s.section? (ofText text) = some sec ↔
      ∃ key, (key, sec) ∈ s.sections.entries ∧ key.canonical = text) ∧
    (∀ n : Int64, ofText text = .int n ↔ (Scalar.text text).toInt? = some n) ∧
    (∀ n : Int64, ofText text = .int n ↔ Number.integer? text = some n ∧ toString n = text) ∧
    (ofText text = .text text ↔ (Scalar.text text).toInt? = none) ∧
    ∀ id : SectionId, (ofText id.canonical == id) = true := by
  have hsame : (ofText text == Scalar.text text) = true := Scalar.beq_iff.2 (canonical_ofText text)
  refine ⟨canonical_ofText text, hsame, fun s => ?_, fun s sec => ?_, fun n => ofText_eq_int_iff,
    fun n => ofText_eq_int_iff.trans spelledInt?_eq_some_iff, ofText_eq_text_iff, fun id => ?_⟩
  · rw [Story.hasSection, Table.contains_eq_true_iff]
    simp only [compare_ofText_eq_iff]
    exact Iff.rfl
  · rw [Story.section?, Table.find?_eq_some_iff]
    simp only [compare_ofText_eq_iff]
  · exact Scalar.beq_iff.2 (canonical_ofText id.canonical)

/-- A plus is read with an integer, but does not belong to its spelling. -/
example : Number.integer? "+5" = some 5 ∧ ofText "+5" = .text "+5" := by
  exact ⟨by decide +kernel, ofText_of_none (by decide +kernel)⟩

/-- The least integer of 64 bits is an integer, the one below it is a text. -/
example : ofText "-9223372036854775808" = .int Int64.minValue ∧
    Number.integer? "-9223372036854775809" = none := by
  exact ⟨ofText_of_spelledInt? (by decide +kernel), by decide +kernel⟩

end SectionId

end Gamebook
