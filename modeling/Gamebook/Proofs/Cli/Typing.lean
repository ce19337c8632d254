import Gamebook.Cli.Player
import Gamebook.Proofs.Number.Digits

/-!
# Numbers that are typed

A reader of the player types the number of a choice.  The decimal spelling of a number is read as
that number up to 64 bits; larger numbers and negative ones are no numbers to the player.

Main results:

- Theorem `Wish.ofLine_of_numerals`: what is typed in digits and hyphens is a number, or
  unknown.
- Theorem `Wish.ofLine_toString`: what becomes of an integer that is typed.
- Theorem `withoutLineEnd_toString`: the line break after it does not count.
-/

namespace Gamebook

namespace Text

/-- Nothing is dropped from a text of other characters. -/
theorem dropWhile_of_all {p : Char → Bool} {cs : List Char} (hcs : ∀ c ∈ cs, p c = false) :
    cs.dropWhile p = cs := by
  cases cs with
  | nil => rfl
  | cons c rest =>
    apply List.dropWhile_cons_of_neg
    rw [hcs c List.mem_cons_self]
    exact Bool.false_ne_true

/-- A text without blanks stays as it is. -/
theorem trimBlanks_of_all {cs : List Char} (hcs : ∀ c ∈ cs, isBlank c = false) :
    trimBlanks cs = cs := by
  have hreverse : ∀ c ∈ cs.reverse, isBlank c = false := fun c hc => hcs c (List.mem_reverse.1 hc)
  rw [trimBlanks, dropWhile_of_all hcs, dropWhile_of_all hreverse, List.reverse_reverse]

end Text

namespace Cli

/-- The character can stand in the decimal spelling of an integer. -/
def isNumeral (c : Char) : Bool :=
  c.isDigit || c == '-'

/-- The code points of the characters in the decimal spellings of integers. -/
theorem toNat_of_isNumeral {c : Char} (hc : isNumeral c = true) :
    c.toNat = 45 ∨ 48 ≤ c.toNat ∧ c.toNat ≤ 57 := by
  simp only [isNumeral, Char.isDigit, Bool.or_eq_true, Bool.and_eq_true, decide_eq_true_eq,
    beq_iff_eq] at hc
  rcases hc with ⟨hlow, hhigh⟩ | rfl
  · exact Or.inr ⟨UInt32.le_iff_toNat_le.1 hlow, UInt32.le_iff_toNat_le.1 hhigh⟩
  · exact Or.inl rfl

/-- Spellings of integers have no blanks. -/
theorem isBlank_of_isNumeral {c : Char} (hc : isNumeral c = true) : Text.isBlank c = false := by
  have hcode := toNat_of_isNumeral hc
  rw [Text.isBlank, ← Bool.not_eq_true, Text.Ranges.has_eq_true_iff]
  simp only [Text.blankRanges, List.mem_cons, List.not_mem_nil, or_false, exists_eq_or_imp,
    exists_eq_left]
  omega

/-- Spellings of integers have no capital letters. -/
theorem toLower_of_isNumeral {c : Char} (hc : isNumeral c = true) : c.toLower = c := by
  have hcode := toNat_of_isNumeral hc
  unfold Char.toLower
  rw [dif_neg]
  rintro ⟨hlow, -⟩
  have hcapital : 65 ≤ c.toNat := UInt32.le_iff_toNat_le.1 hlow
  omega

/-- An integer is spelled by such characters. -/
theorem all_isNumeral_toString (z : Int) : (toString z).toList.all isNumeral = true := by
  have hdigits : ∀ n : Nat, ∀ c ∈ Nat.toDigits 10 n, isNumeral c = true := by
    intro n c hc
    rw [isNumeral, Number.isDigit_of_mem_toDigits hc, Bool.true_or]
  rw [Number.toList_toString, List.all_eq_true]
  split
  · exact hdigits z.toNat
  · rw [List.forall_mem_cons]
    exact ⟨rfl, hdigits (-z).toNat⟩

/-- What is typed in digits and hyphens is a number, or unknown. -/
theorem Wish.ofLine_of_numerals {line : String} (hne : line ≠ "")
    (hline : line.toList.all isNumeral = true) :
    Wish.ofLine line =
      match Number.word? line with
      | some n => .choose n
      | none => .unknown line := by
  have hall := List.all_eq_true.1 hline
  have htrim : Text.trimBlanks line.toList = line.toList :=
    Text.trimBlanks_of_all fun c hc => isBlank_of_isNumeral (hall c hc)
  have hlower : line.map Char.toLower = line := by
    apply String.toList_injective
    rw [String.toList_map, List.map_congr_left (g := id), List.map_id]
    intro c hc
    exact toLower_of_isNumeral (hall c hc)
  change line.toLower = line at hlower
  unfold Wish.ofLine
  simp only [htrim, String.ofList_toList, hlower]
  rw [if_neg]
  · split
    · exact absurd rfl hne
    all_goals first
      | cases hline
      | rfl
  · rintro (rfl | rfl)
    · cases hline
    · cases hline

/-- The decimal spelling of an integer is the wish for the choice of that number, if it is one of 64
bits, and unknown otherwise. -/
theorem Wish.ofLine_toString (z : Int) :
    Wish.ofLine (toString z) =
      if 0 ≤ z ∧ z < UInt64.size then .choose z.toNat else .unknown (toString z) := by
  have hne : toString z ≠ "" := by
    intro hempty
    have htext := Number.toList_toString z
    rw [hempty] at htext
    split at htext
    · exact absurd htext.symm Nat.toDigits_ne_nil
    · cases htext
  rw [Wish.ofLine_of_numerals hne (all_isNumeral_toString z), Number.word?_toString]
  by_cases hz : 0 ≤ z ∧ z < UInt64.size
  · simp only [if_pos hz]
  · simp only [if_neg hz]

/-- A line break after the spelling of an integer is taken off. -/
theorem withoutLineEnd_toString (z : Int) :
    withoutLineEnd (toString z ++ "\n") = toString z := by
  have hkeep : ∀ c ∈ (toString z).toList.reverse, isLineEnd c = false := by
    intro c hc
    have hcode := toNat_of_isNumeral
      (List.all_eq_true.1 (all_isNumeral_toString z) c (List.mem_reverse.1 hc))
    rw [isLineEnd, Bool.or_eq_false_iff, decide_eq_false_iff_not, decide_eq_false_iff_not]
    constructor <;> rintro rfl <;> revert hcode <;> decide
  have hend : ("\n" : String).toList = ['\n'] := rfl
  rw [withoutLineEnd, String.toList_append, hend, List.reverse_append, List.reverse_singleton,
    List.singleton_append, List.dropWhile_cons_of_pos rfl, Text.dropWhile_of_all hkeep,
    List.reverse_reverse, String.ofList_toList]

end Cli

end Gamebook
