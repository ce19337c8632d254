import Gamebook.Text.Blank
import Mathlib.Data.List.DropRight

/-!
# Blanks around a text

A text without the blanks at its two ends is what is left when blanks stand before and behind it and
it neither begins nor ends with one.  Every text has exactly one such part.

Main results:

- Definition `Text.Stripped`: what is left without the blanks at the ends.
- Theorem `Text.stripped_iff`: it is what `Text.trimBlanks` gives, and nothing else.
-/

namespace Gamebook

namespace Text

/-- What is left of a text without the blanks at its two ends. -/
structure Stripped (cs left : List Char) : Prop where
  parts : ∃ before after, cs = before ++ left ++ after ∧ (∀ c ∈ before, isBlank c = true) ∧
    ∀ c ∈ after, isBlank c = true
  first : ∀ c ∈ left.head?, isBlank c = false
  last : ∀ c ∈ left.getLast?, isBlank c = false

/-- Blanks are dropped up to what begins with none. -/
theorem dropWhile_append_of_blank {before rest : List Char}
    (hbefore : ∀ c ∈ before, isBlank c = true) (hrest : ∀ c ∈ rest.head?, isBlank c = false) :
    (before ++ rest).dropWhile isBlank = rest := by
  rw [List.dropWhile_append_of_pos hbefore]
  cases rest with
  | nil => rfl
  | cons c rest => exact List.dropWhile_cons_of_neg (by simp [hrest c rfl])

/-- Trimming leaves what is left without the blanks at the ends. -/
theorem Stripped.trimBlanks_eq {cs left : List Char} (h : Stripped cs left) :
    trimBlanks cs = left := by
  rcases h with ⟨⟨before, after, rfl, hbefore, hafter⟩, hfirst, hlast⟩
  have hreverse : ∀ c ∈ after.reverse, isBlank c = true := fun c hc =>
    hafter c (List.mem_reverse.1 hc)
  rw [trimBlanks, List.append_assoc]
  by_cases hnil : left = []
  · subst hnil
    rw [List.nil_append, List.dropWhile_append_of_pos hbefore, List.dropWhile_eq_nil_iff.2 hafter]
    rfl
  · have hhead : ∀ c ∈ (left ++ after).head?, isBlank c = false := by
      rwa [List.head?_append_of_ne_nil _ hnil]
    rw [dropWhile_append_of_blank hbefore hhead, List.reverse_append,
      dropWhile_append_of_blank hreverse (by rwa [List.head?_reverse]), List.reverse_reverse]

/-- What trimming leaves has blanks around it and none at its ends. -/
theorem stripped_trimBlanks (cs : List Char) : Stripped cs (trimBlanks cs) := by
  have htrim : trimBlanks cs = (cs.dropWhile isBlank).rdropWhile isBlank := rfl
  rw [htrim]
  have hbehind := List.rdropWhile_append_rtakeWhile (p := isBlank) (l := cs.dropWhile isBlank)
  refine ⟨⟨cs.takeWhile isBlank, (cs.dropWhile isBlank).rtakeWhile isBlank, ?_,
    fun c => List.mem_takeWhile_imp, fun c => List.mem_rtakeWhile_imp⟩, ?_, ?_⟩
  · rw [List.append_assoc, hbehind, List.takeWhile_append_dropWhile]
  · intro c hc
    have hhead : c ∈ (cs.dropWhile isBlank).head? := by
      rw [← hbehind]
      exact List.mem_head?_append_of_mem_head? hc
    have hnot := List.head?_dropWhile_not isBlank cs
    rw [Option.mem_def.1 hhead] at hnot
    exact hnot
  · intro c hc
    rcases List.mem_getLast?_eq_getLast hc with ⟨hne, rfl⟩
    exact Bool.eq_false_iff.2 (List.rdropWhile_last_not isBlank _ hne)

/-- What is left without the blanks at the ends is what trimming leaves. -/
theorem stripped_iff {cs left : List Char} : Stripped cs left ↔ left = trimBlanks cs := by
  constructor
  · exact fun h => h.trimBlanks_eq.symm
  · rintro rfl
    exact stripped_trimBlanks cs

end Text

end Gamebook
