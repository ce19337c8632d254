import Gamebook.Text.Lines

/-!
# Replacing a piece of text

How a replacement walks through a text: past what does not begin an occurrence, and over an
occurrence as a whole.  A pattern of two different characters does not overlap with itself, so that
a text is replaced in parts around every place where it occurs.

Main results:

- Theorems `Text.replaceFrom_append_of_notMem` and `Text.replaceFrom_append_self`: how a replacement
  walks past other text and through an occurrence.
- Theorem `Text.replaceFrom_of_not_occurs`: a text without the pattern stays as it is.
- Theorem `Text.replaceFrom_pair_append`: the parts around an occurrence are replaced by themselves.
-/

namespace Gamebook

namespace Text

variable {first : Char} {pattern new rest : List Char}

/-- A replacement leaves what does not hold the first character of the pattern. -/
theorem replaceFrom_append_of_notMem {cs : List Char} (hcs : first ∉ cs) :
    replaceFrom (first :: pattern) new 0 (cs ++ rest) =
      cs ++ replaceFrom (first :: pattern) new 0 rest := by
  induction cs with
  | nil => rfl
  | cons c cs ih =>
    rw [List.mem_cons, not_or] at hcs
    rcases hcs with ⟨hc, hcs⟩
    have hnot : (first :: pattern).isPrefixOf (c :: (cs ++ rest)) = false := by
      rw [List.isPrefixOf_cons_cons, beq_false_of_ne hc, Bool.false_and]
    rw [List.cons_append, replaceFrom, hnot, ih hcs]
    rfl

/-- A replacement passes over as many characters as it is told to. -/
theorem replaceFrom_length_append (pattern new cs rest : List Char) :
    replaceFrom pattern new cs.length (cs ++ rest) = replaceFrom pattern new 0 rest := by
  induction cs with
  | nil => rfl
  | cons c cs ih =>
    rw [List.length_cons, List.cons_append, replaceFrom]
    exact ih

/-- A replacement puts the new text in the place of an occurrence. -/
theorem replaceFrom_append_self :
    replaceFrom (first :: pattern) new 0 (first :: pattern ++ rest) =
      new ++ replaceFrom (first :: pattern) new 0 rest := by
  have hoccurs : (first :: pattern).isPrefixOf (first :: (pattern ++ rest)) = true :=
    List.isPrefixOf_iff_prefix.2 (List.prefix_append (first :: pattern) rest)
  rw [List.cons_append, replaceFrom, if_pos hoccurs, List.length_cons, Nat.add_sub_cancel,
    replaceFrom_length_append]

/-- A replacement writes down the first character where no occurrence begins. -/
theorem replaceFrom_cons_of_not_begins {c : Char} (hnot : ¬ pattern <+: c :: rest) :
    replaceFrom pattern new 0 (c :: rest) = c :: replaceFrom pattern new 0 rest := by
  rw [replaceFrom, if_neg (mt List.isPrefixOf_iff_prefix.1 hnot)]

/-- A text without the pattern stays as it is. -/
theorem replaceFrom_of_not_occurs {cs : List Char} (hnot : ¬ pattern <:+: cs) :
    replaceFrom pattern new 0 cs = cs := by
  induction cs with
  | nil => rfl
  | cons c cs ih =>
    have hprefix : ¬ pattern <+: c :: cs := fun h => hnot h.isInfix
    have hinfix : ¬ pattern <:+: cs := fun h => hnot (List.infix_cons h)
    rw [replaceFrom_cons_of_not_begins hprefix, ih hinfix]

/-- Around an occurrence of a pattern of two different characters, the parts of a text are replaced
each by itself. -/
theorem replaceFrom_pair_append {p q : Char} (hne : p ≠ q) (new rest : List Char) :
    ∀ cs, replaceFrom [p, q] new 0 (cs ++ p :: q :: rest) =
      replaceFrom [p, q] new 0 cs ++ new ++ replaceFrom [p, q] new 0 rest
  | [] => replaceFrom_append_self
  | [c] => by
    -- an occurrence at the last character would need both of the pattern to be the same
    have hlast : ¬ [p, q] <+: c :: p :: q :: rest := by
      intro h
      rcases List.cons_prefix_cons.1 (List.cons_prefix_cons.1 h).2 with ⟨hqp, -⟩
      exact hne hqp.symm
    have hsingle : ¬ [p, q] <+: [c] := by
      intro h
      exact absurd h.length_le (by simp)
    have hself : replaceFrom [p, q] new 0 (p :: q :: rest) =
        new ++ replaceFrom [p, q] new 0 rest := replaceFrom_append_self
    rw [List.cons_append, List.nil_append, replaceFrom_cons_of_not_begins hlast, hself,
      replaceFrom_cons_of_not_begins hsingle]
    rfl
  | c :: d :: more => by
    by_cases hoccurs : [p, q] <+: [c, d]
    · cases hoccurs.eq_of_length rfl
      have hmore (tail : List Char) : replaceFrom [p, q] new 0 (p :: q :: tail) =
          new ++ replaceFrom [p, q] new 0 tail := replaceFrom_append_self
      rw [List.cons_append, List.cons_append, hmore, hmore,
        replaceFrom_pair_append hne new rest more, List.append_assoc new, List.append_assoc new]
    · have hnot (tail : List Char) : ¬ [p, q] <+: c :: d :: tail := by
        intro h
        exact hoccurs
          (List.prefix_of_prefix_length_le h (List.prefix_append [c, d] tail) (Nat.le_refl 2))
      rw [List.cons_append, List.cons_append, replaceFrom_cons_of_not_begins (hnot _),
        replaceFrom_cons_of_not_begins (hnot more), ← List.cons_append,
        replaceFrom_pair_append hne new rest (d :: more)]
      rfl

end Text

end Gamebook
