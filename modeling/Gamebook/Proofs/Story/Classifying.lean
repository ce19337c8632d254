import Gamebook.Proofs.Route.First
import Gamebook.Proofs.Story.Removing

/-!
# Roots, leaves and dangling choices

The roots of a story are found by collecting the targets of all choices in a set that is kept in the
order of names, while a single section is tested by going through the choices and comparing names.
Names compare as equal exactly when they are the same, so both tell the same sections, however the
names are written on the two sides of a choice.

Main results:

- Theorems `Story.roots_eq` and `Story.leaves_eq`: the lists are the names that pass the tests.
- Theorems `Story.isRoot_iff` and `Story.isLeaf_iff`: what the tests say.
- Theorems `Story.pairwise_danglingChoices` and `Story.mem_danglingChoices_iff`: the order of the
  choices that dangle, and which ones do.
- Theorem `Story.classifies_sections`: all of it together.
-/

namespace Gamebook

namespace Table

variable {κ ν : Type} [Ord κ] [Std.TransOrd κ]

/-- After an insertion there are the keys from before and those that compare as equal to the new
one. -/
theorem contains_insert (t : Table κ ν) (new key : κ) (value : ν) :
    (t.insert new value).contains key = true ↔
      compare key new = .eq ∨ t.contains key = true := by
  by_cases hkey : compare key new = .eq
  · simp [contains, find?_insert_of_eq t value hkey, hkey]
  · simp [contains, find?_insert_of_ne t value hkey, hkey]

/-- The keys of a table of some entries are those of the entries. -/
theorem contains_ofList_iff {entries : List (κ × ν)} {key : κ} :
    (ofList entries).contains key = true ↔ ∃ e ∈ entries, compare key e.1 = .eq := by
  have hfold : ∀ t : Table κ ν,
      (entries.foldl (fun t e => t.insert e.1 e.2) t).contains key = true ↔
        t.contains key = true ∨ ∃ e ∈ entries, compare key e.1 = .eq := by
    induction entries with
    | nil => simp
    | cons e rest ih =>
      intro t
      rw [List.foldl_cons, ih, contains_insert, List.exists_mem_cons_iff, or_assoc, or_left_comm]
  have hempty : ¬(empty : Table κ ν).contains key = true := Bool.false_ne_true
  exact (hfold empty).trans (or_iff_right hempty)

end Table

namespace Story

variable {s : Story}

/-! ## Names and targets -/

/-- The names of the sections stand in ascending order, each once. -/
theorem pairwise_ids (s : Story) : s.ids.Pairwise fun a b => compare a b = .lt := by
  rw [ids, Table.keys, List.pairwise_map]
  exact s.sections.ascending

/-- A name names a section exactly when the name of a section is the same. -/
theorem hasSection_iff {id : SectionId} :
    s.hasSection id = true ↔ ∃ key ∈ s.ids, (key == id) = true := by
  simp only [hasSection, Table.contains_eq_true_iff, Std.LawfulBEqOrd.compare_eq_iff_beq,
    BEq.comm (a := id), ids]

/-- A name is missing exactly when the names of all sections differ from it. -/
theorem hasSection_eq_false_iff_forall {id : SectionId} :
    s.hasSection id = false ↔ ∀ key ∈ s.ids, (key == id) = false := by
  rw [← Bool.not_eq_true, hasSection_iff]
  simp

/-- The entry of a name is the section with that name. -/
theorem section?_of_mem_entries {id : SectionId} {sec : Section}
    (hentry : (id, sec) ∈ s.sections.entries) : s.section? id = some sec :=
  Table.find?_of_mem hentry Std.ReflOrd.compare_self

/-- Some section leads to a name exactly when the name is the target of a choice. -/
theorem exists_leadsTo_iff {id : SectionId} :
    (∃ owner, s.LeadsTo owner id) ↔ ∃ target ∈ s.targets, (target == id) = true := by
  rw [targets_eq_flatMap]
  simp only [List.mem_flatMap, List.mem_map, LeadsTo]
  constructor
  · rintro ⟨owner, sec, hsec, c, hc, hid⟩
    rcases Table.exists_mem_of_find? hsec with ⟨key, hentry, -⟩
    exact ⟨c.target, ⟨(key, sec), hentry, c, hc, rfl⟩, hid⟩
  · rintro ⟨_, ⟨⟨owner, sec⟩, hentry, c, hc, rfl⟩, hid⟩
    exact ⟨owner, sec, section?_of_mem_entries hentry, c, hc, hid⟩

/-- The set of targets holds every name that is the same as a target. -/
theorem contains_targetSet_iff {id : SectionId} :
    s.targetSet.contains id = true ↔ ∃ target ∈ s.targets, (target == id) = true := by
  simp only [targetSet, Table.contains_ofList_iff, List.mem_map, exists_exists_and_eq_and,
    Std.LawfulBEqOrd.compare_eq_iff_beq, BEq.comm (a := id)]

/-! ## Roots -/

/-- A root is a section that no section leads to, itself included. -/
theorem isRoot_iff {id : SectionId} :
    s.isRoot id = true ↔ s.hasSection id = true ∧ ∀ owner, ¬s.LeadsTo owner id := by
  have htargets : (s.sections.values.any fun sec => sec.choices.any fun c => c.target == id) =
      s.targets.any fun target => target == id := by
    simp only [targets, List.any_flatMap, List.any_map, Function.comp_def]
  rw [← not_exists, exists_leadsTo_iff, isRoot, htargets, Bool.and_eq_true, Bool.not_eq_true',
    ← Bool.not_eq_true, List.any_eq_true]

/-- The roots are the names of the sections that are roots. -/
theorem roots_eq (s : Story) : s.roots = s.ids.filter s.isRoot := by
  apply List.filter_congr
  intro id hid
  have hhas : s.hasSection id = true := hasSection_iff.2 ⟨id, hid, BEq.rfl⟩
  rw [Bool.eq_iff_iff, isRoot_iff, Bool.not_eq_true', ← Bool.not_eq_true, contains_targetSet_iff,
    ← exists_leadsTo_iff, not_exists]
  exact (and_iff_right hhas).symm

/-! ## Leaves -/

/-- A leaf is a section without choices. -/
theorem isLeaf_iff {id : SectionId} :
    s.isLeaf id = true ↔ ∃ sec, s.section? id = some sec ∧ sec.choices = [] := by
  simp [isLeaf, Option.any_eq_true, Section.isLeaf]

/-- The leaves are the names of the sections that are leaves. -/
theorem leaves_eq (s : Story) : s.leaves = s.ids.filter s.isLeaf := by
  rw [leaves, ids, Table.keys, List.filter_map]
  congr 1
  apply List.filter_congr
  rintro ⟨id, sec⟩ hentry
  rw [Function.comp_apply, isLeaf, section?_of_mem_entries hentry, Option.any_some]

/-! ## Dangling choices -/

/-- A choice of a section leads to a name that is missing. -/
structure Dangles (s : Story) (d : Dangling) : Prop where
  owner_mem : d.owner ∈ s.ids
  choice : ∃ c, s.choiceAt? d.owner d.position = some c ∧ c.target = d.target
  missing : ∀ key ∈ s.ids, (key == d.target) = false

/-- Dangling choices come by the names of their sections, and those of one section by their
positions. -/
def Dangling.Before (d e : Dangling) : Prop :=
  compare d.owner e.owner = .lt ∨ d.owner = e.owner ∧ d.position < e.position

/-- No dangling choice comes before itself. -/
theorem Dangling.not_before_self (d : Dangling) : ¬d.Before d := by
  rintro (hlt | ⟨-, hlt⟩)
  · rw [Std.ReflOrd.compare_self] at hlt
    cases hlt
  · exact Nat.lt_irrefl _ hlt

/-- The dangling choices of one section. -/
def danglingOf (s : Story) (owner : SectionId) (sec : Section) : List Dangling :=
  sec.choices.zipIdx.filterMap fun (c, position) =>
    if s.hasSection c.target then none else some { owner, position, target := c.target }

/-- The dangling choices are those of the sections, one section after the other. -/
theorem danglingChoices_eq (s : Story) :
    s.danglingChoices = s.sections.entries.flatMap fun e => s.danglingOf e.1 e.2 :=
  rfl

/-- A section dangles by its choices whose targets are missing, at their positions. -/
theorem mem_danglingOf_iff {owner : SectionId} {sec : Section} {d : Dangling} :
    d ∈ s.danglingOf owner sec ↔
      d.owner = owner ∧ s.hasSection d.target = false ∧
        ∃ c, sec.choices[d.position]? = some c ∧ c.target = d.target := by
  simp only [danglingOf, List.mem_filterMap, Prod.exists, List.mk_mem_zipIdx_iff_getElem?,
    Option.ite_none_left_eq_some, Option.some.injEq, Bool.not_eq_true]
  constructor
  · rintro ⟨c, position, hc, hmissing, rfl⟩
    exact ⟨rfl, hmissing, c, hc, rfl⟩
  · rintro ⟨rfl, hmissing, c, hc, htarget⟩
    rw [← htarget] at hmissing
    exact ⟨c, d.position, hc, hmissing, by rw [htarget]⟩

/-- The dangling choices of one section are listed by their positions. -/
theorem pairwise_danglingOf (s : Story) (owner : SectionId) (sec : Section) :
    (s.danglingOf owner sec).Pairwise Dangling.Before := by
  have hpositions : sec.choices.zipIdx.Pairwise fun p q => p.2 < q.2 := by
    rw [← List.pairwise_map (f := Prod.snd), List.zipIdx_map_snd]
    exact List.pairwise_lt_range' 1
  rw [danglingOf, List.pairwise_filterMap]
  apply hpositions.imp
  rintro ⟨c, i⟩ ⟨c', j⟩ hlt d hd e he
  rw [Option.ite_none_left_eq_some, Option.some.injEq] at hd he
  rcases hd with ⟨-, rfl⟩
  rcases he with ⟨-, rfl⟩
  exact Or.inr ⟨rfl, hlt⟩

/-- The dangling choices are listed in their order, and so each once. -/
theorem pairwise_danglingChoices (s : Story) : s.danglingChoices.Pairwise Dangling.Before := by
  rw [danglingChoices_eq, List.pairwise_flatMap]
  refine ⟨fun e _ => s.pairwise_danglingOf e.1 e.2, s.sections.ascending.imp ?_⟩
  intro e e' hlt d hd d' hd'
  have howner := (mem_danglingOf_iff.1 hd).1
  have howner' := (mem_danglingOf_iff.1 hd').1
  exact Or.inl (by rw [howner, howner', hlt])

/-- The dangling choices are exactly those that lead to missing names. -/
theorem mem_danglingChoices_iff {d : Dangling} : d ∈ s.danglingChoices ↔ s.Dangles d := by
  simp only [danglingChoices_eq, List.mem_flatMap, Prod.exists, mem_danglingOf_iff]
  constructor
  · rintro ⟨owner, sec, hentry, rfl, hmissing, hchoice⟩
    refine ⟨List.mem_map_of_mem (f := Prod.fst) hentry, ?_,
      hasSection_eq_false_iff_forall.1 hmissing⟩
    rwa [choiceAt?_of_mem hentry]
  · rintro ⟨howner, hchoice, hmissing⟩
    rcases List.mem_map.1 howner with ⟨⟨owner, sec⟩, hentry, rfl⟩
    rw [choiceAt?_of_mem hentry] at hchoice
    exact ⟨_, sec, hentry, rfl, hasSection_eq_false_iff_forall.2 hmissing, hchoice⟩

/-- A target is reported exactly when it is missing. -/
theorem exists_mem_danglingChoices_iff {target : SectionId} (htarget : target ∈ s.targets) :
    (∃ d ∈ s.danglingChoices, d.target = target) ↔ ∀ key ∈ s.ids, (key == target) = false := by
  constructor
  · rintro ⟨d, hd, rfl⟩
    exact (mem_danglingChoices_iff.1 hd).missing
  · intro hmissing
    rw [targets_eq_flatMap, List.mem_flatMap] at htarget
    rcases htarget with ⟨⟨owner, sec⟩, hentry, hmem⟩
    rcases List.mem_map.1 hmem with ⟨c, hc, rfl⟩
    rcases List.mem_iff_getElem?.1 hc with ⟨position, hposition⟩
    refine ⟨{ owner, position, target := c.target }, mem_danglingChoices_iff.2 ⟨?_, ?_, hmissing⟩,
      rfl⟩
    · exact List.mem_map_of_mem (f := Prod.fst) hentry
    · exact ⟨c, (choiceAt?_of_mem hentry position).trans hposition, rfl⟩

/-! ## All together -/

/-- The names of the sections stand in ascending order.  The roots and the leaves are, in that
order, the names that pass the tests for roots and leaves: of sections that no choice leads to, and
of sections without choices.  The dangling choices are listed by section and position, each once,
and they are those whose targets are missing.  So a section is a root exactly when its name is not
among the targets, and a target is reported exactly when it is not among the names. -/
theorem classifies_sections (s : Story) :
    (s.ids.Pairwise fun a b => compare a b = .lt) ∧
      s.roots = s.ids.filter s.isRoot ∧
      s.leaves = s.ids.filter s.isLeaf ∧
      (∀ id, s.isRoot id = true ↔
        (∃ key ∈ s.ids, (key == id) = true) ∧ ∀ owner, ¬s.LeadsTo owner id) ∧
      (∀ id, s.isLeaf id = true ↔ ∃ sec, s.section? id = some sec ∧ sec.choices = []) ∧
      s.danglingChoices.Pairwise Dangling.Before ∧
      s.danglingChoices.Nodup ∧
      (∀ d, d ∈ s.danglingChoices ↔ s.Dangles d) ∧
      (∀ id ∈ s.ids, id ∈ s.roots ↔ ∀ target ∈ s.targets, (target == id) = false) ∧
      ∀ target ∈ s.targets, (∃ d ∈ s.danglingChoices, d.target = target) ↔
        ∀ key ∈ s.ids, (key == target) = false := by
  refine ⟨s.pairwise_ids, s.roots_eq, s.leaves_eq, ?_, fun _ => isLeaf_iff,
    s.pairwise_danglingChoices, ?_, fun _ => mem_danglingChoices_iff, ?_,
    fun _ => exists_mem_danglingChoices_iff⟩
  · intro id
    rw [isRoot_iff, hasSection_iff]
  · rw [List.nodup_iff_pairwise_ne]
    apply s.pairwise_danglingChoices.imp
    rintro d _ hbefore rfl
    exact d.not_before_self hbefore
  · intro id hid
    rw [roots_eq, List.mem_filter, and_iff_right hid, isRoot_iff,
      and_iff_right (hasSection_iff.2 ⟨id, hid, BEq.rfl⟩), ← not_exists, exists_leadsTo_iff]
    simp

/-- A cave in which some names are written as numbers and some as texts. -/
def caveBelowHall : Story where
  sections := .ofList
    [(.text "1", { next := some [{ text := "Down", target := .int 2 }] }),
     (.text "2", { next := some [] }),
     (.int 3, { next := some [{ text := "Stay", target := .text "3" }] })]

example : caveBelowHall.roots = [.text "1"] ∧ caveBelowHall.leaves = [.text "2"] :=
  ⟨rfl, rfl⟩

end Story

end Gamebook
