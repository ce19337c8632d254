import Gamebook.Proofs.Story.Carrying
import Gamebook.Story.Graph
import Mathlib.Data.List.Basic

/-!
# Removing sections

With a section go the choices that lead to it.  What is left are the other sections with their other
choices, in the same order, so no choice that led somewhere leads nowhere afterwards: the choices
that dangle are those that dangled before, without those of the section.

Main results:

- Definition `Story.danglingPairs`: the dangling choices themselves, with their owners.
- Theorem `Story.choiceCount_without`: how many choices a removal loses.
- Theorem `Story.removeSection_leaves_rest`: what a removal leaves as a whole.
-/

namespace Gamebook

/-- Whether two names differ shows from their order. -/
theorem Scalar.compare_bne_eq (a b : Scalar) : (compare a b != .eq) = !(b == a) := by
  rw [BEq.comm, Bool.eq_iff_iff, bne_iff_ne, Bool.not_eq_true', ← Bool.not_eq_true,
    ← Std.LawfulBEqOrd.compare_eq_iff_beq (a := a)]

/-- What comes of the elements that are kept is kept, where what comes of an element is kept with
it. -/
theorem filter_flatMap_of_forall {α β : Type} {f : α → List β} {p : α → Bool} {q : β → Bool}
    {xs : List α} (hkept : ∀ a ∈ xs, ∀ b ∈ f a, q b = p a) :
    (xs.flatMap f).filter q = (xs.filter p).flatMap f := by
  induction xs with
  | nil => rfl
  | cons a rest ih =>
    rcases List.forall_mem_cons.1 hkept with ⟨hfirst, hrest⟩
    rw [List.flatMap_cons, List.filter_append, ih hrest, List.filter_cons]
    cases ha : p a with
    | true =>
      rw [List.filter_eq_self.2 fun b hb => (hfirst b hb).trans ha, if_pos rfl, List.flatMap_cons]
    | false =>
      have hnone : (f a).filter q = [] := List.filter_eq_nil_iff.2 fun b hb => by
        rw [hfirst b hb, ha]
        exact Bool.false_ne_true
      rw [hnone, List.nil_append, if_neg Bool.false_ne_true]

namespace Section

/-- The number of choices of a section that do not lead to a name. -/
def awayCount (sec : Section) (id : SectionId) : Nat :=
  sec.choices.countP fun c => !(c.target == id)

/-- No choice leads away from a name where all lead to it. -/
theorem awayCount_eq_zero_iff {sec : Section} {id : SectionId} :
    sec.awayCount id = 0 ↔ ∀ c ∈ sec.choices, (c.target == id) = true := by
  simp only [awayCount, List.countP_eq_zero, Bool.not_eq_true', Bool.not_eq_false]

end Section

namespace Story

/-! ## Dangling choices -/

/-- The choice at a position of a section. -/
def choiceAt? (s : Story) (owner : SectionId) (position : Nat) : Option Choice :=
  (s.section? owner).bind fun sec => sec.choices[position]?

/-- The choices that lead to missing sections, each with the section that it belongs to. -/
def danglingPairs (s : Story) : List (SectionId × Option Choice) :=
  s.danglingChoices.map fun d => (d.owner, s.choiceAt? d.owner d.position)

/-- The choice of a section that is listed. -/
theorem choiceAt?_of_mem {s : Story} {owner : SectionId} {sec : Section}
    (hentry : (owner, sec) ∈ s.sections.entries) (position : Nat) :
    s.choiceAt? owner position = sec.choices[position]? := by
  have hsec : s.section? owner = some sec :=
    Table.find?_of_mem hentry Std.ReflOrd.compare_self
  rw [choiceAt?, hsec, Option.bind_some]

/-- The dangling choices are those of the sections, one section after the other, that lead to
missing sections. -/
theorem danglingPairs_eq (s : Story) :
    s.danglingPairs = s.sections.entries.flatMap fun e =>
      (e.2.choices.filter fun c => !s.hasSection c.target).map fun c => (e.1, some c) := by
  rw [danglingPairs, danglingChoices, List.map_flatMap]
  apply List.flatMap_congr
  rintro ⟨owner, sec⟩ hentry
  dsimp only
  calc
    _ = sec.choices.zipIdx.filterMap fun x =>
          if s.hasSection x.1.target then none else some (owner, some x.1) := by
      rw [List.map_filterMap]
      apply List.filterMap_congr
      rintro ⟨c, position⟩ hc
      have hchoice : s.choiceAt? owner position = some c := by
        rw [choiceAt?_of_mem hentry]
        exact List.mk_mem_zipIdx_iff_getElem?.1 hc
      dsimp only
      split
      · rfl
      · rw [Option.map_some, hchoice]
    _ = (sec.choices.zipIdx.map Prod.fst).filterMap fun c =>
          if s.hasSection c.target then none else some (owner, some c) := by
      rw [List.filterMap_map]
      rfl
    _ = _ := by
      rw [List.zipIdx_map_fst, ← List.filterMap_eq_map, List.filterMap_filter]
      congr
      funext c
      cases s.hasSection c.target <;> rfl

/-! ## What is left -/

/-- The story without a section and without the choices that lead to it. -/
def without (s : Story) (id : SectionId) : Story :=
  { s with
    sections := (s.sections.erase id).mapEntries fun _ sec =>
      sec.keepChoices fun c => !(c.target == id) }

/-- Removing a section that exists gives it, and the story without it. -/
theorem removeSection_of_section? {s : Story} {id : SectionId} {sec : Section}
    (hsec : s.section? id = some sec) : s.removeSection id = .ok (sec, s.without id) := by
  rw [removeSection, requireSection, hsec]
  rfl

/-- A section that does not exist is not removed. -/
theorem removeSection_of_section?_eq_none {s : Story} {id : SectionId}
    (hsec : s.section? id = none) : s.removeSection id = .error (.missingSection id) := by
  rw [removeSection, requireSection, hsec]
  rfl

variable (s : Story) (id : SectionId)

/-- The entries of other names are left when a name is taken away. -/
theorem entries_erase :
    (s.sections.erase id).entries = s.sections.entries.filter fun e => !(e.1 == id) := by
  simp only [Table.erase, Scalar.compare_bne_eq]

/-- The other entries are left, without the choices that lead to the removed section. -/
theorem entries_without :
    (s.without id).sections.entries =
      (s.sections.entries.filter fun e => !(e.1 == id)).map fun e =>
        (e.1, e.2.keepChoices fun c => !(c.target == id)) := by
  rw [← entries_erase]
  rfl

/-- The names of the other sections are left. -/
theorem ids_without : (s.without id).ids = s.ids.filter fun other => !(other == id) := by
  rw [ids, Table.keys, entries_without, List.map_map, ids, Table.keys, List.filter_map]
  rfl

/-- A name that is left is one of another section. -/
theorem hasSection_without (other : SectionId) :
    (s.without id).hasSection other = (s.hasSection other && !(other == id)) := by
  have hkeys : (s.without id).hasSection other = (s.sections.erase id).contains other :=
    Table.contains_congr_keys (Table.keys_mapEntries _ _) other
  rw [hkeys, Table.contains, Table.find?_erase, hasSection, Table.contains]
  split
  · next heq =>
    rw [Std.LawfulBEqOrd.compare_eq_iff_beq.1 heq]
    exact (Bool.and_false _).symm
  · next hne =>
    have hother : (other == id) = false :=
      Bool.eq_false_iff.2 fun heq => hne (Std.LawfulBEqOrd.compare_eq_iff_beq.2 heq)
    rw [hother]
    exact (Bool.and_true _).symm

/-- The targets of a story, one entry after the other. -/
theorem targets_eq_flatMap :
    s.targets = s.sections.entries.flatMap fun e => e.2.choices.map Choice.target := by
  rw [targets, Table.values, List.flatMap_map]

/-- The targets that are left are those of the other sections, but for the removed one. -/
theorem targets_without :
    (s.without id).targets =
      ((s.sections.entries.filter fun e => !(e.1 == id)).flatMap fun e =>
        e.2.choices.map Choice.target).filter fun target => !(target == id) := by
  rw [targets_eq_flatMap, entries_without, List.flatMap_map, List.filter_flatMap]
  apply List.flatMap_congr
  intro e _
  rw [Section.choices_keepChoices, List.filter_map]
  rfl

variable {s id}

/-- A choice that is kept dangles afterwards exactly if it did before: the removed section was not
missing, so no choice that dangled led to it. -/
theorem filter_dangling_without (hid : s.hasSection id = true) (choices : List Choice) :
    ((choices.filter fun c => !(c.target == id)).filter fun c =>
        !(s.without id).hasSection c.target) =
      choices.filter fun c => !s.hasSection c.target := by
  rw [List.filter_filter]
  apply List.filter_congr
  intro c _
  rw [hasSection_without]
  cases heq : c.target == id with
  | true =>
    have htarget : s.hasSection c.target = s.hasSection id :=
      Table.contains_congr s.sections (Std.LawfulBEqOrd.compare_eq_iff_beq.2 heq)
    rw [htarget, hid]
    rfl
  | false => rw [Bool.not_false, Bool.and_true, Bool.and_true]

/-- The choices that dangle afterwards are those of the other sections that dangled before. -/
theorem danglingPairs_without (hid : s.hasSection id = true) :
    (s.without id).danglingPairs = s.danglingPairs.filter fun p => !(p.1 == id) := by
  rw [danglingPairs_eq, danglingPairs_eq, entries_without, List.flatMap_map,
    filter_flatMap_of_forall (p := fun e => !(e.1 == id))]
  · apply List.flatMap_congr
    intro e _
    rw [Section.choices_keepChoices, filter_dangling_without hid]
  · intro e _ p hp
    rcases List.mem_map.1 hp with ⟨c, -, rfl⟩
    rfl

/-! ## How many choices are lost -/

/-- The number of choices, of all sections, that lead to a section. -/
def incomingCount (s : Story) (id : SectionId) : Nat :=
  s.targets.countP fun target => target == id

/-- There are as many choices as targets. -/
theorem choiceCount_eq (s : Story) : s.choiceCount = s.targets.length := by
  rw [choiceCount, targets, List.length_flatMap, List.sum, List.foldr_map]
  simp only [List.length_map]

/-- The targets of the removed section go, and so do those of others that are the section. -/
theorem exists_split_targets {sec : Section} (hsec : s.section? id = some sec) :
    ∃ earlier later, s.targets = earlier ++ (sec.choices.map Choice.target ++ later) ∧
      (s.without id).targets = (earlier ++ later).filter fun target => !(target == id) := by
  rcases Table.exists_split_of_find? hsec with ⟨key, before, after, -, hentries, herase⟩
  rw [entries_erase] at herase
  refine ⟨before.flatMap fun e => e.2.choices.map Choice.target,
    after.flatMap fun e => e.2.choices.map Choice.target, ?_, ?_⟩
  · rw [targets_eq_flatMap, hentries, List.flatMap_append, List.flatMap_cons]
  · rw [targets_without, herase, List.flatMap_append]

/-- A removal loses the choices that lead to the section, and all others that it has itself. -/
theorem choiceCount_without {sec : Section} (hsec : s.section? id = some sec) :
    s.choiceCount = (s.without id).choiceCount + (s.incomingCount id + sec.awayCount id) := by
  have hsides : ∀ targets : List SectionId, targets.length =
      (targets.countP fun target => target == id) +
        targets.countP fun target => !(target == id) := by
    intro targets
    simpa using List.length_eq_countP_add_countP (fun target => target == id) (l := targets)
  rcases exists_split_targets hsec with ⟨earlier, later, htargets, hrest⟩
  have hearlier := hsides earlier
  have hlater := hsides later
  have hown := hsides (sec.choices.map Choice.target)
  rw [List.countP_map, List.countP_map, List.length_map] at hown
  rw [choiceCount_eq, choiceCount_eq, incomingCount, Section.awayCount, htargets, hrest,
    ← List.countP_eq_length_filter]
  simp only [List.length_append, List.length_map, List.countP_append, List.countP_map,
    Function.comp_def] at hown ⊢
  omega

/-! ## Removing a section -/

/-- What a removal leaves of a story: everything that does not belong to the section. -/
structure LeavesRest (id : SectionId) (s s' : Story) : Prop where
  info_eq : s'.info = s.info
  state_eq : s'.state = s.state
  ids_eq : s'.ids = s.ids.filter fun other => !(other == id)
  /-- The other sections lose the choices that led to the removed one, and nothing else. -/
  entries_eq : s'.sections.entries =
    (s.sections.entries.filter fun e => !(e.1 == id)).map fun e =>
      (e.1, e.2.keepChoices fun c => !(c.target == id))
  unreached : ∀ target ∈ s'.targets, (target == id) = false
  /-- What led to a section still does. -/
  reached : ∀ target ∈ s'.targets, s.hasSection target = true → s'.hasSection target = true
  danglingPairs_eq : s'.danglingPairs = s.danglingPairs.filter fun p => !(p.1 == id)

/-- The story without a section is what its removal leaves. -/
theorem leavesRest_without (hid : s.hasSection id = true) : LeavesRest id s (s.without id) := by
  have hunreached : ∀ target ∈ (s.without id).targets, (target == id) = false := by
    intro target htarget
    rw [targets_without] at htarget
    simpa using (List.mem_filter.1 htarget).2
  refine ⟨rfl, rfl, ids_without s id, entries_without s id, hunreached, ?_,
    danglingPairs_without hid⟩
  intro target htarget hreached
  rw [hasSection_without, hreached, hunreached target htarget]
  rfl

/-- A section that does not exist is not removed, and the story stays as it is.  Any other is
removed with the choices that lead to it: the other sections are left with all else that they have,
in the same order, no choice leads to the removed section any more, and the choices that dangle are
those of the other sections that dangled before, so that no choice comes to dangle by a removal. -/
theorem removeSection_leaves_rest (s : Story) (id : SectionId) :
    ((∀ key ∈ s.ids, (key == id) = false) →
        s.removeSection id = .error (.missingSection id)) ∧
      ∀ key removed, (key, removed) ∈ s.sections.entries → (key == id) = true →
        ∃ s', s.removeSection id = .ok (removed, s') ∧ LeavesRest id s s' := by
  constructor
  · intro hmissing
    apply removeSection_of_section?_eq_none
    cases hsec : s.section? id with
    | none => rfl
    | some sec =>
      rcases Table.exists_mem_of_find? hsec with ⟨key, hentry, hcompare⟩
      have hkey := hmissing key (List.mem_map_of_mem (f := Prod.fst) hentry)
      exact absurd hcompare (Scalar.compare_ne_eq hkey).2
  · intro key removed hentry hkey
    have hsec : s.section? id = some removed := by
      apply Table.find?_of_mem hentry
      rw [Std.LawfulBEqOrd.compare_eq_iff_beq, BEq.comm, hkey]
    exact ⟨_, removeSection_of_section? hsec, leavesRest_without (Table.contains_of_find? hsec)⟩

/-- A hall and a well with ways to each other, a way in the well that leads back into it, and a way
out of each that leads nowhere. -/
def hallAndWell : Story where
  sections := .ofList
    [(.text "1",
      { next := some
          [{ text := "Down", target := .int 2 }, { text := "Out", target := .text "09" }] }),
     (.text "2",
      { next := some
          [{ text := "Up", target := .int 1 }, { text := "Swim", target := .text "2" },
           { text := "Dive", target := .text "02" }] })]

/-- Removing the well leaves the hall with the way that leads nowhere.  There is no well under a
number that is spelled in another way. -/
theorem hallAndWell_leaves_rest :
    hallAndWell.removeSection (.text "02") = .error (.missingSection (.text "02")) ∧
      ∃ well s', hallAndWell.removeSection (.int 2) = .ok (well, s') ∧ well.choices.length = 3 ∧
        s'.ids = [.text "1"] ∧
        s'.danglingPairs = [(.text "1", some { text := "Out", target := .text "09" })] := by
  have hmissing : ∀ key ∈ hallAndWell.ids, (key == Scalar.text "02") = false := by
    decide +kernel
  refine ⟨(hallAndWell.removeSection_leaves_rest (.text "02")).1 hmissing, ?_⟩
  rcases (hallAndWell.removeSection_leaves_rest (.int 2)).2 (.text "2") _
    (List.mem_cons_of_mem _ List.mem_cons_self) (by decide +kernel) with ⟨s', hremove, hrest⟩
  refine ⟨_, s', hremove, rfl, ?_, ?_⟩
  · rw [hrest.ids_eq]
    rfl
  · rw [hrest.danglingPairs_eq]
    rfl

end Story

end Gamebook
