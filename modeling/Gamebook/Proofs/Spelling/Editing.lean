import Gamebook.Proofs.Spelling.Values
import Gamebook.Story.Authoring

/-!
# Editing and viewing stories in one spelling

What an edit does to a story, and what is seen of its graph, does not depend on how names are
written.

Main results:

- Theorem `Story.edit_beq`: edits that are equal in one spelling have the same result.
- Theorem `Story.targetSet_spellOut`: the set of all targets in one spelling.
-/

namespace Gamebook

deriving instance BEq for EditError
deriving instance BEq for Story.Dangling

instance : SpellOut EditError where
  spellOut
    | .missingSection id => .missingSection (spellOut id)
    | .missingChoice id position => .missingChoice (spellOut id) position
    | .idsExhausted => .idsExhausted

instance : LawfulSpellOut EditError where
  beq_iff {a b} := by
    cases a with
    | missingSection id =>
      cases b with
      | missingSection id' =>
        change (id == id') = true ↔
          EditError.missingSection (spellOut id) = .missingSection (spellOut id')
        rw [LawfulSpellOut.beq_iff, EditError.missingSection.injEq]
      | _ => exact ⟨nofun, nofun⟩
    | missingChoice id position =>
      cases b with
      | missingChoice id' position' =>
        change (id == id' && position == position') = true ↔
          EditError.missingChoice (spellOut id) position = .missingChoice (spellOut id') position'
        rw [Bool.and_eq_true, LawfulSpellOut.beq_iff, beq_iff_eq, EditError.missingChoice.injEq]
      | _ => exact ⟨nofun, nofun⟩
    | idsExhausted =>
      cases b with
      | idsExhausted => exact ⟨fun _ => rfl, fun _ => rfl⟩
      | _ => exact ⟨nofun, nofun⟩

namespace Story

/-! ## Edits -/

section

variable (s : Story) (id : SectionId)

@[simp]
theorem requireSection_spellOut :
    (spellOut s).requireSection (spellOut id) = spellOut (s.requireSection id) := by
  simp only [requireSection, section?_spellOut, section?_spellOut_id]
  cases s.section? id <;> rfl

/-- What follows on a section that must exist, in one spelling. -/
theorem requireSection_bind_spellOut {α : Type} [SpellOut α] {f g : Section → Except EditError α}
    (hf : ∀ sec, f (spellOut sec) = spellOut (g sec)) :
    (spellOut s).requireSection (spellOut id) >>= f = spellOut (s.requireSection id >>= g) := by
  rw [requireSection_spellOut]
  cases s.requireSection id with
  | error e => rfl
  | ok sec => exact hf sec

/-- A fresh name does not depend on how the others are written. -/
@[simp]
theorem freshId?_spellOut : (spellOut s).freshId? = s.freshId? := by
  have hspelled : Scalar.toInt? ∘ spellOut = Scalar.toInt? := funext Scalar.toInt?_spellOut
  simp only [freshId?, ids_spellOut, List.filterMap_map, hspelled]

theorem addChoice_spellOut (target : SectionId) (text : String) :
    (spellOut s).addChoice (spellOut id) (spellOut target) text =
      spellOut (s.addChoice id target text) := by
  apply requireSection_bind_spellOut
  intro sec
  have hadd := s.adjustSection_spellOut id (·.addChoice { text, target := spellOut target })
    (·.addChoice { text, target }) fun sec => sec.addChoice_spellOut { text, target }
  have hlength : (spellOut sec).choices.length = sec.choices.length := by simp
  exact congrArg Except.ok (Prod.ext hlength hadd)

theorem removeSection_spellOut :
    (spellOut s).removeSection (spellOut id) = spellOut (s.removeSection id) := by
  apply requireSection_bind_spellOut
  intro sec
  have hothers :
      ((spellOut s).sections.erase (spellOut id)).mapEntries (fun _ sec =>
          sec.keepChoices fun c => !(c.target == spellOut id)) =
        spellOut ((s.sections.erase id).mapEntries fun _ sec =>
          sec.keepChoices fun c => !(c.target == id)) := by
    rw [sections_spellOut, Table.erase_spellOut]
    refine Table.mapEntries_spellOut _ fun _ sec => Section.keepChoices_spellOut sec fun c => ?_
    rw [Choice.target_beq_spellOut]
  exact congrArg (fun others => Except.ok (spellOut sec, (⟨_, others, _⟩ : Story))) hothers

theorem removeChoice_spellOut (position : Nat) :
    (spellOut s).removeChoice (spellOut id) position = spellOut (s.removeChoice id position) := by
  apply requireSection_bind_spellOut
  intro sec
  have hc : (spellOut sec).choices[position]? = sec.choices[position]?.map spellOut := by simp
  have herase := s.adjustSection_spellOut id
    (fun sec => { sec with next := some (sec.choices.eraseIdx position) })
    (fun sec => { sec with next := some (sec.choices.eraseIdx position) })
    fun sec => sec.eraseChoice_spellOut position
  simp only [hc, herase]
  cases sec.choices[position]? <;> rfl

theorem setText_spellOut (text : String) :
    (spellOut s).setText (spellOut id) text = spellOut (s.setText id text) := by
  apply requireSection_bind_spellOut
  intro sec
  exact congrArg Except.ok
    (s.adjustSection_spellOut id (·.withText text) (·.withText text) fun _ => rfl)

theorem setMedia_spellOut (media : Media) :
    (spellOut s).setMedia (spellOut id) media = spellOut (s.setMedia id media) := by
  apply requireSection_bind_spellOut
  intro sec
  exact congrArg Except.ok (s.adjustSection_spellOut id
    (fun sec => { sec with media := some media }) (fun sec => { sec with media := some media })
    fun _ => rfl)

theorem clearMedia_spellOut :
    (spellOut s).clearMedia (spellOut id) = spellOut (s.clearMedia id) := by
  apply requireSection_bind_spellOut
  intro sec
  have hclear := s.adjustSection_spellOut id (fun sec => { sec with media := none })
    (fun sec => { sec with media := none }) fun _ => rfl
  exact congrArg Except.ok (Prod.ext Option.map_id'.symm hclear)

end

/-- A section under a fresh name is added alike to stories that are equal in one spelling. -/
theorem addSection_spellOut {s t : Story} (hst : spellOut s = spellOut t) :
    spellOut s.addSection = spellOut t.addSection := by
  have hfresh : s.freshId? = t.freshId? := by
    rw [← freshId?_spellOut, hst, freshId?_spellOut]
  rw [addSection, addSection, hfresh]
  cases t.freshId? with
  | none => rfl
  | some id =>
    have hsections : spellOut (s.sections.insert id (.ofLines [""])) =
        spellOut (t.sections.insert id (.ofLines [""])) := by
      rw [← Table.insert_spellOut, ← Table.insert_spellOut, ← sections_spellOut, hst,
        sections_spellOut]
    have hedited : spellOut { s with sections := s.sections.insert id (.ofLines [""]) } =
        spellOut { t with sections := t.sections.insert id (.ofLines [""]) } := by
      change (⟨(spellOut s).info, spellOut (s.sections.insert id (.ofLines [""])),
        (spellOut s).state⟩ : Story) = ⟨(spellOut t).info, _, (spellOut t).state⟩
      rw [hsections, hst]
    exact congrArg (fun edited => Except.ok (spellOut id, edited)) hedited

/-! ## Results of edits -/

/-- The story in the result of an edit has the metadata of the story before it. -/
def KeepsInfo {α : Type} (s : Story) (story : α → Story) (result : Except EditError α) : Prop :=
  ∀ a, result = .ok a → (story a).info = s.info

/-- What follows on a section that must exist keeps the metadata if it does so with any section. -/
theorem keepsInfo_bind {α : Type} {s : Story} {story : α → Story} {id : SectionId}
    {f : Section → Except EditError α} (hf : ∀ sec, s.KeepsInfo story (f sec)) :
    s.KeepsInfo story (s.requireSection id >>= f) := by
  intro a hresult
  rcases exists_of_bind_eq_ok hresult with ⟨sec, _, hsec⟩
  exact hf sec a hsec

section

variable {s t : Story} (hst : (s == t) = true)
include hst

/-- Edits of stories that are the same have the same result if they are equal in one spelling. -/
theorem edit_beq {α : Type} [BEq α] [SpellOut α] (story : α → Story)
    (hsame : ∀ a b : α, ((story a).info == (story b).info) = true → spellOut a = spellOut b →
      (a == b) = true)
    {x y : Except EditError α} (hx : s.KeepsInfo story x) (hy : t.KeepsInfo story y)
    (hxy : spellOut x = spellOut y) : (x == y) = true := by
  cases x with
  | error e =>
    cases y with
    | error e' =>
      have herror : spellOut e = spellOut e' := Except.error.inj hxy
      exact (LawfulSpellOut.beq_iff (a := e)).2 herror
    | ok => cases hxy
  | ok a =>
    cases y with
    | error => cases hxy
    | ok b =>
      have hinfo : ((story a).info == (story b).info) = true := by
        rw [hx a rfl, hy b rfl]
        exact (Story.beq_iff.1 hst).1
      exact hsame a b hinfo (Except.ok.inj hxy)

/-- So do edits that tell nothing beside the story. -/
theorem edit_story_beq {x y : Except EditError Story} (hx : s.KeepsInfo (fun s => s) x)
    (hy : t.KeepsInfo (fun s => s) y) (hxy : spellOut x = spellOut y) : (x == y) = true :=
  edit_beq hst _ (fun _ _ hinfo hsame => Story.beq_iff.2 ⟨hinfo, hsame⟩) hx hy hxy

/-- So do edits that tell something beside the story. -/
theorem edit_pair_beq {α : Type} [BEq α] [SpellOut α] [LawfulSpellOut α]
    {x y : Except EditError (α × Story)} (hx : s.KeepsInfo Prod.snd x)
    (hy : t.KeepsInfo Prod.snd y) (hxy : spellOut x = spellOut y) : (x == y) = true := by
  refine edit_beq hst Prod.snd ?_ hx hy hxy
  rintro ⟨a, s'⟩ ⟨b, t'⟩ hinfo hsame
  rcases Prod.ext_iff.1 hsame with ⟨hresult, hstory⟩
  exact Bool.and_eq_true_iff.2
    ⟨LawfulSpellOut.beq_iff.2 hresult, Story.beq_iff.2 ⟨hinfo, hstory⟩⟩

theorem addSection_beq : (s.addSection == t.addSection) = true := by
  have hkeeps (s : Story) : s.KeepsInfo Prod.snd s.addSection := by
    intro a hresult
    unfold addSection at hresult
    split at hresult <;> cases hresult
    rfl
  exact edit_pair_beq hst (hkeeps s) (hkeeps t) (addSection_spellOut (Story.beq_iff.1 hst).2)

variable {id id' : SectionId} (hid : (id == id') = true)
include hid

/-- An edit that commutes with spelling out does the same to sections that are the same. -/
theorem spellOut_edit_congr {α : Type} [SpellOut α] (f : Story → SectionId → Except EditError α)
    (hf : ∀ s id, f (spellOut s) (spellOut id) = spellOut (f s id)) :
    spellOut (f s id) = spellOut (f t id') := by
  rw [← hf, ← hf, (Story.beq_iff.1 hst).2, LawfulSpellOut.beq_iff.1 hid]

theorem addChoice_beq {target target' : SectionId} (htarget : (target == target') = true)
    (text : String) : (s.addChoice id target text == t.addChoice id' target' text) = true := by
  have hkeeps (s : Story) (id target) : s.KeepsInfo Prod.snd (s.addChoice id target text) :=
    keepsInfo_bind fun _ _ hresult => by cases hresult; rfl
  refine edit_pair_beq hst (hkeeps s _ _) (hkeeps t _ _) ?_
  rw [← addChoice_spellOut, ← addChoice_spellOut, (Story.beq_iff.1 hst).2,
    LawfulSpellOut.beq_iff.1 hid, LawfulSpellOut.beq_iff.1 htarget]

theorem removeSection_beq : (s.removeSection id == t.removeSection id') = true := by
  have hkeeps (s : Story) (id) : s.KeepsInfo Prod.snd (s.removeSection id) :=
    keepsInfo_bind fun _ _ hresult => by cases hresult; rfl
  exact edit_pair_beq hst (hkeeps s _) (hkeeps t _)
    (spellOut_edit_congr hst hid _ removeSection_spellOut)

theorem removeChoice_beq (position : Nat) :
    (s.removeChoice id position == t.removeChoice id' position) = true := by
  have hkeeps (s : Story) (id) : s.KeepsInfo Prod.snd (s.removeChoice id position) :=
    keepsInfo_bind fun _ _ hresult => by
      split at hresult <;> cases hresult
      rfl
  exact edit_pair_beq hst (hkeeps s _) (hkeeps t _)
    (spellOut_edit_congr hst hid (·.removeChoice · position) (removeChoice_spellOut · · position))

theorem setText_beq (text : String) : (s.setText id text == t.setText id' text) = true := by
  have hkeeps (s : Story) (id) : s.KeepsInfo (fun s => s) (s.setText id text) :=
    keepsInfo_bind fun _ _ hresult => by cases hresult; rfl
  exact edit_story_beq hst (hkeeps s _) (hkeeps t _)
    (spellOut_edit_congr hst hid (·.setText · text) (setText_spellOut · · text))

theorem setMedia_beq (media : Media) : (s.setMedia id media == t.setMedia id' media) = true := by
  have hkeeps (s : Story) (id) : s.KeepsInfo (fun s => s) (s.setMedia id media) :=
    keepsInfo_bind fun _ _ hresult => by cases hresult; rfl
  exact edit_story_beq hst (hkeeps s _) (hkeeps t _)
    (spellOut_edit_congr hst hid (·.setMedia · media) (setMedia_spellOut · · media))

theorem clearMedia_beq : (s.clearMedia id == t.clearMedia id') = true := by
  have hkeeps (s : Story) (id) : s.KeepsInfo Prod.snd (s.clearMedia id) :=
    keepsInfo_bind fun _ _ hresult => by cases hresult; rfl
  exact edit_pair_beq hst (hkeeps s _) (hkeeps t _)
    (spellOut_edit_congr hst hid _ clearMedia_spellOut)

end

/-! ## The graph -/

instance : SpellOut Unit := ⟨id⟩

instance : SpellOut Dangling where
  spellOut d := { d with owner := spellOut d.owner, target := spellOut d.target }

instance : LawfulSpellOut Dangling where
  beq_iff {a b} := by
    rcases a with ⟨owner, position, target⟩
    rcases b with ⟨owner', position', target'⟩
    change (owner == owner' && (position == position' && target == target')) = true ↔
      (⟨spellOut owner, position, spellOut target⟩ : Dangling) =
        ⟨spellOut owner', position', spellOut target'⟩
    rw [Bool.and_eq_true, Bool.and_eq_true, LawfulSpellOut.beq_iff (a := owner),
      LawfulSpellOut.beq_iff (a := target), beq_iff_eq, Dangling.mk.injEq]

section

variable (s : Story)

@[simp]
theorem targets_spellOut : (spellOut s).targets = s.targets.map spellOut := by
  simp only [targets, sections_spellOut, Table.values_spellOut, List.flatMap_map,
    Section.choices_spellOut, List.map_map, List.map_flatMap]
  rfl

/-- The set of the targets in one spelling. -/
theorem targetSet_spellOut : (spellOut s).targetSet = spellOut s.targetSet := by
  rw [targetSet, targets_spellOut, List.map_map, targetSet, ← Table.ofList_spellOut, List.map_map]
  rfl

theorem roots_spellOut : (spellOut s).roots = s.roots.map spellOut := by
  simp only [roots, ids_spellOut, targetSet_spellOut, List.filter_map, Function.comp_def,
    Table.contains_spellOut, Table.contains_spellOut_key]

theorem leaves_spellOut : (spellOut s).leaves = s.leaves.map spellOut := by
  simp only [leaves, sections_spellOut, Table.entries_spellOut, List.filter_map, List.map_map,
    Function.comp_def, Section.isLeaf_spellOut]

theorem isRoot_spellOut (id : SectionId) : (spellOut s).isRoot (spellOut id) = s.isRoot id := by
  simp only [isRoot, hasSection_spellOut, hasSection_spellOut_id, sections_spellOut,
    Table.values_spellOut, List.any_map, Function.comp_def, Section.choices_spellOut,
    Choice.target_beq_spellOut]

theorem isLeaf_spellOut (id : SectionId) : (spellOut s).isLeaf (spellOut id) = s.isLeaf id := by
  rw [isLeaf, isLeaf, section?_spellOut, section?_spellOut_id]
  cases s.section? id with
  | none => rfl
  | some sec => exact sec.isLeaf_spellOut

theorem danglingChoices_spellOut :
    (spellOut s).danglingChoices = s.danglingChoices.map spellOut := by
  simp only [danglingChoices, sections_spellOut, Table.entries_spellOut, List.flatMap_map,
    Section.choices_spellOut, List.zipIdx_map, List.filterMap_map, List.map_flatMap,
    List.map_filterMap]
  congr 1
  funext e
  congr 1
  funext x
  have htarget : (spellOut s).hasSection (spellOut x.1).target = s.hasSection x.1.target :=
    ((spellOut s).hasSection_spellOut_id x.1.target).trans (s.hasSection_spellOut x.1.target)
  simp only [Function.comp_apply, Prod.map_fst, Prod.map_snd, id_eq, htarget]
  split <;> rfl

end

end Story

end Gamebook
