import Gamebook.Proofs.Script.Outcomes
import Gamebook.Proofs.Story.Carrying

/-!
# Choices that scripts add and remove

A script adds a choice to the section being read only where the same choice is not there, and it
removes the first choice that leads to a target.  The lists of all other sections stay as they are.
So no choice is there twice that was not there twice before, the choices that stay come before those
that are added, and both in their order.

Main results:

- Definition `ChoiceEdit.Makes`: what an edit makes of a list of choices.
- Theorems `ChoiceEdit.MakeEach.exists_split` and `ChoiceEdit.MakeEach.copies_le`: which choices
  there are after some edits, and how often.
- Definition `choiceEdits`: the edits that the steps of a script make.
- Definition `Story.EditsChoices` and theorem `runScript_editsChoices`: a script makes these edits
  of the section being read, and none of the other sections.
-/

namespace Gamebook

/-- The number of times that a choice is in a list. -/
def Choice.copies (target : SectionId) (text : String) (choices : List Choice) : Nat :=
  choices.countP fun c => c.matches? target text

/-- Whether a choice leads to a target under a text can be seen from any choice that does. -/
theorem Choice.matches?_congr {c : Choice} {target : SectionId} {text : String}
    (hc : c.matches? target text = true) (d : Choice) :
    d.matches? c.target c.text = d.matches? target text := by
  rw [matches?, Bool.and_eq_true] at hc
  rcases hc with ⟨htarget, htext⟩
  rw [matches?, matches?, BEq.congr_right htarget, beq_iff_eq.1 htext]

/-! ## Edits of a list -/

/-- A change of a list of choices. -/
inductive ChoiceEdit where
  | add (c : Choice)
  | remove (target : SectionId)

namespace ChoiceEdit

/-- The choice that an edit adds. -/
def added? : ChoiceEdit → Option Choice
  | add c => some c
  | remove _ => none

/-- What an edit makes of a list of choices.  A choice that is not there yet comes to the end; the
first choice that leads to a target goes. -/
inductive Makes : ChoiceEdit → List Choice → List Choice → Prop
  | add {c : Choice} {choices : List Choice}
      (hnew : ∀ d ∈ choices, d.matches? c.target c.text = false) :
    Makes (add c) choices (choices ++ [c])
  | remove {target : SectionId} {c : Choice} {before after : List Choice}
      (hearlier : ∀ d ∈ before, (d.target == target) = false)
      (hfirst : (c.target == target) = true) :
    Makes (remove target) (before ++ c :: after) (before ++ after)

/-- What edits make of a list of choices one after the other. -/
inductive MakeEach : List ChoiceEdit → List Choice → List Choice → Prop
  | nil {choices : List Choice} : MakeEach [] choices choices
  | cons {e : ChoiceEdit} {rest : List ChoiceEdit} {before between after : List Choice}
      (hfirst : e.Makes before between) (hrest : MakeEach rest between after) :
    MakeEach (e :: rest) before after

variable {e : ChoiceEdit} {edits : List ChoiceEdit} {before after : List Choice}

/-- An edit does not repeat a choice. -/
theorem Makes.copies_le (hmakes : e.Makes before after) (target : SectionId) (text : String) :
    Choice.copies target text after ≤ max 1 (Choice.copies target text before) := by
  cases hmakes with
  | @add c _ hnew =>
    rw [Choice.copies, Choice.copies, List.countP_append, List.countP_singleton]
    split
    · next hc =>
      -- the choices that are counted are those that the new one was compared with
      have hnone : (before.countP fun d => d.matches? target text) = 0 := by
        rw [List.countP_eq_zero]
        intro d hd
        rw [← Choice.matches?_congr hc, hnew d hd]
        exact Bool.false_ne_true
      rw [hnone]
      exact Nat.le_max_left 1 0
    · exact Nat.le_max_right 1 _
  | remove =>
    refine Nat.le_trans (List.Sublist.countP_le ?_) (Nat.le_max_right 1 _)
    exact List.Sublist.append_left (List.sublist_cons_self _ _) _

/-- Edits do not repeat a choice. -/
theorem MakeEach.copies_le (hmake : MakeEach edits before after) (target : SectionId)
    (text : String) :
    Choice.copies target text after ≤ max 1 (Choice.copies target text before) := by
  induction hmake with
  | nil => exact Nat.le_max_right 1 _
  | cons hfirst _ ih =>
    have hnext := hfirst.copies_le target text
    omega

/-- After some edits there are first choices that were there before, in their order, and then
choices that were added, in the order in which they were added. -/
theorem MakeEach.exists_split (hmake : MakeEach edits before after) :
    ∃ kept added, after = kept ++ added ∧ kept.Sublist before ∧
      added.Sublist (edits.filterMap added?) := by
  induction hmake with
  | @nil choices =>
    exact ⟨choices, [], (List.append_nil choices).symm, List.Sublist.refl choices, .slnil⟩
  | cons hfirst _ ih =>
    rcases ih with ⟨kept, added, rfl, hkept, hadded⟩
    cases hfirst with
    | add =>
      -- what is kept of the longer list is kept of the list before, but for the added choice
      rcases List.sublist_append_iff.1 hkept with ⟨older, newer, rfl, holder, hnewer⟩
      exact ⟨older, newer ++ added, List.append_assoc _ _ _, holder, hnewer.append hadded⟩
    | remove =>
      refine ⟨kept, added, rfl, hkept.trans ?_, hadded⟩
      exact List.Sublist.append_left (List.sublist_cons_self _ _) _

/-- Edits go on with further edits. -/
theorem MakeEach.append {more : List ChoiceEdit} {last : List Choice}
    (hmake : MakeEach edits before after) (hmore : MakeEach more after last) :
    MakeEach (edits ++ more) before last := by
  induction hmake with
  | nil => exact hmore
  | cons hfirst _ ih => exact .cons hfirst (ih hmore)

/-- A choice can be added where it is not found. -/
theorem makes_add {target : SectionId} {text : String} {choices : List Choice}
    (hnew : (choices.any fun c => c.matches? target text) = false) :
    Makes (add ⟨text, target⟩) choices (choices ++ [⟨text, target⟩]) := by
  refine .add fun d hd => Bool.eq_false_iff.2 fun hmatches => ?_
  rw [List.any_eq_true.2 ⟨d, hd, hmatches⟩] at hnew
  cases hnew

/-- The first choice that leads to a target can be removed by its position. -/
theorem makes_remove {target : SectionId} {position : Nat} {choices : List Choice}
    (hposition : (choices.findIdx? fun c => c.target == target) = some position) :
    Makes (remove target) choices (choices.eraseIdx position) := by
  rcases List.findIdx?_eq_some_iff_getElem.1 hposition with ⟨hlength, hfirst, hearlier⟩
  have hsplit : choices =
      choices.take position ++ choices[position] :: choices.drop (position + 1) := by
    rw [← List.drop_eq_getElem_cons hlength, List.take_append_drop]
  have hmakes : Makes (remove target)
      (choices.take position ++ choices[position] :: choices.drop (position + 1))
      (choices.take position ++ choices.drop (position + 1)) := by
    refine .remove (fun d hd => ?_) hfirst
    rcases List.mem_take_iff_getElem.1 hd with ⟨k, hk, rfl⟩
    exact Bool.eq_false_iff.2 (hearlier k (Nat.lt_of_lt_of_le hk (Nat.min_le_left _ _)))
  rw [← hsplit, ← List.eraseIdx_eq_take_drop_succ] at hmakes
  exact hmakes

end ChoiceEdit

/-! ## Edits of a story -/

namespace Story

/-- The choices of a section, none where the section does not exist. -/
def choicesOf (s : Story) (id : SectionId) : List Choice :=
  ((s.section? id).map Section.choices).getD []

/-- The number of times that a choice is in a section. -/
def copies (s : Story) (id target : SectionId) (text : String) : Nat :=
  Choice.copies target text (s.choicesOf id)

/-- The section is being read. -/
def isRead (s : Story) (id : SectionId) : Bool :=
  s.currentId.any fun current => current == id

/-- One story is another one after edits of the choices of the section that is being read; the
choices of the other sections stay as they are. -/
structure EditsChoices (edits : List ChoiceEdit) (s s' : Story) : Prop where
  currentId_eq : s'.currentId = s.currentId
  read : ∀ id, s.isRead id = true → ChoiceEdit.MakeEach edits (s.choicesOf id) (s'.choicesOf id)
  others : ∀ id, s.isRead id = false → s'.choicesOf id = s.choicesOf id

variable {s s' s'' : Story} {id other target : SectionId} {sec : Section}

/-- A story with the same sections has the same choices. -/
theorem editsChoices_of_eq (hcurrent : s'.currentId = s.currentId)
    (hsections : s'.sections = s.sections) : EditsChoices [] s s' := by
  have hsame : ∀ id, s'.choicesOf id = s.choicesOf id := by
    intro id
    rw [choicesOf, section?, hsections]
    rfl
  refine ⟨hcurrent, fun id _ => ?_, fun id _ => hsame id⟩
  rw [hsame]
  exact .nil

/-- Edits go on with further edits. -/
theorem EditsChoices.trans {edits more : List ChoiceEdit} (hedits : EditsChoices edits s s')
    (hmore : EditsChoices more s' s'') : EditsChoices (edits ++ more) s s'' := by
  have hreads : ∀ id, s'.isRead id = s.isRead id := by
    intro id
    rw [isRead, hedits.currentId_eq]
    rfl
  refine ⟨hmore.currentId_eq.trans hedits.currentId_eq, fun id hid => ?_, fun id hid => ?_⟩
  · exact (hedits.read id hid).append (hmore.read id ((hreads id).trans hid))
  · exact (hmore.others id ((hreads id).trans hid)).trans (hedits.others id hid)

/-- Changing the choices of the section that is being read is an edit. -/
theorem editsChoices_adjustSection {e : ChoiceEdit} {f : Section → Section}
    (hcurrent : s.currentId = some id) (hsec : s.section? id = some sec)
    (hmakes : e.Makes sec.choices (f sec).choices) : EditsChoices [e] s (s.adjustSection id f) := by
  have hread : ∀ other, s.isRead other = (id == other) := by
    intro other
    rw [isRead, hcurrent]
    rfl
  have hfind : ∀ other, (s.adjustSection id f).section? other =
      (s.section? other).map fun sec => if compare id other = .eq then f sec else sec :=
    fun other => Table.find?_adjust s.sections id other f
  refine ⟨rfl, fun other hother => ?_, fun other hother => ?_⟩
  -- the section is found under every spelling of its name
  · have hcompare : compare id other = .eq :=
      Std.LawfulBEqOrd.compare_eq_iff_beq.2 ((hread other).symm.trans hother)
    have hsame : s.section? other = some sec :=
      (Table.find?_congr s.sections hcompare).symm.trans hsec
    rw [choicesOf, choicesOf, hfind, hsame]
    simp only [Option.map_some, Option.getD_some, if_pos hcompare]
    exact .cons hmakes .nil
  · have hcompare := (Scalar.compare_ne_eq ((hread other).symm.trans hother)).1
    rw [choicesOf, choicesOf, hfind]
    simp only [if_neg hcompare, Option.map_id']

/-! ## What is edited -/

/-- The section being read is the one that the progress names. -/
theorem section?_of_currentSection (hcurrent : s.currentSection = .ok (some (id, sec))) :
    s.currentId = some id ∧ s.section? id = some sec := by
  unfold currentSection at hcurrent
  split at hcurrent
  · cases hcurrent
  · next hid =>
    split at hcurrent
    · next hsec =>
      cases hcurrent
      exact ⟨hid, hsec⟩
    · cases hcurrent

/-- A choice that was offered with effect has been added. -/
theorem editsChoices_of_offerChoice {text : String}
    (hoffer : s.offerChoice target text = .ok (.applied, s')) :
    EditsChoices [.add ⟨text, target⟩] s s' := by
  rcases exists_of_bind_eq_ok hoffer with ⟨current, hcurrent, hanswer⟩
  split at hanswer
  · cases hanswer
  · split at hanswer
    · cases hanswer
    · next hnew =>
      cases hanswer
      rcases section?_of_currentSection hcurrent with ⟨hid, hsec⟩
      exact editsChoices_adjustSection hid hsec (ChoiceEdit.makes_add (Bool.eq_false_iff.2 hnew))

/-- A choice that was withdrawn with effect has been removed. -/
theorem editsChoices_of_withdrawChoice (hwithdraw : s.withdrawChoice target = .ok (.applied, s')) :
    EditsChoices [.remove target] s s' := by
  rcases exists_of_bind_eq_ok hwithdraw with ⟨current, hcurrent, hanswer⟩
  split at hanswer
  · cases hanswer
  · split at hanswer
    · next hposition =>
      cases hanswer
      rcases section?_of_currentSection hcurrent with ⟨hid, hsec⟩
      exact editsChoices_adjustSection hid hsec (ChoiceEdit.makes_remove hposition)
    · cases hanswer

/-- Every change makes some edits. -/
theorem Change.editsChoices {offered : SectionId → Prop} (hchange : Change offered s s') :
    ∃ edits, EditsChoices edits s s' := by
  cases hchange with
  | none => exact ⟨[], editsChoices_of_eq rfl rfl⟩
  | setVariable name value =>
    exact ⟨[], editsChoices_of_eq (kept_setVariable s name value).currentId_eq rfl⟩
  | offerChoice _ hcurrent hsec hnew =>
    exact ⟨_, editsChoices_adjustSection hcurrent hsec (ChoiceEdit.makes_add hnew)⟩
  | withdrawChoice hcurrent hsec hposition =>
    exact ⟨_, editsChoices_adjustSection hcurrent hsec (ChoiceEdit.makes_remove hposition)⟩

end Story

/-! ## Scripts -/

/-- The edit that an effect makes, if this is the result of bringing it about. -/
def Effect.choiceEdit? (result : Except StepError Outcome) : Effect → Option ChoiceEdit
  | offer target text => if result matches .ok .applied then some (.add ⟨text, target⟩) else none
  | withdraw target => if result matches .ok .applied then some (.remove target) else none
  | _ => none

variable {σ : Type} (responder : Responder σ)

/-- The edit that a step makes, if it takes effect. -/
def Step.choiceEdit? (r : Reading σ) (e : Step) : Option ChoiceEdit :=
  (e.effect r.story.vars).choiceEdit? (runStep responder r e).1

/-- The edits that the steps of a script make one after the other. -/
def choiceEdits (r : Reading σ) : List Step → List ChoiceEdit
  | [] => []
  | e :: rest =>
    (e.choiceEdit? responder r).toList ++ choiceEdits (runStep responder r e).2 rest

/-- An edit of the story that is applied makes one edit, and any other makes none. -/
theorem Reading.edit_editsChoices {r : Reading σ} {f : Story → Except StepError (Outcome × Story)}
    {edit : ChoiceEdit}
    (happlied : ∀ s', f r.story = .ok (.applied, s') → Story.EditsChoices [edit] r.story s')
    (hothers : ∀ outcome s', f r.story = .ok (outcome, s') → outcome ≠ .applied → s' = r.story) :
    Story.EditsChoices
      (if (r.edit f).1 matches .ok .applied then some edit else none).toList r.story
      (r.edit f).2.story := by
  unfold Reading.edit
  cases hanswer : f r.story with
  | error e => exact Story.editsChoices_of_eq rfl rfl
  | ok answer =>
    rcases answer with ⟨outcome, s'⟩
    cases outcome with
    | applied => exact happlied s' hanswer
    | skipped =>
      rw [hothers _ s' hanswer nofun]
      exact Story.editsChoices_of_eq rfl rfl
    | duplicate =>
      rw [hothers _ s' hanswer nofun]
      exact Story.editsChoices_of_eq rfl rfl

/-- An effect makes the edit that is told by its result. -/
theorem Effect.run_editsChoices (r : Reading σ) (e : Effect) :
    Story.EditsChoices (e.choiceEdit? (e.run responder r).1).toList r.story
      (e.run responder r).2.story := by
  cases e with
  | idle outcome => exact Story.editsChoices_of_eq rfl rfl
  | assign name value =>
    exact Story.editsChoices_of_eq (Story.kept_setVariable _ name value).currentId_eq rfl
  | ask name prompt =>
    exact Story.editsChoices_of_eq (Story.kept_setVariable _ name _).currentId_eq rfl
  | offer target text =>
    exact Reading.edit_editsChoices (fun _ => Story.editsChoices_of_offerChoice)
      fun _ _ => Story.eq_of_offerChoice
  | withdraw target =>
    exact Reading.edit_editsChoices (fun _ => Story.editsChoices_of_withdrawChoice)
      fun _ _ => Story.eq_of_withdrawChoice

/-- A step makes its edit, and none where it cannot be read. -/
theorem runStep_editsChoices (r : Reading σ) (e : Step) :
    Story.EditsChoices (e.choiceEdit? responder r).toList r.story
      (runStep responder r e).2.story := by
  unfold Step.choiceEdit? Step.effect runStep
  cases Action.ofStep e with
  | error _ => exact Story.editsChoices_of_eq rfl rfl
  | ok a =>
    dsimp only
    rw [a.execute_eq_run]
    exact Effect.run_editsChoices responder r _

/-- A script makes its edits one after the other. -/
theorem runScript_editsChoices (r : Reading σ) (script : List Step) :
    Story.EditsChoices (choiceEdits responder r script) r.story
      (runScript responder r script).2.story := by
  have hsteps : Story.EditsChoices (choiceEdits responder r script) r.story
      (runSteps responder r script).2.story := by
    induction script generalizing r with
    | nil => exact Story.editsChoices_of_eq rfl rfl
    | cons e rest ih => exact (runStep_editsChoices responder r e).trans (ih _)
  exact hsteps

end Gamebook
