import Gamebook.Proofs.Script.Effects
import Gamebook.Proofs.Table
import Mathlib.Logic.Relation

/-!
# What scripts change

An action leaves the story as it is, gives a variable a value, or adds a choice to the section being
read or removes one.  This module says so once, for an action, a step and a whole script, together
with what all of them keep: the names of the sections, where the reader is, and the history.

Main results:

- Definition `Story.Change`: the changes that an action can make.
- Theorem `Action.execute_change`: an action makes one of them.
- Theorem `runScript_changes`: a script makes one after the other.
- Theorem `Story.Changes.kept`: what no script changes.
-/

namespace Gamebook

/-! ## Choices that are offered -/

/-- The target of the choice that an action may add. -/
def Action.offered? : Action → Option SectionId
  | addChoice target _ => some target
  | ifSetAddChoice _ target _ => some target
  | compareDo _ _ _ next => next.offered?
  | ifSetDo _ next => next.offered?
  | ifNotSetDo _ next => next.offered?
  | none | set .. | input .. | addToVariable .. | removeChoice .. | ifSetRemoveChoice .. =>
    Option.none

/-- The target of the choice that a step of a script may add. -/
def Step.offered? (e : Step) : Option SectionId :=
  match Action.ofStep e with
  | .ok a => a.offered?
  | .error _ => none

/-- A target is among those of the choices that a script may add. -/
def Offers (script : List Step) (target : SectionId) : Prop :=
  ∃ e ∈ script, e.offered? = some target

namespace Story

/-! ## Changes -/

/-- A change that an action can make to a story, where the targets of added choices satisfy a
condition. -/
inductive Change (offered : SectionId → Prop) (s : Story) : Story → Prop
  | none : Change offered s s
  | setVariable (name value : String) : Change offered s (s.setVariable name value)
  | offerChoice {id target : SectionId} {sec : Section} {text : String} (hoffered : offered target)
      (hcurrent : s.currentId = some id) (hsec : s.section? id = some sec)
      (hnew : (sec.choices.any fun c => c.matches? target text) = false) :
    Change offered s (s.adjustSection id fun sec => sec.addChoice { text, target })
  | withdrawChoice {id target : SectionId} {sec : Section} {position : Nat}
      (hcurrent : s.currentId = some id) (hsec : s.section? id = some sec)
      (hposition : (sec.choices.findIdx? fun c => c.target == target) = some position) :
    Change offered s
      (s.adjustSection id fun sec => { sec with next := some (sec.choices.eraseIdx position) })

/-- Changes made one after the other. -/
def Changes (offered : SectionId → Prop) : Story → Story → Prop :=
  Relation.ReflTransGen (Change offered)

/-- A change stays one where the targets satisfy a weaker condition. -/
theorem Change.mono {offered allowed : SectionId → Prop} {s s' : Story}
    (hchange : Change offered s s') (hallowed : ∀ target, offered target → allowed target) :
    Change allowed s s' := by
  cases hchange with
  | none => exact .none
  | setVariable name value => exact .setVariable name value
  | offerChoice hoffered hcurrent hsec hnew =>
    exact .offerChoice (hallowed _ hoffered) hcurrent hsec hnew
  | withdrawChoice hcurrent hsec hposition => exact .withdrawChoice hcurrent hsec hposition

/-- Changes stay changes where the targets satisfy a weaker condition. -/
theorem Changes.mono {offered allowed : SectionId → Prop} {s s' : Story}
    (hchanges : Changes offered s s') (hallowed : ∀ target, offered target → allowed target) :
    Changes allowed s s' :=
  Relation.ReflTransGen.mono (fun _ _ hchange => hchange.mono hallowed) _ _ hchanges

/-! ## What is kept -/

/-- The same sections by name, the same metadata, and the reader is where they were. -/
structure Kept (s s' : Story) : Prop where
  info_eq : s'.info = s.info
  ids_eq : s'.ids = s.ids
  currentId_eq : s'.currentId = s.currentId
  history_eq : s'.history = s.history

/-- A story keeps what it has. -/
theorem Kept.refl (s : Story) : Kept s s :=
  ⟨rfl, rfl, rfl, rfl⟩

/-- What is kept twice is kept. -/
theorem Kept.trans {s s' s'' : Story} (hfirst : Kept s s') (hnext : Kept s' s'') : Kept s s'' where
  info_eq := hnext.info_eq.trans hfirst.info_eq
  ids_eq := hnext.ids_eq.trans hfirst.ids_eq
  currentId_eq := hnext.currentId_eq.trans hfirst.currentId_eq
  history_eq := hnext.history_eq.trans hfirst.history_eq

/-- A name names a section before where it names one after. -/
theorem Kept.hasSection_eq {s s' : Story} (hkept : Kept s s') (id : SectionId) :
    s'.hasSection id = s.hasSection id :=
  Table.contains_congr_keys hkept.ids_eq id

/-- A name names no section exactly when none is found. -/
theorem hasSection_eq_false_iff {s : Story} {id : SectionId} :
    s.hasSection id = false ↔ s.section? id = none :=
  Option.isSome_eq_false_iff.trans Option.isNone_iff_eq_none

/-- Giving a variable a value keeps where the reader is. -/
theorem kept_setVariable (s : Story) (name value : String) : Kept s (s.setVariable name value) where
  info_eq := rfl
  ids_eq := rfl
  currentId_eq := by
    rw [setVariable, adjustProgress, currentId, currentId, progress]
    cases s.state <;> rfl
  history_eq := rfl

/-- Changing a section keeps the names of all sections. -/
theorem kept_adjustSection (s : Story) (id : SectionId) (f : Section → Section) :
    Kept s (s.adjustSection id f) where
  info_eq := rfl
  ids_eq := Table.keys_adjust s.sections id f
  currentId_eq := rfl
  history_eq := rfl

/-- A change keeps the names of the sections and where the reader is. -/
theorem Change.kept {offered : SectionId → Prop} {s s' : Story} (hchange : Change offered s s') :
    Kept s s' := by
  cases hchange with
  | none => exact .refl s
  | setVariable name value => exact kept_setVariable s name value
  | offerChoice => exact kept_adjustSection s _ _
  | withdrawChoice => exact kept_adjustSection s _ _

/-- Changes keep the names of the sections and where the reader is. -/
theorem Changes.kept {offered : SectionId → Prop} {s s' : Story}
    (hchanges : Changes offered s s') : Kept s s' := by
  induction hchanges with
  | refl => exact .refl s
  | tail _ hchange ih => exact ih.trans hchange.kept

/-- Changing a section keeps what the change does not touch. -/
theorem map_section?_adjustSection {α : Type} {g : Section → α} {f : Section → Section}
    (hg : ∀ sec, g (f sec) = g sec) (s : Story) (id other : SectionId) :
    ((s.adjustSection id f).section? other).map g = (s.section? other).map g := by
  have hfind : (s.adjustSection id f).section? other =
      (s.section? other).map fun sec => if compare id other = .eq then f sec else sec :=
    Table.find?_adjust s.sections id other f
  rw [hfind, Option.map_map]
  apply Option.map_congr
  intro sec _
  rw [Function.comp_apply]
  split
  · exact hg sec
  · rfl

/-- A change keeps the script of every section. -/
theorem Change.steps_eq {offered : SectionId → Prop} {s s' : Story} (hchange : Change offered s s')
    (id : SectionId) : (s'.section? id).map Section.steps = (s.section? id).map Section.steps := by
  cases hchange with
  | none => rfl
  | setVariable name value => rfl
  | offerChoice => exact map_section?_adjustSection (by intro; rfl) s _ id
  | withdrawChoice => exact map_section?_adjustSection (by intro; rfl) s _ id

/-- Changes keep the script of every section. -/
theorem Changes.steps_eq {offered : SectionId → Prop} {s s' : Story}
    (hchanges : Changes offered s s') (id : SectionId) :
    (s'.section? id).map Section.steps = (s.section? id).map Section.steps := by
  induction hchanges with
  | refl => rfl
  | tail _ hchange ih => exact (hchange.steps_eq id).trans ih

/-! ## Edits of the section being read -/

/-- Offering a choice adds it to the section being read, or changes nothing. -/
theorem offerChoice_change {offered : SectionId → Prop} {s s' : Story} {target : SectionId}
    {text : String} {outcome : Outcome} (hoffered : offered target)
    (hoffer : s.offerChoice target text = .ok (outcome, s')) : Change offered s s' := by
  unfold Story.offerChoice Story.currentSection at hoffer
  cases hcurrent : s.currentId with
  | none =>
    simp only [hcurrent] at hoffer
    cases hoffer
    exact .none
  | some id =>
    cases hsec : s.section? id with
    | none =>
      simp only [hcurrent, hsec] at hoffer
      cases hoffer
    | some sec =>
      simp only [hcurrent, hsec] at hoffer
      cases hnew : sec.choices.any fun c => c.matches? target text with
      | true =>
        simp only [bind, Except.bind, hnew, if_true] at hoffer
        cases hoffer
        exact .none
      | false =>
        simp only [bind, Except.bind, hnew, Bool.false_eq_true, if_false] at hoffer
        cases hoffer
        exact .offerChoice hoffered hcurrent hsec hnew

/-- Withdrawing a choice removes one from the section being read, or changes nothing. -/
theorem withdrawChoice_change {offered : SectionId → Prop} {s s' : Story} {target : SectionId}
    {outcome : Outcome} (hwithdraw : s.withdrawChoice target = .ok (outcome, s')) :
    Change offered s s' := by
  unfold Story.withdrawChoice Story.currentSection at hwithdraw
  cases hcurrent : s.currentId with
  | none =>
    simp only [hcurrent] at hwithdraw
    cases hwithdraw
    exact .none
  | some id =>
    cases hsec : s.section? id with
    | none =>
      simp only [hcurrent, hsec] at hwithdraw
      cases hwithdraw
    | some sec =>
      simp only [hcurrent, hsec] at hwithdraw
      cases hposition : sec.choices.findIdx? fun c => c.target == target with
      | none =>
        simp only [bind, Except.bind, hposition] at hwithdraw
        cases hwithdraw
        exact .none
      | some position =>
        simp only [bind, Except.bind, hposition] at hwithdraw
        cases hwithdraw
        exact .withdrawChoice hcurrent hsec hposition

end Story

/-! ## Running scripts -/

variable {σ : Type} (responder : Responder σ)

/-- A failed edit changes nothing, and any other changes what it changes. -/
theorem Reading.edit_change {offered : SectionId → Prop} {r : Reading σ}
    {f : Story → Except StepError (Outcome × Story)}
    (hf : ∀ outcome s', f r.story = .ok (outcome, s') → Story.Change offered r.story s') :
    Story.Change offered r.story (r.edit f).2.story := by
  rw [Reading.edit]
  cases hedit : f r.story with
  | error e => exact .none
  | ok answer => exact hf answer.1 answer.2 hedit

/-- An action that comes to offering a choice is one that may offer it. -/
theorem Action.offered?_of_effect {vars : Variables} {a : Action} {target : SectionId}
    {text : String} (heffect : a.effect vars = .offer target text) : a.offered? = some target := by
  induction a with
  | compareDo name comparison value next ih =>
    unfold effect at heffect
    split at heffect
    · split at heffect
      · exact ih heffect
      · cases heffect
    · cases heffect
  | ifSetDo name next ih =>
    unfold effect at heffect
    split at heffect
    · exact ih heffect
    · cases heffect
  | ifNotSetDo name next ih =>
    unfold effect at heffect
    split at heffect
    · cases heffect
    · exact ih heffect
  | addChoice =>
    cases heffect
    rfl
  | ifSetAddChoice =>
    unfold effect at heffect
    split at heffect
    · cases heffect
      rfl
    · cases heffect
  | ifSetRemoveChoice =>
    unfold effect at heffect
    split at heffect <;> cases heffect
  | _ => cases heffect

/-- An effect makes one change. -/
theorem Effect.run_change {offered : SectionId → Prop} (r : Reading σ) {e : Effect}
    (hoffered : ∀ target text, e = .offer target text → offered target) :
    Story.Change offered r.story (e.run responder r).2.story := by
  cases e with
  | idle outcome => exact .none
  | assign name value => exact .setVariable name value
  | ask name prompt => exact .setVariable name _
  | offer target text =>
    exact Reading.edit_change fun _ _ => Story.offerChoice_change (hoffered target text rfl)
  | withdraw target => exact Reading.edit_change fun _ _ => Story.withdrawChoice_change

/-- An action makes one change. -/
theorem Action.execute_change (r : Reading σ) (a : Action) :
    Story.Change (fun target => a.offered? = some target) r.story
      (a.execute responder r).2.story := by
  rw [execute_eq_run]
  exact Effect.run_change responder r fun _ _ => offered?_of_effect

/-- A step of a script makes one change. -/
theorem runStep_change (r : Reading σ) (e : Step) :
    Story.Change (fun target => e.offered? = some target) r.story
      (runStep responder r e).2.story := by
  rw [runStep]
  cases haction : Action.ofStep e with
  | error _ => exact .none
  | ok a =>
    apply (a.execute_change responder r).mono
    intro target htarget
    rw [Step.offered?, haction]
    exact htarget

/-- The steps of a script make one change after the other. -/
theorem runSteps_changes (r : Reading σ) (steps : List Step) :
    Story.Changes (Offers steps) r.story (runSteps responder r steps).2.story := by
  induction steps generalizing r with
  | nil => exact .refl
  | cons e rest ih =>
    have hfirst : Story.Change (Offers (e :: rest)) r.story (runStep responder r e).2.story :=
      (runStep_change responder r e).mono fun target htarget =>
        ⟨e, List.mem_cons_self, htarget⟩
    have hrest : Story.Changes (Offers (e :: rest)) (runStep responder r e).2.story
        (runSteps responder (runStep responder r e).2 rest).2.story :=
      (ih (runStep responder r e).2).mono fun target ⟨e', he', htarget⟩ =>
        ⟨e', List.mem_cons_of_mem _ he', htarget⟩
    exact .head hfirst hrest

/-- A script makes one change after the other. -/
theorem runScript_changes (r : Reading σ) (script : List Step) :
    Story.Changes (Offers script) r.story (runScript responder r script).2.story :=
  runSteps_changes responder r script

/-- What a script led to was made of changes. -/
theorem changes_of_runScript_eq {r r' : Reading σ} {script : List Step} {report : Report}
    (hrun : runScript responder r script = (report, r')) :
    Story.Changes (Offers script) r.story r'.story := by
  have hchanges := runScript_changes responder r script
  rw [hrun] at hchanges
  exact hchanges

/-- Running the script of a section that exists gives a report. -/
theorem runSection_of_section? {r : Reading σ} {id : SectionId} {sec : Section}
    (hsec : r.story.section? id = some sec) :
    runSection responder r id =
      (.ok (runScript responder r sec.steps).1, (runScript responder r sec.steps).2) := by
  rw [runSection, hsec]

end Gamebook
