import Gamebook.Proofs.Result
import Gamebook.Proofs.Script.Checking

/-!
# Actions that do not take effect

An action may fail, it may find a condition false or nothing to act on, and its choice may be there
already.  Whichever it is, the story stays as it was, down to the progress and the lists of choices
that are not there, and nobody has been asked anything.

Main results:

- Definition `Action.requests`: what an action asks.
- Theorem `Effect.run_unchanged`: an effect that does not take effect changes nothing.
- Theorem `unchanged_unless_applied`: neither does an action, nor a step of a script.
-/

namespace Gamebook

/-! ## Choices -/

namespace Story

variable {s s' : Story} {target : SectionId} {outcome : Outcome}

/-- Offering a choice changes the story only where the choice is added. -/
theorem eq_of_offerChoice {text : String} (hoffer : s.offerChoice target text = .ok (outcome, s'))
    (houtcome : outcome ≠ .applied) : s' = s := by
  rcases exists_of_bind_eq_ok hoffer with ⟨current, -, hanswer⟩
  split at hanswer
  · cases hanswer
    rfl
  · split at hanswer
    · cases hanswer
      rfl
    · cases hanswer
      exact absurd rfl houtcome

/-- Withdrawing a choice changes the story only where one is removed. -/
theorem eq_of_withdrawChoice (hwithdraw : s.withdrawChoice target = .ok (outcome, s'))
    (houtcome : outcome ≠ .applied) : s' = s := by
  rcases exists_of_bind_eq_ok hwithdraw with ⟨current, -, hanswer⟩
  split at hanswer
  · cases hanswer
    rfl
  · split at hanswer
    · cases hanswer
      exact absurd rfl houtcome
    · cases hanswer
      rfl

end Story

/-! ## Effects -/

variable {σ : Type} (responder : Responder σ)

/-- An edit that changes the story only where it is applied leaves everything else as it is. -/
theorem Reading.edit_unchanged {r : Reading σ} {f : Story → Except StepError (Outcome × Story)}
    (hf : ∀ outcome s', f r.story = .ok (outcome, s') → outcome ≠ .applied → s' = r.story)
    (hedit : (r.edit f).1 ≠ .ok .applied) : (r.edit f).2 = r := by
  unfold edit at hedit ⊢
  cases hanswer : f r.story with
  | error e => rfl
  | ok answer =>
    rcases answer with ⟨outcome, s'⟩
    rw [hanswer] at hedit
    have houtcome : outcome ≠ .applied := fun happlied => hedit (congrArg Except.ok happlied)
    rw [hf outcome s' hanswer houtcome]

/-- What does not take effect has changed nothing and asks nothing. -/
theorem Effect.run_unchanged {r : Reading σ} {e : Effect}
    (hrun : (e.run responder r).1 ≠ .ok .applied) :
    (e.run responder r).2 = r ∧ e.request? = none := by
  cases e with
  | idle outcome => exact ⟨rfl, rfl⟩
  | assign name value => exact absurd rfl hrun
  | ask name prompt => exact absurd rfl hrun
  | offer target text =>
    exact ⟨Reading.edit_unchanged (fun _ _ => Story.eq_of_offerChoice) hrun, rfl⟩
  | withdraw target =>
    exact ⟨Reading.edit_unchanged (fun _ _ => Story.eq_of_withdrawChoice) hrun, rfl⟩

/-! ## Actions -/

/-- What an action asks, each variable with its prompt. -/
def Action.requests (r : Reading σ) (a : Action) : List (String × String) :=
  (a.execute responder.recording (r.recorded [])).2.responder.2

/-- An action asks what its effect asks. -/
theorem Action.requests_eq (r : Reading σ) (a : Action) :
    a.requests responder r = (a.effect r.story.vars).request?.toList := by
  have hrun := Effect.run_recorded responder r [] (a.effect r.story.vars)
  rw [requests, execute_eq_run]
  exact congrArg (fun run => run.2.responder.2) hrun

/-- A single step asks what its effect asks. -/
theorem requests_singleton (r : Reading σ) (e : Step) :
    requests responder r [e] = (e.effect r.story.vars).request?.toList := by
  rw [requests_cons]
  exact List.append_nil _

/-- An action that fails, is skipped or finds its choice there leaves the story and the one who
answers as they were, who has not been asked.  So does a step of a script, also where it cannot be
read. -/
theorem unchanged_unless_applied {σ : Type} (responder : Responder σ) (r : Reading σ) :
    (∀ a : Action, (a.execute responder r).1 ≠ .ok .applied →
        (a.execute responder r).2 = r ∧ a.requests responder r = []) ∧
      ∀ e : Step, (runStep responder r e).1 ≠ .ok .applied →
        (runStep responder r e).2 = r ∧ requests responder r [e] = [] := by
  have haction : ∀ a : Action, (a.execute responder r).1 ≠ .ok .applied →
      (a.execute responder r).2 = r ∧ (a.effect r.story.vars).request? = none := by
    intro a hresult
    rw [a.execute_eq_run] at hresult ⊢
    exact Effect.run_unchanged responder hresult
  constructor
  · intro a hresult
    rcases haction a hresult with ⟨hunchanged, hnothing⟩
    refine ⟨hunchanged, ?_⟩
    rw [Action.requests_eq, hnothing, Option.toList_none]
  · intro e hresult
    rw [requests_singleton, Step.effect]
    unfold runStep at hresult ⊢
    cases hread : Action.ofStep e with
    | error error => exact ⟨rfl, rfl⟩
    | ok a =>
      simp only [hread] at hresult
      rcases haction a hresult with ⟨hunchanged, hnothing⟩
      refine ⟨hunchanged, ?_⟩
      dsimp only
      rw [hnothing, Option.toList_none]

/-- A hall with a way out, in which the reader stands, without any variables. -/
def hallWithExit : Story where
  sections := .ofList [(.int 1, { next := some [{ text := "Out", target := .int 2 }] })]
  state := some { current := some (.int 1) }

/-- Offering the way out once more finds it there, and no way leads to a cellar that could be
closed. -/
theorem hallWithExit_unchanged :
    let r : Reading Unit := ⟨hallWithExit, ()⟩
    let offer : Action := .ifNotSetDo "lamp" (.addChoice (.text "2") "Out")
    let close : Step := ⟨"REMOVE_CHOICE", [.text "cellar"]⟩
    ((offer.execute .silent r).1 = .ok .duplicate ∧ (offer.execute .silent r).2 = r ∧
        offer.requests .silent r = []) ∧
      (runStep .silent r close).1 = .ok .skipped ∧ (runStep .silent r close).2 = r ∧
        requests .silent r [close] = [] := by
  intro r offer close
  have hoffer : (offer.execute .silent r).1 = .ok .duplicate := rfl
  have hclose : (runStep .silent r close).1 = .ok .skipped := rfl
  have hunchanged := unchanged_unless_applied .silent r
  exact ⟨⟨hoffer, hunchanged.1 offer (by rw [hoffer]; nofun)⟩,
    hclose, hunchanged.2 close (by rw [hclose]; nofun)⟩

end Gamebook
