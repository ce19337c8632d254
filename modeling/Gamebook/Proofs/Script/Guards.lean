import Gamebook.Proofs.Script.Outcomes

/-!
# Conditions of chained actions

A chained action is a list of conditions in front of an action that has none.  All conditions look
at the variables that the action finds, for nothing changes before the last of them has been looked
at.  So a chain does what its last action does where all of its conditions hold, and nothing
otherwise, however the conditions are written.

Main results:

- Definitions `Action.guards` and `Action.primitive`: the conditions of an action, and what it does
  where they hold.
- Theorem `Action.execute_eq_guarded`: a chain is the conjunction of its conditions.
- Theorem `Action.execute_unfolded`: a condition inside an action is like one before it.
- Theorem `Action.execute_muted`: an unanswered prompt is the value itself.
- Theorem `Action.chain_is_conjunction`: all of this together, with what is asked.
-/

namespace Gamebook

/-! ## Conditions -/

/-- A condition on the variables. -/
inductive Guard where
  /-- The variable is set and compares as wanted. -/
  | compares (name : String) (comparison : Comparison) (value : String)
  | isSet (name : String)
  | isNotSet (name : String)

/-- Whether a condition holds where the variables are these. -/
def Guard.holds (vars : Variables) : Guard → Bool
  | compares name comparison value =>
    vars.isSet name && comparison.holds ((vars.find? name).getD "") value
  | isSet name => vars.isSet name
  | isNotSet name => !vars.isSet name

/-- An action without conditions. -/
inductive Primitive where
  | none
  | set (name value : String)
  | input (name prompt : String)
  | addToVariable (name amount : String)
  | addChoice (target : SectionId) (text : String)
  | removeChoice (target : SectionId)

/-- The action as a step of a script has it. -/
def Primitive.toAction : Primitive → Action
  | none => .none
  | set name value => .set name value
  | input name prompt => .input name prompt
  | addToVariable name amount => .addToVariable name amount
  | addChoice target text => .addChoice target text
  | removeChoice target => .removeChoice target

namespace Action

/-- The conditions of an action, in the order in which they are looked at. -/
def guards : Action → List Guard
  | compareDo name comparison value next => .compares name comparison value :: next.guards
  | ifSetDo name next => .isSet name :: next.guards
  | ifNotSetDo name next => .isNotSet name :: next.guards
  | ifSetAddChoice name _ _ => [.isSet name]
  | ifSetRemoveChoice name _ => [.isSet name]
  | none | set .. | input .. | addToVariable .. | addChoice .. | removeChoice .. => []

/-- What an action does once its conditions hold. -/
def primitive : Action → Primitive
  | compareDo _ _ _ next => next.primitive
  | ifSetDo _ next => next.primitive
  | ifNotSetDo _ next => next.primitive
  | ifSetAddChoice _ target text => .addChoice target text
  | ifSetRemoveChoice _ target => .removeChoice target
  | none => .none
  | set name value => .set name value
  | input name prompt => .input name prompt
  | addToVariable name amount => .addToVariable name amount
  | addChoice target text => .addChoice target text
  | removeChoice target => .removeChoice target

/-! ## Chains as conjunctions -/

/-- A comparison goes on exactly where its condition holds. -/
theorem effect_compareDo (vars : Variables) (name : String) (comparison : Comparison)
    (value : String) (next : Action) :
    (compareDo name comparison value next).effect vars =
      if (Guard.compares name comparison value).holds vars then next.effect vars
      else .idle .skipped := by
  rw [effect, Guard.holds, Variables.isSet]
  cases vars.find? name with
  | none => rfl
  | some current =>
    rw [Option.any_some, Option.getD_some, Option.filter_some]
    cases current.isEmpty with
    | true => rfl
    | false => rfl

/-- An action for a variable that is not set goes on exactly where it is not. -/
theorem effect_ifNotSetDo (vars : Variables) (name : String) (next : Action) :
    (ifNotSetDo name next).effect vars =
      if (Guard.isNotSet name).holds vars then next.effect vars else .idle .skipped := by
  rw [effect, Guard.holds]
  cases vars.isSet name with
  | true => rfl
  | false => rfl

/-- An action comes to what its last action comes to where all conditions hold, and to nothing
otherwise. -/
theorem effect_eq_guarded (vars : Variables) (a : Action) :
    a.effect vars =
      if a.guards.all (Guard.holds vars) then a.primitive.toAction.effect vars
      else .idle .skipped := by
  -- a condition in front goes on to a chain that is a conjunction itself
  have hcons : ∀ (g : Guard) (next : Action),
      next.effect vars =
          (if next.guards.all (Guard.holds vars) then next.primitive.toAction.effect vars
          else .idle .skipped) →
        (if g.holds vars then next.effect vars else .idle .skipped) =
          if (g :: next.guards).all (Guard.holds vars) then next.primitive.toAction.effect vars
          else .idle .skipped := by
    intro g next hnext
    rw [List.all_cons, hnext]
    cases g.holds vars with
    | true => rfl
    | false => rfl
  induction a with
  | compareDo name comparison value next ih =>
    rw [effect_compareDo]
    exact hcons (.compares name comparison value) next ih
  | ifSetDo name next ih => exact hcons (.isSet name) next ih
  | ifNotSetDo name next ih =>
    rw [effect_ifNotSetDo]
    exact hcons (.isNotSet name) next ih
  | ifSetAddChoice name target text => exact hcons (.isSet name) (.addChoice target text) rfl
  | ifSetRemoveChoice name target => exact hcons (.isSet name) (.removeChoice target) rfl
  | _ => rfl

variable {σ : Type} (responder : Responder σ)

/-- Running a chain is running its last action where all conditions hold, and nothing otherwise. -/
theorem execute_eq_guarded (r : Reading σ) (a : Action) :
    a.execute responder r =
      if a.guards.all (Guard.holds r.story.vars) then a.primitive.toAction.execute responder r
      else (.ok .skipped, r) := by
  rw [execute_eq_run, execute_eq_run, effect_eq_guarded]
  split <;> rfl

/-- A chain asks what its last action asks where all conditions hold, and nothing otherwise. -/
theorem requests_eq_guarded (r : Reading σ) (a : Action) :
    a.requests responder r =
      if a.guards.all (Guard.holds r.story.vars) then a.primitive.toAction.requests responder r
      else [] := by
  rw [requests_eq, requests_eq, effect_eq_guarded]
  split <;> rfl

/-- Actions with the same conditions and the same last action run alike. -/
theorem execute_congr {a b : Action} (hguards : a.guards = b.guards)
    (hprimitive : a.primitive = b.primitive) (r : Reading σ) :
    a.execute responder r = b.execute responder r := by
  rw [execute_eq_guarded, execute_eq_guarded responder r b, hguards, hprimitive]

/-! ## Conditions inside actions -/

/-- The action with every condition inside it in front of it: `IF_SET_ADD_CHOICE` is written as
`IF_SET_DO` with `ADD_CHOICE`, and the same for removing, at the end of any chain. -/
def unfolded : Action → Action
  | compareDo name comparison value next => compareDo name comparison value next.unfolded
  | ifSetDo name next => ifSetDo name next.unfolded
  | ifNotSetDo name next => ifNotSetDo name next.unfolded
  | ifSetAddChoice name target text => ifSetDo name (addChoice target text)
  | ifSetRemoveChoice name target => ifSetDo name (removeChoice target)
  | a => a

/-- Conditions in front are the same conditions. -/
theorem guards_unfolded (a : Action) : a.unfolded.guards = a.guards := by
  induction a with
  | compareDo name comparison value next ih => exact congrArg (_ :: ·) ih
  | ifSetDo name next ih => exact congrArg (_ :: ·) ih
  | ifNotSetDo name next ih => exact congrArg (_ :: ·) ih
  | _ => rfl

/-- Conditions in front guard the same action. -/
theorem primitive_unfolded (a : Action) : a.unfolded.primitive = a.primitive := by
  induction a with
  | compareDo name comparison value next ih => exact ih
  | ifSetDo name next ih => exact ih
  | ifNotSetDo name next ih => exact ih
  | _ => rfl

/-- A condition inside an action is like one in front of it. -/
theorem execute_unfolded (r : Reading σ) (a : Action) :
    a.unfolded.execute responder r = a.execute responder r :=
  execute_congr responder a.guards_unfolded a.primitive_unfolded r

/-- Conditions in front leave what is asked. -/
theorem requests_unfolded (r : Reading σ) (a : Action) :
    a.unfolded.requests responder r = a.requests responder r := by
  rw [requests, requests, execute_unfolded]

end Action

/-! ## Prompts without answers -/

/-- Never answers a prompt. -/
def Responder.IsSilent {σ : Type} (responder : Responder σ) : Prop :=
  ∀ name prompt state, (responder.ask name prompt state).1 = none

/-- The action with a prompt replaced by its own value. -/
def Primitive.muted : Primitive → Primitive
  | input name prompt => set name prompt
  | p => p

/-- The action with the prompt at the end of a chain replaced by its own value. -/
def Action.muted : Action → Action
  | compareDo name comparison value next => compareDo name comparison value next.muted
  | ifSetDo name next => ifSetDo name next.muted
  | ifNotSetDo name next => ifNotSetDo name next.muted
  | input name prompt => set name prompt
  | a => a

namespace Action

/-- The conditions in front of a prompt stay. -/
theorem guards_muted (a : Action) : a.muted.guards = a.guards := by
  induction a with
  | compareDo name comparison value next ih => exact congrArg (_ :: ·) ih
  | ifSetDo name next ih => exact congrArg (_ :: ·) ih
  | ifNotSetDo name next ih => exact congrArg (_ :: ·) ih
  | _ => rfl

/-- What the conditions guard is a value instead of a prompt. -/
theorem primitive_muted (a : Action) : a.muted.primitive = a.primitive.muted := by
  induction a with
  | compareDo name comparison value next ih => exact ih
  | ifSetDo name next ih => exact ih
  | ifNotSetDo name next ih => exact ih
  | _ => rfl

variable {σ : Type} {responder : Responder σ}

/-- Where no prompt is answered, prompts have the results that values have. -/
theorem execute_muted (hsilent : responder.IsSilent) (r : Reading σ) (a : Action) :
    (a.muted.execute responder r).1 = (a.execute responder r).1 ∧
      (a.muted.execute responder r).2.story = (a.execute responder r).2.story := by
  have hprimitive : ∀ p : Primitive,
      (p.muted.toAction.execute responder r).1 = (p.toAction.execute responder r).1 ∧
        (p.muted.toAction.execute responder r).2.story =
          (p.toAction.execute responder r).2.story := by
    intro p
    cases p with
    | input name prompt =>
      refine ⟨rfl, ?_⟩
      have hvalue : ((responder.ask name prompt r.responder).1).getD prompt = prompt := by
        rw [hsilent, Option.getD_none]
      exact congrArg (r.story.setVariable name) hvalue.symm
    | _ => exact ⟨rfl, rfl⟩
  rw [execute_eq_guarded, execute_eq_guarded responder r a, guards_muted, primitive_muted]
  split
  · exact hprimitive a.primitive
  · exact ⟨rfl, rfl⟩

/-- A chain has the result, leaves the story and asks what its last action does alone, where every
one of its conditions holds on the variables that the chain finds; otherwise it is skipped, changes
nothing and asks nothing.  A condition inside an action is like one in front of it.  Where no prompt
is answered, every prompt can be replaced by its own value. -/
theorem chain_is_conjunction {σ : Type} (responder : Responder σ) (r : Reading σ) (a : Action) :
    (a.execute responder r =
        if a.guards.all (Guard.holds r.story.vars) then a.primitive.toAction.execute responder r
        else (.ok .skipped, r)) ∧
      (a.requests responder r =
        if a.guards.all (Guard.holds r.story.vars) then a.primitive.toAction.requests responder r
        else []) ∧
      (a.unfolded.execute responder r = a.execute responder r ∧
        a.unfolded.requests responder r = a.requests responder r) ∧
      (responder.IsSilent →
        (a.muted.execute responder r).1 = (a.execute responder r).1 ∧
          (a.muted.execute responder r).2.story = (a.execute responder r).2.story) :=
  ⟨a.execute_eq_guarded responder r, a.requests_eq_guarded responder r,
    ⟨a.execute_unfolded responder r, a.requests_unfolded responder r⟩,
    fun hsilent => a.execute_muted hsilent r⟩

/-- A reader who found the key is asked for a name, and gets the question for one. -/
theorem chain_is_conjunction_of_prompt :
    let story : Story := Story.setVariable {} "key" "found"
    let r : Reading Unit := ⟨story, ()⟩
    let a : Action := .compareDo "key" .equal "found" (.ifNotSetDo "name" (.input "name" "Who?"))
    a.requests .silent r = [("name", "Who?")] ∧
      (a.muted.execute .silent r).1 = .ok .applied ∧
      (a.muted.execute .silent r).2.story = story.setVariable "name" "Who?" := by
  intro story r a
  have hchain := chain_is_conjunction .silent r a
  have hguards : a.guards.all (Guard.holds r.story.vars) = true := by decide +kernel
  rw [if_pos hguards, if_pos hguards] at hchain
  rcases hchain with ⟨hrun, hrequests, -, hmuted⟩
  rcases hmuted fun _ _ _ => rfl with ⟨hresult, hstory⟩
  refine ⟨hrequests, ?_, ?_⟩
  · rw [hresult, hrun]
    rfl
  · rw [hstory, hrun]
    rfl

end Action

end Gamebook
