import Gamebook.Script.Run

/-!
# Effects of actions

The conditions of an action look at variables only.  So the variables decide what an action comes
to: nothing, a value for a variable, a prompt, or a change of the choices of the section being read.
Whatever holds of all actions then follows from these five effects, without going through the
conditions again.

Main results:

- Definition `Action.effect`: what an action comes to, given the variables.
- Theorems `Action.parse_map` and `Action.effect_mapTarget`: parameters that are written in another
  way, with the same texts, come to the same, but for how a target is written.
- Theorem `Action.execute_eq_run`: running an action brings its effect about.
- Theorem `runStep_snd`: so does running a step, which has none where it cannot be read.
-/

namespace Gamebook

/-- What an action comes to once its conditions have been looked at. -/
inductive Effect where
  /-- Nothing changes. -/
  | idle (outcome : Outcome)
  /-- A variable gets a value. -/
  | assign (name value : String)
  /-- A variable gets the value that is answered. -/
  | ask (name prompt : String)
  /-- The section being read gets a choice. -/
  | offer (target : SectionId) (text : String)
  /-- The section being read loses a choice. -/
  | withdraw (target : SectionId)

/-- The effect of an action where the variables are these. -/
def Action.effect (vars : Variables) : Action → Effect
  | none => .idle .applied
  | set name value => .assign name value
  | input name prompt => .ask name prompt
  | addToVariable name amount => .assign name (Number.sum (vars.find? name) amount)
  | compareDo name comparison value next =>
    match (vars.find? name).filter fun current => !current.isEmpty with
    | some current =>
      if comparison.holds current value then next.effect vars else .idle .skipped
    | Option.none => .idle .skipped
  | ifSetDo name next => if vars.isSet name then next.effect vars else .idle .skipped
  | ifNotSetDo name next => if vars.isSet name then .idle .skipped else next.effect vars
  | addChoice target text => .offer target text
  | removeChoice target => .withdraw target
  | ifSetAddChoice name target text =>
    if vars.isSet name then .offer target text else .idle .skipped
  | ifSetRemoveChoice name target =>
    if vars.isSet name then .withdraw target else .idle .skipped

/-- The effect of a step of a script; a step that cannot be read has none. -/
def Step.effect (vars : Variables) (e : Step) : Effect :=
  match Action.ofStep e with
  | .ok a => a.effect vars
  | .error _ => .idle .skipped

/-! ## Targets in another spelling -/

/-- The action with its target written in another way. -/
def Action.mapTarget (f : SectionId → SectionId) : Action → Action
  | compareDo name comparison value next => compareDo name comparison value (next.mapTarget f)
  | ifSetDo name next => ifSetDo name (next.mapTarget f)
  | ifNotSetDo name next => ifNotSetDo name (next.mapTarget f)
  | addChoice target text => addChoice (f target) text
  | removeChoice target => removeChoice (f target)
  | ifSetAddChoice name target text => ifSetAddChoice name (f target) text
  | ifSetRemoveChoice name target => ifSetRemoveChoice name (f target)
  | a => a

/-- The effect with its target written in another way. -/
def Effect.mapTarget (f : SectionId → SectionId) : Effect → Effect
  | offer target text => offer (f target) text
  | withdraw target => withdraw (f target)
  | e => e

/-- Parameters with the same texts are read as the same action, but for its target. -/
theorem Action.parse_map {f : Scalar → Scalar} (hf : ∀ s, (f s).canonical = s.canonical)
    (name : String) (parameters : List Scalar) :
    parse name (parameters.map f) = (parse name parameters).map (mapTarget f) := by
  fun_induction parse name parameters
  case case1 hkind | case2 hkind | case11 hkind =>
    simp only [List.map_cons, parse, hkind]
    rfl
  case case3 hkind | case4 hkind | case5 hkind | case10 hkind | case12 hkind | case13 hkind =>
    simp only [List.map_cons, parse, hkind, hf]
    rfl
  case case6 next rest comparison htoken hkind ih =>
    rw [List.map_cons, List.map_cons, List.map_cons, List.map_cons, parse, hkind]
    simp only [hf, htoken, ih]
    cases parse next.canonical rest <;> rfl
  case case7 htoken hkind =>
    simp only [List.map_cons, parse, hkind, hf, htoken]
    rfl
  case case8 next rest hkind ih | case9 next rest hkind ih =>
    rw [List.map_cons, List.map_cons, parse, hkind]
    simp only [hf, ih]
    cases parse next.canonical rest <;> rfl
  case case14 hkind =>
    rw [parse, hkind, Except.map]
    dsimp only
    -- the list is too short for every other branch, and stays so
    split
    case h_12 => rw [List.length_map]
    all_goals
      simp only [List.map_eq_cons_iff] at *
      grind

/-- What an action comes to is the same, but for its target. -/
theorem Action.effect_mapTarget (f : SectionId → SectionId) (vars : Variables) (a : Action) :
    (a.mapTarget f).effect vars = (a.effect vars).mapTarget f := by
  induction a with
  | compareDo name comparison value next ih =>
    simp only [mapTarget, effect]
    cases (vars.find? name).filter fun current => !current.isEmpty with
    | none => rfl
    | some current =>
      dsimp only
      split
      · exact ih
      · rfl
  | ifSetDo name next ih =>
    simp only [mapTarget, effect]
    split
    · exact ih
    · rfl
  | ifNotSetDo name next ih =>
    simp only [mapTarget, effect]
    split
    · rfl
    · exact ih
  | ifSetAddChoice name target text =>
    simp only [mapTarget, effect]
    split <;> rfl
  | ifSetRemoveChoice name target =>
    simp only [mapTarget, effect]
    split <;> rfl
  | _ => rfl

/-! ## Bringing effects about -/

variable {σ : Type} (responder : Responder σ)

/-- Brings an effect about. -/
def Effect.run (r : Reading σ) : Effect → Except StepError Outcome × Reading σ
  | idle outcome => (.ok outcome, r)
  | assign name value => (.ok .applied, r.adjust (·.setVariable name value))
  | ask name prompt =>
    let (answer, state) := responder.ask name prompt r.responder
    (.ok .applied, ⟨r.story.setVariable name (answer.getD prompt), state⟩)
  | offer target text => r.edit (·.offerChoice target text)
  | withdraw target => r.edit (·.withdrawChoice target)

/-- Running an action brings its effect about. -/
theorem Action.execute_eq_run (r : Reading σ) (a : Action) :
    a.execute responder r = (a.effect r.story.vars).run responder r := by
  induction a with
  | none => rfl
  | set name value => rfl
  | input name prompt => rfl
  | addToVariable name amount => rfl
  | compareDo name comparison value next ih =>
    unfold execute effect
    cases (r.story.vars.find? name).filter fun current => !current.isEmpty with
    | none => rfl
    | some current =>
      dsimp only
      split
      · exact ih
      · rfl
  | ifSetDo name next ih =>
    unfold execute effect
    split
    · exact ih
    · rfl
  | ifNotSetDo name next ih =>
    unfold execute effect
    split
    · rfl
    · exact ih
  | addChoice target text => rfl
  | removeChoice target => rfl
  | ifSetAddChoice name target text =>
    unfold execute effect
    split <;> rfl
  | ifSetRemoveChoice name target =>
    unfold execute effect
    split <;> rfl

/-- Running a step brings its effect about. -/
theorem runStep_snd (r : Reading σ) (e : Step) :
    (runStep responder r e).2 = ((e.effect r.story.vars).run responder r).2 := by
  unfold runStep Step.effect
  cases Action.ofStep e with
  | error _ => rfl
  | ok a => exact congrArg Prod.snd (a.execute_eq_run responder r)

end Gamebook
