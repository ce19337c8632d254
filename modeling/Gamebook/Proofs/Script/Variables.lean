import Gamebook.Proofs.Scalar
import Gamebook.Proofs.Script.Checking

/-!
# What scripts do to variables

What a script asks and what it makes of the variables depends on the variables, on the script and on
the answers, and on nothing else of the story: no action reads the choices that others add or
remove.  Nor does it matter how parameters are written, as long as their texts are the same.

Main results:

- Theorem `Step.effect_alike`: steps that are the same have the same effect, but for how a target is
  written.
- Definition `Responder.answers`: the answers to prompts in sequence.
- Theorem `runScript_alike`: runs of the same script that start with the same variables and are
  given the same answers ask the same and end with the same variables.
-/

namespace Gamebook

/-! ## Scalars in another spelling -/

/-- The scalar written as its canonical text. -/
def Scalar.spelledOut (s : Scalar) : Scalar :=
  .text s.canonical

/-- Scalars that are the same are spelled out alike. -/
theorem Scalar.spelledOut_congr {a b : Scalar} (hab : (a == b) = true) :
    a.spelledOut = b.spelledOut :=
  congrArg Scalar.text (beq_iff.1 hab)

/-- Lists of scalars that are the same are spelled out alike. -/
theorem Scalar.map_spelledOut_congr {as bs : List Scalar} (hab : (as == bs) = true) :
    as.map spelledOut = bs.map spelledOut := by
  induction as generalizing bs with
  | nil =>
    cases bs with
    | nil => rfl
    | cons => cases hab
  | cons a as ih =>
    cases bs with
    | nil => cases hab
    | cons b bs =>
      rw [List.cons_beq_cons, Bool.and_eq_true] at hab
      rw [List.map_cons, List.map_cons, spelledOut_congr hab.1, ih hab.2]

/-! ## Effects in another spelling -/

/-- What an effect asks does not depend on how its target is written. -/
@[simp]
theorem Effect.request?_mapTarget (f : SectionId → SectionId) (e : Effect) :
    (e.mapTarget f).request? = e.request? := by
  cases e <;> rfl

/-- The effects are the same, but for how their targets are written. -/
def Effect.Alike (e e' : Effect) : Prop :=
  e.mapTarget Scalar.spelledOut = e'.mapTarget Scalar.spelledOut

/-- Effects that are alike ask the same. -/
theorem Effect.Alike.request?_eq {e e' : Effect} (halike : e.Alike e') :
    e'.request? = e.request? := by
  have hrequest := congrArg request? halike
  rw [request?_mapTarget, request?_mapTarget] at hrequest
  exact hrequest.symm

/-- A step with its parameters spelled out has the same effect, but for its target. -/
theorem Step.effect_spelledOut (vars : Variables) (e : Step) :
    Step.effect vars { e with parameters := e.parameters.map Scalar.spelledOut } =
      (e.effect vars).mapTarget Scalar.spelledOut := by
  unfold Step.effect Action.ofStep
  rw [Action.parse_map (f := Scalar.spelledOut) fun _ => rfl]
  cases Action.parse e.action e.parameters with
  | error _ => rfl
  | ok a => exact a.effect_mapTarget Scalar.spelledOut vars

/-- Steps that are the same have effects that are alike. -/
theorem Step.effect_alike {e e' : Step} (he : (e == e') = true) (vars : Variables) :
    (e.effect vars).Alike (e'.effect vars) := by
  rcases e with ⟨action, parameters⟩
  rcases e' with ⟨action', parameters'⟩
  change (action == action' && parameters == parameters') = true at he
  rw [Bool.and_eq_true, beq_iff_eq] at he
  rcases he with ⟨rfl, hparameters⟩
  rw [Effect.Alike, ← Step.effect_spelledOut, ← Step.effect_spelledOut,
    Scalar.map_spelledOut_congr hparameters]

/-! ## Two runs -/

/-- What is done with the section being read leaves the progress alone, whichever section that is. -/
theorem Story.state_of_bind_eq_ok {s s' : Story} {outcome : Outcome}
    {f : Option (SectionId × Section) → Except StepError (Outcome × Story)}
    (hf : ∀ current, f current = .ok (outcome, s') → s'.state = s.state)
    (hbind : s.currentSection.bind f = .ok (outcome, s')) : s'.state = s.state := by
  cases hcurrent : s.currentSection with
  | error e =>
    rw [hcurrent] at hbind
    cases hbind
  | ok current =>
    rw [hcurrent] at hbind
    exact hf current hbind

/-- Offering a choice leaves the progress alone. -/
theorem Story.state_of_offerChoice {s s' : Story} {target : SectionId} {text : String}
    {outcome : Outcome} (hoffer : s.offerChoice target text = .ok (outcome, s')) :
    s'.state = s.state := by
  refine state_of_bind_eq_ok ?_ hoffer
  intro current hcurrent
  split at hcurrent
  · cases hcurrent
    rfl
  · split at hcurrent <;> cases hcurrent <;> rfl

/-- Withdrawing a choice leaves the progress alone. -/
theorem Story.state_of_withdrawChoice {s s' : Story} {target : SectionId} {outcome : Outcome}
    (hwithdraw : s.withdrawChoice target = .ok (outcome, s')) : s'.state = s.state := by
  refine state_of_bind_eq_ok ?_ hwithdraw
  intro current hcurrent
  split at hcurrent
  · cases hcurrent
    rfl
  · split at hcurrent <;> cases hcurrent <;> rfl

variable {σ τ : Type}

/-- An edit that leaves the progress alone leaves the variables alone, and nobody is asked. -/
theorem Reading.edit_frame (r : Reading σ) {f : Story → Except StepError (Outcome × Story)}
    (hf : ∀ outcome s', f r.story = .ok (outcome, s') → s'.state = r.story.state) :
    (r.edit f).2.story.vars = r.story.vars ∧ (r.edit f).2.responder = r.responder := by
  unfold edit
  cases hedit : f r.story with
  | error e => exact ⟨rfl, rfl⟩
  | ok answer =>
    have hstate : answer.2.state = r.story.state := hf answer.1 answer.2 hedit
    refine ⟨?_, rfl⟩
    dsimp only
    rw [Story.vars, Story.progress, hstate]
    rfl

/-- The answers to prompts, each with its variable, that are asked one after the other. -/
def Responder.answers (responder : Responder σ) (state : σ) :
    List (String × String) → List (Option String)
  | [] => []
  | (name, prompt) :: rest =>
    let (answer, next) := responder.ask name prompt state
    answer :: responder.answers next rest

/-- There is one answer to each prompt. -/
theorem Responder.length_answers (responder : Responder σ) (state : σ)
    (prompts : List (String × String)) :
    (responder.answers state prompts).length = prompts.length := by
  induction prompts generalizing state with
  | nil => rfl
  | cons _ rest ih => exact congrArg (· + 1) (ih _)

/-- The variables after an effect, where its prompt is given the first of these answers. -/
def Effect.assigned (answers : List (Option String)) (vars : Variables) : Effect → Variables
  | assign name value => vars.insert name value
  | ask name prompt => vars.insert name (answers.head?.join.getD prompt)
  | _ => vars

/-- What an effect does to the variables does not depend on how its target is written. -/
@[simp]
theorem Effect.assigned_mapTarget (f : SectionId → SectionId) (answers : List (Option String))
    (vars : Variables) (e : Effect) :
    (e.mapTarget f).assigned answers vars = e.assigned answers vars := by
  cases e <;> rfl

/-- Effects that are alike do the same to the variables. -/
theorem Effect.Alike.assigned_eq {e e' : Effect} (halike : e.Alike e')
    (answers : List (Option String)) (vars : Variables) :
    e'.assigned answers vars = e.assigned answers vars := by
  have hassigned := congrArg (assigned answers vars) halike
  rw [assigned_mapTarget, assigned_mapTarget] at hassigned
  exact hassigned.symm

section

variable (responder : Responder σ) (r : Reading σ)

/-- The variables after an effect come from those before it and from the answer to its prompt. -/
theorem Effect.vars_run (e : Effect) :
    (e.run responder r).2.story.vars =
      e.assigned (responder.answers r.responder e.request?.toList) r.story.vars := by
  cases e with
  | offer target text => exact (r.edit_frame fun _ _ => Story.state_of_offerChoice).1
  | withdraw target => exact (r.edit_frame fun _ _ => Story.state_of_withdrawChoice).1
  | _ => rfl

/-- After an effect the one who answers goes on after the answer to its prompt. -/
theorem Effect.answers_run (e : Effect) (rest : List (String × String)) :
    responder.answers r.responder (e.request?.toList ++ rest) =
      responder.answers r.responder e.request?.toList ++
        responder.answers (e.run responder r).2.responder rest := by
  cases e with
  | offer target text =>
    rw [Effect.run, (r.edit_frame fun _ _ => Story.state_of_offerChoice).2]
    rfl
  | withdraw target =>
    rw [Effect.run, (r.edit_frame fun _ _ => Story.state_of_withdrawChoice).2]
    rfl
  | _ => rfl

end

section

variable (responder : Responder σ) (other : Responder τ) {r : Reading σ} {r' : Reading τ}

/-- Effects that are alike, with the same variables and the same answers, end with the same
variables, and what is asked after them is given the same answers. -/
theorem Effect.Alike.run {e e' : Effect} (halike : e.Alike e')
    (hvars : r'.story.vars = r.story.vars) {rest : List (String × String)}
    (hanswers : other.answers r'.responder (e.request?.toList ++ rest) =
      responder.answers r.responder (e.request?.toList ++ rest)) :
    (e'.run other r').2.story.vars = (e.run responder r).2.story.vars ∧
      other.answers (e'.run other r').2.responder rest =
        responder.answers (e.run responder r).2.responder rest := by
  rw [← halike.request?_eq, e'.answers_run other, halike.request?_eq, e.answers_run responder]
    at hanswers
  have hlength : (other.answers r'.responder e.request?.toList).length =
      (responder.answers r.responder e.request?.toList).length := by
    rw [Responder.length_answers, Responder.length_answers]
  rcases List.append_inj hanswers hlength with ⟨hnow, hlater⟩
  refine ⟨?_, hlater⟩
  rw [e'.vars_run, e.vars_run, halike.request?_eq, hnow, hvars, halike.assigned_eq]

/-- Runs of the same script that start with the same variables and are given the same answers ask
the same and end with the same variables. -/
theorem runScript_alike {script script' : List Step} (hscript : (script == script') = true)
    (hvars : r'.story.vars = r.story.vars)
    (hanswers : other.answers r'.responder (requests responder r script) =
      responder.answers r.responder (requests responder r script)) :
    requests other r' script' = requests responder r script ∧
      (runScript other r' script').2.story.vars = (runScript responder r script).2.story.vars := by
  induction script generalizing r r' script' with
  | nil =>
    cases script' with
    | nil => exact ⟨rfl, hvars⟩
    | cons e' rest' => cases hscript
  | cons e rest ih =>
    cases script' with
    | nil => cases hscript
    | cons e' rest' =>
      rw [List.cons_beq_cons, Bool.and_eq_true] at hscript
      have halike : (e.effect r.story.vars).Alike (e'.effect r'.story.vars) := by
        rw [hvars]
        exact Step.effect_alike hscript.1 r.story.vars
      rw [requests_cons] at hanswers
      rcases halike.run responder other hvars hanswers with ⟨hafter, hlater⟩
      rw [← runStep_snd, ← runStep_snd] at hafter hlater
      rcases ih hscript.2 hafter hlater with ⟨hrequests, hlast⟩
      rw [requests_cons, requests_cons, halike.request?_eq, hrequests]
      exact ⟨rfl, hlast⟩

end

end Gamebook
