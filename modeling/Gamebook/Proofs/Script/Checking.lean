import Gamebook.Proofs.Script.Changes

/-!
# Checking and running scripts

A script can be checked before it runs: its steps are read one by one, whatever their conditions
are. Running it reads the same steps, so those that cannot be read fail alike and change nothing,
and a step that can be read fails only where the progress names a section that does not exist.

Main results:

- Theorem `mem_validateScript_iff`: what checking a script reports.
- Theorem `Action.execute_eq_error`: why an action that was read can still fail.
- Theorem `errors_runScript`: in a section that exists a run fails as the check says.
- Theorem `runScript_omitAt`: steps that cannot be read may be left out.
- Theorem `runScript_recorded`: noting what is asked does not change a run.
- Theorem `requests_cons`: what a script asks, step by step.
-/

namespace Gamebook

/-! ## Checking -/

/-- What is wrong with a step, where it cannot be read. -/
def Step.fault? (e : Step) : Option StepError :=
  match Action.ofStep e with
  | .ok _ => none
  | .error error => some error

/-- A step has a fault exactly when reading it fails. -/
theorem Step.fault?_eq_some_iff {e : Step} {error : StepError} :
    e.fault? = some error ↔ Action.ofStep e = .error error := by
  unfold Step.fault?
  cases Action.ofStep e <;> simp

/-- A step has no fault exactly when it can be read. -/
theorem Step.fault?_eq_none_iff {e : Step} : e.fault? = none ↔ ∃ a, Action.ofStep e = .ok a := by
  unfold Step.fault?
  cases Action.ofStep e <;> simp

/-- Checking a script looks at one step after the other. -/
theorem validateScript_eq (script : List Step) :
    validateScript script =
      script.zipIdx.filterMap fun x => x.1.fault?.map fun error => (x.2, error) := by
  unfold validateScript Step.fault?
  congr
  funext ⟨e, position⟩
  simp only
  cases Action.ofStep e <;> rfl

/-- Checking reports exactly the steps that cannot be read, at their positions. -/
theorem mem_validateScript_iff {script : List Step} {position : Nat} {error : StepError} :
    (position, error) ∈ validateScript script ↔
      ∃ e, script[position]? = some e ∧ e.fault? = some error := by
  simp [validateScript_eq, List.mem_filterMap, List.mk_mem_zipIdx_iff_getElem?]

/-- The faults that checking reports are those of the steps in their order. -/
theorem map_snd_validateScript (script : List Step) :
    (validateScript script).map Prod.snd = script.filterMap Step.fault? := by
  calc
    (validateScript script).map Prod.snd = script.zipIdx.filterMap fun x => x.1.fault? := by
      rw [validateScript_eq, List.map_filterMap]
      congr
      funext x
      cases x.1.fault? <;> rfl
    _ = (script.zipIdx.map Prod.fst).filterMap Step.fault? := by
      rw [List.filterMap_map]
      rfl
    _ = script.filterMap Step.fault? := by rw [List.zipIdx_map_fst]

/-- A position is reported exactly when the step there cannot be read. -/
theorem mem_map_fst_validateScript_iff {script : List Step} {position : Nat} {e : Step}
    (he : script[position]? = some e) :
    position ∈ (validateScript script).map Prod.fst ↔ e.fault?.isSome = true := by
  rw [Option.isSome_iff_exists]
  constructor
  · intro hposition
    rcases List.mem_map.1 hposition with ⟨⟨_, error⟩, hmem, rfl⟩
    rcases mem_validateScript_iff.1 hmem with ⟨e', he', hfault⟩
    rw [he] at he'
    cases he'
    exact ⟨error, hfault⟩
  · rintro ⟨error, hfault⟩
    exact List.mem_map.2 ⟨(position, error), mem_validateScript_iff.2 ⟨e, he, hfault⟩, rfl⟩

/-! ## Failing -/

namespace Story

/-- The section being read is missing only where the progress names one that does not exist. -/
theorem currentSection_eq_error_iff {s : Story} {error : StepError} :
    s.currentSection = .error error ↔
      ∃ id, s.currentId = some id ∧ s.section? id = none ∧ error = .missingSection id := by
  unfold currentSection
  cases hcurrent : s.currentId with
  | none => simp
  | some id => cases hsec : s.section? id <;> simp [eq_comm, hsec]

/-- What never fails by itself fails only where the section being read is missing. -/
theorem currentSection_of_bind_eq_error {α : Type} {s : Story} {error : StepError}
    {f : Option (SectionId × Section) → Except StepError α}
    (hf : ∀ current e, f current ≠ .error e) (hbind : s.currentSection.bind f = .error error) :
    s.currentSection = .error error := by
  cases hcurrent : s.currentSection with
  | error e =>
    rw [hcurrent] at hbind
    cases hbind
    rfl
  | ok current =>
    rw [hcurrent] at hbind
    exact absurd hbind (hf current error)

/-- Offering a choice fails only where the section being read is missing. -/
theorem currentSection_of_offerChoice_eq_error {s : Story} {target : SectionId} {text : String}
    {error : StepError} (hoffer : s.offerChoice target text = .error error) :
    s.currentSection = .error error := by
  refine currentSection_of_bind_eq_error ?_ hoffer
  intro current e hfail
  split at hfail
  · cases hfail
  · split at hfail <;> cases hfail

/-- Withdrawing a choice fails only where the section being read is missing. -/
theorem currentSection_of_withdrawChoice_eq_error {s : Story} {target : SectionId}
    {error : StepError} (hwithdraw : s.withdrawChoice target = .error error) :
    s.currentSection = .error error := by
  refine currentSection_of_bind_eq_error ?_ hwithdraw
  intro current e hfail
  split at hfail
  · cases hfail
  · split at hfail <;> cases hfail

end Story

variable {σ : Type} (responder : Responder σ)

/-- The answer of a failed edit is its error. -/
theorem Reading.edit_eq_error {r : Reading σ} {f : Story → Except StepError (Outcome × Story)}
    {error : StepError} (hedit : (r.edit f).1 = .error error) : f r.story = .error error := by
  unfold edit at hedit
  split at hedit
  · cases hedit
  · next hf =>
    cases hedit
    exact hf

/-- An action fails only where the section being read is missing. -/
theorem Action.execute_eq_error {r : Reading σ} {a : Action} {error : StepError}
    (hexecute : (a.execute responder r).1 = .error error) :
    r.story.currentSection = .error error := by
  rw [execute_eq_run] at hexecute
  cases heffect : a.effect r.story.vars with
  | offer target text =>
    rw [heffect] at hexecute
    exact Story.currentSection_of_offerChoice_eq_error (Reading.edit_eq_error hexecute)
  | withdraw target =>
    rw [heffect] at hexecute
    exact Story.currentSection_of_withdrawChoice_eq_error (Reading.edit_eq_error hexecute)
  | _ =>
    rw [heffect] at hexecute
    cases hexecute

/-! ## Running -/

/-- A step that cannot be read fails with its fault and changes nothing. -/
theorem runStep_of_fault? {r : Reading σ} {e : Step} {error : StepError}
    (hfault : e.fault? = some error) : runStep responder r e = (.error error, r) := by
  rw [runStep, Step.fault?_eq_some_iff.1 hfault]

/-- A step that can be read fails only where the section being read is missing. -/
theorem runStep_eq_error {r : Reading σ} {e : Step} {error : StepError} (hfault : e.fault? = none)
    (hrun : (runStep responder r e).1 = .error error) : r.story.currentSection = .error error := by
  rcases Step.fault?_eq_none_iff.1 hfault with ⟨a, haction⟩
  rw [runStep, haction] at hrun
  exact a.execute_eq_error responder hrun

theorem runSteps_cons (r : Reading σ) (e : Step) (rest : List Step) :
    runSteps responder r (e :: rest) =
      ((runStep responder r e).1 :: (runSteps responder (runStep responder r e).2 rest).1,
        (runSteps responder (runStep responder r e).2 rest).2) :=
  rfl

/-- There is one result for each step. -/
theorem length_runSteps (r : Reading σ) (steps : List Step) :
    (runSteps responder r steps).1.length = steps.length := by
  induction steps generalizing r with
  | nil => rfl
  | cons e rest ih => rw [runSteps_cons, List.length_cons, ih, List.length_cons]

/-- The result of a step is what running it gives where the steps before it have led, which is still
where the reader was. -/
theorem exists_reading_of_getElem? (r : Reading σ) {steps : List Step} {position : Nat} {e : Step}
    (he : steps[position]? = some e) :
    ∃ before : Reading σ, Story.Kept r.story before.story ∧
      (runSteps responder r steps).1[position]? = some (runStep responder before e).1 := by
  induction steps generalizing r position with
  | nil => cases he
  | cons first rest ih =>
    rw [runSteps_cons]
    cases position with
    | zero =>
      cases he
      exact ⟨r, .refl _, rfl⟩
    | succ position =>
      have hfirst := (runStep_change responder r first).kept
      rcases ih (runStep responder r first).2 he with ⟨before, hkept, hresult⟩
      exact ⟨before, hfirst.trans hkept, hresult⟩

/-- The section being read stays missing or stays there. -/
theorem Story.Kept.currentSection_eq_error_iff {s s' : Story} (hkept : Kept s s')
    {error : StepError} : s'.currentSection = .error error ↔ s.currentSection = .error error := by
  have hmissing : ∀ id, s'.section? id = none ↔ s.section? id = none := by
    intro id
    rw [← hasSection_eq_false_iff, hkept.hasSection_eq, hasSection_eq_false_iff]
  simp only [Story.currentSection_eq_error_iff, hkept.currentId_eq, hmissing]

/-- Where the section being read exists, a script fails exactly as the check says. -/
theorem errors_runScript {r : Reading σ} (hcurrent : ∀ error, r.story.currentSection ≠ .error error)
    (script : List Step) :
    (runScript responder r script).1.errors = (validateScript script).map Prod.snd := by
  rw [map_snd_validateScript, runScript, Report.errors]
  induction script generalizing r with
  | nil => rfl
  | cons e rest ih =>
    have hnext : ∀ error, (runStep responder r e).2.story.currentSection ≠ .error error := by
      intro error herror
      rw [(runStep_change responder r e).kept.currentSection_eq_error_iff] at herror
      exact hcurrent error herror
    simp only [runSteps_cons, List.filterMap_cons, ih hnext]
    cases hfault : e.fault? with
    | some error => rw [runStep_of_fault? responder hfault]
    | none =>
      cases hresult : (runStep responder r e).1 with
      | ok outcome => rfl
      | error error => exact absurd (runStep_eq_error responder hfault hresult) (hcurrent error)

/-! ## Leaving steps out -/

/-- The entries of a list that stand at other positions. -/
def omitAt {α : Type} (positions : List Nat) (xs : List α) : List α :=
  (xs.zipIdx.filter fun x => !positions.contains x.2).map Prod.fst

/-- What stands beside the steps of a script that can be read. -/
def besideReadable {α : Type} : List Step → List α → List α
  | e :: script, x :: xs =>
    if e.fault?.isNone then x :: besideReadable script xs else besideReadable script xs
  | _, _ => []

/-- What is kept by its position is what stands beside the steps that can be read, where the
positions tell those steps; positions are counted from any number on. -/
theorem filter_zipIdx_eq_besideReadable {α : Type} {p : Nat → Bool} {script : List Step}
    {xs : List α} {start : Nat} (hlength : xs.length = script.length)
    (hkeep : ∀ i e, script[i]? = some e → p (start + i) = e.fault?.isNone) :
    ((xs.zipIdx start).filter fun x => p x.2).map Prod.fst = besideReadable script xs := by
  induction xs generalizing script start with
  | nil => cases script <;> rfl
  | cons x xs ih =>
    cases script with
    | nil => cases hlength
    | cons e script =>
      have hfirst : p start = e.fault?.isNone := hkeep 0 e rfl
      have hrest : ∀ i e, script[i]? = some e → p (start + 1 + i) = e.fault?.isNone := by
        intro i e he
        rw [Nat.add_assoc, Nat.add_comm 1 i]
        exact hkeep (i + 1) e he
      have hxs := ih (Nat.succ.inj hlength) hrest
      simp only [List.zipIdx_cons, List.filter_cons, besideReadable, hfirst]
      split
      · rw [List.map_cons, hxs]
      · exact hxs

/-- Leaving out what a check reports keeps what stands beside the steps that can be read. -/
theorem omitAt_validateScript {α : Type} {script : List Step} {xs : List α}
    (hlength : xs.length = script.length) :
    omitAt ((validateScript script).map Prod.fst) xs = besideReadable script xs := by
  unfold omitAt
  apply filter_zipIdx_eq_besideReadable
    (p := fun i => !((validateScript script).map Prod.fst).contains i) hlength
  intro position e he
  have hreported := mem_map_fst_validateScript_iff he
  rw [Nat.zero_add, ← Option.not_isSome, Bool.not_inj_iff, Bool.eq_iff_iff, List.contains_iff_mem]
  exact hreported

/-- The steps that can be read run as they do among the others. -/
theorem runSteps_besideReadable (r : Reading σ) (steps : List Step) :
    runSteps responder r (besideReadable steps steps) =
      (besideReadable steps (runSteps responder r steps).1, (runSteps responder r steps).2) := by
  induction steps generalizing r with
  | nil => rfl
  | cons e rest ih =>
    simp only [runSteps_cons, besideReadable]
    cases hfault : e.fault? with
    | some error =>
      rw [runStep_of_fault? responder hfault]
      exact ih r
    | none =>
      simp only [Option.isNone_none, if_true, runSteps_cons, ih]

/-- The steps that a check reports may be left out: the others have the same results, and the story
and whoever answers end up the same. -/
theorem runScript_omitAt (r : Reading σ) (script : List Step) :
    runScript responder r (omitAt ((validateScript script).map Prod.fst) script) =
      (⟨omitAt ((validateScript script).map Prod.fst) (runScript responder r script).1.results⟩,
        (runScript responder r script).2) := by
  have hresults : (runScript responder r script).1.results.length = script.length :=
    length_runSteps responder r script
  rw [omitAt_validateScript rfl, omitAt_validateScript hresults, runScript, runSteps_besideReadable]
  rfl

/-! ## Noting what is asked -/

/-- Answers like another, and notes every prompt with the variable that it is asked for. -/
def Responder.recording (responder : Responder σ) : Responder (σ × List (String × String)) where
  ask name prompt state :=
    let (answer, next) := responder.ask name prompt state.1
    (answer, next, state.2 ++ [(name, prompt)])

/-- The reading with what has been asked so far. -/
def Reading.recorded (r : Reading σ) (asked : List (String × String)) :
    Reading (σ × List (String × String)) where
  story := r.story
  responder := (r.responder, asked)

/-- What a script asks, each variable with its prompt. -/
def requests (r : Reading σ) (script : List Step) : List (String × String) :=
  (runScript responder.recording (r.recorded []) script).2.responder.2

/-- What an effect asks. -/
def Effect.request? : Effect → Option (String × String)
  | ask name prompt => some (name, prompt)
  | _ => none

/-- An edit of the story is the same with notes. -/
theorem Reading.edit_recorded (r : Reading σ) (asked : List (String × String))
    (f : Story → Except StepError (Outcome × Story)) :
    (r.recorded asked).edit f = ((r.edit f).1, (r.edit f).2.recorded asked) := by
  have hstory : (r.recorded asked).story = r.story := rfl
  unfold edit
  rw [hstory]
  cases f r.story <;> rfl

/-- An effect is the same with notes, and what it asks is noted. -/
theorem Effect.run_recorded (r : Reading σ) (asked : List (String × String)) (e : Effect) :
    e.run responder.recording (r.recorded asked) =
      ((e.run responder r).1, (e.run responder r).2.recorded (asked ++ e.request?.toList)) := by
  cases e with
  | ask name prompt => rfl
  | offer target text =>
    simp only [request?, Option.toList_none, List.append_nil]
    exact r.edit_recorded asked (·.offerChoice target text)
  | withdraw target =>
    simp only [request?, Option.toList_none, List.append_nil]
    exact r.edit_recorded asked (·.withdrawChoice target)
  | _ =>
    simp only [request?, Option.toList_none, List.append_nil]
    rfl

/-- A step is the same with notes, and what it asks is noted. -/
theorem runStep_recorded (r : Reading σ) (asked : List (String × String)) (e : Step) :
    runStep responder.recording (r.recorded asked) e =
      ((runStep responder r e).1,
        (runStep responder r e).2.recorded
          (asked ++ (e.effect r.story.vars).request?.toList)) := by
  unfold runStep Step.effect
  cases Action.ofStep e with
  | error error => simp only [Effect.request?, Option.toList_none, List.append_nil]
  | ok a =>
    simp only [a.execute_eq_run]
    exact Effect.run_recorded responder r asked _

/-- The notes of a script come after those that are there. -/
theorem exists_runSteps_recorded (r : Reading σ) (steps : List Step) :
    ∃ notes, ∀ asked, runSteps responder.recording (r.recorded asked) steps =
      ((runSteps responder r steps).1,
        (runSteps responder r steps).2.recorded (asked ++ notes)) := by
  induction steps generalizing r with
  | nil => exact ⟨[], fun asked => by rw [List.append_nil]; rfl⟩
  | cons e rest ih =>
    rcases ih (runStep responder r e).2 with ⟨notes, hnotes⟩
    refine ⟨(e.effect r.story.vars).request?.toList ++ notes, ?_⟩
    intro asked
    simp only [runSteps_cons, runStep_recorded, hnotes, List.append_assoc]

/-- Noting what is asked does not change what a script does, and what it asks is noted after what
has been asked before. -/
theorem runScript_recorded (r : Reading σ) (asked : List (String × String)) (script : List Step) :
    runScript responder.recording (r.recorded asked) script =
      ((runScript responder r script).1,
        (runScript responder r script).2.recorded (asked ++ requests responder r script)) := by
  rcases exists_runSteps_recorded responder r script with ⟨notes, hnotes⟩
  have hrequests : requests responder r script = notes := by
    rw [requests, runScript, hnotes]
    rfl
  rw [hrequests, runScript, runScript, hnotes]

/-- A script asks what its first step asks, and then what the others ask. -/
theorem requests_cons (r : Reading σ) (e : Step) (rest : List Step) :
    requests responder r (e :: rest) =
      (e.effect r.story.vars).request?.toList ++
        requests responder (runStep responder r e).2 rest := by
  have hrest := runScript_recorded responder (runStep responder r e).2
    (e.effect r.story.vars).request?.toList rest
  rw [requests, runScript, runSteps_cons, runStep_recorded, List.nil_append]
  exact congrArg (fun run => run.2.responder.2) hrest

end Gamebook
