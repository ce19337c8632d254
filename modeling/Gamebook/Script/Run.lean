import Gamebook.Script.Action
import Gamebook.Story

/-!
# Running scripts

Actions change the variables and the choices of the section being read; an `INPUT` action asks for a
value.  Whoever answers has a state of their own, so a run takes a story and that state and gives
both back.

- `Action.execute` runs one action.
- `runScript` runs a script; a step that fails is reported, and the steps after it still run.
-/

namespace Gamebook

/-- Answers prompts for the values of variables, each answer from a state and with a new one.
Without an answer the prompt itself is the value. -/
structure Responder (σ : Type) where
  ask : (name prompt : String) → σ → Option String × σ

/-- Never answers. -/
def Responder.silent {σ : Type} : Responder σ where
  ask _ _ state := (none, state)

/-- A story that is being read, and the state of the one who answers its prompts. -/
structure Reading (σ : Type) where
  story : Story
  responder : σ

/-- What an action did. -/
inductive Outcome where
  | applied
  /-- A condition was false, or there was nothing to act on. -/
  | skipped
  /-- The same choice was there already. -/
  | duplicate
  deriving Repr, DecidableEq

/-! ## Choices of the section being read -/

namespace Story

/-- The section being read with its name, absent when no section is being read. -/
def currentSection (s : Story) : Except StepError (Option (SectionId × Section)) :=
  match s.currentId with
  | none => .ok none
  | some id =>
    match s.section? id with
    | some sec => .ok (some (id, sec))
    | none => .error (.missingSection id)

/-- Adds a choice to the section being read, unless the same choice is there. -/
def offerChoice (s : Story) (target : SectionId) (text : String) :
    Except StepError (Outcome × Story) := do
  match ← s.currentSection with
  | none => .ok (.skipped, s)
  | some (id, sec) =>
    if sec.choices.any fun c => c.matches? target text then .ok (.duplicate, s)
    else .ok (.applied, s.adjustSection id fun sec => sec.addChoice { text, target })

/-- Removes the first choice of the section being read that leads to a target. -/
def withdrawChoice (s : Story) (target : SectionId) : Except StepError (Outcome × Story) := do
  match ← s.currentSection with
  | none => .ok (.skipped, s)
  | some (id, sec) =>
    match sec.choices.findIdx? fun c => c.target == target with
    | some position =>
      .ok (.applied,
        s.adjustSection id fun sec => { sec with next := some (sec.choices.eraseIdx position) })
    | none => .ok (.skipped, s)

end Story

/-! ## Actions -/

namespace Reading

variable {σ : Type}

/-- Changes the story and keeps who answers. -/
def adjust (r : Reading σ) (f : Story → Story) : Reading σ :=
  { r with story := f r.story }

/-- The answer of an edit of the story; a failed edit changes nothing. -/
def edit (r : Reading σ) (f : Story → Except StepError (Outcome × Story)) :
    Except StepError Outcome × Reading σ :=
  match f r.story with
  | .ok (outcome, story) => (.ok outcome, { r with story })
  | .error e => (.error e, r)

end Reading

/-- Runs an action.  The conditions of chained actions are looked at one after the other, and the
first that is false ends the action. -/
def Action.execute {σ : Type} (responder : Responder σ) (r : Reading σ) :
    Action → Except StepError Outcome × Reading σ
  | none => (.ok .applied, r)
  | set name value => (.ok .applied, r.adjust (·.setVariable name value))
  | input name prompt =>
    let (answer, state) := responder.ask name prompt r.responder
    (.ok .applied, ⟨r.story.setVariable name (answer.getD prompt), state⟩)
  | addToVariable name amount =>
    let sum := Number.sum (r.story.vars.find? name) amount
    (.ok .applied, r.adjust (·.setVariable name sum))
  | compareDo name comparison value next =>
    match (r.story.vars.find? name).filter fun current => !current.isEmpty with
    | some current =>
      if comparison.holds current value then next.execute responder r else (.ok .skipped, r)
    | Option.none => (.ok .skipped, r)
  | ifSetDo name next =>
    if r.story.vars.isSet name then next.execute responder r else (.ok .skipped, r)
  | ifNotSetDo name next =>
    if r.story.vars.isSet name then (.ok .skipped, r) else next.execute responder r
  | addChoice target text => r.edit (·.offerChoice target text)
  | removeChoice target => r.edit (·.withdrawChoice target)
  | ifSetAddChoice name target text =>
    if r.story.vars.isSet name then r.edit (·.offerChoice target text) else (.ok .skipped, r)
  | ifSetRemoveChoice name target =>
    if r.story.vars.isSet name then r.edit (·.withdrawChoice target) else (.ok .skipped, r)

/-- Reads a step of a script and runs it. -/
def runStep {σ : Type} (responder : Responder σ) (r : Reading σ) (e : Step) :
    Except StepError Outcome × Reading σ :=
  match Action.ofStep e with
  | .ok action => action.execute responder r
  | .error error => (.error error, r)

/-! ## Scripts -/

/-- What the steps of a script did, one result for each step. -/
structure Report where
  results : List (Except StepError Outcome)

namespace Report

/-- The failures in the order of the steps. -/
def errors (report : Report) : List StepError :=
  report.results.filterMap fun
    | .ok _ => none
    | .error e => some e

/-- No step failed. -/
def isClean (report : Report) : Bool :=
  report.errors.isEmpty

/-- The number of steps that took effect. -/
def applied (report : Report) : Nat :=
  report.results.countP fun
    | .ok .applied => true
    | _ => false

end Report

/-- Runs the steps of a script one after the other. -/
def runSteps {σ : Type} (responder : Responder σ) (r : Reading σ) :
    List Step → List (Except StepError Outcome) × Reading σ
  | [] => ([], r)
  | e :: rest =>
    let (result, r) := runStep responder r e
    let (results, r) := runSteps responder r rest
    (result :: results, r)

/-- Runs a script. -/
def runScript {σ : Type} (responder : Responder σ) (r : Reading σ) (script : List Step) :
    Report × Reading σ :=
  let (results, r) := runSteps responder r script
  (⟨results⟩, r)

/-- Runs the script of a section. -/
def runSection {σ : Type} (responder : Responder σ) (r : Reading σ) (id : SectionId) :
    Except StepError Report × Reading σ :=
  match r.story.section? id with
  | none => (.error (.missingSection id), r)
  | some sec =>
    let (report, r) := runScript responder r sec.steps
    (.ok report, r)

end Gamebook
