import Gamebook.Proofs.Play.Moves
import Gamebook.Proofs.Spelling.Values

/-!
# Playing in one spelling

A script runs in the same way however its parameters and the names of a story are written, and so
does every move of a reader: the result in one spelling is the result of the move in one spelling.

Main results:

- Theorem `runScript_spellOut`: a run of a script in one spelling.
- Theorem `Session.transition_spellOut`: entering a section in one spelling.
- Theorem `Session.perform_spellOut`: a move in one spelling.
-/

namespace Gamebook

/-! ## Results -/

deriving instance BEq for StepError
deriving instance BEq for Report
deriving instance BEq for ShownChoice
deriving instance BEq for Scene
deriving instance BEq for MoveError

instance : SpellOut Outcome := ⟨id⟩

instance : LawfulSpellOut Outcome where
  beq_iff := beq_iff_eq

instance : SpellOut StepError where
  spellOut
    | .missingSection id => .missingSection (spellOut id)
    | e => e

instance : LawfulSpellOut StepError where
  beq_iff {a b} := by
    cases a <;> cases b
    case unknownAction.unknownAction name name' =>
      change (name == name') = true ↔ StepError.unknownAction name = .unknownAction name'
      rw [beq_iff_eq, StepError.unknownAction.injEq]
    case tooFewParameters.tooFewParameters kind found kind' found' =>
      change (kind == kind' && found == found') = true ↔
        StepError.tooFewParameters kind found = .tooFewParameters kind' found'
      rw [Bool.and_eq_true, beq_iff_eq, beq_iff_eq, StepError.tooFewParameters.injEq]
    case badToken.badToken kind value kind' value' =>
      change (kind == kind' && value == value') = true ↔
        StepError.badToken kind value = .badToken kind' value'
      rw [Bool.and_eq_true, beq_iff_eq, beq_iff_eq, StepError.badToken.injEq]
    case missingSection.missingSection id id' =>
      change (id == id') = true ↔
        StepError.missingSection (spellOut id) = .missingSection (spellOut id')
      rw [LawfulSpellOut.beq_iff, StepError.missingSection.injEq]
    all_goals exact ⟨nofun, nofun⟩

instance : SpellOut Report where
  spellOut report := { results := spellOut report.results }

instance : LawfulSpellOut Report where
  beq_iff {a b} := by
    rcases a with ⟨results⟩
    rcases b with ⟨results'⟩
    change (results == results') = true ↔ (⟨spellOut results⟩ : Report) = ⟨spellOut results'⟩
    rw [LawfulSpellOut.beq_iff, Report.mk.injEq]

instance : SpellOut ShownChoice where
  spellOut c := { c with target := spellOut c.target }

instance : LawfulSpellOut ShownChoice where
  beq_iff {a b} := by
    rcases a with ⟨position, text, target, isPlain⟩
    rcases b with ⟨position', text', target', isPlain'⟩
    change (position == position' && (text == text' && (target == target' &&
      isPlain == isPlain'))) = true ↔
      (⟨position, text, spellOut target, isPlain⟩ : ShownChoice) =
        ⟨position', text', spellOut target', isPlain'⟩
    rw [Bool.and_eq_true, Bool.and_eq_true, Bool.and_eq_true, LawfulSpellOut.beq_iff (a := target),
      beq_iff_eq, beq_iff_eq, beq_iff_eq, ShownChoice.mk.injEq]

instance : SpellOut Scene where
  spellOut scene :=
    { scene with
      id := spellOut scene.id
      choices := spellOut scene.choices
      scriptErrors := spellOut scene.scriptErrors }

instance : LawfulSpellOut Scene where
  beq_iff {a b} := by
    rcases a with ⟨id, text, media, choices, errors⟩
    rcases b with ⟨id', text', media', choices', errors'⟩
    change (id == id' && (text == text' && (media == media' && (choices == choices' &&
      errors == errors')))) = true ↔
      (⟨spellOut id, text, media, spellOut choices, spellOut errors⟩ : Scene) =
        ⟨spellOut id', text', media', spellOut choices', spellOut errors'⟩
    rw [Bool.and_eq_true, Bool.and_eq_true, Bool.and_eq_true, Bool.and_eq_true,
      LawfulSpellOut.beq_iff (a := id), LawfulSpellOut.beq_iff (a := choices),
      LawfulSpellOut.beq_iff (a := errors), beq_iff_eq, beq_iff_eq, Scene.mk.injEq]

instance : SpellOut MoveError where
  spellOut
    | .missingSection id => .missingSection (spellOut id)
    | .script e => .script (spellOut e)
    | e => e

instance : LawfulSpellOut MoveError where
  beq_iff {a b} := by
    cases a <;> cases b
    case missingSection.missingSection id id' =>
      change (id == id') = true ↔
        MoveError.missingSection (spellOut id) = .missingSection (spellOut id')
      rw [LawfulSpellOut.beq_iff, MoveError.missingSection.injEq]
    case invalidChoice.invalidChoice position available position' available' =>
      change (position == position' && available == available') = true ↔
        MoveError.invalidChoice position available = .invalidChoice position' available'
      rw [Bool.and_eq_true, beq_iff_eq, beq_iff_eq, MoveError.invalidChoice.injEq]
    case titleMismatch.titleMismatch story save story' save' =>
      change (story == story' && save == save') = true ↔
        MoveError.titleMismatch story save = .titleMismatch story' save'
      rw [Bool.and_eq_true, beq_iff_eq, beq_iff_eq, MoveError.titleMismatch.injEq]
    case script.script e e' =>
      change (e == e') = true ↔ MoveError.script (spellOut e) = .script (spellOut e')
      rw [LawfulSpellOut.beq_iff, MoveError.script.injEq]
    all_goals first | exact ⟨fun _ => rfl, fun _ => rfl⟩ | exact ⟨nofun, nofun⟩

/-! ## Choices of the section being read -/

namespace Story

variable (s : Story)

@[simp]
theorem currentSection_spellOut : (spellOut s).currentSection = spellOut s.currentSection := by
  simp only [currentSection, currentId_spellOut]
  cases s.currentId with
  | none => rfl
  | some id =>
    simp only [Option.map_some, section?_spellOut, section?_spellOut_id]
    cases s.section? id <;> rfl

/-- Offering a choice in one spelling. -/
theorem offerChoice_spellOut (target : SectionId) (text : String) :
    (spellOut s).offerChoice (spellOut target) text = spellOut (s.offerChoice target text) := by
  simp only [offerChoice, currentSection_spellOut]
  cases s.currentSection with
  | error e => rfl
  | ok current =>
    cases current with
    | none => rfl
    | some current =>
      rcases current with ⟨id, sec⟩
      have hoffered : ((spellOut sec).choices.any fun c => c.matches? (spellOut target) text) =
          sec.choices.any fun c => c.matches? target text := by
        rw [Section.choices_spellOut, List.any_map]
        apply congrArg sec.choices.any
        funext c
        exact congrArg (· && c.text == text) (c.target_beq_spellOut target)
      have hadd := s.adjustSection_spellOut id (·.addChoice { text, target := spellOut target })
        (·.addChoice { text, target }) fun sec => sec.addChoice_spellOut { text, target }
      change (if (spellOut sec).choices.any fun c => c.matches? (spellOut target) text
        then _ else _) = spellOut (if sec.choices.any fun c => c.matches? target text
        then _ else _)
      rw [hoffered, hadd]
      split <;> rfl

/-- Withdrawing a choice in one spelling. -/
theorem withdrawChoice_spellOut (target : SectionId) :
    (spellOut s).withdrawChoice (spellOut target) = spellOut (s.withdrawChoice target) := by
  simp only [withdrawChoice, currentSection_spellOut]
  cases s.currentSection with
  | error e => rfl
  | ok current =>
    cases current with
    | none => rfl
    | some current =>
      rcases current with ⟨id, sec⟩
      have hfind : ((spellOut sec).choices.findIdx? fun c => c.target == spellOut target) =
          sec.choices.findIdx? fun c => c.target == target := by
        rw [Section.choices_spellOut, List.findIdx?_map]
        apply congrArg (List.findIdx? · sec.choices)
        funext c
        exact c.target_beq_spellOut target
      have herase (position : Nat) := s.adjustSection_spellOut id
        (fun sec => { sec with next := some (sec.choices.eraseIdx position) })
        (fun sec => { sec with next := some (sec.choices.eraseIdx position) })
        fun sec => sec.eraseChoice_spellOut position
      have hcurrent : (spellOut (.ok (some (id, sec))) : Except StepError _) =
          .ok (some (spellOut id, spellOut sec)) := rfl
      simp only [hcurrent, Except.bind, bind, hfind]
      cases sec.choices.findIdx? fun c => c.target == target with
      | none => rfl
      | some position =>
        exact congrArg (fun story => Except.ok (Outcome.applied, story)) (herase position)

end Story

/-! ## Scripts -/

variable {σ : Type} (responder : Responder σ)

instance : SpellOut (Reading σ) where
  spellOut r := { r with story := spellOut r.story }

/-- An edit in one spelling. -/
theorem Reading.edit_spellOut (r : Reading σ) (f g : Story → Except StepError (Outcome × Story))
    (hf : f (spellOut r.story) = spellOut (g r.story)) :
    (spellOut r).edit f = spellOut (r.edit g) := by
  have hstory : (spellOut r).story = spellOut r.story := rfl
  rw [edit, edit, hstory, hf]
  cases g r.story <;> rfl

/-- An effect in one spelling. -/
theorem Effect.run_spellOut (r : Reading σ) (e : Effect) :
    (e.mapTarget spellOut).run responder (spellOut r) = spellOut (e.run responder r) := by
  cases e with
  | idle outcome => rfl
  | assign name value =>
    have hset := r.story.setVariable_spellOut name value
    exact congrArg (fun story => (Except.ok Outcome.applied, (⟨story, _⟩ : Reading σ))) hset
  | ask name prompt =>
    have hset := r.story.setVariable_spellOut name
      ((responder.ask name prompt r.responder).1.getD prompt)
    exact congrArg (fun story => (Except.ok Outcome.applied, (⟨story, _⟩ : Reading σ))) hset
  | offer target text =>
    exact r.edit_spellOut (·.offerChoice (spellOut target) text) (·.offerChoice target text)
      (r.story.offerChoice_spellOut target text)
  | withdraw target =>
    exact r.edit_spellOut (·.withdrawChoice (spellOut target)) (·.withdrawChoice target)
      (r.story.withdrawChoice_spellOut target)

/-- What is wrong with an action that cannot be read names no section. -/
theorem Action.spellOut_of_parse_eq_error {name : String} {parameters : List Scalar}
    {error : StepError} (hparse : parse name parameters = .error error) :
    spellOut error = error := by
  fun_induction parse name parameters
  case case1 | case7 | case14 =>
    cases hparse
    rfl
  case case6 ih | case8 ih | case9 ih => exact ih (eq_error_of_map_eq_error hparse)
  all_goals cases hparse

/-- A step of a script in one spelling. -/
theorem runStep_spellOut (r : Reading σ) (e : Step) :
    runStep responder (spellOut r) (spellOut e) = spellOut (runStep responder r e) := by
  have hparse : Action.ofStep (spellOut e) = (Action.ofStep e).map (Action.mapTarget spellOut) :=
    Action.parse_map Scalar.canonical_spellOut e.action e.parameters
  unfold runStep
  rw [hparse]
  cases hread : Action.ofStep e with
  | error error =>
    have herror : spellOut error = error := Action.spellOut_of_parse_eq_error hread
    exact congrArg (fun error => (Except.error error, spellOut r)) herror.symm
  | ok a =>
    have hvars : (spellOut r).story.vars = r.story.vars := r.story.vars_spellOut
    change (a.mapTarget spellOut).execute responder (spellOut r) = spellOut (a.execute responder r)
    rw [Action.execute_eq_run, Action.execute_eq_run, Action.effect_mapTarget, hvars]
    exact Effect.run_spellOut responder r _

/-- The steps of a script in one spelling. -/
theorem runSteps_spellOut (r : Reading σ) (steps : List Step) :
    runSteps responder (spellOut r) (steps.map spellOut) =
      spellOut (runSteps responder r steps) := by
  induction steps generalizing r with
  | nil => rfl
  | cons e rest ih =>
    rw [List.map_cons, runSteps_cons, runSteps_cons, runStep_spellOut]
    exact congrArg (fun run => (spellOut (runStep responder r e).1 :: run.1, run.2)) (ih _)

/-- A script in one spelling. -/
theorem runScript_spellOut (r : Reading σ) (script : List Step) :
    runScript responder (spellOut r) (spellOut script) =
      spellOut (runScript responder r script) := by
  rw [runScript, spellOut_list, runSteps_spellOut]
  rfl

/-- The failures of a script in one spelling. -/
theorem Report.errors_spellOut (report : Report) :
    (spellOut report).errors = report.errors.map spellOut := by
  change (report.results.map spellOut).filterMap _ = (report.results.filterMap _).map spellOut
  rw [List.filterMap_map, List.map_filterMap]
  congr
  funext result
  cases result <;> rfl

/-! ## Scenes -/

namespace Story

variable (s : Story)

/-- A scene in one spelling. -/
theorem render_spellOut (id : SectionId) (sec : Section) :
    (spellOut s).render (spellOut id) (spellOut sec) = spellOut (s.render id sec) := by
  have hchoices : ((spellOut sec).choices.zipIdx.map fun c => (spellOut s).renderChoice c.1 c.2) =
      (sec.choices.zipIdx.map fun c => s.renderChoice c.1 c.2).map spellOut := by
    rw [Section.choices_spellOut, List.zipIdx_map, List.map_map, List.map_map]
    congr 1
    funext c
    have htext : (spellOut s).substitute c.1.text = s.substitute c.1.text :=
      s.substitute_spellOut c.1.text
    exact congrArg (fun text => (⟨_, text, _, _⟩ : ShownChoice)) htext
  have htext : (spellOut s).substitute (spellOut sec).rawText = s.substitute sec.rawText :=
    s.substitute_spellOut sec.rawText
  exact congrArg₂ (fun text choices => (⟨_, text, _, choices, _⟩ : Scene)) htext hchoices

end Story

/-! ## Moves -/

namespace Progress

variable (p : Progress)

theorem push_spellOut (limit : Option Nat) (id : SectionId) :
    (spellOut p).push limit (spellOut id) = spellOut (p.push limit id) := by
  have hbounded (ids : List SectionId) :
      bounded limit (ids.map spellOut) = (bounded limit ids).map spellOut := by
    cases limit with
    | none => rfl
    | some n => rw [bounded, bounded, List.length_map, List.map_drop]
  have hhistory := hbounded (p.history ++ [id])
  rw [List.map_append] at hhistory
  exact congrArg (fun history => (⟨_, history, _⟩ : Progress)) hhistory

theorem pop?_spellOut : (spellOut p).pop? = spellOut p.pop? := by
  have hhistory : (spellOut p).history = p.history.map spellOut := rfl
  rw [pop?, pop?, hhistory, List.getLast?_map, ← List.map_dropLast]
  cases p.history.getLast? <;> rfl

theorem moveTo_spellOut (limit : Option Nat) (remember : Bool) (id : SectionId) :
    (spellOut p).moveTo limit remember (spellOut id) = spellOut (p.moveTo limit remember id) := by
  have hcurrent : (spellOut p).current = p.current.map spellOut := rfl
  rw [moveTo, moveTo, hcurrent]
  cases p.current with
  | none => rfl
  | some previous =>
    simp only [Option.map_some, push_spellOut]
    cases remember <;> rfl

end Progress

namespace Session

instance : SpellOut (Session σ) where
  spellOut s := { s with story := spellOut s.story }

instance : SpellOut Operation where
  spellOut
    | .load story => .load (spellOut story)
    | .enter id => .enter (spellOut id)
    | .restore game => .restore (spellOut game)
    | operation => operation

variable (s : Session σ)

@[simp]
theorem story_spellOut : (spellOut s).story = spellOut s.story :=
  rfl

@[simp]
theorem currentId_spellOut : (spellOut s).currentId = s.currentId.map spellOut := by
  rcases s with ⟨story, settings, mode, responder⟩
  cases mode with
  | menu => rfl
  | playing => exact story.currentId_spellOut

@[simp]
theorem currentSection_spellOut : (spellOut s).currentSection = spellOut s.currentSection := by
  simp only [currentSection, currentId_spellOut, story_spellOut]
  cases s.currentId with
  | none => rfl
  | some id =>
    simp only [Option.map_some, Story.section?_spellOut, Story.section?_spellOut_id]
    cases s.story.section? id <;> rfl

theorem scene_spellOut : (spellOut s).scene = spellOut s.scene := by
  rw [scene, scene, currentSection_spellOut]
  cases s.currentSection with
  | error e => rfl
  | ok current => exact congrArg Except.ok (s.story.render_spellOut current.1 current.2)

theorem moved_spellOut (id : SectionId) (remember : Bool) :
    (spellOut s).moved (spellOut id) remember = spellOut (s.moved id remember) :=
  s.story.adjustProgress_spellOut
    (fun p => p.moveTo s.settings.historyLimit remember (spellOut id))
    (fun p => p.moveTo s.settings.historyLimit remember id)
    (s.story.progress.moveTo_spellOut s.settings.historyLimit remember id)

/-- A section is entered alike in one spelling. -/
theorem transition_spellOut (id : SectionId) (remember : Bool) :
    (spellOut s).transition responder (spellOut id) remember =
      spellOut (s.transition responder id remember) := by
  cases hid : s.story.hasSection id with
  | false =>
    have hid' : (spellOut s).story.hasSection (spellOut id) = false := by simpa using hid
    rw [transition_of_not_hasSection responder hid, transition_of_not_hasSection responder hid']
    rfl
  | true =>
    rcases Story.exists_section?_of_hasSection hid with ⟨sec, hsec⟩
    have hsec' : (spellOut s).story.section? (spellOut id) = some (spellOut sec) := by simp [hsec]
    rcases transition_of_section? responder hsec remember with
      ⟨report, reading, after, hscript, hafter, hentered⟩
    rcases transition_of_section? responder hsec' remember with
      ⟨report', reading', after', hscript', hafter', hentered'⟩
    have hrun := runScript_spellOut responder ⟨s.moved id remember, s.responder⟩ sec.steps
    rw [hscript] at hrun
    rw [moved_spellOut, Section.steps_spellOut] at hscript'
    have hsame : (report', reading') = (spellOut report, spellOut reading) :=
      hscript'.symm.trans hrun
    cases hsame
    have hshown : spellOut after = after' := by
      have hfound : (spellOut reading.story).section? (spellOut id) = some after' := hafter'
      simpa [hafter] using hfound
    have hscene : (spellOut reading.story).render (spellOut id) after' =
        spellOut (reading.story.render id after) := by
      rw [← hshown, Story.render_spellOut]
    have hmessages : (spellOut report).errors = spellOut report.errors := report.errors_spellOut
    rw [hentered, hentered', hmessages]
    change (Except.ok { (spellOut reading.story).render (spellOut id) after' with
      scriptErrors := spellOut report.errors }, _) = _
    rw [hscene]
    rfl

theorem start_spellOut : (spellOut s).start responder = spellOut (s.start responder) := by
  rw [start, start, story_spellOut, Story.firstId_spellOut]
  cases s.story.firstId with
  | none => rfl
  | some first =>
    have hid : (((spellOut s.story).currentId.filter (spellOut s.story).hasSection).getD
        (spellOut first)) =
        spellOut ((s.story.currentId.filter s.story.hasSection).getD first) := by
      rw [Story.currentId_spellOut]
      cases s.story.currentId with
      | none => rfl
      | some id =>
        simp only [Option.map_some, Option.filter_some, Story.hasSection_spellOut,
          Story.hasSection_spellOut_id]
        split <;> rfl
    change (spellOut s).transition responder _ false = _
    rw [hid]
    exact s.transition_spellOut responder _ false

theorem back_spellOut : (spellOut s).back responder = spellOut (s.back responder) := by
  rw [back, back, currentId_spellOut, Option.isNone_map, story_spellOut, Story.progress_spellOut,
    Progress.pop?_spellOut]
  split
  · rfl
  · cases s.story.progress.pop? with
    | none => rfl
    | some popped =>
      rcases popped with ⟨id, progress⟩
      let base : Session σ := { s with story := { s.story with state := some progress } }
      have hentered := base.transition_spellOut responder id false
      have hbase : ({ s with story := { s.story with state := some progress } } : Session σ) =
          base := rfl
      have hbase' : ({ spellOut s with
          story := { spellOut s.story with state := some (spellOut progress) } } : Session σ) =
          spellOut base := rfl
      simp only [spellOut_option, Option.map_some, spellOut_pair, hbase, hbase', hentered]
      rcases base.transition responder id false with ⟨result, after⟩
      cases result with
      | ok scene => rfl
      | error e =>
        have happend : (after.story.progress.history ++ [id]).map spellOut =
            after.story.progress.history.map spellOut ++ [spellOut id] := List.map_append
        have hhistory := after.story.adjustProgress_spellOut
          (fun p => { p with history := p.history ++ [spellOut id] })
          (fun p => { p with history := p.history ++ [id] })
          (congrArg (fun history => (⟨_, history, _⟩ : Progress)) happend.symm)
        exact congrArg (fun story => (Except.error (spellOut e),
          (⟨story, _, _, _⟩ : Session σ))) hhistory

theorem choose_spellOut (position : Nat) :
    (spellOut s).choose responder position = spellOut (s.choose responder position) := by
  rw [choose, choose, currentSection_spellOut]
  cases s.currentSection with
  | error e => rfl
  | ok current =>
    rcases current with ⟨id, sec⟩
    have hc : (spellOut sec).choices[position]? = sec.choices[position]?.map spellOut := by simp
    have hlength : (spellOut sec).choices.length = sec.choices.length := by simp
    simp only [spellOut_ok, spellOut_pair, hc, hlength]
    cases sec.choices[position]? with
    | none => rfl
    | some c => exact s.transition_spellOut responder c.target true

theorem forward_spellOut : (spellOut s).forward responder = spellOut (s.forward responder) := by
  rw [forward, forward, currentSection_spellOut]
  cases s.currentSection with
  | error e => rfl
  | ok current =>
    rcases current with ⟨id, sec⟩
    have hlength : (spellOut sec).choices.length = sec.choices.length := by simp
    simp only [spellOut_ok, spellOut_pair, hlength, choose_spellOut]
    split
    · rcases s.choose responder 0 with ⟨result, after⟩
      cases result <;> rfl
    · rfl

theorem restore_spellOut (game : SavedGame) :
    (spellOut s).restore responder (spellOut game) = spellOut (s.restore responder game) := by
  have htitle : (spellOut game).info.title = game.info.title := rfl
  rw [restore, restore, story_spellOut, Story.title_spellOut, htitle]
  cases s.story.title with
  | none => rfl
  | some title =>
    let base : Session σ := { s with story := { s.story with state := some game.state } }
    have hstarted := base.start_spellOut responder
    have hbase : ({ s with story := { s.story with state := some game.state } } : Session σ) =
        base := rfl
    have hbase' : ({ spellOut s with
        story := { spellOut s.story with state := some (spellOut game).state } } : Session σ) =
        spellOut base := rfl
    simp only [hbase, hbase', hstarted]
    split
    · rcases base.start responder with ⟨result, after⟩
      cases result <;> rfl
    · rfl

/-- A move in one spelling. -/
theorem perform_spellOut (operation : Operation) :
    (spellOut s).perform responder (spellOut operation) =
      spellOut (s.perform responder operation) := by
  have hshown (run : Except MoveError Scene × Session σ) :
      perform.shown (spellOut run) = spellOut (perform.shown run) := by
    rcases run with ⟨result, after⟩
    cases result <;> rfl
  cases operation with
  | start => exact (congrArg perform.shown (s.start_spellOut responder)).trans (hshown _)
  | load story =>
    exact (congrArg perform.shown
      (start_spellOut responder { s with story, mode := .menu })).trans (hshown _)
  | enter id =>
    exact (congrArg perform.shown (s.transition_spellOut responder id true)).trans (hshown _)
  | back => exact s.back_spellOut responder
  | choose position =>
    exact (congrArg perform.shown (s.choose_spellOut responder position)).trans (hshown _)
  | forward => exact s.forward_spellOut responder
  | scene =>
    change ((spellOut s).scene.map some, spellOut s) = spellOut (s.scene.map some, s)
    rw [scene_spellOut]
    cases s.scene <;> rfl
  | restore game =>
    exact (congrArg perform.shown (s.restore_spellOut responder game)).trans (hshown _)

end Session

end Gamebook
