import Gamebook.Proofs.Play.Moves
import Gamebook.Proofs.Script.Checking

/-!
# Checking agrees with playing

A section is entered before its script runs, so the section being read exists and the script fails
exactly in the steps that a check reports.  Those are the failures that the scene shows, whatever
the variables are and whichever conditions hold.

Main results:

- Theorem `Session.scriptErrors_of_transition`: the failures that are shown on entering a section.
- Theorem `Session.scriptErrors_of_perform`: the failures that are shown after any move.
- Theorem `checking_agrees_with_running`: what a check tells about a run.
-/

namespace Gamebook

namespace Session

variable {σ : Type} {responder : Responder σ}

/-- Entering a section shows that section with the failures that a check of its script reports, and
the section keeps its script. -/
theorem scriptErrors_of_transition {s s' : Session σ} {id : SectionId} {remember : Bool}
    {scene : Scene} (htransition : s.transition responder id remember = (.ok scene, s')) :
    scene.id = id ∧
      ∃ sec sec', s.story.section? id = some sec ∧ s'.story.section? id = some sec' ∧
        sec'.steps = sec.steps ∧
        scene.scriptErrors = (validateScript sec.steps).map Prod.snd := by
  cases hsec : s.story.section? id with
  | none =>
    rw [transition_of_not_hasSection responder (Story.hasSection_eq_false_iff.2 hsec)]
      at htransition
    cases htransition
  | some sec =>
    rcases transition_of_section? responder hsec remember with
      ⟨report, reading, sec', hscript, hsec', hrun⟩
    rw [hrun] at htransition
    cases htransition
    have hsteps := (changes_of_runScript_eq responder hscript).steps_eq id
    have hmoved : (s.moved id remember).section? id = some sec := hsec
    rw [hsec', hmoved] at hsteps
    -- the section was made the current one before its script ran
    have hcurrent : ∀ error, (s.moved id remember).currentSection ≠ .error error := by
      intro error herror
      rcases Story.currentSection_eq_error_iff.1 herror with ⟨current, hid, hnone, -⟩
      cases hid
      rw [hmoved] at hnone
      cases hnone
    have herrors := errors_runScript responder (r := ⟨s.moved id remember, s.responder⟩) hcurrent
      sec.steps
    rw [hscript] at herrors
    exact ⟨rfl, sec, sec', rfl, hsec', Option.some.inj hsteps, herrors⟩

/-- A move that enters a section shows the failures that a check of the section's script reports. -/
theorem scriptErrors_of_perform {s s' : Session σ} {operation : Operation} {scene : Scene}
    (hoperation : operation ≠ .scene)
    (hperform : s.perform responder operation = (.ok (some scene), s')) :
    ∃ sec, s'.story.section? scene.id = some sec ∧
      scene.scriptErrors = (validateScript sec.steps).map Prod.snd := by
  cases performed_of_eq hperform with
  | enters hleads hentered hmoves htransition =>
    rcases scriptErrors_of_transition htransition with
      ⟨rfl, sec, sec', -, hsec', hsteps, herrors⟩
    rw [← hsteps] at herrors
    exact ⟨sec', hsec', herrors⟩
  | stays hanswer =>
    cases answered_of_inPlace? hanswer with
    | shown => exact absurd rfl hoperation

/-- Showing the section being played again runs no script and shows no failures. -/
theorem scriptErrors_of_scene {s : Session σ} {scene : Scene} (hscene : s.scene = .ok scene) :
    scene.scriptErrors = [] := by
  cases hcurrent : s.currentSection with
  | error e =>
    rw [Session.scene, hcurrent] at hscene
    cases hscene
  | ok current =>
    rw [Session.scene, hcurrent] at hscene
    cases hscene
    rfl

end Session

/-- A run gives one result for each step.  A step that a check reports fails with the error that is
reported, and any other fails only where the section being read is missing.  Without the steps that
are reported the story ends up the same, the same is asked, and the other steps have the same
results.  A section that is entered, by whichever move, is shown with exactly the errors that a
check of its script reports. -/
theorem checking_agrees_with_running {σ : Type} (responder : Responder σ) (r : Reading σ)
    (script : List Step) :
    let reported := validateScript script
    let results := (runScript responder r script).1.results
    let others := omitAt (reported.map Prod.fst) script
    results.length = script.length ∧
      (∀ position error, (position, error) ∈ reported →
        results[position]? = some (.error error)) ∧
      (∀ position error, results[position]? = some (.error error) →
        position ∉ reported.map Prod.fst →
        ∃ id, r.story.currentId = some id ∧ r.story.section? id = none ∧
          error = .missingSection id) ∧
      runScript responder r others =
        (⟨omitAt (reported.map Prod.fst) results⟩, (runScript responder r script).2) ∧
      requests responder r others = requests responder r script ∧
      ∀ (s s' : Session σ) (operation : Session.Operation) (scene : Scene), operation ≠ .scene →
        s.perform responder operation = (.ok (some scene), s') →
        ∃ sec, s'.story.section? scene.id = some sec ∧
          scene.scriptErrors = (validateScript sec.steps).map Prod.snd := by
  intro reported results others
  have hlength : results.length = script.length := length_runSteps responder r script
  refine ⟨hlength, ?_, ?_, runScript_omitAt responder r script, ?_,
    fun s s' operation scene => Session.scriptErrors_of_perform⟩
  · intro position error hreported
    rcases mem_validateScript_iff.1 hreported with ⟨e, he, hfault⟩
    rcases exists_reading_of_getElem? responder r he with ⟨before, -, hresult⟩
    rw [runStep_of_fault? responder hfault] at hresult
    exact hresult
  · intro position error hfails hposition
    have hlt : position < script.length := by
      rw [← hlength]
      exact (List.getElem?_eq_some_iff.1 hfails).1
    have he : script[position]? = some script[position] := List.getElem?_eq_getElem hlt
    rw [mem_map_fst_validateScript_iff he, Option.not_isSome_iff_eq_none] at hposition
    rcases exists_reading_of_getElem? responder r he with ⟨before, hkept, hresult⟩
    have hresult := hfails.symm.trans hresult
    have hbefore := runStep_eq_error responder hposition (Option.some.inj hresult).symm
    exact Story.currentSection_eq_error_iff.1 (hkept.currentSection_eq_error_iff.1 hbefore)
  · rw [requests, requests, runScript_omitAt]

end Gamebook
