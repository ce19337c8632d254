import Gamebook.Proofs.Play.Course
import Gamebook.Proofs.Script.Checking

/-!
# Moves that fail

A move that shows no scene changes nothing: the story, the progress with its history and the mode
are what they were.  It is answered in place, from the sections, the choices and the progress alone,
so no script has run and nobody has been asked; with any other scripts and anyone else to answer,
the move fails in the same way.

Main results:

- Theorems `Session.inPlace?_withScripts` and `Session.inPlace?_answeredBy`: what is answered in
  place depends neither on the scripts nor on who answers prompts.
- Theorem `Session.OnCourse.perform_of_inPlace?`: what is answered in place changes nothing.
- Theorem `Session.Reachable.unchanged_without_scene`: what that means for a reader.
-/

namespace Gamebook

/-! ## Other scripts -/

namespace Story

/-- The story with other scripts. -/
def withScripts (s : Story) (scripts : SectionId → Option (List Step)) : Story :=
  { s with sections := s.sections.mapEntries fun id sec => { sec with script := scripts id } }

variable {s : Story} (scripts : SectionId → Option (List Step))

/-- The same sections exist with other scripts. -/
@[simp]
theorem hasSection_withScripts (id : SectionId) :
    (s.withScripts scripts).hasSection id = s.hasSection id :=
  Table.contains_congr_keys (Table.keys_mapEntries _ _) id

/-- The first section is the same with other scripts. -/
@[simp]
theorem firstId_withScripts : (s.withScripts scripts).firstId = s.firstId :=
  congrArg List.head? (Table.keys_mapEntries _ _)

@[simp]
theorem title_withScripts : (s.withScripts scripts).title = s.title :=
  rfl

@[simp]
theorem progress_withScripts : (s.withScripts scripts).progress = s.progress :=
  rfl

/-- A section is the same with another script. -/
theorem exists_section?_withScripts (id : SectionId) :
    ∃ script, (s.withScripts scripts).section? id =
      (s.section? id).map fun sec => { sec with script } := by
  rcases Table.exists_find?_mapEntries s.sections
    (fun id sec => { sec with script := scripts id }) id with ⟨key, hfind⟩
  exact ⟨scripts key, hfind⟩

end Story

namespace Session

variable {σ τ : Type}

/-- The session with other scripts. -/
def withScripts (s : Session σ) (scripts : SectionId → Option (List Step)) : Session σ :=
  { s with story := s.story.withScripts scripts }

/-- The session with someone else who answers prompts. -/
def answeredBy (s : Session σ) (answerer : τ) : Session τ where
  story := s.story
  settings := s.settings
  mode := s.mode
  responder := answerer

section

variable (s : Session σ) (scripts : SectionId → Option (List Step))

@[simp]
theorem story_withScripts : (s.withScripts scripts).story = s.story.withScripts scripts :=
  rfl

@[simp]
theorem currentId_withScripts : (s.withScripts scripts).currentId = s.currentId :=
  rfl

/-- The section being played is the same with another script. -/
theorem exists_currentSection_withScripts :
    ∃ script, (s.withScripts scripts).currentSection =
      s.currentSection.map fun current => (current.1, { current.2 with script }) := by
  unfold currentSection
  rw [currentId_withScripts, story_withScripts]
  cases s.currentId with
  | none => exact ⟨none, rfl⟩
  | some id =>
    rcases Story.exists_section?_withScripts (s := s.story) scripts id with ⟨script, hsec⟩
    refine ⟨script, ?_⟩
    simp only [hsec]
    cases s.story.section? id <;> rfl

/-- What is answered in place is the same with other scripts. -/
theorem inPlace?_withScripts (operation : Operation) :
    (s.withScripts scripts).inPlace? operation = s.inPlace? operation := by
  have habsent : ∀ id, absent? (s.story.withScripts scripts) id = absent? s.story id := by
    intro id
    simp only [absent?, Story.hasSection_withScripts]
  have hsectionless : sectionless? (s.story.withScripts scripts) = sectionless? s.story := by
    simp only [sectionless?, Story.firstId_withScripts]
  rcases exists_currentSection_withScripts s scripts with ⟨script, hcurrent⟩
  cases operation with
  | start => exact hsectionless
  | load story => rfl
  | enter id => exact habsent id
  | back =>
    simp only [inPlace?, currentId_withScripts, story_withScripts, Story.progress_withScripts,
      habsent]
  | choose position =>
    simp only [inPlace?, hcurrent, story_withScripts, habsent]
    cases s.currentSection <;> rfl
  | forward =>
    simp only [inPlace?, hcurrent, story_withScripts, habsent]
    cases s.currentSection <;> rfl
  | scene =>
    simp only [inPlace?, scene, hcurrent]
    cases s.currentSection <;> rfl
  | restore game =>
    simp only [inPlace?, story_withScripts, Story.title_withScripts, hsectionless]

/-- What is answered in place is the same whoever answers prompts. -/
theorem inPlace?_answeredBy (answerer : τ) (operation : Operation) :
    (s.answeredBy answerer).inPlace? operation = s.inPlace? operation := by
  cases operation <;> rfl

end

/-- With other scripts a session stays on course. -/
theorem OnCourse.withScripts {s : Session σ} (hs : s.OnCourse)
    (scripts : SectionId → Option (List Step)) : (s.withScripts scripts).OnCourse := by
  intro hplaying
  rcases hs hplaying with ⟨p, id, hstate, hp, hid⟩
  exact ⟨p, id, hstate, hp, (Story.hasSection_withScripts scripts id).trans hid⟩

/-- A session stays on course whoever answers prompts. -/
theorem OnCourse.answeredBy {s : Session σ} (hs : s.OnCourse) (answerer : τ) :
    (s.answeredBy answerer).OnCourse :=
  hs

/-! ## Failing -/

/-- What is answered in place changes nothing, but that the story which is loaded stays. -/
theorem OnCourse.perform_of_inPlace? {s : Session σ} (hs : s.OnCourse) (responder : Responder σ)
    {operation : Operation} (hload : ∀ story, operation ≠ .load story)
    {answer : Except MoveError (Option Scene)} (hanswer : s.inPlace? operation = some answer) :
    s.perform responder operation = (answer, s) := by
  cases hnext : s.perform responder operation with
  | mk result s' =>
    cases performed_of_eq hnext with
    | enters hleads hentered hmoves =>
      rw [hmoves] at hanswer
      cases hanswer
    | stays hstays =>
      rw [hstays] at hanswer
      cases hanswer
      rfl
    | @empties story hstarts hempty hrefused =>
      rw [hrefused] at hanswer
      cases hanswer
      -- the story is the one of the session, which is not being played, as it has no sections
      have hstory : story = s.story := by
        cases operation with
        | load loaded => exact absurd rfl (hload loaded)
        | start =>
          cases hstarts
          rfl
        | restore game =>
          cases hstarts
          rfl
        | _ => cases hstarts
      subst hstory
      cases hmode : s.mode with
      | playing => exact absurd hempty (hs.firstId_ne_none hmode)
      | menu => rw [← hmode]

/-- What a move asks, each variable with its prompt. -/
def asked (responder : Responder σ) (s : Session σ) (operation : Operation) :
    List (String × String) :=
  ((s.answeredBy (s.responder, [])).perform responder.recording operation).2.responder.2

/-- A move that fails, or that finds nothing to go back to or no single choice to follow, leaves the
session as it is and asks nothing.  It runs no script: whatever other scripts the sections have, and
whoever else answers, it ends in the same way and leaves that session as it is. -/
theorem Reachable.unchanged_without_scene {s : Session σ} (hs : Reachable s)
    (responder : Responder σ) {operation : Operation} (hload : ∀ story, operation ≠ .load story)
    (hnone : (∃ e, (s.perform responder operation).1 = .error e) ∨
      (s.perform responder operation).1 = .ok none) :
    (s.perform responder operation).2 = s ∧
      s.asked responder operation = [] ∧
      ∀ (scripts : SectionId → Option (List Step)) {τ : Type} (answerer : τ) (other : Responder τ),
        ((s.withScripts scripts).answeredBy answerer).perform other operation =
          ((s.perform responder operation).1, (s.withScripts scripts).answeredBy answerer) := by
  have hcourse := hs.onCourse
  have hanswer : s.inPlace? operation = some (s.perform responder operation).1 := by
    apply inPlace?_of_no_scene
    intro scene hscene
    rcases hnone with ⟨e, he⟩ | hnone
    · rw [hscene] at he
      cases he
    · rw [hscene] at hnone
      cases hnone
  refine ⟨?_, ?_, ?_⟩
  · rw [hcourse.perform_of_inPlace? responder hload hanswer]
  · have hrecorded :
        (s.answeredBy (s.responder, ([] : List (String × String)))).inPlace? operation =
          some (s.perform responder operation).1 :=
      (inPlace?_answeredBy s _ operation).trans hanswer
    rw [asked, (hcourse.answeredBy _).perform_of_inPlace? responder.recording hload hrecorded]
    rfl
  · intro scripts τ answerer other
    have hother : ((s.withScripts scripts).answeredBy answerer).inPlace? operation =
        some (s.perform responder operation).1 := by
      rw [inPlace?_answeredBy, inPlace?_withScripts, hanswer]
    exact ((hcourse.withScripts scripts).answeredBy answerer).perform_of_inPlace? other hload hother

/-- A session of a story of one section whose history names a section that does not exist. -/
def ofLostHistory : Session Unit :=
  (perform Responder.silent
    { story :=
        { sections := Table.ofList [(.int 1, Section.ofLines ["A door."])]
          state := some { current := some (.int 1), history := [.int 50] } }
      responder := () }
    .start).2

/-- The step back fails and the history still names the section. -/
theorem ofLostHistory_unchanged :
    ofLostHistory.Reachable ∧
      (ofLostHistory.perform Responder.silent .back).1 = .error (.missingSection (.int 50)) ∧
      (ofLostHistory.perform Responder.silent .back).2 = ofLostHistory ∧
      ofLostHistory.story.history = [.int 50] := by
  have hs : ofLostHistory.Reachable := .perform (.new _ _ _) _ _
  have hfails : (ofLostHistory.perform Responder.silent .back).1 =
      .error (.missingSection (.int 50)) := rfl
  have hload : ∀ story, Operation.back ≠ .load story := fun _ hback => nomatch hback
  exact ⟨hs, hfails,
    (hs.unchanged_without_scene Responder.silent hload (.inl ⟨_, hfails⟩)).1, rfl⟩

end Session

end Gamebook
