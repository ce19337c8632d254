import Gamebook.Proofs.Play.Moves

/-!
# Staying in the story

A session that is playing is always in a section of its story: scripts change choices and variables,
and never the sections themselves or where the reader is.  So a reader who plays is never told that
nothing is being played, and only loading a story without sections takes them back to the menu.

Main results:

- Definition `Session.Reachable`: the sessions that moves lead to.
- Definition `Session.OnCourse`: a session that is playing is in a section of its story.
- Theorem `Session.OnCourse.perform`: every move keeps a session on course.
- Theorem `Session.Reachable.stays_in_story`: what that means for a reader.
-/

namespace Gamebook

namespace Session

variable {σ : Type}

/-! ## Sessions on course -/

/-- A session that is playing keeps a progress, whose section is one of the story. -/
def OnCourse (s : Session σ) : Prop :=
  s.mode = .playing →
    ∃ p id, s.story.state = some p ∧ p.current = some id ∧ s.story.hasSection id = true

/-- A session whose story has a section being read that exists is on course. -/
theorem onCourse_of_currentId {s : Session σ} {id : SectionId}
    (hcurrent : s.story.currentId = some id)
    (hid : s.story.hasSection id = true) : s.OnCourse := by
  intro _
  rcases Option.bind_eq_some_iff.1 hcurrent with ⟨p, hstate, hp⟩
  exact ⟨p, id, hstate, hp, hid⟩

/-- The section being played of a session on course is one of the story. -/
theorem OnCourse.hasSection_of_currentId {s : Session σ} {id : SectionId} (hs : s.OnCourse)
    (hcurrent : s.currentId = some id) : s.story.hasSection id = true := by
  rcases hs (mode_of_currentId hcurrent) with ⟨p, other, hstate, hp, hid⟩
  have hother := story_currentId_of_currentId hcurrent
  rw [Story.currentId, hstate, Option.bind_some, hp] at hother
  cases hother
  exact hid

/-- While a session on course is playing, there is a section to show. -/
theorem OnCourse.exists_currentSection {s : Session σ} (hs : s.OnCourse)
    (hplaying : s.mode = .playing) : ∃ id sec, s.currentSection = .ok (id, sec) := by
  rcases hs hplaying with ⟨p, id, hstate, hp, hid⟩
  rcases Story.exists_section?_of_hasSection hid with ⟨sec, hsec⟩
  have hcurrent : s.currentId = some id := by
    rw [currentId, hplaying]
    exact Option.bind_eq_some_iff.2 ⟨p, hstate, hp⟩
  refine ⟨id, sec, ?_⟩
  simp only [currentSection, hcurrent, hsec]

/-- While a session on course is playing, its story has sections. -/
theorem OnCourse.firstId_ne_none {s : Session σ} (hs : s.OnCourse) (hplaying : s.mode = .playing) :
    s.story.firstId ≠ none := by
  rcases hs hplaying with ⟨p, id, -, -, hid⟩
  rcases Table.contains_eq_true_iff.1 hid with ⟨k, hk, -⟩
  intro hfirst
  rw [Story.firstId, List.head?_eq_none_iff] at hfirst
  rw [← Story.ids, hfirst] at hk
  cases hk

/-! ## Every move -/

/-- However a move ends, the session stays on course. -/
theorem OnCourse.performed {responder : Responder σ} {s s' : Session σ} {operation : Operation}
    {result : Except MoveError (Option Scene)} (hs : s.OnCourse)
    (hperformed : Performed responder s operation result s') : s'.OnCourse := by
  cases hperformed with
  | enters hleads hentered => exact onCourse_of_currentId hentered.currentId_eq hentered.hasSection
  | empties hstarts hempty =>
    intro hplaying
    cases hplaying
  | stays hanswer => exact hs

/-- Every move keeps a session on course. -/
theorem OnCourse.perform {s : Session σ} (hs : s.OnCourse) (responder : Responder σ)
    (operation : Operation) : (s.perform responder operation).2.OnCourse :=
  hs.performed (perform_cases responder s operation)

/-- A session that is playing goes back to the menu exactly when a story without sections is
loaded. -/
theorem OnCourse.mode_perform_eq_menu {s : Session σ} (hs : s.OnCourse)
    (hplaying : s.mode = .playing) (responder : Responder σ) (operation : Operation) :
    (s.perform responder operation).2.mode = .menu ↔
      ∃ story, operation = .load story ∧ story.sectionCount = 0 := by
  have hempty : ∀ story : Story, story.firstId = none ↔ story.sectionCount = 0 := by
    intro story
    rw [Story.firstId, Story.ids, Table.keys, Story.sectionCount, Table.size,
      List.head?_eq_none_iff, List.map_eq_nil_iff, List.length_eq_zero_iff]
  constructor
  · intro hmenu
    cases hnext : s.perform responder operation with
    | mk result s' =>
      rw [hnext] at hmenu
      cases performed_of_eq hnext with
      | enters hleads hentered =>
        rw [hentered.mode_eq] at hmenu
        cases hmenu
      | @empties story hstarts hfirst =>
        -- a story that is started anew is the one being played, and that one has sections
        cases operation with
        | load loaded =>
          cases hstarts
          exact ⟨story, rfl, (hempty story).1 hfirst⟩
        | start =>
          cases hstarts
          exact absurd hfirst (hs.firstId_ne_none hplaying)
        | restore game =>
          cases hstarts
          exact absurd hfirst (hs.firstId_ne_none hplaying)
        | _ => cases hstarts
      | stays hanswer =>
        rw [hplaying] at hmenu
        cases hmenu
  · rintro ⟨story, rfl, hcount⟩
    have hfirst : ({ s with story, mode := .menu } : Session σ).story.firstId = none :=
      (hempty story).2 hcount
    rw [Session.perform, load, start_of_firstId_eq_none responder hfirst]
    rfl

/-- No move fails with the error of a script. -/
theorem perform_ne_script (s : Session σ) (responder : Responder σ) (operation : Operation)
    (e : StepError) : (s.perform responder operation).1 ≠ .error (.script e) := by
  intro hfails
  cases answered_of_error hfails

/-- While a session on course is playing, no move finds that nothing is being played. -/
theorem OnCourse.perform_ne_notPlaying {s : Session σ} (hs : s.OnCourse)
    (hplaying : s.mode = .playing) (responder : Responder σ) (operation : Operation) :
    (s.perform responder operation).1 ≠ .error .notPlaying := by
  intro hfails
  rcases hs.exists_currentSection hplaying with ⟨id, sec, hcurrent⟩
  cases answered_of_error hfails with
  | notPlaying hnone =>
    rw [currentSection, hnone] at hcurrent
    cases hcurrent

/-! ## Every run -/

/-- The sessions that moves lead to, from a new session of any story.  Whoever answers the prompts
may do so differently from move to move; a saved game only looks at the session. -/
inductive Reachable : Session σ → Prop
  | new (story : Story) (settings : Settings) (answerer : σ) :
    Reachable { story, settings, responder := answerer }
  | perform {s : Session σ} (hs : Reachable s) (responder : Responder σ) (operation : Operation) :
    Reachable (s.perform responder operation).2

/-- Every session that is reached is on course. -/
theorem Reachable.onCourse {s : Session σ} (hs : Reachable s) : s.OnCourse := by
  induction hs with
  | new story settings answerer =>
    intro hplaying
    cases hplaying
  | perform hs responder operation ih => exact ih.perform responder operation

/-- A session that is playing is in a section of its story.  So it can show a scene, no move finds
that nothing is being played, only loading a story without sections leads to the menu, and no move
of any session fails with the error of a script. -/
theorem Reachable.stays_in_story {s : Session σ} (hs : Reachable s) :
    (s.mode = .playing →
      (∃ p id, s.story.state = some p ∧ p.current = some id ∧ s.story.hasSection id = true) ∧
      (∃ scene, s.scene = .ok scene) ∧
      (∀ (responder : Responder σ) operation,
        (s.perform responder operation).1 ≠ .error .notPlaying) ∧
      ∀ (responder : Responder σ) operation,
        (s.perform responder operation).2.mode = .menu ↔
          ∃ story, operation = .load story ∧ story.sectionCount = 0) ∧
    ∀ (t : Session σ) (responder : Responder σ) operation e,
      (t.perform responder operation).1 ≠ .error (.script e) := by
  refine ⟨fun hplaying => ⟨hs.onCourse hplaying, ?_, ?_, ?_⟩, perform_ne_script⟩
  · rcases hs.onCourse.exists_currentSection hplaying with ⟨id, sec, hcurrent⟩
    exact ⟨s.story.render id sec, by rw [scene, hcurrent]; rfl⟩
  · exact hs.onCourse.perform_ne_notPlaying hplaying
  · exact hs.onCourse.mode_perform_eq_menu hplaying

/-- A session of a story of one section that has been started. -/
def ofOneSection : Session Unit :=
  (perform Responder.silent
    { story := { sections := Table.ofList [(.int 1, Section.ofLines ["A door."])] },
      responder := () }
    .start).2

/-- The story of one section is being played, and it can be shown. -/
theorem ofOneSection_stays_in_story :
    ofOneSection.Reachable ∧ ofOneSection.mode = .playing ∧
      ∃ scene, ofOneSection.scene = .ok scene :=
  have hs : ofOneSection.Reachable := .perform (.new _ _ _) _ _
  have hplaying : ofOneSection.mode = .playing := rfl
  ⟨hs, hplaying, (hs.stays_in_story.1 hplaying).2.1⟩

end Session

end Gamebook
