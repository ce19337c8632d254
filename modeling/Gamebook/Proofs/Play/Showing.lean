import Gamebook.Proofs.Play.Failures

/-!
# What is shown

While a story is being played, the scene that can be shown again is the one that the latest move has
shown, without the failures of its script.  Moves that fail or lead nowhere do not change that.  The
choices of that scene are the ones that can be followed, each by its position.

Main results:

- Definition `Session.Shows`: the sessions that moves lead to, with the scene that was shown last.
- Theorem `Session.Shows.canShow`: that scene can be shown again.
- Theorems `Session.choose_of_scene` and `Session.forward_of_scene`: following a choice by its
  position, and following the only one.
- Theorem `Session.Shows.playable`: what was shown last is what can be played.
-/

namespace Gamebook

/-- The scene without the failures of its script. -/
def Scene.withoutErrors (scene : Scene) : Scene :=
  { scene with scriptErrors := [] }

/-- The choices of a section are shown at their positions. -/
theorem Story.getElem?_choices_render (s : Story) (id : SectionId) (sec : Section)
    (position : Nat) :
    (s.render id sec).choices[position]? =
      sec.choices[position]?.map fun c => s.renderChoice c position := by
  simp only [render, List.getElem?_map, List.getElem?_zipIdx, Option.map_map, Nat.zero_add]
  rfl

/-- All choices of a section are shown. -/
theorem Story.length_choices_render (s : Story) (id : SectionId) (sec : Section) :
    (s.render id sec).choices.length = sec.choices.length := by
  rw [render, List.length_map, List.length_zipIdx]

namespace Session

variable {σ : Type} {s s' : Session σ} {scene : Scene}

/-! ## Showing again -/

/-- The scene that is shown is that of the section being played. -/
theorem exists_currentSection_of_scene (hscene : s.scene = .ok scene) :
    ∃ id sec, s.currentSection = .ok (id, sec) ∧ scene = s.story.render id sec := by
  unfold Session.scene at hscene
  cases hcurrent : s.currentSection with
  | error e =>
    rw [hcurrent] at hscene
    cases hscene
  | ok current =>
    rw [hcurrent] at hscene
    cases hscene
    exact ⟨current.1, current.2, rfl, rfl⟩

/-- After a section was entered its scene can be shown again. -/
theorem scene_of_transition {responder : Responder σ} {id : SectionId} {remember : Bool}
    (htransition : s.transition responder id remember = (.ok scene, s')) :
    s'.scene = .ok scene.withoutErrors := by
  cases hsec : s.story.section? id with
  | none =>
    rw [transition_of_not_hasSection responder (Story.hasSection_eq_false_iff.2 hsec)]
      at htransition
    cases htransition
  | some sec =>
    rcases transition_of_section? responder hsec remember with
      ⟨report, reading, sec', hscript, hsec', hrun⟩
    have hcurrent : reading.story.currentId = some id :=
      (changes_of_runScript_eq responder hscript).kept.currentId_eq
    rw [hrun] at htransition
    cases htransition
    simp only [Session.scene, currentSection, currentId, hcurrent, hsec']
    rfl

/-! ## The scene that was shown last -/

/-- The scene that is shown last after an operation, which may be the one before.  Showing that
again is no move. -/
def Operation.leaves (last : Option Scene) (result : Except MoveError (Option Scene)) :
    Operation → Option Scene
  | .scene => last
  | _ =>
    match result with
    | .ok (some scene) => some scene
    | _ => last

/-- A move that shows a scene leaves that one. -/
theorem Operation.leaves_of_shown {operation : Operation} (hoperation : operation ≠ .scene)
    (last : Option Scene) (scene : Scene) :
    operation.leaves last (.ok (some scene)) = some scene := by
  cases operation with
  | scene => exact absurd rfl hoperation
  | _ => rfl

/-- An operation that shows no scene leaves the one before. -/
theorem Operation.leaves_of_no_scene {result : Except MoveError (Option Scene)}
    (hnone : ∀ scene, result ≠ .ok (some scene)) (operation : Operation) (last : Option Scene) :
    operation.leaves last result = last := by
  unfold Operation.leaves
  split
  · rfl
  · split
    · exact absurd rfl (hnone _)
    · rfl

/-- The sessions that moves lead to, from a new session of any story, each with the scene that was
shown last.  Whoever answers the prompts may change from move to move. -/
inductive Shows : Option Scene → Session σ → Prop
  | new (story : Story) (settings : Settings) (answerer : σ) :
    Shows none { story, settings, responder := answerer }
  | perform {last : Option Scene} {s : Session σ} (hs : Shows last s) (responder : Responder σ)
      (operation : Operation) :
    Shows (operation.leaves last (s.perform responder operation).1)
      (s.perform responder operation).2
  | answeredBy {last : Option Scene} {s : Session σ} (hs : Shows last s) (answerer : σ) :
    Shows last (s.answeredBy answerer)

/-- The session can show its last scene again. -/
def CanShow (last : Option Scene) (s : Session σ) : Prop :=
  s.mode = .playing → ∃ scene, last = some scene ∧ s.scene = .ok scene.withoutErrors

/-- However a move ends, the session can show its last scene again. -/
theorem CanShow.performed {responder : Responder σ} {last : Option Scene} {operation : Operation}
    {result : Except MoveError (Option Scene)} (hs : CanShow last s)
    (hperformed : Performed responder s operation result s') :
    CanShow (operation.leaves last result) s' := by
  cases hperformed with
  | @enters base s' id remember scene hleads hentered hanswer htransition =>
    intro _
    refine ⟨scene, ?_, scene_of_transition htransition⟩
    cases hleads <;> rfl
  | empties =>
    intro hplaying
    cases hplaying
  | stays hanswer =>
    have hleaves : operation.leaves last result = last := by
      cases answered_of_inPlace? hanswer with
      | notPlaying | astray | missing | empty => cases operation <;> rfl
      | _ => rfl
    rw [hleaves]
    exact hs

/-- The sessions that moves lead to are on course. -/
theorem Shows.onCourse {last : Option Scene} (hs : Shows last s) : s.OnCourse := by
  induction hs with
  | new story settings answerer =>
    intro hplaying
    cases hplaying
  | perform hs responder operation ih => exact ih.perform responder operation
  | answeredBy hs answerer ih => exact ih.answeredBy answerer

/-- The sessions that moves lead to can show their last scene again. -/
theorem Shows.canShow {last : Option Scene} (hs : Shows last s) : CanShow last s := by
  induction hs with
  | new story settings answerer =>
    intro hplaying
    cases hplaying
  | perform hs responder operation ih => exact ih.performed (perform_cases responder _ operation)
  | answeredBy hs answerer ih => exact ih

/-! ## Following choices -/

/-- A choice is shown at its position. -/
theorem position_of_scene (hscene : s.scene = .ok scene) {position : Nat} {c : ShownChoice}
    (hc : scene.choices[position]? = some c) : c.position = position := by
  rcases exists_currentSection_of_scene hscene with ⟨id, sec, -, rfl⟩
  rw [Story.getElem?_choices_render, Option.map_eq_some_iff] at hc
  rcases hc with ⟨_, -, rfl⟩
  rfl

/-- At the position of a choice that is shown there is that choice. -/
theorem getElem?_position_of_scene (hscene : s.scene = .ok scene) {c : ShownChoice}
    (hc : c ∈ scene.choices) : scene.choices[c.position]? = some c := by
  rcases List.getElem?_of_mem hc with ⟨position, hposition⟩
  rw [position_of_scene hscene hposition]
  exact hposition

/-- Following a choice by its position enters the target that is shown there. -/
theorem choose_of_scene (hscene : s.scene = .ok scene) (responder : Responder σ) (position : Nat) :
    s.choose responder position =
      match scene.choices[position]? with
      | some c => s.enter responder c.target
      | none => (.error (.invalidChoice position scene.choices.length), s) := by
  rcases exists_currentSection_of_scene hscene with ⟨id, sec, hcurrent, rfl⟩
  rw [Story.getElem?_choices_render, Story.length_choices_render]
  simp only [choose, hcurrent]
  cases sec.choices[position]? <;> rfl

/-- Going onwards follows the choice that is shown where there is exactly one. -/
theorem forward_of_scene (hscene : s.scene = .ok scene) (responder : Responder σ) :
    s.forward responder =
      if scene.choices.length = 1 then
        ((s.choose responder 0).1.map some, (s.choose responder 0).2)
      else (.ok none, s) := by
  rcases exists_currentSection_of_scene hscene with ⟨id, sec, hcurrent, rfl⟩
  rw [Story.length_choices_render]
  simp only [forward, hcurrent]

/-- The scene is what can be played in the session.  It can be shown again, its choices are followed
by their positions as their targets are entered, any other position is refused, and going onwards
follows the choice where there is exactly one. -/
structure Playable (s : Session σ) (scene : Scene) : Prop where
  scene_eq : s.scene = .ok scene.withoutErrors
  choose_eq : ∀ (responder : Responder σ) (position : Nat),
    s.choose responder position =
      match scene.choices[position]? with
      | some c => s.enter responder c.target
      | none => (.error (.invalidChoice position scene.choices.length), s)
  forward_eq : ∀ responder : Responder σ,
    s.forward responder =
      if scene.choices.length = 1 then
        ((s.choose responder 0).1.map some, (s.choose responder 0).2)
      else (.ok none, s)
  position_eq : ∀ (position : Nat) (c : ShownChoice),
    scene.choices[position]? = some c → c.position = position

/-- While a story is being played, the scene that was shown last is what can be played. -/
theorem Shows.playable {last : Option Scene} (hs : Shows last s) (hplaying : s.mode = .playing) :
    ∃ scene, last = some scene ∧ s.Playable scene := by
  rcases hs.canShow hplaying with ⟨scene, hlast, hscene⟩
  have hchoose := choose_of_scene hscene
  have hforward := forward_of_scene hscene
  exact ⟨scene, hlast, hscene, hchoose, hforward, fun _ _ => position_of_scene hscene⟩

end Session

end Gamebook
