import Gamebook.Problem
import Gamebook.Proofs.Play.Reloading
import Gamebook.Proofs.Play.ScriptErrors

/-!
# Stories without missing sections

A story without problems, whose scripts only offer choices that lead to sections of it, stays that
way while it is played: choices that are added and removed, the history and saved games only ever
name sections.  So a reader who moves about in it is never told that a section is missing.

Main results:

- Theorem `Story.danglingChoices_eq_nil_iff`: no choice is dangling exactly when all targets exist.
- Definition `Story.Closed`: nothing in the story or in its scripts leads out of it, which can be
  computed.
- Definition `Session.Roams`: the sessions in which a reader moves about in a story.
- Theorem `Session.Roams.follows`: every session of a closed story refers to sections of it only.
- Theorem `Session.Roams.never_missing`: what that means for a reader.
-/

namespace Gamebook

/-! ## Closed stories -/

namespace Story

/-- No choice leads to a missing section exactly when the targets of all choices exist. -/
theorem danglingChoices_eq_nil_iff {s : Story} :
    s.danglingChoices = [] ↔ ∀ target ∈ s.targets, s.hasSection target = true := by
  simp only [danglingChoices, targets, Table.values, List.flatMap_eq_nil_iff,
    List.filterMap_eq_nil_iff, List.mem_flatMap, List.mem_map]
  constructor
  · rintro hall target ⟨sec, ⟨⟨owner, _⟩, hentry, rfl⟩, c, hc, rfl⟩
    rcases List.mem_iff_getElem?.1 hc with ⟨position, hposition⟩
    simpa using hall _ hentry (c, position) (List.mk_mem_zipIdx_iff_getElem?.2 hposition)
  · rintro hall ⟨owner, sec⟩ hentry ⟨c, position⟩ hc
    exact if_pos (hall c.target
      ⟨sec, ⟨_, hentry, rfl⟩, c, List.fst_mem_of_mem_zipIdx hc, rfl⟩)

/-- A story without problems has no script with a step that cannot be read. -/
theorem validateScript_of_problems_eq_nil {s : Story} (hproblems : s.problems = [])
    {script : List Step} (hscript : script ∈ s.scripts) : validateScript script = [] := by
  rcases List.mem_map.1 hscript with ⟨sec, hsec, rfl⟩
  rcases List.mem_map.1 hsec with ⟨⟨owner, _⟩, hentry, rfl⟩
  have hsections := (List.append_eq_nil_iff.1 hproblems).1
  exact List.map_eq_nil_iff.1 (List.flatMap_eq_nil_iff.1 hsections _ hentry)

/-- A story without problems has no choice that leads to a missing section. -/
theorem danglingChoices_of_problems_eq_nil {s : Story} (hproblems : s.problems = []) :
    s.danglingChoices = [] :=
  List.map_eq_nil_iff.1 (List.append_eq_nil_iff.1 hproblems).2

/-- A story that nobody has begun to read, without problems, whose scripts only offer choices that
lead to sections of it. -/
structure Closed (story : Story) : Prop where
  state_eq : story.state = none
  problems_eq : story.problems = []
  offers : ∀ target, story.OffersChoice target → story.hasSection target = true

/-- Whether a story is closed shows from its sections. -/
theorem closed_iff {story : Story} : story.Closed ↔
    story.state.isNone = true ∧ story.problems.isEmpty = true ∧
      ∀ script ∈ story.scripts, ∀ e ∈ script, ∀ target ∈ e.offered?,
        story.hasSection target = true := by
  rw [Option.isNone_iff_eq_none, List.isEmpty_iff]
  constructor
  · rintro ⟨hstate, hproblems, hoffers⟩
    refine ⟨hstate, hproblems, ?_⟩
    intro script hscript e he target htarget
    exact hoffers target ⟨script, hscript, e, he, htarget⟩
  · rintro ⟨hstate, hproblems, hall⟩
    refine ⟨hstate, hproblems, ?_⟩
    rintro target ⟨script, hscript, e, he, htarget⟩
    exact hall script hscript e he target htarget

instance (story : Story) : Decidable story.Closed :=
  decidable_of_iff _ closed_iff.symm

/-- A closed story refers to sections of it only. -/
theorem Closed.follows {story : Story} (hstory : story.Closed) :
    Follows (fun id => story.hasSection id = true) story story where
  info_eq := rfl
  ids_eq := rfl
  scripts_eq := rfl
  references := by
    have htargets := danglingChoices_eq_nil_iff.1
      (danglingChoices_of_problems_eq_nil hstory.problems_eq)
    refine List.forall_mem_append.2 ⟨htargets, ?_⟩
    rw [progress, hstory.state_eq]
    exact List.forall_mem_nil _

/-- A story that is played as a closed one has no choice that leads to a missing section. -/
theorem Follows.danglingChoices_eq_nil {story s : Story}
    (hs : Follows (fun id => story.hasSection id = true) story s) : s.danglingChoices = [] := by
  rw [danglingChoices_eq_nil_iff]
  intro target htarget
  rw [hs.hasSection_eq]
  exact hs.references target (List.mem_append_left _ htarget)

end Story

namespace Session

variable {σ : Type} {story : Story}

/-! ## Moving about -/

/-- The operation stays in the story that is being played, and restores only games that were saved
in the same session. -/
inductive Operation.Inside (games : List SavedGame) (s : Session σ) : Operation → Prop
  | start : Inside games s .start
  | enter {id : SectionId} (hid : s.story.hasSection id = true) : Inside games s (.enter id)
  | back : Inside games s .back
  | choose (position : Nat) : Inside games s (.choose position)
  | forward : Inside games s .forward
  | scene : Inside games s .scene
  | restore {game : SavedGame} (hgame : game ∈ games) : Inside games s (.restore game)

/-- The sessions in which a reader moves about in a story, each with the games that were saved in it
so far. -/
inductive Roams (story : Story) : List SavedGame → Session σ → Prop
  | new (settings : Settings) (answerer : σ) :
    Roams story [] { story, settings, responder := answerer }
  | save {games : List SavedGame} {s : Session σ} (hs : Roams story games s) :
    Roams story (s.save :: games) s
  | perform {games : List SavedGame} {s : Session σ} (hs : Roams story games s)
      (responder : Responder σ) {operation : Operation} (hoperation : operation.Inside games s) :
    Roams story games (s.perform responder operation).2

/-- What stays inside a story names sections of it only. -/
theorem Operation.Inside.within {games : List SavedGame} {s : Session σ} {operation : Operation}
    {p : SectionId → Prop} (hoperation : operation.Inside games s)
    (hsections : ∀ id, s.story.hasSection id = true → p id)
    (hgames : ∀ game ∈ games, ∀ id ∈ game.state.names, p id) : operation.Within p := by
  cases hoperation with
  | start => exact .start
  | enter hid => exact .enter (hsections _ hid)
  | back => exact .back
  | choose position => exact .choose position
  | forward => exact .forward
  | scene => exact .scene
  | restore hgame => exact .restore (hgames _ hgame)

/-- Every session of a closed story refers to sections of it only, and so do the games that are
saved in it. -/
theorem Roams.follows {games : List SavedGame} {s : Session σ} (hs : Roams story games s)
    (hstory : story.Closed) :
    Story.Follows (fun id => story.hasSection id = true) story s.story ∧
      ∀ game ∈ games, ∀ id ∈ game.state.names, story.hasSection id = true := by
  induction hs with
  | new settings answerer => exact ⟨hstory.follows, List.forall_mem_nil _⟩
  | save hs ih => exact ⟨ih.1, List.forall_mem_cons.2 ⟨ih.1.names, ih.2⟩⟩
  | @perform games s hs responder operation hoperation ih =>
    rcases ih with ⟨hfollows, hgames⟩
    have hwithin : operation.Within fun id => story.hasSection id = true :=
      hoperation.within (fun id hid => hfollows.hasSection_eq id ▸ hid) hgames
    exact ⟨hfollows.perform (fun _ => Story.hasSection_of_mem_ids) hstory.offers responder hwithin,
      hgames⟩

/-- A move that stays in a story never finds that a section of it is missing. -/
theorem ne_missingSection_of_follows {s : Session σ}
    (hs : Story.Follows (fun id => story.hasSection id = true) story s.story)
    (responder : Responder σ) {operation : Operation}
    (hoperation : operation.Within fun id => story.hasSection id = true) (id : SectionId) :
    (s.perform responder operation).1 ≠ .error (.missingSection id) := by
  intro hfails
  -- whatever the move leads to is named by the story, which has all sections that it names
  have hmissing : story.hasSection id = true ∧ s.story.hasSection id = false := by
    cases answered_of_error hfails with
    | astray hcurrent hid =>
      have hnamed := Story.mem_names_of_currentId (story_currentId_of_currentId hcurrent)
      exact ⟨hs.names id hnamed, hid⟩
    | missing hleads hid =>
      exact ⟨(hleads.follows hs (fun _ => Story.hasSection_of_mem_ids) hoperation).2, hid⟩
  rw [hs.hasSection_eq, hmissing.1] at hmissing
  cases hmissing.2

/-- In a story without problems no scene shows a failure of a script. -/
theorem scriptErrors_eq_nil_of_follows {p : SectionId → Prop} (hproblems : story.problems = [])
    {s s' : Session σ} (hs' : Story.Follows p story s'.story) {responder : Responder σ}
    {operation : Operation} {scene : Scene}
    (hperform : s.perform responder operation = (.ok (some scene), s')) :
    scene.scriptErrors = [] := by
  by_cases hoperation : operation = .scene
  · subst hoperation
    have hanswer : s.inPlace? .scene = some (.ok (some scene)) :=
      congrArg some (congrArg Prod.fst hperform)
    cases answered_of_inPlace? hanswer with
    | shown hscene => exact scriptErrors_of_scene hscene
  · rcases scriptErrors_of_perform hoperation hperform with ⟨sec, hsec, herrors⟩
    have hscript : sec.steps ∈ story.scripts := hs'.scripts_eq ▸ Story.steps_mem_scripts hsec
    rw [herrors, Story.validateScript_of_problems_eq_nil hproblems hscript]
    rfl

/-- A reader who moves about in a closed story is never told that a section is missing, and no scene
shows a failure of a script.  All choices of the story and the whole history lead to sections of it,
wherever the reader gets. -/
theorem Roams.never_missing {games : List SavedGame} {s : Session σ} (hstory : story.Closed)
    (hs : Roams story games s) :
    s.story.danglingChoices = [] ∧
      (∀ id ∈ s.story.history, s.story.hasSection id = true) ∧
      ∀ (responder : Responder σ) (operation : Operation), operation.Inside games s →
        (∀ id, (s.perform responder operation).1 ≠ .error (.missingSection id)) ∧
        ∀ scene, (s.perform responder operation).1 = .ok (some scene) →
          scene.scriptErrors = [] := by
  rcases hs.follows hstory with ⟨hfollows, hgames⟩
  refine ⟨hfollows.danglingChoices_eq_nil, ?_, ?_⟩
  · intro id hid
    rw [hfollows.hasSection_eq]
    exact hfollows.names id (List.mem_append_right _ hid)
  · intro responder operation hoperation
    have hwithin : operation.Within fun id => story.hasSection id = true :=
      hoperation.within (fun id hid => hfollows.hasSection_eq id ▸ hid) hgames
    refine ⟨ne_missingSection_of_follows hfollows responder hwithin, ?_⟩
    intro scene hscene
    have hnext := ((hs.perform responder hoperation).follows hstory).1
    exact scriptErrors_eq_nil_of_follows hstory.problems_eq hnext (Prod.ext hscene rfl)

/-- A titled story whose first section offers its second one. -/
def cave : Story where
  info := { title := some "Cave" }
  sections := .ofList
    [(.int 1,
      { script := some [{ action := "ADD_CHOICE", parameters := [.int 2, .text "Go"] }] }),
     (.int 2, Section.ofLines ["The end."])]

/-- The session in which the cave has been started. -/
def ofCave : Session Unit :=
  (perform Responder.silent { story := cave, responder := () } .start).2

/-- The session in which the choice that the first section offers has been followed. -/
def ofCaveEnd : Session Unit :=
  (perform Responder.silent ofCave (.choose 0)).2

/-- From the end of the cave the game that was saved at its entrance is restored, and the scene that
it leads to shows no failure. -/
theorem ofCaveEnd_never_missing :
    cave.Closed ∧ Roams cave [ofCave.save] ofCaveEnd ∧ ofCaveEnd.story.danglingChoices = [] ∧
      ∃ scene, (ofCaveEnd.perform Responder.silent (.restore ofCave.save)).1 = .ok (some scene) ∧
        scene.scriptErrors = [] := by
  have hcave : cave.Closed := by decide +kernel
  have hs : Roams cave [ofCave.save] ofCaveEnd :=
    .perform (.save (.perform (.new _ _) _ .start)) _ (.choose 0)
  rcases hs.never_missing hcave with ⟨hdangling, -, hmoves⟩
  have hrestore := hmoves Responder.silent _ (.restore (List.mem_singleton_self ofCave.save))
  exact ⟨hcave, hs, hdangling, _, rfl, hrestore.2 _ rfl⟩

end Session

end Gamebook
