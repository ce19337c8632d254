import Gamebook.Proofs.Document.Story
import Gamebook.Proofs.Play.Document
import Gamebook.Proofs.Play.Failures
import Gamebook.Proofs.Script.Variables

/-!
# Where a saved game resumes

A saved game holds the progress of a reader and the metadata of the story, and the section that it
resumes at runs its script again.  What becomes of the progress then depends on the title, on the
names of the sections, on the scripts and on the answers; texts, media and choices have no part in
it, so it does not matter what scripts have made of the choices since the game was saved.

Main results:

- Definition `Story.SamePlot`: what two stories have in common for that.
- Theorem `Session.exists_run_of_restore`: what restoring a saved game runs.
- Theorem `Session.restore_alike`: a saved game resumes alike in stories of the same plot.
- Theorem `Session.Reachable.restore_save`: a game resumes where it was saved.
-/

namespace Gamebook

/-- Options that are the same are both there or both absent. -/
theorem isSome_eq_of_beq {α : Type} [BEq α] {a b : Option α} (hab : (a == b) = true) :
    a.isSome = b.isSome := by
  cases a with
  | none =>
    cases b with
    | none => rfl
    | some => cases hab
  | some =>
    cases b with
    | none => cases hab
    | some => rfl

namespace Story

/-! ## Stories of the same plot -/

/-- The stories have the same title, the same names of sections and under each name the same script.
Texts, media and choices may differ. -/
structure SamePlot (s t : Story) : Prop where
  title_eq : t.title = s.title
  ids_beq : (s.ids == t.ids) = true
  steps_beq : ∀ id,
    ((s.section? id).map Section.steps == (t.section? id).map Section.steps) = true

variable {s t : Story}

/-- The same sections exist in stories of the same plot. -/
theorem SamePlot.hasSection_eq (hplot : SamePlot s t) : t.hasSection = s.hasSection := by
  funext id
  have hsome := isSome_eq_of_beq (hplot.steps_beq id)
  rw [Option.isSome_map, Option.isSome_map] at hsome
  exact hsome.symm

/-- Stories of the same plot have the same first section. -/
theorem SamePlot.firstId_beq (hplot : SamePlot s t) : (s.firstId == t.firstId) = true := by
  have hids := hplot.ids_beq
  unfold firstId
  cases hs : s.ids with
  | nil =>
    cases ht : t.ids with
    | nil => rfl
    | cons =>
      rw [hs, ht] at hids
      cases hids
  | cons =>
    cases ht : t.ids with
    | nil =>
      rw [hs, ht] at hids
      cases hids
    | cons =>
      rw [hs, ht] at hids
      exact (Bool.and_eq_true_iff.1 hids).1

/-- A section of one story has the script of the section of that name in the other. -/
theorem SamePlot.exists_section? (hplot : SamePlot s t) {a b : SectionId} (hab : (a == b) = true)
    {sec : Section} (hsec : s.section? a = some sec) :
    ∃ sec', t.section? b = some sec' ∧ (sec.steps == sec'.steps) = true := by
  have hsteps := hplot.steps_beq a
  have hfind : t.section? a = t.section? b :=
    Table.find?_congr t.sections (Std.LawfulBEqOrd.compare_eq_iff_beq.2 hab)
  rw [hsec, hfind] at hsteps
  cases hsec' : t.section? b with
  | none =>
    rw [hsec'] at hsteps
    cases hsteps
  | some sec' =>
    rw [hsec'] at hsteps
    exact ⟨sec', rfl, hsteps⟩

/-- A story with other texts, media and choices has the same plot. -/
theorem samePlot_mapEntries (s : Story) {f : SectionId → Section → Section}
    (hf : ∀ id sec, (f id sec).steps = sec.steps) :
    SamePlot s { s with sections := s.sections.mapEntries f } where
  title_eq := rfl
  ids_beq := by
    rw [ids, ids, Table.keys_mapEntries]
    exact beq_self_eq_true _
  steps_beq id := by
    rcases Table.exists_find?_mapEntries s.sections f id with ⟨key, hfind⟩
    have hsteps : Section.steps ∘ f key = Section.steps := funext (hf key)
    rw [section?, section?, hfind, Option.map_map, hsteps]
    exact beq_self_eq_true _

/-- A story of which a section exists has a first one. -/
theorem exists_firstId_of_hasSection {id : SectionId} (hid : s.hasSection id = true) :
    ∃ first, s.firstId = some first := by
  rcases Table.contains_eq_true_iff.1 hid with ⟨key, hkey, -⟩
  exact ⟨s.ids.head (List.ne_nil_of_mem hkey), List.head?_eq_some_head _⟩

/-! ## Progress that is taken up -/

/-- The story with the progress of a saved game, in which the reader is at a section. -/
def resumed (s : Story) (game : SavedGame) (id : SectionId) : Story :=
  { s with state := some { game.state with current := some id } }

/-- Changes leave a progress as it is but for the variables. -/
theorem Changes.state_eq {offered : SectionId → Prop} {s s' : Story}
    (hchanges : Changes offered s s') {p : Progress} (hstate : s.state = some p) :
    s'.state = some { p with vars := s'.vars } := by
  rcases hchanges.state_cases with heq | ⟨vars, hvars⟩
  · rw [vars, progress, heq, hstate, Option.getD_some]
  · rw [Story.vars, progress, hvars, Option.getD_some, progress, hstate, Option.getD_some]

end Story

/-- A move that is not remembered changes the current section only. -/
theorem Progress.moveTo_false (p : Progress) (limit : Option Nat) (id : SectionId) :
    p.moveTo limit false id = { p with current := some id } := by
  unfold moveTo
  cases p.current <;> rfl

namespace Session

variable {σ τ : Type}

/-! ## What is asked -/

/-- What is answered in place is the answer, and nobody is asked. -/
theorem perform_of_inPlace? {s : Session σ} {operation : Operation}
    {answer : Except MoveError (Option Scene)} (hanswer : s.inPlace? operation = some answer)
    (responder : Responder σ) :
    (s.perform responder operation).1 = answer ∧ s.asked responder operation = [] := by
  constructor
  · cases hnext : s.perform responder operation with
    | mk result s' =>
      cases performed_of_eq hnext with
      | enters hleads hentered hmoves => cases hmoves.symm.trans hanswer
      | empties hstarts hempty hrefused => exact Option.some.inj (hrefused.symm.trans hanswer)
      | stays hstays => exact Option.some.inj (hstays.symm.trans hanswer)
  · have hrecorded := inPlace?_answeredBy s (s.responder, ([] : List (String × String))) operation
    rw [hanswer] at hrecorded
    unfold asked
    cases hnext : (s.answeredBy (s.responder, [])).perform responder.recording operation with
    | mk result s' =>
      cases performed_of_eq hnext with
      | enters hleads hentered hmoves => cases hmoves.symm.trans hrecorded
      | empties => rfl
      | stays => rfl

/-! ## Restoring -/

/-- The section at which a saved game resumes: the one that it names, if it exists, or else the
first one. -/
def resumesAt (s : Session σ) (game : SavedGame) (first : SectionId) : SectionId :=
  (game.state.current.filter s.story.hasSection).getD first

/-- The reader moves to a section in the progress that was saved. -/
theorem moved_withState (s : Session σ) (game : SavedGame) (id : SectionId) :
    moved { s with story := { s.story with state := some game.state } } id false =
      s.story.resumed game id := by
  rw [moved, Story.adjustProgress, Story.progress, Option.getD_some, Progress.moveTo_false]
  rfl

/-- There is a section at which a saved game of the story resumes. -/
theorem exists_section?_resumesAt {s : Session σ} {game : SavedGame}
    (hanswer : s.inPlace? (.restore game) = none) :
    ∃ first sec, s.story.firstId = some first ∧
      s.story.section? (s.resumesAt game first) = some sec := by
  have hperformed := perform_cases Responder.silent s (.restore game)
  cases hnext : s.perform Responder.silent (.restore game) with
  | mk result s' =>
    cases performed_of_eq hnext with
    | enters hleads hentered =>
      cases hleads with
      | restore htitle hmatch hstart =>
        rcases Story.exists_section?_of_hasSection hstart.hasSection with ⟨sec, hsec⟩
        rcases hstart with ⟨first, hfirst, rfl⟩
        exact ⟨first, sec, hfirst, hsec⟩
    | empties hstarts hempty hrefused => cases hrefused.symm.trans hanswer
    | stays hstays => cases hstays.symm.trans hanswer

section

variable (responder : Responder σ) {s : Session σ} {game : SavedGame} {first : SectionId}
  {sec : Section}

/-- Restoring a saved game of the story runs the script of the section at which the game resumes,
on the progress that was saved. -/
theorem exists_perform_restore (hanswer : s.inPlace? (.restore game) = none)
    (hfirst : s.story.firstId = some first)
    (hsec : s.story.section? (s.resumesAt game first) = some sec) :
    let id := s.resumesAt game first
    let after := (runScript responder ⟨s.story.resumed game id, s.responder⟩ sec.steps).2
    ∃ scene, scene.id = id ∧
      s.perform responder (.restore game) =
        (.ok (some scene),
          { s with story := after.story, responder := after.responder, mode := .playing }) := by
  intro id after
  cases hnext : s.perform responder (.restore game) with
  | mk result s' =>
    cases performed_of_eq hnext with
    | @enters base s' id' remember scene hleads hentered hmoves htransition =>
      cases hleads with
      | restore htitle hmatch hstart =>
        rcases hstart with ⟨first', hfirst', rfl⟩
        cases hfirst.symm.trans hfirst'
        rcases transition_of_section? responder
          (s := { s with story := { s.story with state := some game.state } }) hsec false with
          ⟨report, reading, sec', hscript, -, hrun⟩
        rw [moved_withState] at hscript
        cases hrun.symm.trans htransition
        have hafter : after = reading := congrArg Prod.snd hscript
        rw [hafter]
        exact ⟨_, rfl, rfl⟩
    | empties hstarts hempty hrefused => cases hrefused.symm.trans hanswer
    | stays hstays => cases hstays.symm.trans hanswer

/-- Restoring a saved game of the story asks what the script of that section asks. -/
theorem asked_restore (hanswer : s.inPlace? (.restore game) = none)
    (hfirst : s.story.firstId = some first)
    (hsec : s.story.section? (s.resumesAt game first) = some sec) :
    s.asked responder (.restore game) =
      requests responder ⟨s.story.resumed game (s.resumesAt game first), s.responder⟩
        sec.steps := by
  have hrecorded : (s.answeredBy (s.responder, ([] : List (String × String)))).inPlace?
      (.restore game) = none := (inPlace?_answeredBy s _ _).trans hanswer
  rcases exists_perform_restore responder.recording hrecorded hfirst hsec with
    ⟨scene, -, hperform⟩
  rw [asked, hperform]
  rfl

end

/-! ## Two sessions -/

/-- The same saved games are refused, and with the same errors, where the story has the same
plot. -/
theorem inPlace?_restore_congr {s : Session σ} {t : Session τ}
    (hplot : Story.SamePlot s.story t.story) (game : SavedGame) :
    t.inPlace? (.restore game) = s.inPlace? (.restore game) := by
  have hnone : t.story.firstId.isNone = s.story.firstId.isNone := by
    rw [← Option.not_isSome, ← Option.not_isSome, isSome_eq_of_beq hplot.firstId_beq]
  simp only [inPlace?, hplot.title_eq, sectionless?, hnone]

/-- A saved game resumes at the same section where the story has the same plot. -/
theorem resumesAt_beq {s : Session σ} {t : Session τ} (hplot : Story.SamePlot s.story t.story)
    (game : SavedGame) {first first' : SectionId} (hfirst : (first == first') = true) :
    (s.resumesAt game first == t.resumesAt game first') = true := by
  unfold resumesAt
  rw [hplot.hasSection_eq]
  cases game.state.current.filter s.story.hasSection with
  | none => exact hfirst
  | some id => exact beq_self_eq_true id

/-- Both moves fail with the same error, or both show a section and leave the same progress.  The
name of the current section can be written in another way only if the names of the sections are. -/
inductive EndAlike :
    Except MoveError (Option Scene) × Session σ → Except MoveError (Option Scene) × Session τ → Prop
  | fail (e : MoveError) (s : Session σ) (t : Session τ) : EndAlike (.error e, s) (.error e, t)
  | show (scene scene' : Scene) {s : Session σ} {t : Session τ} {p q : Progress}
      (hs : s.story.state = some p) (ht : t.story.state = some q)
      (hcurrent : (p.current == q.current) = true) (hhistory : p.history = q.history)
      (hvars : p.vars = q.vars) (heq : s.story.ids = t.story.ids → p = q) :
    EndAlike (.ok (some scene), s) (.ok (some scene'), t)

/-- A saved game that is restored into sessions whose stories have the same plot ends alike, and the
same is asked, if the answers to what is asked are the same. -/
theorem restore_alike {s : Session σ} {t : Session τ} (responder : Responder σ)
    (other : Responder τ) (game : SavedGame) (hplot : Story.SamePlot s.story t.story)
    (hanswers : other.answers t.responder (s.asked responder (.restore game)) =
      responder.answers s.responder (s.asked responder (.restore game))) :
    t.asked other (.restore game) = s.asked responder (.restore game) ∧
      EndAlike (s.perform responder (.restore game)) (t.perform other (.restore game)) := by
  have hsame := inPlace?_restore_congr hplot game
  cases hanswer : s.inPlace? (.restore game) with
  | some answer =>
    rw [hanswer] at hsame
    rcases perform_of_inPlace? hanswer responder with ⟨hs, hasked⟩
    rcases perform_of_inPlace? hsame other with ⟨ht, hasked'⟩
    refine ⟨hasked'.trans hasked.symm, ?_⟩
    rw [← Prod.eta (s.perform responder _), ← Prod.eta (t.perform other _), hs, ht]
    cases answered_of_inPlace? hanswer <;> exact .fail _ _ _
  | none =>
    rw [hanswer] at hsame
    rcases exists_section?_resumesAt hanswer with ⟨first, sec, hfirst, hsec⟩
    rcases exists_section?_resumesAt hsame with ⟨first', sec', hfirst', hsec'⟩
    have hbeq := hplot.firstId_beq
    rw [hfirst, hfirst'] at hbeq
    have hid : (s.resumesAt game first == t.resumesAt game first') = true :=
      resumesAt_beq hplot game hbeq
    have hsteps : (sec.steps == sec'.steps) = true := by
      rcases hplot.exists_section? hid hsec with ⟨found, hfound, hsteps⟩
      cases hsec'.symm.trans hfound
      exact hsteps
    let r : Reading σ := ⟨s.story.resumed game (s.resumesAt game first), s.responder⟩
    let r' : Reading τ := ⟨t.story.resumed game (t.resumesAt game first'), t.responder⟩
    have hvars : r'.story.vars = r.story.vars := rfl
    rw [asked_restore responder hanswer hfirst hsec] at hanswers ⊢
    rw [asked_restore other hsame hfirst' hsec']
    rcases runScript_alike responder other hsteps hvars hanswers with ⟨hrequests, hafter⟩
    refine ⟨hrequests, ?_⟩
    rcases exists_perform_restore responder hanswer hfirst hsec with ⟨scene, -, hs⟩
    rcases exists_perform_restore other hsame hfirst' hsec' with ⟨scene', -, ht⟩
    have hchanges := runScript_changes responder r sec.steps
    have hchanges' := runScript_changes other r' sec'.steps
    rw [hs, ht]
    refine .show scene scene' (hchanges.state_eq rfl) (hchanges'.state_eq rfl) hid rfl
      hafter.symm ?_
    intro hids
    have hnames : s.story.ids = t.story.ids :=
      hchanges.kept.ids_eq.symm.trans (hids.trans hchanges'.kept.ids_eq)
    have hfirsts : first = first' := by
      rw [Story.firstId, hnames, ← Story.firstId, hfirst'] at hfirst
      exact (Option.some.inj hfirst).symm
    rw [hafter, resumesAt, resumesAt, hplot.hasSection_eq, hfirsts]

/-! ## Resuming -/

/-- A game that was saved while a section was being played resumes there, however play has gone on
in the story since, and with the history that was saved. -/
theorem Reachable.restore_save {origin later : Session σ} {current : SectionId}
    (horigin : Reachable origin) (hcurrent : origin.currentId = some current)
    (htitle : origin.story.title.isSome = true) (hlater : origin.Continues later)
    (responder : Responder σ) :
    ∃ scene,
      (later.perform responder (.restore origin.save)).1 = .ok (some scene) ∧
      scene.id = current ∧
      (later.perform responder (.restore origin.save)).2.currentId = some current ∧
      (later.perform responder (.restore origin.save)).2.story.history =
        origin.story.history := by
  have hdocument := hlater.sameDocument
  have hexists : later.story.hasSection current = true := by
    rw [Story.hasSection, Table.contains_congr_keys hdocument.ids_eq]
    exact horigin.onCourse.hasSection_of_currentId hcurrent
  rcases Option.isSome_iff_exists.1 htitle with ⟨title, htitle⟩
  have hanswer : later.inPlace? (.restore origin.save) = none := by
    have hlatest : later.story.title = some title := by
      rw [← htitle, Story.title, Story.title, hdocument.info_eq]
    have hmatch : origin.save.info.title = some title := htitle
    rcases Story.exists_firstId_of_hasSection hexists with ⟨first, hfirst⟩
    simp only [inPlace?, hlatest, if_pos hmatch, sectionless?_of_firstId hfirst]
  rcases exists_section?_resumesAt hanswer with ⟨first, sec, hfirst, hsec⟩
  have hsaved : origin.save.state.current = some current := by
    rcases Option.bind_eq_some_iff.1 (story_currentId_of_currentId hcurrent) with
      ⟨p, hstate, hp⟩
    rw [save, SavedGame.capture, Story.progress, hstate, Option.getD_some, hp]
  have hid : later.resumesAt origin.save first = current := by
    rw [resumesAt, hsaved, Option.filter_some, if_pos hexists, Option.getD_some]
  rcases exists_perform_restore responder hanswer hfirst hsec with ⟨scene, hscene, hperform⟩
  have hstate := (runScript_changes responder
    ⟨later.story.resumed origin.save (later.resumesAt origin.save first), later.responder⟩
    sec.steps).state_eq rfl
  rw [hid] at hscene hperform hstate
  rw [hperform]
  refine ⟨scene, rfl, hscene, ?_, ?_⟩
  · rw [currentId, Story.currentId, hstate]
    rfl
  · rw [Story.history, Story.progress, hstate]
    rfl

/-- A saved game determines where play resumes.  Two sessions whose stories have the same title, the
same names of sections and the same scripts both refuse it with the same error, or both end with the
same progress, having asked the same, if the answers to what is asked are the same.  A game that was
saved while a section was being played resumes in that section with the history of then, however
play has gone on in the story since. -/
theorem save_determines_resumption :
    (∀ (s : Session σ) (t : Session τ) (responder : Responder σ) (other : Responder τ)
      (game : SavedGame), Story.SamePlot s.story t.story →
      other.answers t.responder (s.asked responder (.restore game)) =
        responder.answers s.responder (s.asked responder (.restore game)) →
      t.asked other (.restore game) = s.asked responder (.restore game) ∧
        EndAlike (s.perform responder (.restore game)) (t.perform other (.restore game))) ∧
      ∀ (origin later : Session σ) (current : SectionId), Reachable origin →
        origin.currentId = some current → origin.story.title.isSome = true →
        origin.Continues later → ∀ responder : Responder σ,
        let resumed := later.perform responder (.restore origin.save)
        (∃ scene, resumed.1 = .ok (some scene) ∧ scene.id = current) ∧
          resumed.2.currentId = some current ∧
          resumed.2.story.history = origin.story.history := by
  refine ⟨fun _ _ => restore_alike, ?_⟩
  intro origin later current horigin hcurrent htitle hlater responder
  rcases horigin.restore_save hcurrent htitle hlater responder with
    ⟨scene, hresult, hscene, hresumed, hhistory⟩
  exact ⟨⟨scene, hresult, hscene⟩, hresumed, hhistory⟩

/-- A story of a section that asks for a name. -/
def gate : Story where
  info := { title := some "Gate" }
  sections := .ofList
    [(.int 1,
      { next := some [{ text := "In", target := .int 1 }]
        script := some [{ action := "INPUT", parameters := [.text "name", .text "Who?"] }] })]

/-- Always gives the same answer. -/
def steady (answer : String) : Responder Unit where
  ask _ _ state := (some answer, state)

/-- Gives one answer after the other. -/
def inTurn : Responder (List String) where
  ask _ _ answers := (answers.head?, answers.tail)

/-- A saved game that names a section that does not exist resumes alike, whether or not the section
that is there has a way in; and a game that was saved at the start resumes there after a reader has
taken that way. -/
theorem gate_determines_resumption :
    let closed : Story :=
      { gate with sections := gate.sections.mapEntries fun _ sec => { sec with next := none } }
    let game : SavedGame := { info := gate.info, state := { current := some (.int 9) } }
    let s : Session Unit := { story := gate, responder := () }
    let t : Session (List String) := { story := closed, responder := ["Ann"] }
    let started := (s.perform (steady "Ann") .start).2
    let inside := (started.perform (steady "Ben") (.choose 0)).2
    Story.SamePlot gate closed ∧
      s.asked (steady "Ann") (.restore game) = [("name", "Who?")] ∧
      t.asked inTurn (.restore game) = [("name", "Who?")] ∧
      EndAlike (s.perform (steady "Ann") (.restore game)) (t.perform inTurn (.restore game)) ∧
      started.Reachable ∧ started.currentId = some (.int 1) ∧
      inside.story.history = [.int 1] ∧
      (inside.perform (steady "Ben") (.restore started.save)).2.story.history = [] := by
  intro closed game s t started inside
  have hplot : Story.SamePlot gate closed := Story.samePlot_mapEntries gate fun _ _ => rfl
  have hasked : s.asked (steady "Ann") (.restore game) = [("name", "Who?")] := rfl
  have hanswers : inTurn.answers t.responder (s.asked (steady "Ann") (.restore game)) =
      (steady "Ann").answers s.responder (s.asked (steady "Ann") (.restore game)) := rfl
  have hdetermines := save_determines_resumption (σ := Unit) (τ := List String)
  rcases hdetermines.1 s t (steady "Ann") inTurn game hplot hanswers with ⟨hsame, halike⟩
  have hs : started.Reachable := .perform (.new _ _ _) _ _
  have hcurrent : started.currentId = some (.int 1) := rfl
  have hinside : started.Continues inside := .perform .refl _ (by rintro _ ⟨⟩)
  have hresumed := hdetermines.2 started inside (.int 1) hs hcurrent rfl hinside (steady "Ben")
  have hinside : inside.story.history = [.int 1] := rfl
  have hstarted : started.story.history = [] := rfl
  exact ⟨hplot, hasked, hsame.trans hasked, halike, hs, hcurrent, hinside,
    hresumed.2.2.trans hstarted⟩

end Session

end Gamebook
