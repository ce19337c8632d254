import Gamebook.Proofs.Play.Answers
import Gamebook.Proofs.Play.Document
import Gamebook.Proofs.Spelling.Editing
import Gamebook.Proofs.Spelling.Playing
import Gamebook.Proofs.Spelling.Routes

/-!
# The flavour of names and parameters

Documents write the name of a section or a parameter of a script as an integer, as another number or
as text.  Which of them it is never matters: stories that are the same behave in the same way, in
all that can be done with them.

Main results:

- Definition `Story.BehaveAlike`: what it means that two stories behave in the same way.
- Theorem `Story.behaveAlike_of_beq`: stories that are the same do.
-/

namespace Gamebook

variable {σ τ : Type}

/-! ## Scripts -/

/-- Notes are taken alike in one spelling. -/
theorem requests_spellOut (responder : Responder σ) (r : Reading σ) (script : List Step) :
    requests responder (spellOut r) (spellOut script) = requests responder r script := by
  have hrun := runScript_spellOut responder.recording (r.recorded []) script
  exact congrArg (·.2.responder.2) hrun

/-- A script keeps the metadata of the story. -/
theorem info_runScript (responder : Responder σ) (r : Reading σ) (script : List Step) :
    (runScript responder r script).2.story.info = r.story.info :=
  (runScript_changes responder r script).kept.info_eq

/-! ## Moves -/

namespace Session

deriving instance BEq for Operation

/-- Moves that are the same are equal in one spelling. -/
theorem Operation.spellOut_congr {a b : Operation} (hab : (a == b) = true) :
    spellOut a = spellOut b := by
  cases a <;> cases b
  case load.load s t => exact congrArg Operation.load (Story.beq_iff.1 hab).2
  case enter.enter id id' => exact congrArg Operation.enter (LawfulSpellOut.beq_iff.1 hab)
  case choose.choose position position' =>
    have hposition : position = position' := eq_of_beq hab
    rw [hposition]
  case restore.restore game game' =>
    exact congrArg Operation.restore (SavedGame.beq_iff.1 hab).2
  all_goals first | rfl | cases hab

/-- So are lists of moves that are the same. -/
theorem Operation.map_spellOut_congr {as bs : List Operation} (hab : (as == bs) = true) :
    as.map spellOut = bs.map spellOut := by
  induction as generalizing bs with
  | nil =>
    cases bs with
    | nil => rfl
    | cons => cases hab
  | cons a as ih =>
    cases bs with
    | nil => cases hab
    | cons b bs =>
      rw [List.cons_beq_cons, Bool.and_eq_true] at hab
      rw [List.map_cons, List.map_cons, spellOut_congr hab.1, ih hab.2]

section

variable (responder : Responder σ) (s : Session σ)

/-- A move asks the same in one spelling. -/
theorem asked_spellOut (operation : Operation) :
    (spellOut s).asked responder (spellOut operation) = s.asked responder operation := by
  have hrun := perform_spellOut responder.recording (s.answeredBy (s.responder, [])) operation
  exact congrArg (·.2.responder.2) hrun

/-- Moves have the same results in one spelling. -/
theorem performEach_spellOut (operations : List Operation) :
    (spellOut s).performEach responder (operations.map spellOut) =
      spellOut (s.performEach responder operations) := by
  induction operations generalizing s with
  | nil => rfl
  | cons operation rest ih =>
    have hrest := ih (s.perform responder operation).2
    simp only [List.map_cons, performEach, perform_spellOut]
    exact congrArg (fun run => (spellOut (s.perform responder operation).1 :: run.1, run.2)) hrest

/-- Moves ask the same in one spelling. -/
theorem askedEach_spellOut (operations : List Operation) :
    (spellOut s).askedEach responder (operations.map spellOut) =
      s.askedEach responder operations := by
  induction operations generalizing s with
  | nil => rfl
  | cons operation rest ih =>
    rw [List.map_cons, askedEach, askedEach, asked_spellOut, perform_spellOut]
    exact congrArg (s.asked responder operation ++ ·) (ih _)

end

/-- After moves that are the same the metadata are the same if they were so before. -/
theorem info_performEach_beq {s : Session σ} {t : Session τ} (responder : Responder σ)
    (other : Responder τ) (hinfo : (s.story.info == t.story.info) = true)
    {operations operations' : List Operation} (hsame : (operations == operations') = true) :
    ((s.performEach responder operations).2.story.info ==
      (t.performEach other operations').2.story.info) = true := by
  induction operations generalizing s t operations' with
  | nil =>
    cases operations' with
    | nil => exact hinfo
    | cons => cases hsame
  | cons operation rest ih =>
    cases operations' with
    | nil => cases hsame
    | cons operation' rest' =>
      rw [List.cons_beq_cons, Bool.and_eq_true] at hsame
      rw [performEach_cons, performEach_cons]
      refine ih ?_ hsame.2
      rw [(sameDocument_perform s responder operation).info_eq,
        (sameDocument_perform t other operation').info_eq]
      have hfirst := hsame.1
      cases operation <;> cases operation'
      case load.load story story' => exact (Story.beq_iff.1 hfirst).1
      all_goals first | exact hinfo | cases hfirst

end Session

/-! ## Stories -/

/-- Stories that are the same are saved alike. -/
theorem SavedGame.capture_beq {s t : Story} (hst : (s == t) = true) :
    (capture s == capture t) = true := by
  rcases Story.beq_iff.1 hst with ⟨hinfo, hspelled⟩
  refine SavedGame.beq_iff.2 ⟨hinfo, ?_⟩
  have hprogress : spellOut s.progress = spellOut t.progress := by
    rw [← Story.progress_spellOut, hspelled, Story.progress_spellOut]
  have htitle : s.info.title = t.info.title := StoryInfo.title_eq_of_beq hinfo
  change (⟨⟨s.info.title, _⟩, spellOut s.progress⟩ : SavedGame) =
    ⟨⟨t.info.title, _⟩, spellOut t.progress⟩
  rw [htitle, hprogress]

namespace Story

/-- The stories behave in the same way in all that can be done with them, with scripts, moves and
names that are the same and with the same answers to what is asked: results are the same, and so are
the stories in the end. -/
structure BehaveAlike (s t : Story) : Prop where
  /-- Scripts run alike. -/
  runScript {σ τ : Type} (responder : Responder σ) (other : Responder τ) (a : σ) (b : τ)
    (script script' : List Step) (hscript : (script == script') = true)
    (hanswers : other.answers b (requests responder ⟨s, a⟩ script) =
      responder.answers a (requests responder ⟨s, a⟩ script)) :
    let run := Gamebook.runScript responder ⟨s, a⟩ script
    let run' := Gamebook.runScript other ⟨t, b⟩ script'
    (run.1 == run'.1) = true ∧ (run.2.story == run'.2.story) = true
  /-- So do the scripts of sections, and both are missing or none. -/
  runSection {σ τ : Type} (responder : Responder σ) (other : Responder τ) (a : σ) (b : τ)
    {id id' : SectionId} (hid : (id == id') = true)
    (hanswers : ∀ sec, s.section? id = some sec →
      other.answers b (requests responder ⟨s, a⟩ sec.steps) =
        responder.answers a (requests responder ⟨s, a⟩ sec.steps)) :
    let run := Gamebook.runSection responder ⟨s, a⟩ id
    let run' := Gamebook.runSection other ⟨t, b⟩ id'
    (run.1 == run'.1) = true ∧ (run.2.story == run'.2.story) = true
  /-- Play goes on alike, whatever moves are made. -/
  play {σ τ : Type} (responder : Responder σ) (other : Responder τ) (a : σ) (b : τ)
    (settings : Settings) (mode : Mode) (operations operations' : List Session.Operation)
    (hoperations : (operations == operations') = true) :
    let before : Session σ := ⟨s, settings, mode, a⟩
    let before' : Session τ := ⟨t, settings, mode, b⟩
    other.answers b (before.askedEach responder operations) =
      responder.answers a (before.askedEach responder operations) →
    let run := before.performEach responder operations
    let run' := before'.performEach other operations'
    (run.1 == run'.1) = true ∧ (run.2.story == run'.2.story) = true ∧ run.2.mode = run'.2.mode ∧
      (run.2.save == run'.2.save) = true
  /-- A section is added under the same name, and every other edit has the same result, too. -/
  addSection : (s.addSection == t.addSection) = true
  addChoice {id id' target target' : SectionId} (hid : (id == id') = true)
    (htarget : (target == target') = true) (text : String) :
    (s.addChoice id target text == t.addChoice id' target' text) = true
  removeSection {id id' : SectionId} (hid : (id == id') = true) :
    (s.removeSection id == t.removeSection id') = true
  removeChoice {id id' : SectionId} (hid : (id == id') = true) (position : Nat) :
    (s.removeChoice id position == t.removeChoice id' position) = true
  setText {id id' : SectionId} (hid : (id == id') = true) (text : String) :
    (s.setText id text == t.setText id' text) = true
  setMedia {id id' : SectionId} (hid : (id == id') = true) (media : Media) :
    (s.setMedia id media == t.setMedia id' media) = true
  clearMedia {id id' : SectionId} (hid : (id == id') = true) :
    (s.clearMedia id == t.clearMedia id') = true
  declareVariable (name : String) : (s.declareVariable name == t.declareVariable name) = true
  /-- The graph is seen alike. -/
  roots : (s.roots == t.roots) = true
  leaves : (s.leaves == t.leaves) = true
  isRoot {id id' : SectionId} (hid : (id == id') = true) : s.isRoot id = t.isRoot id'
  isLeaf {id id' : SectionId} (hid : (id == id') = true) : s.isLeaf id = t.isLeaf id'
  danglingChoices : (s.danglingChoices == t.danglingChoices) = true
  /-- The same route is found, and the search for it meets the same. -/
  findRoute {start start' goal goal' : SectionId} {waypoints waypoints' : List SectionId}
    (hstart : (start == start') = true) (hgoal : (goal == goal') = true)
    (hwaypoints : (waypoints == waypoints') = true) :
    let answer := s.findRoute start goal waypoints
    let answer' := t.findRoute start' goal' waypoints'
    (answer.route == answer'.route) = true ∧ answer.counts = answer'.counts

section

variable {s t : Story} (hst : (s == t) = true)
include hst

/-- Scripts run alike in stories that are the same. -/
theorem runScript_beq (responder : Responder σ) (other : Responder τ) (a : σ) (b : τ)
    {script script' : List Step} (hscript : (script == script') = true)
    (hanswers : other.answers b (requests responder ⟨s, a⟩ script) =
      responder.answers a (requests responder ⟨s, a⟩ script)) :
    ((runScript responder ⟨s, a⟩ script).1 == (runScript other ⟨t, b⟩ script').1) = true ∧
      ((runScript responder ⟨s, a⟩ script).2.story ==
        (runScript other ⟨t, b⟩ script').2.story) = true := by
  let r : Reading σ := ⟨s, a⟩
  let r' : Reading σ := ⟨t, a⟩
  have hreading : spellOut r = spellOut r' :=
    congrArg (fun story => (⟨story, a⟩ : Reading σ)) (Story.beq_iff.1 hst).2
  have hsteps : spellOut script = spellOut script' := LawfulSpellOut.beq_iff.1 hscript
  -- the same one answers first, and is then replaced
  have hrun : spellOut (runScript responder r script) =
      spellOut (runScript responder r' script') := by
    rw [← runScript_spellOut, ← runScript_spellOut, hreading, hsteps]
  have hasked : requests responder r script = requests responder r' script' := by
    rw [← requests_spellOut, ← requests_spellOut responder r', hreading, hsteps]
  have hmatches :
      Reading.Matches responder other r' ⟨t, b⟩ (requests responder r' script' ++ []) := by
    rw [List.append_nil, ← hasked]
    exact ⟨rfl, hanswers⟩
  rcases hmatches.runScript with ⟨hreport, hlast⟩
  rw [hreport, hlast.story_eq]
  rcases Prod.ext_iff.1 hrun with ⟨hresults, hstory⟩
  have hinfo : ((runScript responder r script).2.story.info ==
      (runScript responder r' script').2.story.info) = true := by
    rw [info_runScript, info_runScript]
    exact (Story.beq_iff.1 hst).1
  exact ⟨LawfulSpellOut.beq_iff.2 hresults,
    Story.beq_iff.2 ⟨hinfo, congrArg Reading.story hstory⟩⟩

/-- The scripts of sections run alike in stories that are the same. -/
theorem runSection_beq (responder : Responder σ) (other : Responder τ) (a : σ) (b : τ)
    {id id' : SectionId} (hid : (id == id') = true)
    (hanswers : ∀ sec, s.section? id = some sec →
      other.answers b (requests responder ⟨s, a⟩ sec.steps) =
        responder.answers a (requests responder ⟨s, a⟩ sec.steps)) :
    ((runSection responder ⟨s, a⟩ id).1 == (runSection other ⟨t, b⟩ id').1) = true ∧
      ((runSection responder ⟨s, a⟩ id).2.story ==
        (runSection other ⟨t, b⟩ id').2.story) = true := by
  have hsame : spellOut (s.section? id) = spellOut (t.section? id') := by
    rw [← s.section?_spellOut_id, ← t.section?_spellOut_id, LawfulSpellOut.beq_iff.1 hid,
      spellOut_option, spellOut_option, ← section?_spellOut, ← section?_spellOut,
      (Story.beq_iff.1 hst).2]
  cases hsec : s.section? id with
  | none =>
    rw [hsec] at hsame
    have hsec' : t.section? id' = none := Option.map_eq_none_iff.1 hsame.symm
    simp only [runSection, hsec, hsec']
    exact ⟨hid, hst⟩
  | some sec =>
    rw [hsec] at hsame
    rcases Option.map_eq_some_iff.1 hsame.symm with ⟨sec', hsec', hspelled⟩
    have hsteps : sec.steps.map spellOut = sec'.steps.map spellOut := by
      rw [← Section.steps_spellOut, ← Section.steps_spellOut, hspelled]
    simp only [runSection, hsec, hsec']
    exact runScript_beq hst responder other a b (LawfulSpellOut.beq_iff.2 hsteps)
      (hanswers sec hsec)

/-- Play goes on alike in stories that are the same. -/
theorem performEach_beq (responder : Responder σ) (other : Responder τ) (a : σ) (b : τ)
    (settings : Settings) (mode : Mode) {operations operations' : List Session.Operation}
    (hoperations : (operations == operations') = true)
    (hanswers : other.answers b
        (Session.askedEach responder ⟨s, settings, mode, a⟩ operations) =
      responder.answers a (Session.askedEach responder ⟨s, settings, mode, a⟩ operations)) :
    let run := Session.performEach responder ⟨s, settings, mode, a⟩ operations
    let run' := Session.performEach other ⟨t, settings, mode, b⟩ operations'
    (run.1 == run'.1) = true ∧ (run.2.story == run'.2.story) = true ∧
      run.2.mode = run'.2.mode ∧ (run.2.save == run'.2.save) = true := by
  intro run run'
  let before : Session σ := ⟨s, settings, mode, a⟩
  let before' : Session σ := ⟨t, settings, mode, a⟩
  have hbefore : spellOut before = spellOut before' :=
    congrArg (fun story => (⟨story, settings, mode, a⟩ : Session σ)) (Story.beq_iff.1 hst).2
  have hmoves := Session.Operation.map_spellOut_congr hoperations
  have hrun : spellOut run = spellOut (before'.performEach responder operations') := by
    rw [← Session.performEach_spellOut, ← Session.performEach_spellOut, hmoves]
    exact congrArg (Session.performEach responder · _) hbefore
  have hasked :
      before.askedEach responder operations = before'.askedEach responder operations' := by
    rw [← Session.askedEach_spellOut, ← Session.askedEach_spellOut responder before', hbefore,
      hmoves]
  -- the same one answers first, and is then replaced
  rcases before'.exists_performEach_answeredBy responder other b operations' (by rwa [← hasked])
    with ⟨next, hreplaced⟩
  have hrun' : run' = ((before'.performEach responder operations').1,
      (before'.performEach responder operations').2.answeredBy next) := hreplaced
  have hresults : spellOut run.1 = spellOut (before'.performEach responder operations').1 :=
    congrArg Prod.fst hrun
  have hafter : spellOut run.2 = spellOut (before'.performEach responder operations').2 :=
    congrArg Prod.snd hrun
  have hinfo := Session.info_performEach_beq (s := before) (t := before') responder responder
    (Story.beq_iff.1 hst).1 hoperations
  have hstory : (run.2.story == run'.2.story) = true := by
    rw [hrun']
    exact Story.beq_iff.2 ⟨hinfo, congrArg Session.story hafter⟩
  refine ⟨?_, hstory, ?_, SavedGame.capture_beq hstory⟩
  · rw [hrun']
    exact LawfulSpellOut.beq_iff.2 hresults
  · rw [hrun']
    exact (congrArg Session.mode hafter :)

theorem declareVariable_beq (name : String) :
    (s.declareVariable name == t.declareVariable name) = true := by
  have hdeclare (u : Story) :
      (spellOut u).declareVariable name = spellOut (u.declareVariable name) :=
    u.adjustProgress_spellOut (fun p => { p with vars := p.vars.declare name })
      (fun p => { p with vars := p.vars.declare name }) rfl
  refine Story.beq_iff.2 ⟨(Story.beq_iff.1 hst).1, ?_⟩
  rw [← hdeclare, ← hdeclare, (Story.beq_iff.1 hst).2]

/-- What is seen of stories that are the same is the same if the view commutes with spelling out. -/
theorem view_beq {α : Type} [BEq α] [SpellOut α] [LawfulSpellOut α] {f : Story → α}
    (hf : ∀ s, f (spellOut s) = spellOut (f s)) : (f s == f t) = true := by
  apply LawfulSpellOut.beq_iff.2
  rw [← hf, ← hf, (Story.beq_iff.1 hst).2]

/-- The flavour of names and parameters never matters: stories that are the same behave in the same
way. -/
theorem behaveAlike_of_beq : BehaveAlike s t where
  runScript responder other a b _ _ := runScript_beq hst responder other a b
  runSection responder other a b _ _ := runSection_beq hst responder other a b
  play responder other a b settings mode _ _ :=
    performEach_beq hst responder other a b settings mode
  addSection := addSection_beq hst
  addChoice hid htarget := addChoice_beq hst hid htarget
  removeSection := removeSection_beq hst
  removeChoice := removeChoice_beq hst
  setText := setText_beq hst
  setMedia := setMedia_beq hst
  clearMedia := clearMedia_beq hst
  declareVariable := declareVariable_beq hst
  roots := view_beq hst roots_spellOut
  leaves := view_beq hst leaves_spellOut
  isRoot {id id'} hid := by
    rw [← isRoot_spellOut, ← isRoot_spellOut t, (Story.beq_iff.1 hst).2,
      LawfulSpellOut.beq_iff.1 hid]
  isLeaf {id id'} hid := by
    rw [← isLeaf_spellOut, ← isLeaf_spellOut t, (Story.beq_iff.1 hst).2,
      LawfulSpellOut.beq_iff.1 hid]
  danglingChoices := view_beq hst danglingChoices_spellOut
  findRoute {start start' goal goal' waypoints waypoints'} hstart hgoal hwaypoints := by
    have hanswer : spellOut (s.findRoute start goal waypoints) =
        spellOut (t.findRoute start' goal' waypoints') := by
      rw [← findRoute_spellOut, ← findRoute_spellOut, (Story.beq_iff.1 hst).2,
        LawfulSpellOut.beq_iff.1 hstart, LawfulSpellOut.beq_iff.1 hgoal,
        LawfulSpellOut.beq_iff.1 hwaypoints]
    exact ⟨LawfulSpellOut.beq_iff.2 (congrArg Search.Answer.route hanswer),
      (congrArg Search.Answer.counts hanswer :)⟩

end

/-- A story of two sections, with names and parameters that are written in some way. -/
def ofSpelling (name : Nat → Scalar) : Story where
  info := { title := some "Cellar" }
  sections := .ofList
    [(name 1,
      { next := some [{ text := "Down", target := name 2 }]
        script := some [{ action := "ADD_CHOICE", parameters := [name 1, name 4] }] }),
     (name 2, {})]

/-- The story with integers behaves like the one with their decimal spellings. -/
theorem ofSpelling_behaveAlike :
    let s := ofSpelling fun n => .int (.ofNat n)
    let t := ofSpelling fun n => .text (toString n)
    (s == t) = true ∧ BehaveAlike s t :=
  have hst : (ofSpelling (fun n => .int (.ofNat n)) == ofSpelling fun n => .text (toString n)) =
      true := by
    decide +kernel
  ⟨hst, behaveAlike_of_beq hst⟩

end Story

end Gamebook
