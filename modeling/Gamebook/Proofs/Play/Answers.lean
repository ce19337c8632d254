import Gamebook.Proofs.Play.Failures
import Gamebook.Proofs.Script.Variables

/-!
# Who answers

A script asks for values, and a move runs a script.  What a script or a move does depends on who
answers only through the answers to what is asked, so that two who give the same answers to that are
as good as each other, whatever else they would answer.

Main results:

- Theorem `runScript_matches`: a script that is given the same answers does the same.
- Definition `Session.Impersonal`: what does the same whoever gives the same answers.
- Theorem `Session.impersonal_perform`: every move does.
-/

namespace Gamebook

variable {σ τ : Type}

/-! ## Scripts -/

/-- The readings are of the same story, and these prompts will be given the same answers. -/
structure Reading.Matches (responder : Responder σ) (other : Responder τ) (r : Reading σ)
    (r' : Reading τ) (prompts : List (String × String)) : Prop where
  story_eq : r'.story = r.story
  answers_eq : other.answers r'.responder prompts = responder.answers r.responder prompts

section

variable {responder : Responder σ} {other : Responder τ} {r : Reading σ} {r' : Reading τ}
  {rest : List (String × String)}

/-- Edits do the same to the same story. -/
theorem Reading.Matches.edit (hr : Matches responder other r r' rest)
    (f : Story → Except StepError (Outcome × Story)) :
    (r'.edit f).1 = (r.edit f).1 ∧ Matches responder other (r.edit f).2 (r'.edit f).2 rest := by
  unfold Reading.edit
  rw [hr.story_eq]
  cases f r.story with
  | error e => exact ⟨rfl, hr⟩
  | ok edited => exact ⟨rfl, rfl, hr.answers_eq⟩

/-- An effect that is given the same answer does the same. -/
theorem Reading.Matches.run {e : Effect}
    (hr : Matches responder other r r' (e.request?.toList ++ rest)) :
    (e.run other r').1 = (e.run responder r).1 ∧
      Matches responder other (e.run responder r).2 (e.run other r').2 rest := by
  cases e with
  | idle outcome => exact ⟨rfl, hr⟩
  | assign name value => exact ⟨rfl, congrArg (·.setVariable name value) hr.story_eq, hr.answers_eq⟩
  | ask name prompt =>
    rcases List.cons.inj hr.answers_eq with ⟨hanswer, hrest⟩
    refine ⟨rfl, ?_, hrest⟩
    change r'.story.setVariable name _ = r.story.setVariable name _
    rw [hr.story_eq, hanswer]
  | offer target text => exact hr.edit (·.offerChoice target text)
  | withdraw target => exact hr.edit (·.withdrawChoice target)

/-- A step that is given the same answer does the same. -/
theorem Reading.Matches.runStep {e : Step}
    (hr : Matches responder other r r' ((e.effect r.story.vars).request?.toList ++ rest)) :
    (runStep other r' e).1 = (runStep responder r e).1 ∧
      Matches responder other (runStep responder r e).2 (runStep other r' e).2 rest := by
  unfold Gamebook.runStep
  unfold Step.effect at hr
  cases haction : Action.ofStep e with
  | error error =>
    rw [haction] at hr
    exact ⟨rfl, hr⟩
  | ok a =>
    rw [haction] at hr
    simp only [Action.execute_eq_run, hr.story_eq]
    exact hr.run

/-- A script that is given the same answers does the same. -/
theorem Reading.Matches.runScript {script : List Step}
    (hr : Matches responder other r r' (requests responder r script ++ rest)) :
    (runScript other r' script).1 = (runScript responder r script).1 ∧
      Matches responder other (runScript responder r script).2 (runScript other r' script).2
        rest := by
  induction script generalizing r r' with
  | nil => exact ⟨rfl, hr⟩
  | cons e steps ih =>
    rw [requests_cons, List.append_assoc] at hr
    rcases hr.runStep with ⟨hfirst, hnext⟩
    rcases ih hnext with ⟨hresults, hlast⟩
    refine ⟨?_, hlast⟩
    have hsteps := congrArg Report.results hresults
    exact congrArg Report.mk (congrArg₂ List.cons hfirst hsteps)

end

/-! ## Moves -/

namespace Session

/-- What is done with a session, whoever answers, is the same for all who give the same answers to
what is asked.  They then go on to give the same answers to the prompts that follow if they did so
after those. -/
structure Impersonal {α : Type} (s : Session σ)
    (f : (ρ : Type) → Responder ρ → Session ρ → α × Session ρ) : Prop where
  same {τ : Type} (responder : Responder σ) (other : Responder τ) (answerer : τ)
    (rest : List (String × String)) :
    let asked := (f _ responder.recording (s.answeredBy (s.responder, []))).2.responder.2
    other.answers answerer (asked ++ rest) = responder.answers s.responder (asked ++ rest) →
      ∃ next, f _ other (s.answeredBy answerer) =
          ((f _ responder s).1, (f _ responder s).2.answeredBy next) ∧
        other.answers next rest = responder.answers (f _ responder s).2.responder rest

section

variable {α β : Type} {s base : Session σ}
  {f : (ρ : Type) → Responder ρ → Session ρ → α × Session ρ}
  {g : (ρ : Type) → Responder ρ → Session ρ → β × Session ρ}

/-- What asks nothing is the same whoever answers. -/
theorem Impersonal.of_asks_nothing {a : α} (after : Session σ)
    (hf : ∀ {ρ : Type} (responder : Responder ρ) (b : ρ),
      f _ responder (s.answeredBy b) = (a, after.answeredBy b)) : s.Impersonal f := by
  constructor
  intro τ responder other answerer rest asked hanswers
  have hasked : asked = [] := congrArg (·.2.responder.2) (hf responder.recording _)
  have hs : f _ responder s = (a, after.answeredBy s.responder) := hf responder s.responder
  rw [hasked] at hanswers
  rw [hs]
  exact ⟨answerer, hf other answerer, hanswers⟩

/-- What is made of the result and of the story, when all has been asked, is the same where what was
done before is. -/
theorem Impersonal.of_run (hg : base.Impersonal g) (hresponder : base.responder = s.responder)
    (result : β → α) (story : β → Story → Story)
    (hf : ∀ {ρ : Type} (responder : Responder ρ) (b : ρ),
      f _ responder (s.answeredBy b) =
        (result (g _ responder (base.answeredBy b)).1,
          { (g _ responder (base.answeredBy b)).2 with
            story := story (g _ responder (base.answeredBy b)).1
              (g _ responder (base.answeredBy b)).2.story })) :
    s.Impersonal f := by
  rcases s with ⟨_, _, _, state⟩
  cases hresponder
  constructor
  intro τ responder other answerer rest asked hanswers
  have hasked : asked =
      (g _ responder.recording (base.answeredBy (base.responder, []))).2.responder.2 :=
    congrArg (·.2.responder.2) (hf responder.recording _)
  rw [hasked] at hanswers
  rcases hg.same responder other answerer rest hanswers with ⟨next, hrun, hrest⟩
  have hs := hf responder base.responder
  refine ⟨next, ?_, ?_⟩
  · rw [hf, hrun]
    exact (congrArg (fun run => (run.1, run.2.answeredBy next)) hs).symm
  · exact hrest.trans (congrArg (fun run => responder.answers run.2.responder rest) hs).symm

end

variable (s : Session σ)

/-- Entering a section is the same for all who give the same answers. -/
theorem impersonal_transition (id : SectionId) (remember : Bool) :
    s.Impersonal fun _ responder s => s.transition responder id remember := by
  cases hid : s.story.hasSection id with
  | false =>
    exact Impersonal.of_asks_nothing s fun responder b =>
      transition_of_not_hasSection responder (s := s.answeredBy b) hid remember
  | true =>
    constructor
    intro τ responder other answerer rest asked hanswers
    rcases Story.exists_section?_of_hasSection hid with ⟨sec, hsec⟩
    let r : Reading σ := ⟨s.moved id remember, s.responder⟩
    let r' : Reading τ := ⟨s.moved id remember, answerer⟩
    have hasked : asked = requests responder r sec.steps := by
      rcases transition_of_section? responder.recording
        (s := s.answeredBy (s.responder, ([] : List (String × String)))) hsec remember with
        ⟨_, _, _, hscript, -, hentered⟩
      have hlast := congrArg (·.2.responder.2) hscript
      exact (congrArg (·.2.responder.2) hentered).trans hlast.symm
    rw [hasked] at hanswers
    have hr : Reading.Matches responder other r r' (requests responder r sec.steps ++ rest) :=
      ⟨rfl, hanswers⟩
    rcases hr.runScript with ⟨hreport, hlast⟩
    rcases transition_of_section? responder hsec remember with
      ⟨report, reading, after, hscript, hafter, hentered⟩
    rcases transition_of_section? other (s := s.answeredBy answerer) hsec remember with
      ⟨report', reading', after', hscript', hafter', hentered'⟩
    change runScript responder r sec.steps = _ at hscript
    change runScript other r' sec.steps = _ at hscript'
    rw [hscript, hscript'] at hreport hlast
    rw [hlast.story_eq, hafter] at hafter'
    cases hreport
    cases hafter'
    rw [hlast.story_eq] at hentered'
    simp only [hentered]
    exact ⟨reading'.responder, hentered', hlast.answers_eq⟩

/-- Starting is the same for all who give the same answers. -/
theorem impersonal_start : s.Impersonal fun _ responder s => s.start responder := by
  cases hfirst : s.story.firstId with
  | none =>
    exact Impersonal.of_asks_nothing { s with mode := .menu } fun responder b =>
      start_of_firstId_eq_none responder (s := s.answeredBy b) hfirst
  | some first =>
    let current := (s.story.currentId.filter s.story.hasSection).getD first
    refine Impersonal.of_run (s.impersonal_transition current false) rfl (fun result => result)
      (fun _ story => story) fun responder b => ?_
    have hfirst' : (s.answeredBy b).story.firstId = some first := hfirst
    simp only [start, hfirst']
    rfl

/-- Going back is the same for all who give the same answers. -/
theorem impersonal_back : s.Impersonal fun _ responder s => s.back responder := by
  have hcurrent {ρ : Type} (b : ρ) : (s.answeredBy b).currentId = s.currentId := rfl
  have hpop {ρ : Type} (b : ρ) : (s.answeredBy b).story.progress.pop? = s.story.progress.pop? := rfl
  cases hplaying : s.currentId.isNone with
  | true =>
    refine Impersonal.of_asks_nothing (a := .error .notPlaying) s fun responder b => ?_
    simp only [back, hcurrent, hplaying, if_true]
  | false =>
    cases hhistory : s.story.progress.pop? with
    | none =>
      refine Impersonal.of_asks_nothing (a := .ok none) s fun responder b => ?_
      simp only [back, hcurrent, hplaying, hpop, hhistory, Bool.false_eq_true, if_false]
    | some popped =>
      rcases popped with ⟨id, progress⟩
      let base : Session σ := { s with story := { s.story with state := some progress } }
      refine Impersonal.of_run (base.impersonal_transition id false) rfl (·.map some)
        (fun result story => if result.isOk then story
          else story.adjustProgress fun p => { p with history := p.history ++ [id] })
        fun responder b => ?_
      simp only [back, hcurrent, hplaying, hpop, hhistory, Bool.false_eq_true, if_false]
      have hbase : ({ s.answeredBy b with
          story := { (s.answeredBy b).story with state := some progress } } : Session _) =
          base.answeredBy b := rfl
      rw [hbase]
      rcases (base.answeredBy b).transition responder id false with ⟨result, after⟩
      cases result <;> rfl

/-- Following a choice is the same for all who give the same answers. -/
theorem impersonal_choose (position : Nat) :
    s.Impersonal fun _ responder s => s.choose responder position := by
  have hcurrent {ρ : Type} (b : ρ) : (s.answeredBy b).currentSection = s.currentSection := rfl
  cases hsection : s.currentSection with
  | error e =>
    refine Impersonal.of_asks_nothing (a := .error e) s fun responder b => ?_
    simp only [choose, hcurrent, hsection]
  | ok current =>
    rcases current with ⟨id, sec⟩
    cases hc : sec.choices[position]? with
    | none =>
      refine Impersonal.of_asks_nothing (a := .error (.invalidChoice position sec.choices.length)) s
        fun responder b => ?_
      simp only [choose, hcurrent, hsection, hc]
    | some c =>
      refine Impersonal.of_run (s.impersonal_transition c.target true) rfl (fun result => result)
        (fun _ story => story) fun responder b => ?_
      simp only [choose, hcurrent, hsection, hc]
      rfl

/-- Following the only choice is the same for all who give the same answers. -/
theorem impersonal_forward : s.Impersonal fun _ responder s => s.forward responder := by
  have hcurrent {ρ : Type} (b : ρ) : (s.answeredBy b).currentSection = s.currentSection := rfl
  cases hsection : s.currentSection with
  | error e =>
    refine Impersonal.of_asks_nothing (a := .error e) s fun responder b => ?_
    simp only [forward, hcurrent, hsection]
  | ok current =>
    rcases current with ⟨id, sec⟩
    by_cases hone : sec.choices.length = 1
    · refine Impersonal.of_run (s.impersonal_choose 0) rfl (·.map some) (fun _ story => story)
        fun responder b => ?_
      simp only [forward, hcurrent, hsection, if_pos hone]
    · refine Impersonal.of_asks_nothing (a := .ok none) s fun responder b => ?_
      simp only [forward, hcurrent, hsection, if_neg hone]

/-- Restoring a saved game is the same for all who give the same answers. -/
theorem impersonal_restore (game : SavedGame) :
    s.Impersonal fun _ responder s => s.restore responder game := by
  have hstory {ρ : Type} (b : ρ) : (s.answeredBy b).story = s.story := rfl
  cases htitle : s.story.title with
  | none =>
    refine Impersonal.of_asks_nothing (a := .error .noStoryLoaded) s fun responder b => ?_
    simp only [restore, hstory, htitle]
  | some title =>
    by_cases hmatch : game.info.title = some title
    · let base : Session σ := { s with story := { s.story with state := some game.state } }
      refine Impersonal.of_run base.impersonal_start rfl (fun result => result)
        (fun result story => if result.isOk then story
          else { story with state := s.story.state })
        fun responder b => ?_
      simp only [restore, hstory, htitle, if_pos hmatch]
      have hbase : ({ s.answeredBy b with
          story := { s.story with state := some game.state } } : Session _) =
          base.answeredBy b := rfl
      rw [hbase]
      rcases (base.answeredBy b).start responder with ⟨result, after⟩
      cases result <;> rfl
    · refine Impersonal.of_asks_nothing
        (a := .error (.titleMismatch title (game.info.title.getD ""))) s fun responder b => ?_
      simp only [restore, hstory, htitle, if_neg hmatch]

/-- Every move is the same for all who give the same answers. -/
theorem impersonal_perform (operation : Operation) :
    s.Impersonal fun _ responder s => s.perform responder operation := by
  -- a move that always shows a scene only wraps it up
  have hshown {f : (ρ : Type) → Responder ρ → Session ρ → Except MoveError Scene × Session ρ}
      {base : Session σ} (hf : base.Impersonal f) (hbase : base.responder = s.responder) :
      ∀ g : (ρ : Type) → Responder ρ → Session ρ → Except MoveError (Option Scene) × Session ρ,
        (∀ {ρ : Type} (responder : Responder ρ) (b : ρ),
          g _ responder (s.answeredBy b) =
            perform.shown (f _ responder (base.answeredBy b))) → s.Impersonal g :=
    fun _ hg => hf.of_run hbase (·.map some) (fun _ story => story) hg
  cases operation with
  | start => exact hshown s.impersonal_start rfl _ fun _ _ => rfl
  | load story =>
    let base : Session σ := { s with story, mode := .menu }
    exact hshown base.impersonal_start rfl _ fun _ _ => rfl
  | enter id => exact hshown (s.impersonal_transition id true) rfl _ fun _ _ => rfl
  | back => exact s.impersonal_back
  | choose position => exact hshown (s.impersonal_choose position) rfl _ fun _ _ => rfl
  | forward => exact s.impersonal_forward
  | scene => exact Impersonal.of_asks_nothing (a := s.scene.map some) s fun _ _ => rfl
  | restore game => exact hshown (s.impersonal_restore game) rfl _ fun _ _ => rfl

/-! ## Many moves -/

/-- Makes moves one after the other; gives their results. -/
def performEach (responder : Responder σ) (s : Session σ) :
    List Operation → List (Except MoveError (Option Scene)) × Session σ
  | [] => ([], s)
  | operation :: rest =>
    let (result, s) := s.perform responder operation
    let (results, s) := performEach responder s rest
    (result :: results, s)

theorem performEach_cons (responder : Responder σ) (operation : Operation)
    (rest : List Operation) :
    s.performEach responder (operation :: rest) =
      let next := (s.perform responder operation).2
      ((s.perform responder operation).1 :: (next.performEach responder rest).1,
        (next.performEach responder rest).2) :=
  rfl

/-- What moves ask that are made one after the other. -/
def askedEach (responder : Responder σ) (s : Session σ) : List Operation → List (String × String)
  | [] => []
  | operation :: rest =>
    s.asked responder operation ++ askedEach responder (s.perform responder operation).2 rest

/-- Moves have the same results and lead to the same session for all who give the same answers. -/
theorem exists_performEach_answeredBy (responder : Responder σ) (other : Responder τ)
    (answerer : τ) (operations : List Operation)
    (hanswers : other.answers answerer (s.askedEach responder operations) =
      responder.answers s.responder (s.askedEach responder operations)) :
    ∃ next, (s.answeredBy answerer).performEach other operations =
      ((s.performEach responder operations).1,
        (s.performEach responder operations).2.answeredBy next) := by
  induction operations generalizing s answerer with
  | nil => exact ⟨answerer, rfl⟩
  | cons operation rest ih =>
    rcases (s.impersonal_perform operation).same responder other answerer _ hanswers with
      ⟨next, hfirst, hnext⟩
    rcases ih (s.perform responder operation).2 next hnext with ⟨last, hrest⟩
    refine ⟨last, ?_⟩
    simp only [performEach, hfirst, hrest]

end Session

end Gamebook
