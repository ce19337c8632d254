import Gamebook.Cli.Desk
import Gamebook.Cli.Player
import Gamebook.Proofs.Play.Moves

/-!
# Prompts at a desk

A move is made again with one answer more for every prompt that it meets, and no more often than
there are steps in the scripts of its story.  That is often enough: each step meets one prompt at
most, so a move with as many answers as the script has steps meets none that is left open.

Main results:

- Theorem `Answers.Suffices.runScript`: a script that is given an answer for each of its steps
  leaves no prompt open.
- Theorem `Game.open?_attempt`: nor does a move with as many answers as `Game.promptBound` says.
- Theorem `Game.exists_run_move`: so the lines that were typed answer all prompts of a move.
-/

namespace Gamebook

/-- A section has no more steps than all sections of its story. -/
theorem Story.length_steps_le_stepCount {s : Story} {id : SectionId} {sec : Section}
    (hsec : s.section? id = some sec) : sec.steps.length ≤ s.stepCount := by
  have hmem : sec ∈ s.sections.values := by
    rcases Table.exists_mem_of_find? hsec with ⟨key, hentry, -⟩
    exact List.mem_map.2 ⟨(key, sec), hentry, rfl⟩
  unfold stepCount
  generalize s.sections.values = sections at hmem
  induction sections with
  | nil => cases hmem
  | cons first rest ih =>
    rw [List.foldr_cons]
    rcases List.mem_cons.1 hmem with rfl | hrest
    · exact Nat.le_add_right _ _
    · exact Nat.le_trans (ih hrest) (Nat.le_add_left _ _)

namespace Cli

/-! ## Answers that suffice -/

/-- There are answers to a number of prompts, and no prompt has been left open. -/
structure Answers.Suffices (a : Answers) (n : Nat) : Prop where
  open?_eq : a.open? = none
  le_length : n ≤ a.given.length

namespace Answers.Suffices

variable {r : Reading Answers} {n : Nat}

/-- Whoever can answer more prompts can answer fewer. -/
theorem of_succ {a : Answers} (ha : a.Suffices (n + 1)) : a.Suffices n :=
  ⟨ha.open?_eq, Nat.le_of_succ_le ha.le_length⟩

/-- A prompt takes one answer. -/
theorem ask {a : Answers} (ha : a.Suffices (n + 1)) (name prompt : String) :
    (Answers.responder.ask name prompt a).2.Suffices n := by
  rcases a with ⟨given, open?⟩
  cases given with
  | nil => exact absurd ha.le_length (Nat.not_succ_le_zero n)
  | cons answer given => exact ⟨ha.open?_eq, Nat.le_of_succ_le_succ ha.le_length⟩

/-- An edit of the story takes none. -/
theorem edit (hr : r.responder.Suffices n) (f : Story → Except StepError (Outcome × Story)) :
    (r.edit f).2.responder.Suffices n := by
  unfold Reading.edit
  split <;> exact hr

/-- An effect takes one answer at most. -/
theorem run (hr : r.responder.Suffices (n + 1)) (e : Effect) :
    (e.run Answers.responder r).2.responder.Suffices n := by
  cases e with
  | idle outcome => exact hr.of_succ
  | assign name value => exact hr.of_succ
  | ask name prompt => exact hr.ask name prompt
  | offer target text => exact hr.of_succ.edit _
  | withdraw target => exact hr.of_succ.edit _

/-- A script that is given an answer for each of its steps leaves no prompt open. -/
theorem runScript {script : List Step} (hr : r.responder.Suffices script.length) :
    (runScript Answers.responder r script).2.responder.open? = none := by
  induction script generalizing r with
  | nil => exact hr.open?_eq
  | cons e rest ih =>
    have hnext : (runStep Answers.responder r e).2.responder.Suffices rest.length := by
      rw [runStep_snd]
      exact hr.run (e.effect r.story.vars)
    exact ih hnext

end Answers.Suffices

/-! ## Moves that are made again -/

namespace Game

variable {s : Session Answers} {operation : Session.Operation} {given : List (Option String)}

/-- A section is entered in a story with as many steps as the bound of the operation, and with the
same answers. -/
theorem stepCount_of_leads {base : Session Answers} {id : SectionId} {remember : Bool}
    (hleads : s.Leads operation base id remember) :
    base.story.stepCount = promptBound s operation ∧ base.responder = s.responder := by
  cases hleads <;> exact ⟨rfl, rfl⟩

/-- A move with as many answers as its bound leaves no prompt open. -/
theorem open?_attempt (hgiven : promptBound s operation ≤ given.length) :
    (attempt s operation given).2.responder.open? = none := by
  rcases hattempt : attempt s operation given with ⟨result, after⟩
  cases Session.performed_of_eq hattempt with
  | @enters base _ id remember scene hleads hentered hanswer htransition =>
    rcases stepCount_of_leads hleads with ⟨hcount, hresponder⟩
    rcases hentered.changes with ⟨sec, hsec, -⟩
    rcases Session.transition_of_section? Answers.responder hsec remember with
      ⟨report, reading, sec', hscript, -, hrun⟩
    rw [hrun] at htransition
    cases htransition
    have hsteps : sec.steps.length ≤ given.length :=
      Nat.le_trans (Story.length_steps_le_stepCount hsec) (hcount ▸ hgiven)
    have hsuffices : base.responder.Suffices sec.steps.length := by
      rw [hresponder]
      exact ⟨rfl, hsteps⟩
    have hclosed := hsuffices.runScript (r := ⟨base.moved id remember, base.responder⟩)
    rw [hscript] at hclosed
    exact hclosed
  | empties => rfl
  | stays => rfl

/-- The answers to the next prompts: a line of the input for each, and none where the input has
ended. -/
def typedAnswers (input : List String) (n : Nat) : List (Option String) :=
  (List.range n).map fun i => input[i]?.map withoutLineEnd

theorem typedAnswers_zero (input : List String) : typedAnswers input 0 = [] :=
  rfl

/-- The first prompt is answered by the first line. -/
theorem typedAnswers_succ (input : List String) (n : Nat) :
    typedAnswers input (n + 1) = input.head?.map withoutLineEnd :: typedAnswers input.tail n := by
  rw [typedAnswers, List.range_succ_eq_map, List.map_cons, List.map_map, List.head?_eq_getElem?]
  congr 1
  apply List.map_congr_left
  intro i _
  rw [Function.comp_apply, List.getElem?_tail]

/-- A move that is made again as often as its bound allows is made with one line more for every
prompt that was shown, and no prompt of it is left open. -/
theorem exists_run_converse {bound : Nat}
    (hbound : promptBound s operation ≤ given.length + bound) (d : Desk) :
    ∃ n d', let answers := given ++ typedAnswers d.input n
      (converse s operation bound given : StateM Desk _).run d = (attempt s operation answers, d') ∧
        d'.input = d.input.drop n ∧ (attempt s operation answers).2.responder.open? = none := by
  induction bound generalizing given d with
  | zero =>
    refine ⟨0, d, ?_⟩
    rw [typedAnswers_zero, List.append_nil]
    exact ⟨rfl, rfl, open?_attempt hbound⟩
  | succ bound ih =>
    unfold converse
    cases hopen : (attempt s operation given).2.responder.open? with
    | none =>
      refine ⟨0, d, ?_⟩
      rw [typedAnswers_zero, List.append_nil]
      simp only [hopen]
      exact ⟨rfl, rfl, trivial⟩
    | some prompt =>
      simp only [hopen]
      have hmore : promptBound s operation ≤
          (given ++ [d.input.head?.map withoutLineEnd]).length + bound := by
        rw [List.length_append, List.length_singleton]
        omega
      rcases ih hmore { d with input := d.input.tail, output := d.output ++ s!"{prompt} " } with
        ⟨n, d', hrun, hinput, hclosed⟩
      refine ⟨n + 1, d', ?_⟩
      rw [typedAnswers_succ, List.append_cons]
      refine ⟨hrun, ?_, hclosed⟩
      rw [hinput, List.drop_tail]

/-- A move with its prompts is the one that is made with the lines that were typed at them, and no
prompt of it is left open. -/
theorem exists_run_move (s : Session Answers) (operation : Session.Operation) (d : Desk) :
    ∃ n d', let answers := typedAnswers d.input n
      (move s operation : StateM Desk _).run d = (attempt s operation answers, d') ∧
        d'.input = d.input.drop n ∧ (attempt s operation answers).2.responder.open? = none := by
  have hbound : promptBound s operation ≤
      ([] : List (Option String)).length + promptBound s operation :=
    Nat.le_add_left _ _
  exact exists_run_converse hbound d

/-- A program that may fail makes a move again and again in the same way. -/
theorem run_converse_lift (s : Session Answers) (operation : Session.Operation) (bound : Nat)
    (given : List (Option String)) (d : Desk) :
    (converse s operation bound given : ExceptT String (StateM Desk) _).run.run d =
      (.ok ((converse s operation bound given : StateM Desk _).run d).1,
        ((converse s operation bound given : StateM Desk _).run d).2) := by
  induction bound generalizing given d with
  | zero => rfl
  | succ bound ih =>
    unfold converse
    cases hopen : (attempt s operation given).2.responder.open? with
    | none =>
      simp only [hopen]
      rfl
    | some prompt =>
      simp only [hopen]
      exact ih _ _

/-- A program that may fail makes a move in the same way. -/
theorem run_move_lift (s : Session Answers) (operation : Session.Operation) (d : Desk) :
    (move s operation : ExceptT String (StateM Desk) _).run.run d =
      (.ok ((move s operation : StateM Desk _).run d).1,
        ((move s operation : StateM Desk _).run d).2) :=
  run_converse_lift s operation (promptBound s operation) [] d

end Game

end Cli

end Gamebook
