import Gamebook.Proofs.Route.Machine
import Mathlib.Tactic.Common

/-!
# The loop of the search

A search goes round until it has an answer.  At the head of every round the route, the set of the
sections on it and the stack of frames belong together, and there are no endless rounds, whatever
cycles a story has: the choices that are left count for less the longer the route is that they hang
on, and a route has at most as many stops as there are sections.

Main results:

- Definition `Search.AtHead`: the states at the heads of the rounds.
- Definition `Search.EndsAfter`: the number of rounds up to the answer.
- Theorem `Search.AtHead.inStep`: the structures are in step at the head of every round.
- Theorem `Search.exists_endsAfter`: a search ends after fewer rounds than there is work.
- Theorem `Search.rounds_in_step`: both, for every search.
-/

namespace Gamebook

namespace Search

variable {story : Story} {q : Quest}

/-! ## The heads of the rounds -/

/-- A search that starts at a section comes to the head of a round in this state. -/
inductive AtHead (story : Story) (q : Quest) (id : SectionId) : State → Prop
  | first {s : State} (hstart : start story q id = .going s) : AtHead story q id s
  | next {s s' : State} (hs : AtHead story q id s) (hstep : step story q s = .going s') :
    AtHead story q id s'

/-- A search that does not end where it starts begins in step, with less work than the rounds that
it is allowed. -/
theorem inStep_of_start {id : SectionId} {s : State} (hstart : start story q id = .going s) :
    s.InStep story q ∧ work story s.frames < stepBound story := by
  rw [start] at hstart
  rcases harrive : arrive story q [id] {} with ⟨arrival, after⟩
  rw [harrive] at hstart
  cases arrival with
  | complete => cases hstart
  | fail => cases hstart
  | expand choices =>
    cases hstart
    exact inStep_first harrive

/-- A round that goes on is a step of the search. -/
theorem step_of_going {s s' : State} (hs : s.InStep story q)
    (hstep : step story q s = .going s') : Step story q s (.going s') := by
  rw [← hstep]
  exact takes_step hs

/-- At the head of every round the structures are in step. -/
theorem AtHead.inStep {id : SectionId} {s : State} (hhead : AtHead story q id s) :
    s.InStep story q := by
  induction hhead with
  | first hstart => exact (inStep_of_start hstart).1
  | next _ hstep ih => exact ih.step (step_of_going ih hstep)

/-! ## The number of rounds -/

/-- A search that has come so far gives its answer after some rounds. -/
inductive EndsAfter (story : Story) (q : Quest) : Nat → Status → Answer → Prop
  | done (answer : Answer) : EndsAfter story q 0 (.done answer) answer
  | round {rounds : Nat} {s : State} {answer : Answer}
    (hrest : EndsAfter story q rounds (step story q s) answer) :
    EndsAfter story q (rounds + 1) (.going s) answer

/-- A search that is in step ends, after no more rounds than it has work and one. -/
theorem exists_endsAfter {s : State} (hs : s.InStep story q) {bound : Nat}
    (hwork : work story s.frames < bound) :
    ∃ rounds answer, rounds ≤ bound ∧ EndsAfter story q rounds (.going s) answer := by
  induction bound generalizing s with
  | zero => cases hwork
  | succ bound ih =>
    cases hnext : step story q s with
    | done answer =>
      refine ⟨1, answer, Nat.succ_le_succ (Nat.zero_le bound), .round ?_⟩
      rw [hnext]
      exact .done answer
    | going s' =>
      have hstep := step_of_going hs hnext
      have hless := work_lt hs hstep
      obtain ⟨rounds, answer, hrounds, hends⟩ := ih (hs.step hstep) (by omega)
      refine ⟨rounds + 1, answer, Nat.succ_le_succ hrounds, .round ?_⟩
      rw [hnext]
      exact hends

/-- A search that is allowed as many rounds as it takes gives its answer. -/
theorem EndsAfter.run_eq {rounds bound : Nat} {status : Status} {answer : Answer}
    (hends : EndsAfter story q rounds status answer) (hbound : rounds ≤ bound) :
    run story q bound status = answer := by
  induction hends generalizing bound with
  | done answer => rw [run.eq_def]
  | round hrest ih =>
    cases bound with
    | zero => exact absurd hbound (Nat.not_succ_le_zero _)
    | succ bound => exact ih (Nat.le_of_succ_le_succ hbound)

/-! ## Every round -/

/-- The three structures of a search belong together. -/
structure State.Consistent (story : Story) (q : Quest) (s : State) : Prop where
  length_frames : s.frames.length = s.route.length
  /-- The set holds exactly the sections of the route. -/
  contains_onRoute : ∀ id, s.onRoute.contains id = s.route.contains id
  distinct : s.route.Pairwise fun a b => (a == b) = false
  /-- Each stop is a section with choices and not the goal, and its frame lists these choices, at a
  position that is not past their end. -/
  stops : ∀ (k : Nat) (id : SectionId), s.route[k]? = some id → (id == q.goal) = false ∧
    ∃ sec frame, story.section? id = some sec ∧ sec.choices ≠ [] ∧ s.frames[k]? = some frame ∧
      frame.choices = sec.choices ∧ frame.position ≤ sec.choices.length
  length_route : s.route.length ≤ story.sectionCount

/-- Structures that are in step belong together. -/
theorem State.InStep.consistent {s : State} (hs : s.InStep story q) : s.Consistent story q where
  length_frames := hs.frames.length_eq.symm
  contains_onRoute := by
    intro id
    rw [hs.onRoute_eq]
  distinct := hs.distinct
  stops := by
    intro k id hid
    obtain ⟨hk, rfl⟩ := List.getElem?_eq_some_iff.1 hid
    have hk' : k < s.frames.length := hs.frames.length_eq ▸ hk
    have hopen : Open story q s.route[k] s.frames[k] := hs.frames.get hk hk'
    obtain ⟨sec, hsec, hchoices⟩ := hopen.choices_eq
    refine ⟨hopen.off_goal, sec, s.frames[k], hsec, ?_, List.getElem?_eq_getElem hk',
      hchoices.symm, ?_⟩
    · rw [hchoices]
      exact hopen.choices_ne_nil
    · rw [hchoices]
      exact hopen.position_le
  length_route := hs.named.length_le_sectionCount

/-- At the head of every round of a search the route, the set and the stack of frames belong
together.  Every search ends after finitely many rounds, within those that it is allowed, so that
the answer is never one for lack of rounds. -/
theorem rounds_in_step (story : Story) (start goal : SectionId) (waypoints : List SectionId) :
    let q : Quest := { goal, waypoints }
    (∀ s, AtHead story q start s → s.Consistent story q) ∧
      ∃ rounds answer, rounds ≤ stepBound story ∧
        EndsAfter story q rounds (Search.start story q start) answer ∧
        story.findRoute start goal waypoints = answer := by
  intro q
  have hends : ∃ rounds answer, rounds ≤ stepBound story ∧
      EndsAfter story q rounds (Search.start story q start) answer := by
    cases hstart : Search.start story q start with
    | done answer => exact ⟨0, answer, Nat.zero_le _, .done answer⟩
    | going s =>
      obtain ⟨hs, hwork⟩ := inStep_of_start hstart
      exact exists_endsAfter hs hwork
  refine ⟨fun s hhead => hhead.inStep.consistent, ?_⟩
  obtain ⟨rounds, answer, hrounds, hends⟩ := hends
  exact ⟨rounds, answer, hrounds, hends, hends.run_eq hrounds⟩

/-- Two rooms that lead to each other and nowhere else. -/
def rooms : Story where
  sections := .ofList
    [(.int 1, { next := some [{ text := "On", target := .text "2" }] }),
     (.int 2, { next := some [{ text := "Back", target := .int 1 }] })]

/-- The search for a way out of the rooms has a second round, with both rooms on its route. -/
theorem rounds_in_step_rooms :
    ∃ s, AtHead rooms { goal := .int 3, waypoints := [] } (.int 1) s ∧ s.route.length = 2 ∧
      s.Consistent rooms { goal := .int 3, waypoints := [] } := by
  have hsecond : ∃ s, AtHead rooms { goal := .int 3, waypoints := [] } (.int 1) s ∧
      s.route.length = 2 := ⟨_, .next (.first rfl) rfl, rfl⟩
  rcases hsecond with ⟨s, hhead, hlength⟩
  exact ⟨s, hhead, hlength, (rounds_in_step rooms (.int 1) (.int 3) []).1 s hhead⟩

end Search

end Gamebook
