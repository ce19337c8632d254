import Gamebook.Proofs.Route.Exploration
import Mathlib.Algebra.Group.Nat.Defs
import Mathlib.Data.List.Forall2

/-!
# The search as a machine

A search under way keeps three structures: the route, the set of the sections on it, and a frame of
choices for each of its sections.  This module says what one step does to them, shows that they stay
in step with each other, and that the machine answers what the recursive search answers, within the
number of steps that it is allowed.

Main results:

- Theorem `Search.takes_step`: the steps of the machine, case by case.
- Theorem `Search.State.InStep.step`: the three structures stay in step.
- Theorem `Search.work_lt`: every step leaves less work.
- Theorem `Search.run_start`: the machine gives the answer of the recursive search.
-/

namespace Gamebook

namespace Search

variable {story : Story} {q : Quest}

/-! ## Structures in step -/

/-- The frame of a section on the route lists its choices, of which there are some, and the section
is not the goal. -/
structure Open (story : Story) (q : Quest) (id : SectionId) (frame : Frame) : Prop where
  off_goal : (id == q.goal) = false
  position_le : frame.position ≤ frame.choices.length
  choices_ne_nil : frame.choices ≠ []
  choices_eq : ∃ sec, story.section? id = some sec ∧ sec.choices = frame.choices

/-- Trying a choice keeps the frame of a section. -/
theorem Open.advance {id : SectionId} {frame : Frame} {c : Choice}
    (hopen : Open story q id frame) (hc : frame.choices[frame.position]? = some c) :
    Open story q id frame.advance where
  off_goal := hopen.off_goal
  position_le := (List.getElem?_eq_some_iff.1 hc).1
  choices_ne_nil := hopen.choices_ne_nil
  choices_eq := hopen.choices_eq

/-- The set holds the sections of the route, which are pairwise different, and each of them has its
frame. -/
structure State.InStep (story : Story) (q : Quest) (s : State) : Prop where
  onRoute_eq : s.onRoute = s.route
  distinct : s.route.Pairwise fun a b => (a == b) = false
  frames : List.Forall₂ (Open story q) s.route s.frames

/-- The sections of the route exist. -/
theorem State.InStep.named {s : State} (hs : s.InStep story q) : Named story s.route where
  distinct := hs.distinct
  sections := by
    have hexists : List.Forall₂
        (fun id frame => (∃ sec, story.section? id = some sec) ∧ Open story q id frame)
        s.route s.frames :=
      hs.frames.imp fun id frame hopen =>
        ⟨hopen.choices_eq.imp fun _ hsec => hsec.1, hopen⟩
    exact ((List.forall₂_and_left _ _).1 hexists).1

/-! ## Steps -/

/-- What a step does, by the choice that is tried and by what comes of arriving at its target. -/
inductive Step (story : Story) (q : Quest) : State → Status → Prop
  | finish {route : List SectionId} {counts : SearchCounts} :
    Step story q ⟨route, route, [], counts⟩ (.done ⟨none, counts⟩)
  | leave {id : SectionId} {route : List SectionId} {frame : Frame} {frames : List Frame}
      {counts : SearchCounts} (hlast : frame.choices.length ≤ frame.position) :
    Step story q ⟨id :: route, id :: route, frame :: frames, counts⟩
      (.going ⟨route, route, frames, counts⟩)
  | skip {route : List SectionId} {frame : Frame} {frames : List Frame} {counts : SearchCounts}
      {c : Choice} (hc : frame.choices[frame.position]? = some c)
      (hon : route.contains c.target = true) :
    Step story q ⟨route, route, frame :: frames, counts⟩
      (.going ⟨route, route, frame.advance :: frames,
        { counts with cycleSkips := counts.cycleSkips + 1 }⟩)
  | complete {route : List SectionId} {frame : Frame} {frames : List Frame}
      {counts after : SearchCounts} {c : Choice} (hc : frame.choices[frame.position]? = some c)
      (hoff : route.contains c.target = false)
      (harrive : arrive story q (c.target :: route) counts = (.complete, after)) :
    Step story q ⟨route, route, frame :: frames, counts⟩
      (.done ⟨some (c.target :: route).reverse, after⟩)
  | expand {route : List SectionId} {frame : Frame} {frames : List Frame}
      {counts after : SearchCounts} {c : Choice} {choices : List Choice}
      (hc : frame.choices[frame.position]? = some c) (hoff : route.contains c.target = false)
      (harrive : arrive story q (c.target :: route) counts = (.expand choices, after)) :
    Step story q ⟨route, route, frame :: frames, counts⟩
      (.going ⟨c.target :: route, c.target :: route, ⟨choices, 0⟩ :: frame.advance :: frames,
        after⟩)
  | fail {route : List SectionId} {frame : Frame} {frames : List Frame}
      {counts after : SearchCounts} {c : Choice} (hc : frame.choices[frame.position]? = some c)
      (hoff : route.contains c.target = false)
      (harrive : arrive story q (c.target :: route) counts = (.fail, after)) :
    Step story q ⟨route, route, frame :: frames, counts⟩
      (.going ⟨route, route, frame.advance :: frames, after⟩)

/-- Leaving the last section of the route takes it out of the set. -/
theorem erase_cons_self (id : SectionId) (route : List SectionId) :
    (id :: route).erase id = route := by
  rw [List.erase_cons, if_pos BEq.rfl]

/-- Going on to a section off the route puts it in front of the set. -/
theorem insert_of_contains_eq_false {id : SectionId} {route : List SectionId}
    (hid : route.contains id = false) : route.insert id = id :: route := by
  rw [List.insert, if_neg]
  rw [hid]
  exact Bool.false_ne_true

/-- While the structures are in step, these are the steps of the search. -/
theorem takes_step {s : State} (hs : s.InStep story q) : Step story q s (step story q s) := by
  obtain ⟨route, onRoute, frames, counts⟩ := s
  obtain ⟨honRoute, -, hframes⟩ := hs
  simp only at honRoute hframes
  subst honRoute
  cases hframes with
  | nil => exact .finish
  | @cons id frame route frames hopen hframes =>
    cases hc : frame.choices[frame.position]? with
    | none =>
      have hleave : step story q ⟨id :: route, id :: route, frame :: frames, counts⟩ =
          .going ⟨route, route, frames, counts⟩ := by
        simp only [step, hc, State.leave, erase_cons_self, List.tail_cons]
      rw [hleave]
      exact .leave (List.getElem?_eq_none_iff.1 hc)
    | some c =>
      cases hon : (id :: route).contains c.target with
      | true =>
        have hskip : step story q ⟨id :: route, id :: route, frame :: frames, counts⟩ =
            .going ⟨id :: route, id :: route, frame.advance :: frames,
              { counts with cycleSkips := counts.cycleSkips + 1 }⟩ := by
          simp only [step, hc, hon, if_true]
        rw [hskip]
        exact .skip hc hon
      | false =>
        have henter : step story q ⟨id :: route, id :: route, frame :: frames, counts⟩ =
            State.enter story q ⟨id :: route, id :: route, frame.advance :: frames, counts⟩
              c.target := by
          simp only [step, hc, hon, Bool.false_eq_true, if_false]
        rw [henter, State.enter]
        rcases harrive : arrive story q (c.target :: id :: route) counts with ⟨arrival, after⟩
        cases arrival with
        | complete => exact .complete hc hon harrive
        | expand choices =>
          simp only [insert_of_contains_eq_false hon]
          exact .expand hc hon harrive
        | fail =>
          simp only [insert_of_contains_eq_false hon, erase_cons_self]
          exact .fail hc hon harrive

/-! ## Keeping in step -/

/-- The structures stay in step. -/
theorem State.InStep.step {s s' : State} (hs : s.InStep story q)
    (hstep : Step story q s (.going s')) : s'.InStep story q := by
  obtain ⟨-, hdistinct, hframes⟩ := hs
  cases hstep with
  | leave hlast =>
    cases hframes with
    | cons hopen hframes => exact ⟨rfl, (List.pairwise_cons.1 hdistinct).2, hframes⟩
  | skip hc hon =>
    cases hframes with
    | cons hopen hframes => exact ⟨rfl, hdistinct, .cons (hopen.advance hc) hframes⟩
  | fail hc hoff harrive =>
    cases hframes with
    | cons hopen hframes => exact ⟨rfl, hdistinct, .cons (hopen.advance hc) hframes⟩
  | expand hc hoff harrive =>
    obtain ⟨hgoal, -, hne, sec, hsec, hchoices⟩ := of_arrive_eq_expand harrive
    cases hframes with
    | cons hopen hframes =>
      refine ⟨rfl, List.pairwise_cons.2 ⟨contains_eq_false_iff.1 hoff, hdistinct⟩, ?_⟩
      exact .cons ⟨hgoal, Nat.zero_le _, hne, sec, hsec, hchoices⟩
        (.cons (hopen.advance hc) hframes)

/-! ## The same answer -/

/-- The answer of a search from a state of it, by recursion: the choices that are left are tried
section by section, those of the last section of the route first. -/
def resume (story : Story) (q : Quest) :
    List SectionId → List Frame → SearchCounts → Answer
  | _, [], counts => ⟨none, counts⟩
  | route, frame :: frames, counts =>
    (exploreChoices story q route (frame.choices.drop frame.position) counts).orElse
      (resume story q route.tail frames)

/-- The answer that a search comes to. -/
def Status.answer (story : Story) (q : Quest) : Status → Answer
  | .done answer => answer
  | .going s => resume story q s.route s.frames s.counts

/-- The choices that are left begin with the next one. -/
theorem drop_position {frame : Frame} {c : Choice}
    (hc : frame.choices[frame.position]? = some c) :
    frame.choices.drop frame.position = c :: frame.advance.choices.drop frame.advance.position := by
  obtain ⟨hlt, rfl⟩ := List.getElem?_eq_some_iff.1 hc
  exact List.drop_eq_getElem_cons hlt

/-- A step does not change the answer that the search comes to. -/
theorem Step.answer_eq {s : State} {next : Status} (hstep : Step story q s next) :
    next.answer story q = resume story q s.route s.frames s.counts := by
  cases hstep with
  | finish => rfl
  | leave hlast =>
    rw [resume, List.drop_eq_nil_of_le hlast, exploreChoices_nil]
    rfl
  | skip hc hon =>
    rw [resume, drop_position hc, exploreChoices_of_contains hon]
    rfl
  | complete hc hoff harrive =>
    rw [resume, drop_position hc, exploreChoices_of_not_contains hoff, explore_eq, harrive]
    rfl
  | fail hc hoff harrive =>
    rw [resume, drop_position hc, exploreChoices_of_not_contains hoff, explore_eq, harrive]
    rfl
  | expand hc hoff harrive =>
    rw [resume, drop_position hc, exploreChoices_of_not_contains hoff, explore_eq, harrive,
      Answer.orElse_assoc]
    rfl

/-! ## Less and less work -/

/-- The steps that one choice can give rise to in a frame with so many frames below it.  The more
frames there are, the shorter is what can still come. -/
def stage (story : Story) (below : Nat) : Nat :=
  (story.choiceCount + 2) ^ (story.sectionCount - below)

/-- The steps that frames can still take: those that come of the choices that are left, and one for
leaving each section. -/
def work (story : Story) : List Frame → Nat
  | [] => 0
  | frame :: below =>
    (frame.choices.length - frame.position) * stage story below.length + 1 + work story below

/-- A choice gives rise to a step at least. -/
theorem stage_pos (story : Story) (below : Nat) : 0 < stage story below :=
  Nat.pow_pos (by omega)

/-- A choice gives rise to more steps than all choices of a section one stage higher. -/
theorem mul_stage_lt {below choices : Nat} (hbelow : below < story.sectionCount)
    (hchoices : choices ≤ story.choiceCount) :
    choices * stage story (below + 1) + 1 < stage story below := by
  have hstage : stage story below = (story.choiceCount + 2) * stage story (below + 1) := by
    have hexponent : story.sectionCount - below = story.sectionCount - (below + 1) + 1 := by omega
    rw [stage, stage, hexponent, Nat.pow_succ, Nat.mul_comm]
  have hpos := stage_pos story (below + 1)
  have hmul := Nat.mul_le_mul_right (stage story (below + 1)) hchoices
  rw [hstage, Nat.add_mul]
  omega

/-- A section has no more choices than all sections together. -/
theorem length_choices_le {id : SectionId} {sec : Section} (hsec : story.section? id = some sec) :
    sec.choices.length ≤ story.choiceCount := by
  obtain ⟨k, hentry, -⟩ := Table.exists_mem_of_find? hsec
  have hmem : sec ∈ story.sections.values := List.mem_map_of_mem hentry
  rw [Story.choiceCount]
  generalize story.sections.values = values at hmem
  induction values with
  | nil => cases hmem
  | cons first rest ih =>
    rw [List.foldr_cons]
    rcases List.mem_cons.1 hmem with rfl | hrest
    · exact Nat.le_add_right _ _
    · exact Nat.le_add_left_of_le (ih hrest)

/-- Trying a choice takes its steps from the work of the frame. -/
theorem work_advance (story : Story) {frame : Frame} {c : Choice}
    (hc : frame.choices[frame.position]? = some c)
    (frames : List Frame) :
    work story (frame.advance :: frames) + stage story frames.length =
      work story (frame :: frames) := by
  obtain ⟨hlt, -⟩ := List.getElem?_eq_some_iff.1 hc
  have hleft : frame.choices.length - frame.position =
      frame.choices.length - (frame.position + 1) + 1 := by omega
  simp only [work, Frame.advance]
  rw [hleft, Nat.add_mul, Nat.one_mul]
  omega

/-- Every step leaves less work. -/
theorem work_lt {s s' : State} (hs : s.InStep story q) (hstep : Step story q s (.going s')) :
    work story s'.frames < work story s.frames := by
  cases hstep with
  | @leave id route frame frames counts hlast =>
    simp only [work]
    omega
  | @skip route frame frames counts c hc hon =>
    have hwork := work_advance story hc frames
    have hpos := stage_pos story frames.length
    simp only
    omega
  | @fail route frame frames counts after c hc hoff harrive =>
    have hwork := work_advance story hc frames
    have hpos := stage_pos story frames.length
    simp only
    omega
  | @expand route frame frames counts after c choices hc hoff harrive =>
    obtain ⟨-, -, -, sec, hsec, rfl⟩ := of_arrive_eq_expand harrive
    have hbelow : frames.length < story.sectionCount := by
      have hlength := hs.frames.length_eq
      have hle := hs.named.length_le_sectionCount
      simp only [List.length_cons] at hlength hle
      omega
    have hwork := work_advance story hc frames
    have hless := mul_stage_lt hbelow (length_choices_le hsec)
    have hnew : work story (⟨sec.choices, 0⟩ :: frame.advance :: frames) =
        sec.choices.length * stage story (frames.length + 1) + 1 +
          work story (frame.advance :: frames) := rfl
    simp only [hnew]
    omega

/-! ## Enough steps -/

/-- A search that is allowed more steps than there is work comes to its answer. -/
theorem run_going {bound : Nat} {s : State} (hs : s.InStep story q)
    (hwork : work story s.frames < bound) :
    run story q bound (.going s) = resume story q s.route s.frames s.counts := by
  induction bound generalizing s with
  | zero => cases hwork
  | succ bound ih =>
    have hstep := takes_step hs
    rw [run, ← hstep.answer_eq]
    cases hnext : Search.step story q s with
    | going s' =>
      rw [hnext] at hstep
      have hless := work_lt hs hstep
      exact ih (hs.step hstep) (by omega)
    | done answer =>
      cases bound with
      | zero => rfl
      | succ bound => rfl

/-- The work of a search at its first section is less than the steps that it is allowed. -/
theorem work_start_lt {id : SectionId} {sec : Section} (hsec : story.section? id = some sec) :
    work story [⟨sec.choices, 0⟩] < stepBound story := by
  have hwork : work story [⟨sec.choices, 0⟩] = sec.choices.length * stage story 0 + 1 := rfl
  have hbound : stepBound story =
      stage story 0 * (story.choiceCount + 2) * (story.choiceCount + 2) := by
    rw [stepBound, stage, Nat.pow_eq, ← Nat.pow_succ, ← Nat.pow_succ, Nat.sub_zero]
  have hpos := stage_pos story 0
  have hmul := Nat.mul_le_mul_right (stage story 0) (length_choices_le hsec)
  have hle : stage story 0 * (story.choiceCount + 2) * 1 ≤
      stage story 0 * (story.choiceCount + 2) * (story.choiceCount + 2) :=
    Nat.mul_le_mul_left _ (by omega)
  rw [hwork, hbound]
  refine Nat.lt_of_lt_of_le ?_ hle
  rw [Nat.mul_one, Nat.mul_add, Nat.mul_comm (stage story 0) story.choiceCount]
  omega

/-- A search begins with its structures in step, and with less work than the steps that it is
allowed. -/
theorem inStep_first {id : SectionId} {choices : List Choice} {after : SearchCounts}
    (harrive : arrive story q [id] {} = (.expand choices, after)) :
    State.InStep story q ⟨[id], [id], [⟨choices, 0⟩], after⟩ ∧
      work story [⟨choices, 0⟩] < stepBound story := by
  obtain ⟨hgoal, -, hne, sec, hsec, rfl⟩ := of_arrive_eq_expand harrive
  refine ⟨⟨rfl, List.pairwise_singleton _ _, ?_⟩, work_start_lt hsec⟩
  exact .cons ⟨hgoal, Nat.zero_le _, hne, sec, hsec, rfl⟩ .nil

/-- The machine gives the answer of the recursive search. -/
theorem run_start (story : Story) (q : Quest) (id : SectionId) :
    run story q (stepBound story) (start story q id) =
      explore story q [] id List.contains_nil {} := by
  rw [explore_eq, start]
  rcases harrive : arrive story q [id] {} with ⟨arrival, after⟩
  cases arrival with
  | complete => rw [run.eq_def]; rfl
  | fail => rw [run.eq_def]
  | expand choices =>
    obtain ⟨hs, hwork⟩ := inStep_first harrive
    simp only
    rw [run_going hs hwork, resume, List.drop_zero]
    exact Answer.orElse_fail _

end Search

end Gamebook
