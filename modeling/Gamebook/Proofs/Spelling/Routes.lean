import Gamebook.Proofs.Spelling.Values
import Gamebook.Route.Search

/-!
# Searching in one spelling

A search for a route looks at the names of sections only through comparisons, so it takes the same
steps however names are written.

Main results:

- Theorem `Search.step_spellOut`: one step of a search in one spelling.
- Theorem `Story.findRoute_spellOut`: the route and the counts of a whole search.
-/

namespace Gamebook

/-! ## Lists of names -/

namespace Scalar

variable (ids : List Scalar) (id : Scalar)

/-- A list holds a name in any spelling. -/
theorem contains_spellOut : (ids.map spellOut).contains (spellOut id) = ids.contains id := by
  induction ids with
  | nil => rfl
  | cons a rest ih =>
    rw [List.map_cons, List.contains_cons, List.contains_cons, ih, spellOut_beq_spellOut]

theorem erase_spellOut : (ids.map spellOut).erase (spellOut id) = (ids.erase id).map spellOut := by
  induction ids with
  | nil => rfl
  | cons a rest ih =>
    rw [List.map_cons, List.erase_cons, List.erase_cons]
    simp only [spellOut_beq_left, spellOut_beq_right, ih]
    split <;> rfl

theorem insert_spellOut :
    (ids.map spellOut).insert (spellOut id) = (ids.insert id).map spellOut := by
  unfold List.insert
  rw [contains_spellOut]
  split <;> rfl

end Scalar

/-! ## Counting -/

@[simp]
theorem Story.sectionCount_spellOut (s : Story) : (spellOut s).sectionCount = s.sectionCount := by
  simp [sectionCount, Table.size, sections_spellOut, Table.entries_spellOut]

@[simp]
theorem Story.choiceCount_spellOut (s : Story) : (spellOut s).choiceCount = s.choiceCount := by
  simp [choiceCount, sections_spellOut, List.foldr_map]

/-! ## Searching -/

instance : SpellOut Quest where
  spellOut q := { goal := spellOut q.goal, waypoints := spellOut q.waypoints }

@[simp]
theorem Quest.isMet_spellOut (q : Quest) (route : List SectionId) :
    (spellOut q).isMet (route.map spellOut) = q.isMet route := by
  change (q.waypoints.map spellOut).all (route.map spellOut).contains =
    q.waypoints.all route.contains
  rw [List.all_map]
  congr
  funext id
  exact Scalar.contains_spellOut route id

namespace Search

instance : SpellOut Frame where
  spellOut frame := { frame with choices := spellOut frame.choices }

instance : SpellOut State where
  spellOut s :=
    { route := spellOut s.route
      onRoute := spellOut s.onRoute
      frames := spellOut s.frames
      counts := s.counts }

instance : SpellOut Arrival where
  spellOut
    | .complete => .complete
    | .expand choices => .expand (spellOut choices)
    | .fail => .fail

instance : SpellOut Answer where
  spellOut answer := { answer with route := spellOut answer.route }

instance : SpellOut Status where
  spellOut
    | .going s => .going (spellOut s)
    | .done answer => .done (spellOut answer)

variable (story : Story) (q : Quest)

theorem arrive_spellOut (route : List SectionId) (counts : SearchCounts) :
    arrive (spellOut story) (spellOut q) (route.map spellOut) counts =
      (spellOut (arrive story q route counts).1, (arrive story q route counts).2) := by
  cases route with
  | nil => rfl
  | cons id rest =>
    have hgoal : (spellOut id == (spellOut q).goal) = (id == q.goal) :=
      Scalar.spellOut_beq_spellOut id q.goal
    have hmet := q.isMet_spellOut (id :: rest)
    rw [List.map_cons] at hmet
    simp only [arrive, List.map_cons, hgoal, hmet, Story.section?_spellOut,
      Story.section?_spellOut_id]
    split
    · split <;> rfl
    · cases story.section? id with
      | none => rfl
      | some sec =>
        simp only [Option.map_some, Section.isLeaf_spellOut, Section.choices_spellOut]
        split <;> rfl

theorem start_spellOut (id : SectionId) :
    start (spellOut story) (spellOut q) (spellOut id) = spellOut (start story q id) := by
  have harrive := arrive_spellOut story q [id] {}
  rw [List.map_singleton] at harrive
  rw [start, start, harrive]
  rcases arrive story q [id] {} with ⟨_ | _ | _, _⟩ <;> rfl

theorem leave_spellOut (s : State) : (spellOut s).leave = spellOut s.leave := by
  rcases s with ⟨_ | ⟨id, route⟩, onRoute, frames, counts⟩
  · cases frames <;> rfl
  · change (⟨route.map spellOut, (onRoute.map spellOut).erase (spellOut id),
      (frames.map spellOut).tail, counts⟩ : State) = ⟨route.map spellOut,
        (onRoute.erase id).map spellOut, frames.tail.map spellOut, counts⟩
    rw [Scalar.erase_spellOut, List.map_tail]

theorem enter_spellOut (s : State) (id : SectionId) :
    (spellOut s).enter (spellOut story) (spellOut q) (spellOut id) =
      spellOut (s.enter story q id) := by
  have harrive := arrive_spellOut story q (id :: s.route) s.counts
  have hcounts : (spellOut s).counts = s.counts := rfl
  have hroute : (spellOut s).route = s.route.map spellOut := rfl
  have honRoute : (spellOut s).onRoute = s.onRoute.map spellOut := rfl
  have hframes : (spellOut s).frames = s.frames.map spellOut := rfl
  simp only [State.enter, hroute, hcounts, honRoute, hframes, ← List.map_cons, harrive,
    Scalar.insert_spellOut, Scalar.erase_spellOut, ← List.map_reverse]
  rcases arrive story q (id :: s.route) s.counts with ⟨_ | _ | _, _⟩ <;> rfl

/-- A search takes the same steps in one spelling. -/
theorem step_spellOut (s : State) :
    step (spellOut story) (spellOut q) (spellOut s) = spellOut (step story q s) := by
  have hframes : (spellOut s).frames = s.frames.map spellOut := rfl
  rw [step, step, hframes]
  cases s.frames with
  | nil => rfl
  | cons frame rest =>
    have hchoices : (spellOut frame).choices = frame.choices.map spellOut := rfl
    have hposition : (spellOut frame).position = frame.position := rfl
    simp only [List.map_cons, hchoices, hposition, List.getElem?_map]
    cases frame.choices[frame.position]? with
    | none => exact congrArg Status.going (leave_spellOut s)
    | some c =>
      have honRoute : (spellOut s).onRoute.contains (spellOut c.target) =
          s.onRoute.contains c.target := Scalar.contains_spellOut s.onRoute c.target
      have htarget : (spellOut c).target = spellOut c.target := rfl
      simp only [Option.map_some, htarget, honRoute]
      split
      · rfl
      · exact enter_spellOut story q { s with frames := frame.advance :: rest } c.target

/-- A search has the same answer in one spelling. -/
theorem run_spellOut (bound : Nat) (status : Status) :
    run (spellOut story) (spellOut q) bound (spellOut status) =
      spellOut (run story q bound status) := by
  induction bound generalizing status with
  | zero => cases status <;> rfl
  | succ bound ih =>
    cases status with
    | done answer => rfl
    | going s => exact (congrArg (run _ _ bound) (step_spellOut story q s)).trans (ih _)

@[simp]
theorem stepBound_spellOut : stepBound (spellOut story) = stepBound story := by
  simp [stepBound]

end Search

/-- A whole search has the same route and the same counts in one spelling. -/
theorem Story.findRoute_spellOut (story : Story) (start goal : SectionId)
    (waypoints : List SectionId) :
    (spellOut story).findRoute (spellOut start) (spellOut goal) (spellOut waypoints) =
      spellOut (story.findRoute start goal waypoints) := by
  let q : Quest := { goal, waypoints }
  calc
    (spellOut story).findRoute (spellOut start) (spellOut goal) (spellOut waypoints) =
        Search.run (spellOut story) (spellOut q) (Search.stepBound (spellOut story))
          (Search.start (spellOut story) (spellOut q) (spellOut start)) := rfl
    _ = Search.run (spellOut story) (spellOut q) (Search.stepBound story)
          (spellOut (Search.start story q start)) := by
      rw [Search.stepBound_spellOut, Search.start_spellOut]
    _ = spellOut (story.findRoute start goal waypoints) := Search.run_spellOut story q _ _

end Gamebook
