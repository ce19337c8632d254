import Gamebook.Proofs.Scalar
import Gamebook.Proofs.Table
import Gamebook.Route.Search

/-!
# The search as a recursion

The search keeps the sections of its route and their frames on a stack.  This module gives the same
search as a plain recursion over sections and their choices, in which the route so far is an
argument.  The recursion ends because every section that it enters leaves fewer sections off the
route.

Main results:

- Definition `Search.explore`: the recursive search from a section off the route.
- Theorem `Search.fresh_lt`: entering a section leaves fewer sections off the route.
- Theorem `Search.length_le_sectionCount`: a route has at most as many stops as there are sections.
-/

namespace Gamebook

/-! ## Sections under every spelling of their names -/

namespace Story

/-- The section with a name does not depend on how the name is written. -/
theorem section?_congr (story : Story) {a b : SectionId} (hab : (a == b) = true) :
    story.section? a = story.section? b :=
  Table.find?_congr _ (Std.LawfulBEqOrd.compare_eq_iff_beq.2 hab)

/-- A section stands under one of the names of the story. -/
theorem exists_mem_ids_of_section? {story : Story} {id : SectionId} {sec : Section}
    (hsec : story.section? id = some sec) : ∃ k ∈ story.ids, (id == k) = true := by
  rcases Table.exists_mem_of_find? hsec with ⟨k, hentry, hk⟩
  exact ⟨k, List.mem_map_of_mem hentry, Std.LawfulBEqOrd.compare_eq_iff_beq.1 hk⟩

end Story

/-- Whether a list of names holds a name does not depend on how the name is written. -/
theorem contains_congr {names : List SectionId} {a b : SectionId} (hab : (a == b) = true) :
    names.contains a = names.contains b := by
  induction names with
  | nil => rfl
  | cons name rest ih => rw [List.contains_cons, List.contains_cons, BEq.congr_left hab, ih]

namespace Search

/-! ## Sections off the route -/

/-- The number of sections of a story that are not on a route. -/
def fresh (story : Story) (route : List SectionId) : Nat :=
  story.ids.countP fun id => !route.contains id

/-- Entering a section that is not on the route leaves fewer sections off it. -/
theorem fresh_lt {story : Story} {route : List SectionId} {id : SectionId} {sec : Section}
    (hsec : story.section? id = some sec) (hid : route.contains id = false) :
    fresh story (id :: route) < fresh story route := by
  rcases story.exists_mem_ids_of_section? hsec with ⟨k, hk, hkid⟩
  -- the name under which the section stands is counted before and not after
  have hbefore : (!route.contains k) = true := by
    rw [← contains_congr hkid, hid]
    rfl
  have hafter : ¬(!(id :: route).contains k) = true := by
    rw [List.contains_cons, BEq.comm, hkid]
    simp
  have hle : ∀ names : List SectionId,
      (names.countP fun a => !(id :: route).contains a) ≤ names.countP fun a => !route.contains a :=
    fun names => List.countP_mono_left fun a _ ha => by
      rw [List.contains_cons, Bool.not_or, Bool.and_eq_true] at ha
      exact ha.2
  rcases List.append_of_mem hk with ⟨before, after, hsplit⟩
  rw [fresh, fresh, hsplit, List.countP_append, List.countP_append,
    List.countP_cons, List.countP_cons, if_neg hafter, if_pos hbefore]
  have hb := hle before
  have ha := hle after
  omega

/-- The names are pairwise different, and each is the name of a section. -/
structure Named (story : Story) (route : List SectionId) : Prop where
  distinct : route.Pairwise fun a b => (a == b) = false
  sections : ∀ id ∈ route, ∃ sec, story.section? id = some sec

/-- A list of pairwise different names that misses a name holds none that is the same. -/
theorem contains_eq_false_iff {route : List SectionId} {id : SectionId} :
    route.contains id = false ↔ ∀ a ∈ route, (id == a) = false := by
  rw [List.contains_eq_any_beq, List.any_eq_false]
  simp

/-- Each stop of a route takes one section from those off the route. -/
theorem Named.length_add_fresh_le {story : Story} {route : List SectionId}
    (hroute : Named story route) : route.length + fresh story route ≤ story.sectionCount := by
  induction route with
  | nil =>
    have hle : fresh story [] ≤ story.ids.length := List.countP_le_length
    simpa [Story.ids, Table.keys, Story.sectionCount, Table.size] using hle
  | cons id rest ih =>
    rcases List.pairwise_cons.1 hroute.distinct with ⟨hid, hrest⟩
    rcases hroute.sections id List.mem_cons_self with ⟨sec, hsec⟩
    have hlt := fresh_lt hsec (contains_eq_false_iff.2 hid)
    have hle := ih ⟨hrest, fun a ha => hroute.sections a (List.mem_cons_of_mem _ ha)⟩
    rw [List.length_cons]
    omega

/-- A route has at most as many stops as there are sections. -/
theorem Named.length_le_sectionCount {story : Story} {route : List SectionId}
    (hroute : Named story route) : route.length ≤ story.sectionCount := by
  have hle := hroute.length_add_fresh_le
  omega

/-! ## Arriving -/

/-- Choices are tried from a section that is not the goal, exists and has some. -/
theorem of_arrive_eq_expand {story : Story} {q : Quest} {id : SectionId}
    {route : List SectionId} {counts after : SearchCounts} {choices : List Choice}
    (harrive : arrive story q (id :: route) counts = (.expand choices, after)) :
    (id == q.goal) = false ∧ after = { counts with expanded := counts.expanded + 1 } ∧
      choices ≠ [] ∧ ∃ sec, story.section? id = some sec ∧ sec.choices = choices := by
  simp only [arrive] at harrive
  split at harrive
  · split at harrive <;> cases harrive
  · next hgoal =>
    split at harrive
    · cases harrive
    · next sec hsec =>
      split at harrive
      · cases harrive
      · next hleaf =>
        cases harrive
        refine ⟨by simpa using hgoal, rfl, ?_, sec, hsec, rfl⟩
        simpa [Section.isLeaf] using hleaf

/-- A route is complete at the goal, when it passes through all waypoints. -/
theorem of_arrive_eq_complete {story : Story} {q : Quest} {id : SectionId}
    {route : List SectionId} {counts after : SearchCounts}
    (harrive : arrive story q (id :: route) counts = (.complete, after)) :
    (id == q.goal) = true ∧ q.isMet (id :: route) = true := by
  simp only [arrive] at harrive
  split at harrive
  · next hgoal =>
    split at harrive
    · next hmet => exact ⟨hgoal, hmet⟩
    · cases harrive
  · split at harrive
    · cases harrive
    · split at harrive <;> cases harrive

/-- Nothing leads on from the goal of an incomplete route, from a missing section, and from one
without choices. -/
theorem of_arrive_eq_fail {story : Story} {q : Quest} {id : SectionId}
    {route : List SectionId} {counts after : SearchCounts}
    (harrive : arrive story q (id :: route) counts = (.fail, after)) :
    ((id == q.goal) = true → q.isMet (id :: route) = false) ∧
      ((id == q.goal) = false → ∀ sec, story.section? id = some sec → sec.choices = []) := by
  simp only [arrive] at harrive
  split at harrive
  · next hgoal =>
    refine ⟨fun _ => ?_, fun hnot => ?_⟩
    · split at harrive
      · cases harrive
      · next hmet => exact Bool.eq_false_iff.2 hmet
    · rw [hgoal] at hnot
      cases hnot
  · next hgoal =>
    refine ⟨fun hyes => absurd hyes hgoal, fun _ sec hsec => ?_⟩
    rw [hsec] at harrive
    simp only at harrive
    split at harrive
    · next hleaf => simpa [Section.isLeaf] using hleaf
    · cases harrive

/-! ## Recursion -/

/-- Goes on with the counts where an answer holds no route. -/
def Answer.orElse (answer : Answer) (next : SearchCounts → Answer) : Answer :=
  match answer with
  | ⟨some found, counts⟩ => ⟨some found, counts⟩
  | ⟨none, counts⟩ => next counts

@[simp]
theorem Answer.orElse_some (found : List SectionId) (counts : SearchCounts)
    (next : SearchCounts → Answer) :
    (⟨some found, counts⟩ : Answer).orElse next = ⟨some found, counts⟩ :=
  rfl

@[simp]
theorem Answer.orElse_none (counts : SearchCounts) (next : SearchCounts → Answer) :
    (⟨none, counts⟩ : Answer).orElse next = next counts :=
  rfl

/-- Going on twice is going on once with both. -/
theorem Answer.orElse_assoc (answer : Answer) (next last : SearchCounts → Answer) :
    (answer.orElse next).orElse last = answer.orElse fun counts => (next counts).orElse last := by
  rcases answer with ⟨_ | found, counts⟩
  · rfl
  · rfl

/-- Going on without trying anything changes nothing. -/
theorem Answer.orElse_fail (answer : Answer) :
    (answer.orElse fun counts => ⟨none, counts⟩) = answer := by
  rcases answer with ⟨_ | found, counts⟩
  · rfl
  · rfl

mutual

/-- Searches from a section that is not on the route. -/
def explore (story : Story) (q : Quest) (route : List SectionId) (id : SectionId)
    (hid : route.contains id = false) (counts : SearchCounts) : Answer :=
  match harrive : arrive story q (id :: route) counts with
  | (.complete, after) => ⟨some (id :: route).reverse, after⟩
  | (.fail, after) => ⟨none, after⟩
  | (.expand choices, after) =>
    have hless : fresh story (id :: route) < fresh story route := by
      rcases of_arrive_eq_expand harrive with ⟨-, -, -, sec, hsec, -⟩
      exact fresh_lt hsec hid
    exploreChoices story q (id :: route) choices after
termination_by (fresh story route, 0)
decreasing_by exact Prod.Lex.left _ _ hless

/-- Searches from the targets of choices, one after the other, until one of them leads to a complete
route.  The choices that lead back to the route are counted. -/
def exploreChoices (story : Story) (q : Quest) (route : List SectionId) (choices : List Choice)
    (counts : SearchCounts) : Answer :=
  match choices with
  | [] => ⟨none, counts⟩
  | c :: rest =>
    if hon : route.contains c.target then
      exploreChoices story q route rest { counts with cycleSkips := counts.cycleSkips + 1 }
    else
      (explore story q route c.target (Bool.eq_false_iff.2 hon) counts).orElse
        (exploreChoices story q route rest)
termination_by (fresh story route, choices.length)

end

variable {story : Story} {q : Quest}

/-- The search from a section depends on what comes of arriving there. -/
theorem explore_eq {route : List SectionId} {id : SectionId} (hid : route.contains id = false)
    (counts : SearchCounts) :
    explore story q route id hid counts =
      match arrive story q (id :: route) counts with
      | (.complete, after) => ⟨some (id :: route).reverse, after⟩
      | (.fail, after) => ⟨none, after⟩
      | (.expand choices, after) => exploreChoices story q (id :: route) choices after := by
  rw [explore]
  split <;> simp only [*]

/-- Without choices there is no route. -/
theorem exploreChoices_nil (route : List SectionId) (counts : SearchCounts) :
    exploreChoices story q route [] counts = ⟨none, counts⟩ := by
  rw [exploreChoices]

/-- A choice that leads back to the route is counted and skipped. -/
theorem exploreChoices_of_contains {route : List SectionId} {c : Choice}
    (hon : route.contains c.target = true) (choices : List Choice) (counts : SearchCounts) :
    exploreChoices story q route (c :: choices) counts =
      exploreChoices story q route choices
        { counts with cycleSkips := counts.cycleSkips + 1 } := by
  rw [exploreChoices, dif_pos hon]

/-- A choice that leads off the route is followed, and the others are tried after it. -/
theorem exploreChoices_of_not_contains {route : List SectionId} {c : Choice}
    (hoff : route.contains c.target = false) (choices : List Choice) (counts : SearchCounts) :
    exploreChoices story q route (c :: choices) counts =
      (explore story q route c.target hoff counts).orElse
        (exploreChoices story q route choices) := by
  rw [exploreChoices, dif_neg (Bool.eq_false_iff.1 hoff)]

end Search

end Gamebook
