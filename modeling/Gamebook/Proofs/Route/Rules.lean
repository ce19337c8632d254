import Gamebook.Proofs.Route.Machine

/-!
# The rules of the search

What the search does, written down as the rules of a recursion over sections and their choices.  The
rules fix the answer: the machine with its frames gives the one route and the one set of counts that
can be derived, whatever the same searcher has been asked before.

Main results:

- Definition `Search.Explores`: the rules.
- Theorem `Search.explores_explore`: the recursive search follows them.
- Theorem `Search.explores_visit_iff`: nothing else follows them.
- Theorem `Searcher.find_iff_explores`: the machine answers what the rules say.
-/

namespace Gamebook

namespace Search

/-! ## Rules -/

/-- What a recursive search is about to do. -/
inductive Task where
  /-- To arrive at a section. -/
  | visit (id : SectionId)
  /-- To try choices of the last section on the route, one after the other. -/
  | tryAll (choices : List Choice)

/-- The search on a route, whose last section is given first, with what has been counted before, has
this answer. -/
inductive Explores (story : Story) (q : Quest) :
    List SectionId → Task → SearchCounts → Answer → Prop
  | complete {route : List SectionId} {id : SectionId} {counts : SearchCounts}
      (hgoal : (id == q.goal) = true)
      (hmet : ∀ w ∈ q.waypoints, (id :: route).contains w = true) :
    Explores story q route (.visit id) counts ⟨some (id :: route).reverse, counts⟩
  | incomplete {route : List SectionId} {id w : SectionId} {counts : SearchCounts}
      (hgoal : (id == q.goal) = true) (hw : w ∈ q.waypoints)
      (hmissed : (id :: route).contains w = false) :
    Explores story q route (.visit id) counts ⟨none, counts⟩
  | missing {route : List SectionId} {id : SectionId} {counts : SearchCounts}
      (hgoal : (id == q.goal) = false) (hsec : story.section? id = none) :
    Explores story q route (.visit id) counts
      ⟨none, { counts with deadEnds := counts.deadEnds + 1 }⟩
  | leaf {route : List SectionId} {id : SectionId} {sec : Section} {counts : SearchCounts}
      (hgoal : (id == q.goal) = false) (hsec : story.section? id = some sec)
      (hleaf : sec.choices = []) :
    Explores story q route (.visit id) counts
      ⟨none, { counts with deadEnds := counts.deadEnds + 1 }⟩
  | expand {route : List SectionId} {id : SectionId} {sec : Section} {counts : SearchCounts}
      {answer : Answer} (hgoal : (id == q.goal) = false) (hsec : story.section? id = some sec)
      (hne : sec.choices ≠ [])
      (htry : Explores story q (id :: route) (.tryAll sec.choices)
        { counts with expanded := counts.expanded + 1 } answer) :
    Explores story q route (.visit id) counts answer
  | exhausted {route : List SectionId} {counts : SearchCounts} :
    Explores story q route (.tryAll []) counts ⟨none, counts⟩
  | skip {route : List SectionId} {c : Choice} {rest : List Choice} {counts : SearchCounts}
      {answer : Answer} (hon : route.contains c.target = true)
      (hrest : Explores story q route (.tryAll rest)
        { counts with cycleSkips := counts.cycleSkips + 1 } answer) :
    Explores story q route (.tryAll (c :: rest)) counts answer
  | succeed {route found : List SectionId} {c : Choice} {rest : List Choice}
      {counts after : SearchCounts} (hoff : route.contains c.target = false)
      (hvisit : Explores story q route (.visit c.target) counts ⟨some found, after⟩) :
    Explores story q route (.tryAll (c :: rest)) counts ⟨some found, after⟩
  | retry {route : List SectionId} {c : Choice} {rest : List Choice}
      {counts after : SearchCounts} {answer : Answer} (hoff : route.contains c.target = false)
      (hvisit : Explores story q route (.visit c.target) counts ⟨none, after⟩)
      (hrest : Explores story q route (.tryAll rest) after answer) :
    Explores story q route (.tryAll (c :: rest)) counts answer

variable {story : Story} {q : Quest}

/-! ## The recursive search follows the rules -/

/-- Arriving at a complete route follows the rules. -/
theorem explores_of_arrive_eq_complete {route : List SectionId} {id : SectionId}
    {counts after : SearchCounts}
    (harrive : arrive story q (id :: route) counts = (.complete, after)) :
    Explores story q route (.visit id) counts ⟨some (id :: route).reverse, after⟩ := by
  obtain ⟨hgoal, hmet⟩ := of_arrive_eq_complete harrive
  rw [arrive, if_pos hgoal] at harrive
  cases (Prod.mk.inj harrive).2
  exact .complete hgoal (List.all_eq_true.1 hmet)

/-- Arriving where nothing leads on follows the rules. -/
theorem explores_of_arrive_eq_fail {route : List SectionId} {id : SectionId}
    {counts after : SearchCounts}
    (harrive : arrive story q (id :: route) counts = (.fail, after)) :
    Explores story q route (.visit id) counts ⟨none, after⟩ := by
  obtain ⟨hincomplete, hleaf⟩ := of_arrive_eq_fail harrive
  rw [arrive] at harrive
  cases hgoal : id == q.goal with
  | true =>
    rw [if_pos hgoal] at harrive
    cases (Prod.mk.inj harrive).2
    obtain ⟨w, hw, hmissed⟩ := List.all_eq_false.1 (hincomplete hgoal)
    exact .incomplete hgoal hw (Bool.eq_false_iff.2 hmissed)
  | false =>
    rw [if_neg (Bool.eq_false_iff.1 hgoal)] at harrive
    cases hsec : story.section? id with
    | none =>
      rw [hsec] at harrive
      cases harrive
      exact .missing hgoal hsec
    | some sec =>
      have hnone := hleaf hgoal sec hsec
      have hisLeaf : sec.isLeaf = true := List.isEmpty_iff.2 hnone
      simp only [hsec, if_pos hisLeaf] at harrive
      cases harrive
      exact .leaf hgoal hsec hnone

/-- The recursive search follows the rules. -/
theorem explores_explore (story : Story) (q : Quest) (route : List SectionId) (id : SectionId)
    (hid : route.contains id = false) (counts : SearchCounts) :
    Explores story q route (.visit id) counts (explore story q route id hid counts) := by
  refine explore.induct story q
    (fun route id hid counts =>
      Explores story q route (.visit id) counts (explore story q route id hid counts))
    (fun route choices counts =>
      Explores story q route (.tryAll choices) counts
        (exploreChoices story q route choices counts))
    ?complete ?fail ?expand ?exhausted ?skip ?visit route id hid counts
  case complete =>
    intro route id hid counts after harrive
    rw [explore_eq, harrive]
    exact explores_of_arrive_eq_complete harrive
  case fail =>
    intro route id hid counts after harrive
    rw [explore_eq, harrive]
    exact explores_of_arrive_eq_fail harrive
  case expand =>
    intro route id hid counts choices after harrive _ ih
    obtain ⟨hgoal, rfl, hne, sec, hsec, rfl⟩ := of_arrive_eq_expand harrive
    rw [explore_eq, harrive]
    exact .expand hgoal hsec hne ih
  case exhausted =>
    intro route counts
    rw [exploreChoices_nil]
    exact .exhausted
  case skip =>
    intro route counts c rest hon ih
    rw [exploreChoices_of_contains hon]
    exact .skip hon ih
  case visit =>
    intro route counts c rest hon ih ihrest
    have hoff := Bool.eq_false_iff.2 hon
    rw [exploreChoices_of_not_contains hoff]
    rcases hanswer : explore story q route c.target hoff counts with ⟨_ | found, after⟩
    · rw [hanswer] at ih
      rw [Answer.orElse_none]
      exact .retry hoff ih (ihrest after)
    · rw [hanswer] at ih
      rw [Answer.orElse_some]
      exact .succeed hoff ih

/-! ## The rules fix the answer -/

/-- The answer of the recursive search to a task.  A section that is on the route is never visited,
and has no answer. -/
def IsAnswer (story : Story) (q : Quest) (route : List SectionId) (counts : SearchCounts)
    (answer : Answer) : Task → Prop
  | .visit id => ∀ hid : route.contains id = false, explore story q route id hid counts = answer
  | .tryAll choices => exploreChoices story q route choices counts = answer

/-- What follows the rules is the answer of the recursive search. -/
theorem Explores.isAnswer {route : List SectionId} {task : Task} {counts : SearchCounts}
    {answer : Answer} (hexplores : Explores story q route task counts answer) :
    IsAnswer story q route counts answer task := by
  induction hexplores with
  | complete hgoal hmet =>
    intro hid
    have hmet : q.isMet _ = true := List.all_eq_true.2 hmet
    rw [explore_eq, arrive, if_pos hgoal, if_pos hmet]
  | incomplete hgoal hw hmissed =>
    intro hid
    have hnot : q.isMet _ = false := List.all_eq_false.2 ⟨_, hw, Bool.eq_false_iff.1 hmissed⟩
    rw [explore_eq, arrive, if_pos hgoal, hnot]
    rfl
  | missing hgoal hsec =>
    intro hid
    rw [explore_eq, arrive, if_neg (Bool.eq_false_iff.1 hgoal), hsec]
  | leaf hgoal hsec hleaf =>
    intro hid
    rw [explore_eq, arrive, if_neg (Bool.eq_false_iff.1 hgoal), hsec]
    simp only [Section.isLeaf, hleaf, List.isEmpty_nil, if_true]
  | expand hgoal hsec hne htry ih =>
    intro hid
    rw [explore_eq, arrive, if_neg (Bool.eq_false_iff.1 hgoal), hsec]
    simp only [Section.isLeaf, List.isEmpty_iff, if_neg hne]
    exact ih
  | exhausted => exact exploreChoices_nil _ _
  | skip hon hrest ih => exact (exploreChoices_of_contains hon _ _).trans ih
  | succeed hoff hvisit ih =>
    refine (exploreChoices_of_not_contains hoff _ _).trans ?_
    rw [ih hoff, Answer.orElse_some]
  | retry hoff hvisit hrest ih ihrest =>
    refine (exploreChoices_of_not_contains hoff _ _).trans ?_
    rw [ih hoff, Answer.orElse_none]
    exact ihrest

/-- A search from a section off the route has exactly the answer of the recursive search. -/
theorem explores_visit_iff {route : List SectionId} {id : SectionId}
    (hid : route.contains id = false) {counts : SearchCounts} {answer : Answer} :
    Explores story q route (.visit id) counts answer ↔
      explore story q route id hid counts = answer := by
  constructor
  · intro hexplores
    exact hexplores.isAnswer hid
  · rintro rfl
    exact explores_explore story q route id hid counts

end Search

/-! ## One search after the other -/

namespace Searcher

/-- The searcher after searches for routes, each from its own start. -/
def after (s : Searcher) (searches : List (SectionId × Quest)) : Searcher :=
  searches.foldl (fun s (start, q) => (s.find start q.goal q.waypoints).2) s

/-- Searching leaves the story. -/
theorem story_after (s : Searcher) (searches : List (SectionId × Quest)) :
    (s.after searches).story = s.story := by
  induction searches generalizing s with
  | nil => rfl
  | cons first rest ih => exact ih _

/-- After any searches a search has the route, or none, and the counts that the rules of the
recursive search say, and the rules say no others. -/
theorem find_iff_explores (story : Story) (searches : List (SectionId × Quest)) (start : SectionId)
    (q : Quest) (route : Option (List SectionId)) (counts : SearchCounts) :
    let s : Searcher := Searcher.after { story } searches
    (s.find start q.goal q.waypoints = (route, { s with counts })) ↔
      Search.Explores story q [] (.visit start) {} ⟨route, counts⟩ := by
  intro s
  have hstory : s.story = story := story_after { story } searches
  have hrun : story.findRoute start q.goal q.waypoints =
      Search.explore story q [] start List.contains_nil {} :=
    Search.run_start story q start
  rw [Search.explores_visit_iff List.contains_nil, ← hrun, find, hstory]
  constructor
  · intro hfind
    obtain ⟨hroute, hcounts⟩ := Prod.mk.inj hfind
    cases hroute
    cases congrArg Searcher.counts hcounts
    rfl
  · intro hanswer
    rw [hanswer]

end Searcher

end Gamebook
