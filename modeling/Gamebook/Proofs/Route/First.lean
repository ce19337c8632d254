import Gamebook.Proofs.Route.Machine
import Mathlib.Data.List.Chain

/-!
# The first route

What the search is for: a route that begins and ends where it should, passes through all waypoints,
follows choices and meets no section twice.  Of all such routes the search gives the one that comes
first when routes are compared stop by stop, by the positions of the choices that they follow.

Main results:

- Definition `Story.Qualifies`: the routes that are looked for.
- Definition `Story.Precedes`: the order in which they are looked for.
- Theorem `Search.isFirst_explore`: the recursive search gives the first completion of its route.
- Theorem `Story.findRoute_first`: the search gives the first route that qualifies.
-/

namespace Gamebook

namespace Story

variable {story : Story}

/-! ## Routes that qualify -/

/-- A section has a choice whose target is another one. -/
def LeadsTo (story : Story) (a b : SectionId) : Prop :=
  ∃ sec, story.section? a = some sec ∧ ∃ c ∈ sec.choices, (c.target == b) = true

/-- A route that is looked for. -/
structure Qualifies (story : Story) (start goal : SectionId) (waypoints route : List SectionId) :
    Prop where
  starts : ∃ first, route.head? = some first ∧ (first == start) = true
  ends : ∃ last, route.getLast? = some last ∧ (last == goal) = true
  distinct : route.Pairwise fun a b => (a == b) = false
  passes : ∀ w ∈ waypoints, route.contains w = true
  follows : route.IsChain story.LeadsTo

/-! ## The order of routes -/

/-- The position of the first choice of a section whose target is another one. -/
def choicePosition (story : Story) (a b : SectionId) : Nat :=
  match story.section? a with
  | none => 0
  | some sec => sec.choices.findIdx fun c => c.target == b

/-- A route precedes another one where, from the last section that they share at their beginning, it
goes on by an earlier choice. -/
inductive Precedes (story : Story) : List SectionId → List SectionId → Prop
  | here {a a' b b' : SectionId} {p p' : List SectionId} (hshared : (a == a') = true)
      (hdiffer : (b == b') = false)
      (hearlier : story.choicePosition a b < story.choicePosition a b') :
    Precedes story (a :: b :: p) (a' :: b' :: p')
  | later {a a' : SectionId} {p p' : List SectionId} (hshared : (a == a') = true)
      (hprecedes : Precedes story p p') :
    Precedes story (a :: p) (a' :: p')

/-- The position of a choice does not depend on how the section is written. -/
theorem choicePosition_congr {a a' : SectionId} (haa' : (a == a') = true) (b : SectionId) :
    story.choicePosition a b = story.choicePosition a' b := by
  rw [choicePosition, choicePosition, story.section?_congr haa']

/-- Routes that are the same do not precede each other. -/
theorem Precedes.not_beq {p p' : List SectionId} (hprecedes : story.Precedes p p') :
    (p == p') = false := by
  induction hprecedes with
  | here hshared hdiffer hearlier => simp [hdiffer]
  | later hshared hprecedes ih => simp [ih]

/-- Of two routes at most one precedes the other. -/
theorem Precedes.asymm {p p' : List SectionId} (hprecedes : story.Precedes p p') :
    ¬story.Precedes p' p := by
  induction hprecedes with
  | @here a a' b b' p p' hshared hdiffer hearlier =>
    intro hback
    cases hback with
    | here hshared' hdiffer' hearlier' =>
      rw [choicePosition_congr hshared', choicePosition_congr hshared'] at hearlier'
      omega
    | later hshared' hback =>
      have hbb' : (b' == b) = true := by
        cases hback with
        | here hshared _ _ => exact hshared
        | later hshared _ => exact hshared
      rw [BEq.comm, hbb'] at hdiffer
      cases hdiffer
  | @later a a' p p' hshared hprecedes ih =>
    intro hback
    cases hback with
    | @here _ _ b' b p' p hshared' hdiffer' hearlier' =>
      have hbb' : (b == b') = true := by
        cases hprecedes with
        | here hshared _ _ => exact hshared
        | later hshared _ => exact hshared
      rw [BEq.comm, hbb'] at hdiffer'
      cases hdiffer'
    | later _ hback => exact ih hback

end Story

namespace Search

variable {story : Story} {q : Quest}

/-! ## Completing a route -/

/-- The stops complete the route, whose last section is given first. -/
inductive Completes (story : Story) (q : Quest) : List SectionId → List SectionId → Prop
  | goal {route : List SectionId} {id : SectionId} (hoff : route.contains id = false)
      (hgoal : (id == q.goal) = true) (hmet : q.isMet (id :: route) = true) :
    Completes story q route [id]
  | onward {route : List SectionId} {id next : SectionId} {rest : List SectionId}
      (hoff : route.contains id = false) (hgoal : (id == q.goal) = false)
      (hleads : story.LeadsTo id next) (hrest : Completes story q (id :: route) (next :: rest)) :
    Completes story q route (id :: next :: rest)

/-- What completes a route begins off it. -/
theorem Completes.off {route : List SectionId} {id : SectionId} {rest : List SectionId}
    (hcompletes : Completes story q route (id :: rest)) : route.contains id = false := by
  cases hcompletes with
  | goal hoff _ _ => exact hoff
  | onward hoff _ _ _ => exact hoff

/-- What completes a route is a matter of the sections that are on it. -/
theorem Completes.congr {route stops : List SectionId}
    (hcompletes : Completes story q route stops) :
    ∀ {route' : List SectionId}, (∀ a, route.contains a = route'.contains a) →
      Completes story q route' stops := by
  induction hcompletes with
  | @goal route id hoff hgoal hmet =>
    intro route' hsame
    refine .goal (by rw [← hsame, hoff]) hgoal ?_
    have hcons : (id :: route').contains = (id :: route).contains := by
      funext a
      rw [List.contains_cons, List.contains_cons, hsame]
    rw [Quest.isMet, hcons]
    exact hmet
  | onward hoff hgoal hleads hrest ih =>
    intro route' hsame
    refine .onward (by rw [← hsame, hoff]) hgoal hleads (ih fun a => ?_)
    rw [List.contains_cons, List.contains_cons, hsame]

/-- Where the stops end, what they pass through, what they follow, and that they meet no section
twice. -/
structure Suits (story : Story) (q : Quest) (route stops : List SectionId) : Prop where
  ends : ∃ last, stops.getLast? = some last ∧ (last == q.goal) = true
  distinct : stops.Pairwise fun a b => (a == b) = false
  off : ∀ a ∈ stops, route.contains a = false
  passes : ∀ w ∈ q.waypoints, (route.contains w || stops.contains w) = true
  follows : stops.IsChain story.LeadsTo

/-- A stop counts the same on the route and among the stops that follow. -/
theorem contains_or_cons (route stops : List SectionId) (id w : SectionId) :
    (route.contains w || (id :: stops).contains w) =
      ((id :: route).contains w || stops.contains w) := by
  rw [List.contains_cons, List.contains_cons, Bool.or_left_comm, Bool.or_assoc]

/-- What completes a route suits it. -/
theorem Completes.suits {route stops : List SectionId}
    (hcompletes : Completes story q route stops) : Suits story q route stops := by
  induction hcompletes with
  | @goal route id hoff hgoal hmet =>
    refine ⟨⟨id, rfl, hgoal⟩, List.pairwise_singleton _ _, ?_, fun w hw => ?_, .singleton id⟩
    · intro a ha
      rw [List.mem_singleton.1 ha]
      exact hoff
    · have hw' := List.all_eq_true.1 hmet w hw
      rw [contains_or_cons, hw', Bool.true_or]
  | @onward route id next rest hoff hgoal hleads hrest ih =>
    have hapart : ∀ a ∈ next :: rest, (a == id) = false ∧ route.contains a = false :=
      fun a ha => by simpa using ih.off a ha
    refine ⟨?_, List.pairwise_cons.2 ⟨fun a ha => ?_, ih.distinct⟩, fun a ha => ?_,
      fun w hw => ?_, List.isChain_cons_cons.2 ⟨hleads, ih.follows⟩⟩
    · rw [List.getLast?_cons_cons]
      exact ih.ends
    · rw [BEq.comm]
      exact (hapart a ha).1
    · rcases List.mem_cons.1 ha with rfl | ha
      · exact hoff
      · exact (hapart a ha).2
    · rw [contains_or_cons]
      exact ih.passes w hw

/-- Stops that suit a route complete it. -/
theorem Suits.completes {route stops : List SectionId} (hsuits : Suits story q route stops) :
    Completes story q route stops := by
  induction stops generalizing route with
  | nil =>
    rcases hsuits.ends with ⟨last, hlast, -⟩
    cases hlast
  | cons id stops ih =>
    have hoff := hsuits.off id List.mem_cons_self
    rcases List.pairwise_cons.1 hsuits.distinct with ⟨hapart, hdistinct⟩
    rcases hsuits.ends with ⟨last, hlast, hgoal⟩
    cases stops with
    | nil =>
      cases hlast
      apply Completes.goal hoff hgoal
      apply List.all_eq_true.2
      intro w hw
      have hpasses := hsuits.passes w hw
      rwa [contains_or_cons, List.contains_nil, Bool.or_false] at hpasses
    | cons next rest =>
      rcases List.isChain_cons_cons.1 hsuits.follows with ⟨hleads, hfollows⟩
      rw [List.getLast?_cons_cons] at hlast
      -- the goal comes last, and the section is not the last one
      have hnot : (id == q.goal) = false := by
        rw [← BEq.congr_right hgoal]
        exact hapart last (List.mem_of_getLast? hlast)
      refine .onward hoff hnot hleads (ih ⟨⟨last, hlast, hgoal⟩, hdistinct, fun a ha => ?_,
        fun w hw => ?_, hfollows⟩)
      · rw [List.contains_cons, BEq.comm, hapart a ha, hsuits.off a (List.mem_cons_of_mem _ ha)]
        rfl
      · rw [← contains_or_cons]
        exact hsuits.passes w hw

/-- A route qualifies where it begins at the start and completes the route without stops. -/
theorem qualifies_iff {start : SectionId} {route : List SectionId} :
    story.Qualifies start q.goal q.waypoints route ↔
      ∃ id rest, route = id :: rest ∧ (start == id) = true ∧ Completes story q [] (id :: rest) := by
  constructor
  · intro hqualifies
    rcases hqualifies.starts with ⟨id, hid, hstart⟩
    rcases List.head?_eq_some_iff.1 hid with ⟨rest, rfl⟩
    refine ⟨id, rest, rfl, BEq.symm hstart, Suits.completes ?_⟩
    exact ⟨hqualifies.ends, hqualifies.distinct, fun _ _ => List.contains_nil,
      fun w hw => by rw [hqualifies.passes w hw, Bool.or_true], hqualifies.follows⟩
  · rintro ⟨id, rest, rfl, hstart, hcompletes⟩
    have hsuits := hcompletes.suits
    refine ⟨⟨id, rfl, BEq.symm hstart⟩, hsuits.ends, hsuits.distinct, fun w hw => ?_,
      hsuits.follows⟩
    have hpasses := hsuits.passes w hw
    rwa [List.contains_nil, Bool.false_or] at hpasses

/-! ## The first completion -/

/-- The answer is the first completion of a route that goes on to a section, or there is none. -/
def IsFirst (story : Story) (q : Quest) (route : List SectionId) (id : SectionId) :
    Option (List SectionId) → Prop
  | none => ∀ id' rest, (id == id') = true → ¬Completes story q route (id' :: rest)
  | some found =>
    ∃ rest, found = route.reverse ++ id :: rest ∧ Completes story q route (id :: rest) ∧
      ∀ id' other, (id == id') = true → Completes story q route (id' :: other) →
        ((id' :: other) == (id :: rest)) = true ∨ story.Precedes (id :: rest) (id' :: other)

/-- None of the choices leads to a completion of the route. -/
def Blocked (story : Story) (q : Quest) (route : List SectionId) (choices : List Choice) : Prop :=
  ∀ c ∈ choices, ∀ next rest, (c.target == next) = true → ¬Completes story q route (next :: rest)

/-- The answer is the first completion of a route by the first choice that leads to one, or there
is none. -/
def IsFirstOf (story : Story) (q : Quest) (route : List SectionId) (choices : List Choice) :
    Option (List SectionId) → Prop
  | none => Blocked story q route choices
  | some found =>
    ∃ before c after, choices = before ++ c :: after ∧ Blocked story q route before ∧
      IsFirst story q route c.target (some found)

/-- No completion goes through a choice that leads back to the route. -/
theorem blocked_of_contains {route : List SectionId} {c : Choice}
    (hon : route.contains c.target = true) : Blocked story q route [c] := by
  intro c' hc' next rest hnext hcompletes
  rw [List.mem_singleton.1 hc'] at hnext
  have hoff := hcompletes.off
  rw [← contains_congr hnext, hon] at hoff
  cases hoff

/-- Choices before the others that lead nowhere do not change the answer. -/
theorem IsFirstOf.cons {route : List SectionId} {c : Choice} {choices : List Choice}
    {answer : Option (List SectionId)} (hblocked : Blocked story q route [c])
    (hfirst : IsFirstOf story q route choices answer) :
    IsFirstOf story q route (c :: choices) answer := by
  have hcons : ∀ {tried : List Choice}, Blocked story q route tried →
      Blocked story q route (c :: tried) := by
    intro tried htried d hd
    rcases List.mem_cons.1 hd with rfl | hd
    · exact hblocked _ (List.mem_singleton_self _)
    · exact htried d hd
  cases answer with
  | none => exact hcons hfirst
  | some found =>
    rcases hfirst with ⟨before, d, after, rfl, hbefore, hfound⟩
    exact ⟨c :: before, d, after, rfl, hcons hbefore, hfound⟩

/-- A choice that is tried before another one stands at a smaller position. -/
theorem choicePosition_lt {id : SectionId} {sec : Section} {before after : List Choice}
    {c : Choice} {next : SectionId} (hsec : story.section? id = some sec)
    (hchoices : sec.choices = before ++ c :: after)
    (hbefore : ∀ d ∈ before, (d.target == next) = false) (hc : (c.target == next) = false) :
    story.choicePosition id c.target < story.choicePosition id next := by
  simp only [Story.choicePosition, hsec, hchoices]
  have hfirst : (before ++ c :: after).findIdx (fun d => d.target == c.target) ≤ before.length := by
    rw [List.findIdx_append]
    split
    · next hlt => exact Nat.le_of_lt hlt
    · rw [List.findIdx_cons, BEq.rfl, cond_true, Nat.zero_add]
  have hlater : before.length < (before ++ c :: after).findIdx fun d => d.target == next := by
    rw [List.findIdx_append, List.findIdx_eq_length_of_false hbefore, if_neg (Nat.lt_irrefl _),
      List.findIdx_cons, hc, cond_false]
    omega
  exact Nat.lt_of_le_of_lt hfirst hlater

/-- Arriving decides on the first completion where the choices of the section do. -/
theorem isFirst_cons {route : List SectionId} {id : SectionId} {sec : Section}
    (hoff : route.contains id = false) (hgoal : (id == q.goal) = false)
    (hsec : story.section? id = some sec) {answer : Option (List SectionId)}
    (hfirst : IsFirstOf story q (id :: route) sec.choices answer) :
    IsFirst story q route id answer := by
  -- a completion that begins here goes on to the target of a choice
  have honward : ∀ id' other, (id == id') = true → Completes story q route (id' :: other) →
      ∃ next rest, other = next :: rest ∧ (∃ c ∈ sec.choices, (c.target == next) = true) ∧
        Completes story q (id :: route) (next :: rest) := by
    intro id' other hid hcompletes
    cases hcompletes with
    | goal hoff' hgoal' hmet =>
      rw [BEq.congr_left hid, hgoal'] at hgoal
      cases hgoal
    | @onward _ _ next rest hoff' hgoal' hleads hrest =>
      rcases hleads with ⟨sec', hsec', hchoice⟩
      rw [← story.section?_congr hid, hsec] at hsec'
      cases hsec'
      refine ⟨next, rest, rfl, hchoice, hrest.congr fun a => ?_⟩
      rw [List.contains_cons, List.contains_cons, BEq.congr_right hid]
  cases answer with
  | none =>
    intro id' other hid hcompletes
    rcases honward id' other hid hcompletes with ⟨next, rest, rfl, ⟨c, hc, hnext⟩, hrest⟩
    exact hfirst c hc next rest hnext hrest
  | some found =>
    rcases hfirst with ⟨before, c, after, hchoices, hbefore, rest, rfl, hcompletes, hleast⟩
    have hc : c ∈ sec.choices := by
      rw [hchoices]
      exact List.mem_append_right _ List.mem_cons_self
    refine ⟨c.target :: rest, by simp, ?_, fun id' other hid hother => ?_⟩
    · exact .onward hoff hgoal ⟨sec, hsec, c, hc, BEq.rfl⟩ hcompletes
    · rcases honward id' other hid hother with ⟨next, rest', rfl, -, hrest⟩
      cases hnext : c.target == next with
      | true =>
        rcases hleast next rest' hnext hrest with heq | hprecedes
        · left
          rw [List.cons_beq_cons, heq, BEq.symm hid]
          rfl
        · exact Or.inr (.later hid hprecedes)
      | false =>
        right
        refine .here hid hnext ?_
        refine choicePosition_lt hsec hchoices (fun d hd => ?_) hnext
        exact Bool.eq_false_iff.2 fun hd' => hbefore d hd next rest' hd' hrest

/-- Where nothing leads on there is no completion. -/
theorem isFirst_none_of_arrive_eq_fail {route : List SectionId} {id : SectionId}
    {counts after : SearchCounts}
    (harrive : arrive story q (id :: route) counts = (.fail, after)) :
    IsFirst story q route id none := by
  rcases of_arrive_eq_fail harrive with ⟨hincomplete, hleaf⟩
  intro id' rest hid hcompletes
  cases hcompletes with
  | goal hoff hgoal hmet =>
    rw [← BEq.congr_left hid] at hgoal
    have hcons : (id' :: route).contains = (id :: route).contains := by
      funext a
      rw [List.contains_cons, List.contains_cons, BEq.congr_right hid]
    rw [Quest.isMet, hcons, ← Quest.isMet, hincomplete hgoal] at hmet
    cases hmet
  | onward hoff hgoal hleads hrest =>
    rw [← BEq.congr_left hid] at hgoal
    rcases hleads with ⟨sec, hsec, c, hc, -⟩
    rw [← story.section?_congr hid] at hsec
    rw [hleaf hgoal sec hsec] at hc
    cases hc

/-- At the goal the route is its own first completion. -/
theorem isFirst_of_arrive_eq_complete {route : List SectionId} {id : SectionId}
    {counts after : SearchCounts} (hoff : route.contains id = false)
    (harrive : arrive story q (id :: route) counts = (.complete, after)) :
    IsFirst story q route id (some (id :: route).reverse) := by
  rcases of_arrive_eq_complete harrive with ⟨hgoal, hmet⟩
  refine ⟨[], List.reverse_cons, .goal hoff hgoal hmet, fun id' other hid hother => ?_⟩
  left
  cases hother with
  | goal _ _ _ => simp [BEq.symm hid]
  | onward _ hgoal' _ _ =>
    rw [← BEq.congr_left hid, hgoal] at hgoal'
    cases hgoal'

/-! ## The recursive search -/

/-- The recursive search gives the first completion of its route. -/
theorem isFirst_explore (story : Story) (q : Quest) (route : List SectionId) (id : SectionId)
    (hid : route.contains id = false) (counts : SearchCounts) :
    IsFirst story q route id (explore story q route id hid counts).route := by
  -- for choices the search gives the first completion by the first of them that leads to one
  let motive := fun route choices counts =>
    IsFirstOf story q route choices (exploreChoices story q route choices counts).route
  refine explore.induct story q
    (fun route id hid counts =>
      IsFirst story q route id (explore story q route id hid counts).route)
    motive ?_ ?_ ?_ ?_ ?_ ?_ route id hid counts
  · intro route id hid counts after harrive
    rw [explore_eq, harrive]
    exact isFirst_of_arrive_eq_complete hid harrive
  · intro route id hid counts after harrive
    rw [explore_eq, harrive]
    exact isFirst_none_of_arrive_eq_fail harrive
  · intro route id hid counts choices after harrive _ ih
    rcases of_arrive_eq_expand harrive with ⟨hgoal, -, -, sec, hsec, rfl⟩
    rw [explore_eq, harrive]
    exact isFirst_cons hid hgoal hsec ih
  · intro route counts
    simp only [motive, exploreChoices_nil]
    intro c hc
    cases hc
  · intro route counts c rest hon ih
    simp only [motive, exploreChoices_of_contains hon]
    exact ih.cons (blocked_of_contains hon)
  · intro route counts c rest hon ih ihrest
    have hoff := Bool.eq_false_iff.2 hon
    simp only [motive, exploreChoices_of_not_contains hoff]
    rcases hanswer : explore story q route c.target hoff counts with ⟨_ | found, after⟩
    · rw [hanswer] at ih
      rw [Answer.orElse_none]
      apply (ihrest after).cons
      intro c' hc' next other hnext
      rw [List.mem_singleton.1 hc'] at hnext
      exact ih next other hnext
    · rw [hanswer] at ih
      rw [Answer.orElse_some]
      exact ⟨[], c, rest, rfl, List.forall_mem_nil _, ih⟩

end Search

/-! ## The search -/

/-- The search finds no route exactly when none qualifies, and otherwise it finds the first one that
does. -/
theorem Story.findRoute_first (story : Story) (start goal : SectionId)
    (waypoints : List SectionId) :
    ((story.findRoute start goal waypoints).route = none ↔
        ∀ route, ¬story.Qualifies start goal waypoints route) ∧
      ∀ found, (story.findRoute start goal waypoints).route = some found →
        story.Qualifies start goal waypoints found ∧
          ∀ route, story.Qualifies start goal waypoints route →
            ((route == found) = true ∨ story.Precedes found route) ∧
              ¬story.Precedes route found := by
  let q : Quest := { goal, waypoints }
  have hfirst := Search.isFirst_explore story q [] start List.contains_nil {}
  have hrun : (story.findRoute start goal waypoints).route =
      (Search.explore story q [] start List.contains_nil {}).route := by
    rw [Story.findRoute, Search.run_start]
  rw [hrun]
  cases hanswer : (Search.explore story q [] start List.contains_nil {}).route with
  | none =>
    rw [hanswer] at hfirst
    refine ⟨⟨fun _ route hqualifies => ?_, fun _ => rfl⟩, fun found hfound => nomatch hfound⟩
    rcases (Search.qualifies_iff (q := q)).1 hqualifies with ⟨id, rest, rfl, hid, hcompletes⟩
    exact hfirst id rest hid hcompletes
  | some found =>
    rw [hanswer] at hfirst
    rcases hfirst with ⟨rest, hfound, hcompletes, hleast⟩
    rw [List.reverse_nil, List.nil_append] at hfound
    have hqualifies : story.Qualifies start goal waypoints found :=
      (Search.qualifies_iff (q := q)).2 ⟨start, rest, hfound, BEq.rfl, hcompletes⟩
    refine ⟨⟨fun hnone => absurd hnone (Option.some_ne_none _),
      fun hnone => absurd hqualifies (hnone found)⟩, ?_⟩
    rintro found' ⟨⟩
    refine ⟨hqualifies, fun route hroute => ?_⟩
    rcases (Search.qualifies_iff (q := q)).1 hroute with ⟨id, other, rfl, hid, hother⟩
    rw [hfound]
    rcases hleast id other hid hother with hsame | hprecedes
    · refine ⟨Or.inl hsame, fun hback => ?_⟩
      rw [hback.not_beq] at hsame
      cases hsame
    · exact ⟨Or.inr hprecedes, hprecedes.asymm⟩

end Gamebook
