import Gamebook.Story

/-!
# Routes through a story

The first route from one section to another that passes through some others, by depth-first search:
choices are tried in the order in which they stand on their sections, and the first complete route
wins.  A section that is on the route is not entered again.

- `Search.step` is one step of the search: it tries the next choice of the last section on the
  route, or leaves that section.
- `Story.findRoute` searches a story and counts what it met.
- `Searcher.find` does so again and again, and keeps the counts of the latest search.
-/

namespace Gamebook

/-- What a search has met. -/
structure SearchCounts where
  /-- The sections whose choices were tried. -/
  expanded : Nat := 0
  /-- The sections without choices and the missing ones. -/
  deadEnds : Nat := 0
  /-- The choices that lead back to the route. -/
  cycleSkips : Nat := 0
  deriving Repr, DecidableEq

/-- What a route is wanted for: where it ends, and what it passes through. -/
structure Quest where
  goal : SectionId
  waypoints : List SectionId

/-- The route holds all waypoints. -/
def Quest.isMet (q : Quest) (route : List SectionId) : Bool :=
  q.waypoints.all route.contains

namespace Search

/-- The choices of a section on the route, and the position of the next one to try. -/
structure Frame where
  choices : List Choice
  position : Nat

/-- The frame after trying a choice. -/
def Frame.advance (frame : Frame) : Frame :=
  { frame with position := frame.position + 1 }

/-- A search under way. -/
structure State where
  /-- The sections on the route, the last one first. -/
  route : List SectionId
  /-- The set of the sections on the route. -/
  onRoute : List SectionId
  /-- The frames of the sections on the route, that of the last one first. -/
  frames : List Frame
  counts : SearchCounts

/-- What comes of arriving at a section. -/
inductive Arrival where
  /-- The route is complete. -/
  | complete
  /-- The choices of the section are to be tried. -/
  | expand (choices : List Choice)
  /-- Nothing leads on from here. -/
  | fail

/-- Arrives at the last section of a route. -/
def arrive (story : Story) (q : Quest) (route : List SectionId) (counts : SearchCounts) :
    Arrival × SearchCounts :=
  match route with
  | [] => (.fail, counts)
  | id :: _ =>
    if id == q.goal then
      (if q.isMet route then .complete else .fail, counts)
    else
      match story.section? id with
      | none => (.fail, { counts with deadEnds := counts.deadEnds + 1 })
      | some sec =>
        if sec.isLeaf then (.fail, { counts with deadEnds := counts.deadEnds + 1 })
        else (.expand sec.choices, { counts with expanded := counts.expanded + 1 })

/-- The answer of a search: the route, if there is one, and the counts. -/
structure Answer where
  route : Option (List SectionId)
  counts : SearchCounts

/-- A step of a search leads to another one, or to the answer. -/
inductive Status where
  | going (s : State)
  | done (answer : Answer)

/-- The search that stands at its first section. -/
def start (story : Story) (q : Quest) (id : SectionId) : Status :=
  match arrive story q [id] {} with
  | (.complete, counts) => .done ⟨some [id], counts⟩
  | (.expand choices, counts) => .going ⟨[id], [id], [⟨choices, 0⟩], counts⟩
  | (.fail, counts) => .done ⟨none, counts⟩

/-- Leaves the last section of the route, whose choices have all been tried. -/
def State.leave (s : State) : State :=
  match s.route with
  | [] => { s with frames := s.frames.tail }
  | id :: route =>
    { s with route, onRoute := s.onRoute.erase id, frames := s.frames.tail }

/-- Goes on to a section that is not on the route. -/
def State.enter (story : Story) (q : Quest) (s : State) (id : SectionId) : Status :=
  let route := id :: s.route
  match arrive story q route s.counts with
  | (.complete, counts) => .done ⟨some route.reverse, counts⟩
  | (.expand choices, counts) =>
    .going ⟨route, s.onRoute.insert id, ⟨choices, 0⟩ :: s.frames, counts⟩
  | (.fail, counts) => .going { s with onRoute := (s.onRoute.insert id).erase id, counts }

/-- Tries the next choice of the last section on the route, or leaves the section where all have
been tried. -/
def step (story : Story) (q : Quest) (s : State) : Status :=
  match s.frames with
  | [] => .done ⟨none, s.counts⟩
  | frame :: rest =>
    match frame.choices[frame.position]? with
    | none => .going s.leave
    | some c =>
      let s := { s with frames := frame.advance :: rest }
      if s.onRoute.contains c.target then
        .going { s with counts := { s.counts with cycleSkips := s.counts.cycleSkips + 1 } }
      else s.enter story q c.target

/-- Makes steps until there is an answer, at most as many as allowed. -/
def run (story : Story) (q : Quest) : Nat → Status → Answer
  | _, .done answer => answer
  | 0, .going s => ⟨none, s.counts⟩
  | bound + 1, .going s => run story q bound (step story q s)

/-- More steps than any search takes: a route has at most as many stops as there are sections, and
each stop tries each of its choices once. -/
def stepBound (story : Story) : Nat :=
  Nat.pow (story.choiceCount + 2) (story.sectionCount + 2)

end Search

namespace Story

/-- The first route from one section to another through all waypoints, with the counts of the
search. -/
def findRoute (story : Story) (start goal : SectionId) (waypoints : List SectionId) :
    Search.Answer :=
  let q : Quest := { goal, waypoints }
  Search.run story q (Search.stepBound story) (Search.start story q start)

end Story

/-- Searches one story for one route after the other. -/
structure Searcher where
  story : Story
  /-- The counts of the latest search. -/
  counts : SearchCounts := {}

/-- Searches for a route; what was counted before is forgotten. -/
def Searcher.find (s : Searcher) (start goal : SectionId) (waypoints : List SectionId) :
    Option (List SectionId) × Searcher :=
  let answer := s.story.findRoute start goal waypoints
  (answer.route, { s with counts := answer.counts })

end Gamebook
