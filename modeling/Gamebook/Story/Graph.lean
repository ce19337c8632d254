import Gamebook.Story

/-!
# The graph of a story

Which sections can only be started at, which ones end the story, and which choices lead nowhere.
-/

namespace Gamebook

namespace Story

/-- The targets of all choices, section by section. -/
def targets (s : Story) : List SectionId :=
  s.sections.values.flatMap fun sec => sec.choices.map Choice.target

/-- The set of the targets of all choices. -/
def targetSet (s : Story) : Table SectionId Unit :=
  Table.ofList (s.targets.map fun id => (id, ()))

/-- The sections to which no choice leads, in the order of their names. -/
def roots (s : Story) : List SectionId :=
  let reached := s.targetSet
  s.ids.filter fun id => !reached.contains id

/-- The sections without choices, in the order of their names. -/
def leaves (s : Story) : List SectionId :=
  (s.sections.entries.filter fun e => e.2.isLeaf).map Prod.fst

/-- The name names a section to which no choice leads. -/
def isRoot (s : Story) (id : SectionId) : Bool :=
  s.hasSection id &&
    !s.sections.values.any fun sec => sec.choices.any fun c => c.target == id

/-- The name names a section without choices. -/
def isLeaf (s : Story) (id : SectionId) : Bool :=
  (s.section? id).any Section.isLeaf

/-- A choice that leads to a missing section. -/
structure Dangling where
  owner : SectionId
  position : Nat
  target : SectionId

/-- The choices that lead to missing sections, by owner and position. -/
def danglingChoices (s : Story) : List Dangling :=
  s.sections.entries.flatMap fun (owner, sec) =>
    sec.choices.zipIdx.filterMap fun (c, position) =>
      if s.hasSection c.target then none else some { owner, position, target := c.target }

end Story

end Gamebook
