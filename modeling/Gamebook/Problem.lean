import Gamebook.Script.Action
import Gamebook.Story.Graph

/-!
# Problems of a story

What is wrong with a story before anyone reads it: steps of scripts that cannot be read, and choices
that lead to missing sections.
-/

namespace Gamebook

/-- Something that is wrong with a story. -/
inductive Problem where
  /-- A step at a position of a section's script cannot be read. -/
  | step (owner : SectionId) (position : Nat) (written : Step) (error : StepError)
  /-- A choice leads to a missing section. -/
  | choice (dangling : Story.Dangling)

namespace Problem

/-- The parameters that a step should have, where its action is known and takes some. -/
def expectation (written : Step) : List String :=
  match expectedTypes written with
  | [] => []
  | types => ["    expected: " ++ " ".intercalate (written.action :: types.map ParameterKind.name)]

/-- The lines that tell a problem. -/
def report : Problem → List String
  | step owner position written error =>
    s!"  error: section {owner.canonical}, action {position}: {error.message}" ::
      expectation written
  | choice d =>
    [s!"  error: section {d.owner.canonical}, choice {d.position} leads to missing section " ++
      d.target.canonical]

end Problem

/-- The steps of a section's script that cannot be read. -/
def Section.problems (owner : SectionId) (sec : Section) : List Problem :=
  (validateScript sec.steps).map fun (position, error) =>
    .step owner position (sec.steps[position]?.getD default) error

/-- All problems of a story: those of the scripts section by section, then those of the choices. -/
def Story.problems (s : Story) : List Problem :=
  s.sections.entries.flatMap (fun (owner, sec) => sec.problems owner) ++
    s.danglingChoices.map Problem.choice

end Gamebook
