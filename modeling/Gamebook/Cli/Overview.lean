import Gamebook.Story.Graph
import Gamebook.Text.Grid

/-!
# The overview of a story

What a story consists of: its size, and a grid with a row for each section.
-/

namespace Gamebook

namespace Cli

/-- The title, or what stands for one. -/
def displayTitle (s : Story) : String :=
  s.title.getD "untitled"

/-- How many characters of a text are shown in a grid. -/
def excerptLength : Nat := 50

/-- The beginning of a text in one line; a text that is cut ends in three dots. -/
def excerpt (text : String) : String :=
  let line := text.toList.map fun c => if c = '\n' then ' ' else c
  if line.length > excerptLength then String.ofList (line.take (excerptLength - 3)) ++ "..."
  else String.ofList line

/-- Whether the story can only be started at a section, and whether it ends there. -/
def sectionKind (s : Story) (id : SectionId) (sec : Section) : String :=
  match s.isRoot id, sec.isLeaf with
  | true, true => "root, end"
  | true, false => "root"
  | false, true => "end"
  | false, false => ""

/-- The row of a section. -/
def sectionRow (s : Story) (id : SectionId) (sec : Section) : List Text.Cell :=
  [Text.lines id.canonical, [sectionKind s id sec], [toString sec.choices.length],
   [toString sec.steps.length], [excerpt sec.rawText]]

/-- The heads of the columns. -/
def overviewHeads : List Text.Cell :=
  [["Id"], ["Kind"], ["Choices"], ["Script"], ["Text"]]

/-- The lines of the overview.  There is no grid where there are no sections. -/
def overview (s : Story) : List String :=
  let rows := s.sections.entries.map fun (id, sec) => sectionRow s id sec
  let size := s!"  {s.sectionCount} sections, {s.choiceCount} choices"
  let ends := s!", {s.roots.length} roots, {s.leaves.length} endings"
  let grid := if rows.isEmpty then [] else Text.Grid.draw overviewHeads rows
  ["  " ++ displayTitle s, size ++ ends] ++ grid

end Cli

end Gamebook
