import Gamebook.Text.Lines
import Gamebook.Text.Width

/-!
# Grids

Rows of cells drawn with lines between them.  Each column is as wide as its widest line and has a
blank at either side; a cell may have several lines.

    +----+--------+
    | Id | Text   |
    +=============+
    | 1  | A cave |
    |----+--------|
    | 2  | A lake |
    +----+--------+
-/

namespace Gamebook

namespace Text

/-- The text with blanks after it up to a width. -/
def padTo (columns : Nat) (text : String) : String :=
  text ++ String.ofList (List.replicate (columns - width text) ' ')

/-- A cell by its lines. -/
abbrev Cell := List String

namespace Grid

/-- The width of a cell's widest line. -/
def cellWidth (cell : Cell) : Nat :=
  (cell.map width).foldl max 0

/-- The widths of the columns of some rows. -/
def columnWidths : List (List Cell) → List Nat
  | [] => []
  | [row] => row.map cellWidth
  | row :: rows => List.zipWith max (row.map cellWidth) (columnWidths rows)

/-- One line through a row of cells. -/
def line (widths : List Nat) (texts : List String) : String :=
  let padded := List.zipWith padTo widths texts
  "| " ++ " | ".intercalate padded ++ " |"

/-- The lines of a row; cells with fewer lines than the highest have blank ones below. -/
def rowLines (widths : List Nat) (row : List Cell) : List String :=
  let height := (row.map List.length).foldl max 0
  (List.range height).map fun i => line widths (row.map fun cell => cell[i]?.getD "")

/-- A ruled line: its two ends, what crosses the columns' borders, and what fills it. -/
structure Rule where
  left : String
  right : String
  cross : String
  fill : Char

/-- The line above and below a grid. -/
def outer : Rule := ⟨"+", "+", "+", '-'⟩

/-- The line below the header. -/
def header : Rule := ⟨"+", "+", "=", '='⟩

/-- The line between two rows. -/
def inner : Rule := ⟨"|", "|", "+", '-'⟩

/-- Draws a ruled line. -/
def Rule.draw (rule : Rule) (widths : List Nat) : String :=
  let pieces := widths.map fun w => String.ofList (List.replicate (w + 2) rule.fill)
  rule.left ++ rule.cross.intercalate pieces ++ rule.right

/-- The lines of a grid with a header. -/
def draw (heads : List Cell) (rows : List (List Cell)) : List String :=
  let widths := columnWidths (heads :: rows)
  let body := (rows.map (rowLines widths)).intersperse [inner.draw widths]
  [outer.draw widths] ++ rowLines widths heads ++ [header.draw widths] ++ body.flatten ++
    [outer.draw widths]

end Grid

end Text

end Gamebook
