/-!
# Lines and replacement

Texts as lists of characters: splitting at line breaks, joining lines, and replacing every
occurrence of a piece of text.
-/

namespace Gamebook

namespace Text

/-! ## Lines -/

/-- The lines of a text; a text without line breaks is one line, even when it is empty. -/
def splitLines : List Char → List (List Char)
  | [] => [[]]
  | c :: rest =>
    if c = '\n' then [] :: splitLines rest
    else
      match splitLines rest with
      | [] => [[c]]
      | line :: lines => (c :: line) :: lines

/-- Lines with line breaks between them. -/
def joinLines : List (List Char) → List Char
  | [] => []
  | [line] => line
  | line :: next :: lines => line ++ '\n' :: joinLines (next :: lines)

/-- Every text has a line. -/
theorem splitLines_ne_nil (cs : List Char) : splitLines cs ≠ [] := by
  unfold splitLines
  split
  · simp
  · split
    · simp
    · split <;> simp

/-- Joining the lines of a text gives the text. -/
@[simp]
theorem joinLines_splitLines (cs : List Char) : joinLines (splitLines cs) = cs := by
  induction cs with
  | nil => rfl
  | cons c rest ih =>
    have hne := splitLines_ne_nil rest
    unfold splitLines
    split
    · next hc =>
      cases hr : splitLines rest with
      | nil => exact absurd hr hne
      | cons line lines => simp [joinLines, ← hr, ih, hc]
    · cases hr : splitLines rest with
      | nil => exact absurd hr hne
      | cons line lines =>
        rw [hr] at ih
        cases lines with
        | nil => simpa [joinLines] using ih
        | cons next lines => simpa [joinLines] using ih

/-- The lines of a text. -/
def lines (text : String) : List String :=
  (splitLines text.toList).map String.ofList

/-- The text of some lines. -/
def unlines (lines : List String) : String :=
  String.ofList (joinLines (lines.map String.toList))

/-- The text of the lines of a text is the text. -/
@[simp]
theorem unlines_lines (text : String) : unlines (lines text) = text := by
  have h : String.toList ∘ String.ofList = id := funext fun cs => String.toList_ofList
  simp [lines, unlines, h]

/-! ## Replacement -/

/-- Walks through a text from left to right, passing over the first `skip` characters, and writes
`new` in the place of each occurrence of `pattern`. -/
def replaceFrom (pattern new : List Char) : Nat → List Char → List Char
  | _, [] => []
  | skip + 1, _ :: rest => replaceFrom pattern new skip rest
  | 0, c :: rest =>
    if pattern.isPrefixOf (c :: rest) then
      new ++ replaceFrom pattern new (pattern.length - 1) rest
    else c :: replaceFrom pattern new 0 rest

/-- The text with every occurrence of a piece of text replaced; occurrences are taken from the left
and do not overlap.  An empty pattern occurs nowhere. -/
def replaceAll (pattern new : List Char) (text : List Char) : List Char :=
  if pattern = [] then text else replaceFrom pattern new 0 text

end Text

end Gamebook
