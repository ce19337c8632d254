import Gamebook.Scalar
import Gamebook.Text.Lines

/-!
# Sections

A section is a screen of text with optional media, the choices that lead away from it, and the
script that runs when it is entered.  Its name is the key under which a story keeps it.
-/

namespace Gamebook

/-- A labelled way from one section to another. -/
structure Choice where
  /-- The text that is shown; empty for a plain way onwards. -/
  text : String
  target : SectionId
  deriving BEq, Inhabited

namespace Choice

/-- The choice has no text of its own. -/
def isPlain (c : Choice) : Bool :=
  c.text.isEmpty

/-- The choice leads to the target under the text. -/
def matches? (c : Choice) (target : SectionId) (text : String) : Bool :=
  c.target == target && c.text == text

end Choice

/-- An image or another asset that is shown with a section.  Where it lives is not looked into. -/
structure Media where
  kind : String
  source : String
  deriving BEq, Inhabited

namespace Media

/-- The image at a place. -/
def image (source : String) : Media where
  kind := "image"
  source := source

/-- The asset is an image. -/
def isImage (m : Media) : Bool :=
  m.kind == "image"

/-- There is something to show. -/
def hasSource (m : Media) : Bool :=
  !m.source.isEmpty

end Media

/-- A step of a script as it stands in a document: the name of an action and its parameters, those
of chained actions in line. -/
structure Step where
  action : String
  parameters : List Scalar
  deriving BEq, Inhabited

/-- A node of the story. -/
structure Section where
  /-- The text as one piece; it does not count where there are lines. -/
  text : Option String := none
  /-- The text as lines. -/
  textLines : Option (List String) := none
  media : Option Media := none
  /-- The choices in the order in which they are shown. -/
  next : Option (List Choice) := none
  /-- The steps that run whenever the section is entered. -/
  script : Option (List Step) := none
  deriving BEq, Inhabited

namespace Section

/-- The section that holds some lines of text and nothing else. -/
def ofLines (lines : List String) : Section where
  textLines := some lines

/-- The text before substitution: the lines, else the text in one piece, else nothing. -/
def rawText (s : Section) : String :=
  match s.textLines, s.text with
  | some lines, _ => Text.unlines lines
  | none, some text => text
  | none, none => ""

/-- The choices, none for a section without a list of them. -/
def choices (s : Section) : List Choice :=
  s.next.getD []

/-- The steps of the script, none for a section without one. -/
def steps (s : Section) : List Step :=
  s.script.getD []

/-- No choice leads away from the section. -/
def isLeaf (s : Section) : Bool :=
  s.choices.isEmpty

/-- The section with a text that is kept as lines. -/
def withText (s : Section) (text : String) : Section :=
  { s with text := none, textLines := some (Text.lines text) }

/-- The section with a choice at the end of its list. -/
def addChoice (s : Section) (c : Choice) : Section :=
  { s with next := some (s.choices ++ [c]) }

/-- The section without the choices that a condition does not keep; a section without a list of
choices stays without one. -/
def keepChoices (s : Section) (keep : Choice → Bool) : Section :=
  { s with next := s.next.map (List.filter keep) }

/-- The text that was stored is the text that is shown. -/
@[simp]
theorem rawText_withText (s : Section) (text : String) : (s.withText text).rawText = text := by
  simp [withText, rawText]

@[simp]
theorem choices_addChoice (s : Section) (c : Choice) :
    (s.addChoice c).choices = s.choices ++ [c] :=
  rfl

@[simp]
theorem choices_keepChoices (s : Section) (keep : Choice → Bool) :
    (s.keepChoices keep).choices = s.choices.filter keep := by
  cases h : s.next <;> simp [keepChoices, choices, h]

end Section

end Gamebook
