import Gamebook.Script.Run

/-!
# Scenes

What a reader sees of a section: its text and its choices with the values of the variables, and its
media where there is something to show.
-/

namespace Gamebook

/-- A choice as it is shown. -/
structure ShownChoice where
  /-- The position among the choices of the section. -/
  position : Nat
  text : String
  target : SectionId
  /-- The choice has no text of its own and is shown as a plain way onwards. -/
  isPlain : Bool

/-- A section as it is shown. -/
structure Scene where
  id : SectionId
  text : String
  media : Option Media
  choices : List ShownChoice
  /-- The failures of the script that ran when the section was entered; none where it was only shown
  again. -/
  scriptErrors : List StepError := []

namespace Scene

/-- There is nowhere to go from here. -/
def isEnding (scene : Scene) : Bool :=
  scene.choices.isEmpty

end Scene

/-- A choice at a position as it is shown. -/
def Story.renderChoice (s : Story) (c : Choice) (position : Nat) : ShownChoice where
  position := position
  text := s.substitute c.text
  target := c.target
  isPlain := c.isPlain

/-- A section as it is shown, without running its script. -/
def Story.render (s : Story) (id : SectionId) (sec : Section) : Scene where
  id := id
  text := s.substitute sec.rawText
  media := sec.media.filter Media.hasSource
  choices := sec.choices.zipIdx.map fun (c, position) => s.renderChoice c position

end Gamebook
