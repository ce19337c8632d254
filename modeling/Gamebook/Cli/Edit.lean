import Gamebook.Story.Authoring
import Gamebook.Text.Lines

/-!
# Edits as commands

The edits of a story that can be asked for on a command line, each with the line that tells what it
did.
-/

namespace Gamebook

namespace Cli

/-- A change of a story. -/
inductive Edit where
  | addSection (text : Option String)
  | removeSection (id : SectionId)
  | setText (id : SectionId) (text : String)
  /-- Gives a section an image, or takes its media away where there is no source. -/
  | setMedia (id : SectionId) (source : Option String)
  | addChoice (owner target : SectionId) (text : String)
  | removeChoice (owner : SectionId) (position : Nat)

/-- A text as it is typed, in which a backslash and an `n` stand for a line break. -/
def typedText (text : String) : String :=
  String.ofList (Text.replaceAll ['\\', 'n'] ['\n'] text.toList)

namespace Edit

/-- The changed story, and what was done to it. -/
def apply (s : Story) : Edit → Except EditError (Story × String)
  | addSection text => do
    let (id, s) ← s.addSection
    let s ←
      match text with
      | some text => s.setText id text
      | none => .ok s
    .ok (s, s!"Added section {id.canonical}")
  | removeSection id => do
    let (_, rest) ← s.removeSection id
    let lost := s.choiceCount - rest.choiceCount
    .ok (rest, s!"Removed section {id.canonical} and {lost} choice(s) leading to it")
  | setText id text => do
    let s ← s.setText id text
    .ok (s, s!"Updated text of section {id.canonical}")
  | setMedia id (some source) => do
    let s ← s.setMedia id (Media.image source)
    .ok (s, s!"Section {id.canonical} now shows {source}")
  | setMedia id none => do
    let (removed, s) ← s.clearMedia id
    match removed with
    | some media => .ok (s, s!"Removed {media.source} from section {id.canonical}")
    | none => .ok (s, s!"Section {id.canonical} had no media")
  | addChoice owner target text => do
    let (position, s) ← s.addChoice owner target text
    .ok (s, s!"Added choice {position} on section {owner.canonical} leading to {target.canonical}")
  | removeChoice owner position => do
    let (choice, s) ← s.removeChoice owner position
    let target := choice.target.canonical
    .ok (s, s!"Removed choice {position} on section {owner.canonical} (to {target})")

/-- What was done is told before the file is written. -/
def tellsFirst : Edit → Bool
  | setMedia _ _ => true
  | _ => false

end Edit

end Cli

end Gamebook
