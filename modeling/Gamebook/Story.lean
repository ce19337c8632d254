import Gamebook.Json.Value
import Gamebook.Progress
import Gamebook.Section

/-!
# Stories

A story is a directed graph of sections, with free metadata and, once it is being read, the progress
of its reader.
-/

namespace Gamebook

/-- What is said about a story as a whole.  Only the title has a meaning here; all other members are
carried along. -/
structure StoryInfo where
  title : Option String := none
  extra : Table String Json := Table.empty
  deriving BEq, Inhabited

/-- The sections by name, the metadata and the progress. -/
structure Story where
  info : StoryInfo := {}
  sections : Table SectionId Section := Table.empty
  state : Option Progress := none
  deriving BEq, Inhabited

namespace Story

/-! ## Metadata -/

/-- The title, if there is one. -/
def title (s : Story) : Option String :=
  s.info.title

/-- A character that may stand in the name of a file. -/
def isFileSafe (c : Char) : Bool :=
  c.isAlphanum || c = '-' || c = '_'

/-- The title with all but letters, digits, hyphens and underscores of ASCII replaced. -/
def fileSafeTitle (s : Story) : String :=
  match s.title with
  | some title => String.ofList (title.toList.map fun c => if isFileSafe c then c else '_')
  | none => "story_adventure"

/-! ## Sections -/

/-- The section with a name. -/
def section? (s : Story) (id : SectionId) : Option Section :=
  s.sections.find? id

/-- The name names a section. -/
def hasSection (s : Story) (id : SectionId) : Bool :=
  s.sections.contains id

/-- The names of all sections in their order. -/
def ids (s : Story) : List SectionId :=
  s.sections.keys

/-- The first name in the order of names. -/
def firstId (s : Story) : Option SectionId :=
  s.ids.head?

/-- The number of sections. -/
def sectionCount (s : Story) : Nat :=
  s.sections.size

/-- The number of choices of all sections. -/
def choiceCount (s : Story) : Nat :=
  s.sections.values.foldr (fun sec n => sec.choices.length + n) 0

/-- The number of steps of the scripts of all sections. -/
def stepCount (s : Story) : Nat :=
  s.sections.values.foldr (fun sec n => sec.steps.length + n) 0

/-- Changes a section, if it is there. -/
def adjustSection (s : Story) (id : SectionId) (f : Section → Section) : Story :=
  { s with sections := s.sections.adjust id f }

/-! ## Progress -/

/-- The progress, that of a reader who has not begun where none is kept. -/
def progress (s : Story) : Progress :=
  s.state.getD {}

/-- Changes the progress, which is kept from then on. -/
def adjustProgress (s : Story) (f : Progress → Progress) : Story :=
  { s with state := some (f s.progress) }

/-- The section being read. -/
def currentId (s : Story) : Option SectionId :=
  s.state.bind Progress.current

/-- The sections read before. -/
def history (s : Story) : List SectionId :=
  s.progress.history

/-- The variables; none exist where no progress is kept. -/
def vars (s : Story) : Variables :=
  s.progress.vars

/-- Gives a variable a value. -/
def setVariable (s : Story) (name value : String) : Story :=
  s.adjustProgress fun p => { p with vars := p.vars.insert name value }

/-- Makes sure that a variable exists. -/
def declareVariable (s : Story) (name : String) : Story :=
  s.adjustProgress fun p => { p with vars := p.vars.declare name }

/-! ## Texts -/

/-- The text with the values of the variables. -/
def substitute (s : Story) (text : String) : String :=
  s.vars.substitute text

/-- The text of a section with the values of the variables; empty for a missing section. -/
def sectionText (s : Story) (id : SectionId) : String :=
  ((s.section? id).map fun sec => s.substitute sec.rawText).getD ""

end Story

end Gamebook
