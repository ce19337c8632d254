import Gamebook.Document.Section
import Gamebook.Json.Writer
import Gamebook.Story

/-!
# Stories and saved games in documents

How progress, metadata, stories and saved games are written and read.
-/

namespace Gamebook

open Json (Reader Record Field)

/-- The value that is written for the entries of a table. -/
def tableToJson {κ ν : Type} [Ord κ] (key : κ → String) (toJson : ν → Json) (t : Table κ ν) :
    Json :=
  .object (t.entries.map fun (k, v) => (key k, toJson v))

/-- The key that is written for the name of a section: its text, and for numbers the text that JSON
gives them. -/
def SectionId.toKey : SectionId → String
  | .number x => Json.numberText x
  | id => id.canonical

/-! ## Progress -/

/-- The value that is written for variables. -/
def Variables.toJson (vars : Variables) : Json :=
  tableToJson id .text vars

/-- Variables are an object of strings. -/
def Variables.reader : Reader Variables :=
  Reader.table id Reader.text

/-- The value that is written for progress; variables are left out where there are none. -/
def Progress.toJson (p : Progress) : Json :=
  .object <|
    optionalMember "current_section" Scalar.toJson p.current ++
    [("history", listToJson Scalar.toJson p.history)] ++
    if p.vars.isEmpty then [] else [("variables", p.vars.toJson)]

/-- All parts of progress may be missing. -/
def Progress.record : Record Progress where
  start := {}
  fields :=
    [.of "current_section" (Reader.optional SectionId.reader) fun p current => { p with current },
     .of "history" (Reader.list SectionId.reader) fun p history => { p with history },
     .of "variables" Variables.reader fun p vars => { p with vars }]

/-! ## Metadata -/

/-- The value that is written for metadata, the title first. -/
def StoryInfo.toJson (m : StoryInfo) : Json :=
  .object (optionalMember "title" .text m.title ++ m.extra.entries)

/-- How deep the containers in a member of the metadata may be nested: texts are read 127 containers
deep, and the story and its metadata are two of them. -/
def StoryInfo.depth : Nat := 125

/-- Reads a member of the metadata other than the title. -/
def StoryInfo.readExtra (m : StoryInfo) (key : String) (n : Json.Node) :
    Except Json.Fault StoryInfo :=
  match n.toJson? depth with
  | some value => .ok { m with extra := m.extra.insert key value }
  | none => .error .malformed

/-- Metadata is an object of any members; only the title has a shape. -/
def StoryInfo.record : Record StoryInfo where
  start := {}
  fields := [.of "title" (Reader.optional Reader.text) fun m title => { m with title }]
  leastItems := none
  other := readExtra

/-! ## Stories -/

/-- The value that is written for a story. -/
def Story.toJson (s : Story) : Json :=
  .object <|
    [("meta", s.info.toJson),
     ("sections", tableToJson SectionId.toKey Section.toJson s.sections)] ++
    optionalMember "state" Progress.toJson s.state

/-- All parts of a story may be missing.  The keys of sections are read as text. -/
def Story.record : Record Story where
  start := {}
  fields :=
    [.of "meta" StoryInfo.record.read fun s info => { s with info },
     .of "sections" (Reader.table Scalar.text Section.record.read) fun s sections =>
       { s with sections },
     .of "state" (Reader.optional Progress.record.read) fun s state => { s with state }]

namespace Story

/-- Reads a story from the text of a document. -/
def ofDocument (text : String) : Except Json.Fault Story :=
  Json.read record.read text

/-- The text of the document of a story. -/
def toDocument (s : Story) : String :=
  s.toJson.pretty

end Story

/-! ## Saved games -/

/-- A reader's progress apart from the story, with the metadata that tells which story it belongs
to. -/
structure SavedGame where
  info : StoryInfo := {}
  state : Progress := {}
  deriving BEq, Inhabited

namespace SavedGame

/-- The progress in a story. -/
def capture (s : Story) : SavedGame where
  info := s.info
  state := s.progress

/-- The name of the file that saved games of a story are kept in. -/
def fileName (s : Story) : String :=
  s.fileSafeTitle ++ "_save.json"

/-- The value that is written for a saved game. -/
def toJson (g : SavedGame) : Json :=
  .object [("meta", g.info.toJson), ("state", g.state.toJson)]

/-- Both parts of a saved game may be missing. -/
def record : Record SavedGame where
  start := {}
  fields :=
    [.of "meta" StoryInfo.record.read fun g info => { g with info },
     .of "state" Progress.record.read fun g state => { g with state }]

/-- Reads a saved game from the text of a document. -/
def ofDocument (text : String) : Except Json.Fault SavedGame :=
  Json.read record.read text

/-- The text of the document of a saved game. -/
def toDocument (g : SavedGame) : String :=
  g.toJson.pretty

end SavedGame

end Gamebook
