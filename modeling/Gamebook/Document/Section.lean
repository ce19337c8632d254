import Gamebook.Json.Record
import Gamebook.Section

/-!
# Sections in documents

How scalars, choices, media, scripts and sections are written and read.  Absent parts of a section
are left out; on reading, a missing part and a null are both absent.
-/

namespace Gamebook

open Json (Reader Record Field)

/-! ## Scalars -/

/-- The value that is written for a scalar. -/
def Scalar.toJson : Scalar → Json
  | int n => .whole n.toInt
  | number x => .number x
  | text s => .text s

/-- Reads a number or a string.  Whole numbers of 64 signed bits are integers. -/
def Scalar.reader : Reader Scalar
  | .numeral (.whole n _) =>
    if n ≤ Int64.maxValue.toInt then .ok (.int (Int64.ofInt n))
    else .ok (.number n.toNat.toUInt64.toFloat)
  | .numeral (.real x _) => .ok (.number x)
  | .text s => .ok (.text s)
  | n => .error n.fault

/-- Reads the name of a section: an integer or a string. -/
def SectionId.reader : Reader SectionId := fun n => do
  match ← Scalar.reader n with
  | .number _ => .error .mismatched
  | id => .ok id

/-! ## Parts of a section -/

/-- The value that is written for a choice. -/
def Choice.toJson (c : Choice) : Json :=
  .object [("text", .text c.text), ("next", c.target.toJson)]

/-- A choice needs its target; its text may be missing from an object. -/
def Choice.record : Record Choice where
  start := { text := "", target := .int 0 }
  fields :=
    [.of "text" Reader.text fun c text => { c with text },
     .of "next" SectionId.reader fun c target => { c with target }]
  required := ["next"]
  leastItems := some 2

/-- The value that is written for media. -/
def Media.toJson (m : Media) : Json :=
  .object [("type", .text m.kind), ("src", .text m.source)]

/-- Both parts of media may be missing. -/
def Media.record : Record Media where
  start := { kind := "", source := "" }
  fields :=
    [.of "type" Reader.text fun m kind => { m with kind },
     .of "src" Reader.text fun m source => { m with source }]

/-- The value that is written for a step of a script. -/
def Step.toJson (e : Step) : Json :=
  .object [("action", .text e.action), ("parameters", .array (e.parameters.map Scalar.toJson))]

/-- A step of a script needs the name of its action. -/
def Step.record : Record Step where
  start := { action := "", parameters := [] }
  fields :=
    [.of "action" Reader.text fun e action => { e with action },
     .of "parameters" (Reader.list Scalar.reader) fun e parameters => { e with parameters }]
  required := ["action"]
  leastItems := some 1

/-! ## Sections -/

/-- A member that is left out where its value is absent. -/
def optionalMember {α : Type} (key : String) (toJson : α → Json) : Option α → List (String × Json)
  | none => []
  | some a => [(key, toJson a)]

/-- The value that is written for a list. -/
def listToJson {α : Type} (toJson : α → Json) (items : List α) : Json :=
  .array (items.map toJson)

/-- The value that is written for a section. -/
def Section.toJson (s : Section) : Json :=
  .object <|
    optionalMember "text" .text s.text ++
    optionalMember "text_lines" (listToJson .text) s.textLines ++
    optionalMember "media" Media.toJson s.media ++
    optionalMember "next" (listToJson Choice.toJson) s.next ++
    optionalMember "script" (listToJson Step.toJson) s.script

/-- All parts of a section may be missing from an object, none from an array. -/
def Section.record : Record Section where
  start := {}
  fields :=
    [.of "text" (Reader.optional Reader.text) fun s text => { s with text },
     .of "text_lines" (Reader.optional (Reader.list Reader.text)) fun s textLines =>
       { s with textLines },
     .of "media" (Reader.optional Media.record.read) fun s media => { s with media },
     .of "next" (Reader.optional (Reader.list Choice.record.read)) fun s next => { s with next },
     .of "script" (Reader.optional (Reader.list Step.record.read)) fun s script =>
       { s with script }]
  leastItems := some 5

end Gamebook
