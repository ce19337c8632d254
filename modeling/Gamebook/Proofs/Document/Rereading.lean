import Gamebook.Proofs.Document.Authored

/-!
# What the document of a story is read as

Numbers that are not whole may come back from a document as others, since a reader rounds what it
scales.  They come back as numbers all the same, so the document of an intact story can always be
read, and it is read as the story with these numbers in the places of its own.

Main results:

- Definition `Story.reread`: the story with all numbers as they are read.
- Theorem `Story.toJson_reread`: it is written as what the document of the story is read as.
- Theorem `Story.Intact.ofDocument_toDocument`: the document of an intact story is read as it.
-/

namespace Gamebook

open Json (reread rereadItems rereadMembers)

/-! ## Written parts -/

section Parts

variable {α : Type} {toJson : α → Json} {f : α → α}

/-- A list is read item by item. -/
theorem listToJson_map (hf : ∀ a, toJson (f a) = (toJson a).reread) (items : List α) :
    listToJson toJson (items.map f) = (listToJson toJson items).reread := by
  rw [listToJson, listToJson, reread, Json.rereadItems_eq_map, List.map_map, List.map_map]
  exact congrArg Json.array (List.map_congr_left fun a _ => hf a)

/-- A list of values that hold no number is read as itself. -/
theorem listToJson_eq_reread (hf : ∀ a, (toJson a).reread = toJson a) (items : List α) :
    (listToJson toJson items).reread = listToJson toJson items := by
  rw [← listToJson_map (f := fun a => a) (fun a => (hf a).symm), List.map_id']

/-- The members of one part are read and then those of the other. -/
theorem rereadMembers_append (members others : List (String × Json)) :
    rereadMembers (members ++ others) = rereadMembers members ++ rereadMembers others := by
  simp only [Json.rereadMembers_eq_map, List.map_append]

/-- A member that may be left out is read if it is there. -/
theorem optionalMember_map (key : String) (hf : ∀ a, toJson (f a) = (toJson a).reread)
    (o : Option α) :
    optionalMember key toJson (o.map f) = rereadMembers (optionalMember key toJson o) := by
  cases o with
  | none => rfl
  | some a => exact congrArg (fun value => [(key, value)]) (hf a)

/-- A member that holds no number is read as itself. -/
theorem optionalMember_eq_reread (key : String) (hf : ∀ a, (toJson a).reread = toJson a)
    (o : Option α) :
    optionalMember key toJson o = rereadMembers (optionalMember key toJson o) := by
  have hmap := optionalMember_map (f := fun a => a) key (fun a => (hf a).symm) o
  rwa [Option.map_id'] at hmap

/-- Texts hold no number. -/
theorem text_eq_reread (s : String) : (Json.text s).reread = Json.text s :=
  rfl

/-- A table is read entry by entry. -/
theorem tableToJson_mapEntries {κ : Type} [Ord κ] (key : κ → String)
    (hf : ∀ a, toJson (f a) = (toJson a).reread) (t : Table κ α) :
    tableToJson key toJson (t.mapEntries fun _ => f) = (tableToJson key toJson t).reread := by
  rw [tableToJson, tableToJson, reread, Json.rereadMembers_eq_map, Table.mapEntries, List.map_map,
    List.map_map]
  exact congrArg Json.object (List.map_congr_left fun e _ => congrArg (key e.1, ·) (hf e.2))

end Parts

/-! ## Sections -/

namespace Scalar

/-- The scalar as it is read from a document. -/
def reread : Scalar → Scalar
  | int n => int n
  | number x => if hx : x.isFinite = true then number (Json.rereadNumber x hx).1 else number x
  | text s => text s

/-- A finite number is read as another one. -/
theorem reread_number {x : Float} (hx : x.isFinite = true) :
    (number x).reread = number (Json.rereadNumber x hx).1 :=
  dif_pos hx

theorem toJson_reread (s : Scalar) : s.reread.toJson = s.toJson.reread := by
  cases s with
  | int n =>
    rcases toJson_int n with ⟨hn, heq⟩
    rw [reread, heq, Json.reread]
  | number x =>
    by_cases hx : x.isFinite = true
    · rw [reread_number hx, toJson_number hx, toJson_number (Json.rereadNumber x hx).2, Json.reread]
    · have hnull : (number x).toJson = .null := dif_neg hx
      rw [reread, dif_neg hx, hnull, Json.reread]
  | text t => rfl

/-- A name is read as itself. -/
theorem reread_of_isName {s : Scalar} (hs : s.isName = true) : s.reread = s := by
  cases s with
  | number x => cases hs
  | _ => rfl

/-- What has a text is read as something that has one. -/
theorem isFinite_reread {s : Scalar} (hs : s.isFinite = true) : s.reread.isFinite = true := by
  cases s with
  | number x =>
    rw [reread_number hs]
    exact (Json.rereadNumber x hs).2
  | _ => rfl

end Scalar

/-- The choice as it is read from a document. -/
def Choice.reread (c : Choice) : Choice :=
  { c with target := c.target.reread }

theorem Choice.toJson_reread (c : Choice) : c.reread.toJson = c.toJson.reread :=
  congrArg (fun target => Json.object [("text", .text c.text), ("next", target)])
    c.target.toJson_reread

/-- The step of a script as it is read from a document. -/
def Step.reread (e : Step) : Step :=
  { e with parameters := e.parameters.map Scalar.reread }

theorem Step.toJson_reread (e : Step) : e.reread.toJson = e.toJson.reread :=
  congrArg (fun parameters => Json.object [("action", .text e.action), ("parameters", parameters)])
    (listToJson_map Scalar.toJson_reread e.parameters)

namespace Section

/-- The section as it is read from a document. -/
def reread (s : Section) : Section :=
  { s with
    next := s.next.map fun cs => cs.map Choice.reread
    script := s.script.map fun es => es.map Step.reread }

theorem toJson_reread (s : Section) : s.reread.toJson = s.toJson.reread := by
  have hmediaToJson : ∀ m : Media, m.toJson.reread = m.toJson := fun _ => rfl
  have htext := optionalMember_eq_reread "text" text_eq_reread s.text
  have hlines := optionalMember_eq_reread "text_lines" (listToJson_eq_reread text_eq_reread)
    s.textLines
  have hmedia := optionalMember_eq_reread "media" hmediaToJson s.media
  have hnext := optionalMember_map "next" (listToJson_map Choice.toJson_reread) s.next
  have hscript := optionalMember_map "script" (listToJson_map Step.toJson_reread) s.script
  rw [toJson, toJson, Json.reread]
  simp only [rereadMembers_append, ← htext, ← hlines, ← hmedia, ← hnext, ← hscript]
  rfl

/-- A section with another text is read as it is without, with that text. -/
theorem reread_withText (s : Section) (text : String) :
    (s.withText text).reread = s.reread.withText text :=
  rfl

/-- An intact section is read as an intact one. -/
theorem Intact.reread {s : Section} (hs : s.Intact) : s.reread.Intact := by
  rcases s with ⟨text, textLines, media, next, script⟩
  refine ⟨fun id hid => ?_, fun p hp => ?_⟩
  · rcases List.mem_map.1 hid with ⟨c, hc, rfl⟩
    cases next with
    | none => cases hc
    | some cs =>
      rcases List.mem_map.1 hc with ⟨before, hbefore, rfl⟩
      have hname := hs.targets before.target (List.mem_map_of_mem hbefore)
      rw [Choice.reread, Scalar.reread_of_isName hname]
      exact hname
  · rcases List.mem_flatMap.1 hp with ⟨e, he, hmem⟩
    cases script with
    | none => cases he
    | some es =>
      rcases List.mem_map.1 he with ⟨before, hbefore, rfl⟩
      rcases List.mem_map.1 hmem with ⟨q, hq, rfl⟩
      exact Scalar.isFinite_reread (hs.parameters q (List.mem_flatMap.2 ⟨before, hbefore, hq⟩))

end Section

/-! ## Progress -/

namespace Progress

/-- The progress as it is read from a document. -/
def reread (p : Progress) : Progress :=
  { p with current := p.current.map Scalar.reread, history := p.history.map Scalar.reread }

theorem toJson_reread (p : Progress) : p.reread.toJson = p.toJson.reread := by
  have hcurrent := optionalMember_map "current_section" Scalar.toJson_reread p.current
  have hhistory := listToJson_map Scalar.toJson_reread p.history
  have hvars : p.vars.toJson = p.vars.toJson.reread := by
    have hmap := tableToJson_mapEntries (f := fun value => value) id
      (fun s => (text_eq_reread s).symm) p.vars
    rwa [Table.mapEntries_self] at hmap
  have hvariables : rereadMembers (if p.vars.isEmpty then [] else [("variables", p.vars.toJson)]) =
      if p.vars.isEmpty then [] else [("variables", p.vars.toJson)] := by
    split
    · rfl
    · exact congrArg (fun value => [("variables", value)]) hvars.symm
  rw [toJson, toJson, Json.reread]
  simp only [rereadMembers_append, hvariables, ← hcurrent]
  exact congrArg (fun value => Json.object (optionalMember "current_section" Scalar.toJson
    (p.current.map Scalar.reread) ++ [("history", value)] ++
      if p.vars.isEmpty then [] else [("variables", p.vars.toJson)])) hhistory

/-- The names of progress are read as they are. -/
theorem names_reread {p : Progress} (hp : ∀ id ∈ p.names, id.isName = true) :
    p.reread.names = p.names := by
  have hnames : p.reread.names = p.names.map Scalar.reread := by
    rcases p with ⟨_ | _, history, vars⟩ <;> rfl
  rw [hnames, List.map_congr_left fun id hid => Scalar.reread_of_isName (hp id hid), List.map_id']

end Progress

/-! ## Metadata -/

namespace StoryInfo

/-- The metadata as they are read from a document. -/
def reread (m : StoryInfo) : StoryInfo :=
  { m with extra := m.extra.mapEntries fun _ => Json.reread }

theorem toJson_reread (m : StoryInfo) : m.reread.toJson = m.toJson.reread := by
  have htitle := optionalMember_eq_reread "title" text_eq_reread m.title
  have hextra : (m.extra.mapEntries fun _ => Json.reread).entries =
      rereadMembers m.extra.entries := by
    rw [Json.rereadMembers_eq_map]
    rfl
  rw [toJson, toJson, Json.reread, rereadMembers_append, ← htitle, ← hextra]
  rfl

/-- What was taken from a document is read as what was taken from one. -/
theorem Settled.reread {m : StoryInfo} (hm : m.Settled) : m.reread.Settled := by
  intro e he
  rcases List.mem_map.1 he with ⟨before, hbefore, rfl⟩
  obtain ⟨hkey, hvalue⟩ := hm before hbefore
  exact ⟨hkey, hvalue.reread⟩

end StoryInfo

/-! ## Stories -/

namespace Story

/-- The story as it is read from its document, but for the keys of its sections. -/
def reread (s : Story) : Story where
  info := s.info.reread
  sections := s.sections.mapEntries fun _ => Section.reread
  state := s.state.map Progress.reread

theorem toJson_reread (s : Story) : s.reread.toJson = s.toJson.reread := by
  have hsections := tableToJson_mapEntries SectionId.toKey Section.toJson_reread s.sections
  have hstate := optionalMember_map "state" Progress.toJson_reread s.state
  rw [toJson, toJson, Json.reread, rereadMembers_append, ← hstate]
  exact congrArg (fun members => Json.object (members ++
    optionalMember "state" Progress.toJson (s.state.map Progress.reread)))
    (congrArg₂ (fun info sections => [("meta", info), ("sections", sections)])
      s.info.toJson_reread hsections)

/-- The document of a story is read as the story with its numbers as they are read. -/
theorem ofDocument_toDocument_eq (s : Story) :
    ofDocument s.toDocument = record.read s.reread.toJson.node := by
  rw [ofDocument, toDocument, Json.read_pretty_reread, toJson_reread]

/-- The names of sections are read as they are. -/
theorem ids_reread (s : Story) : s.reread.ids = s.ids :=
  Table.keys_mapEntries s.sections _

/-- A section is found as it is read. -/
theorem section?_reread (s : Story) (id : SectionId) :
    s.reread.section? id = (s.section? id).map Section.reread := by
  rcases Table.exists_find?_mapEntries s.sections (fun _ => Section.reread) id with ⟨_, hfind⟩
  exact hfind

/-- An intact story is read as an intact one. -/
theorem Intact.reread {s : Story} (hs : s.Intact) : s.reread.Intact := by
  have hprogress : s.reread.progress = s.progress.reread := by
    rw [progress, progress, Story.reread]
    cases s.state <;> rfl
  refine ⟨StoryInfo.Settled.reread hs.info, ?_, ?_, ?_⟩
  · rw [ids_reread]
    exact hs.ids
  · intro sec hsec
    rcases List.mem_map.1 hsec with ⟨e, he, rfl⟩
    rcases List.mem_map.1 he with ⟨before, hbefore, rfl⟩
    exact (hs.sections before.2 (List.mem_map_of_mem hbefore)).reread
  · rw [hprogress, Progress.names_reread hs.names]
    exact hs.names

/-- The document of an intact story is read, with its numbers as they are read and text for the keys
of its sections. -/
theorem Intact.ofDocument_toDocument {s : Story} (hs : s.Intact) :
    ofDocument s.toDocument = .ok s.reread.withTextKeys := by
  have hnames : s.reread.references.all Scalar.isName = true :=
    List.all_eq_true.2 hs.reread.references
  rw [ofDocument_toDocument_eq, read_node hs.reread.sound, hnames, Json.accept_true]

end Story

end Gamebook
