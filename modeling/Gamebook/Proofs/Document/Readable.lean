import Gamebook.Proofs.Document.Rereading

/-!
# Which documents can be read

A record is read when each of its members is: no member looks at what was read before it.  So a
document can be read exactly when all its parts can, whatever they are read as, and what is changed
in a part that can always be read makes no difference.  Texts are such parts.

Main results:

- Definition `Record.Takes` and theorem `Record.accepts_iff`: a record is read when its members are.
- Theorem `Reader.accepts_table_iff`: a table is read when its values are.
- Theorem `Section.accepts_iff`: whether a section is read does not depend on its text.
- Theorem `Story.readable_iff`: which stories are read from their own documents.
- Theorem `Story.readable_adjustSection`: changes of sections that make no difference to that.
-/

namespace Gamebook

namespace Json

variable {α β γ : Type}

/-! ## Readers that take a value -/

/-- The reader takes what is written for a value. -/
def Reader.Accepts (reader : Reader α) (value : Json) : Prop :=
  ∃ a, reader value.node = .ok a

/-- A reader that gives back what was written takes it. -/
theorem Reader.accepts_of_node {reader : Reader α} {value : Json} {a : α}
    (hvalue : reader value.node = accept true a) : reader.Accepts value :=
  ⟨a, hvalue⟩

/-- A written table is taken when all its values are. -/
theorem Reader.accepts_table_iff {κ κ' : Type} [Ord κ] [Ord κ'] [Std.TransOrd κ']
    {keyText : κ → String} {key : String → κ'} {reader : Reader β} {toJson : α → Json}
    {t : Table κ α} :
    (Reader.table key reader).Accepts (tableToJson keyText toJson t) ↔
      ∀ a ∈ t.values, reader.Accepts (toJson a) := by
  have hfold : ∀ (entries : List (κ × α)) (done : Table κ' β),
      (∃ t', entries.foldlM (fun done e =>
          done.insert (key (keyText e.1)) <$> reader (toJson e.2).node) done = .ok t') ↔
        ∀ e ∈ entries, reader.Accepts (toJson e.2) := by
    intro entries
    induction entries with
    | nil => exact fun done => ⟨fun _ => List.forall_mem_nil _, fun _ => ⟨done, rfl⟩⟩
    | cons e rest ih =>
      intro done
      rw [List.foldlM_cons, List.forall_mem_cons]
      constructor
      · rintro ⟨t', hread⟩
        rcases exists_of_bind_eq_ok hread with ⟨next, hnext, hread⟩
        rcases exists_of_map_eq_ok hnext with ⟨b, hb, -⟩
        exact ⟨⟨b, hb⟩, (ih next).1 ⟨t', hread⟩⟩
      · rintro ⟨⟨b, hb⟩, hrest⟩
        rcases (ih (done.insert (key (keyText e.1)) b)).2 hrest with ⟨t', hread⟩
        refine ⟨t', bind_eq_ok_iff.2 ⟨_, ?_, hread⟩⟩
        rw [hb]
        rfl
  rw [Accepts, table_node_eq_foldlM, Table.values, List.forall_mem_map]
  exact hfold t.entries Table.empty

/-! ## Records -/

namespace Record

variable {r : Record α}

/-- Whether written members are read into the record does not depend on what was read before. -/
def Takes (r : Record α) (members : List (String × Json)) (p : Prop) : Prop :=
  ∀ record, (∃ next, r.placeAll record members = .ok next) ↔ p

/-- A member of a field is read when the reader of the field takes it. -/
theorem takes_field (key : String) {reader : Reader β} {set : α → β → α}
    (hfield : (r.fields.find? fun f => f.name == key) = some (.of key reader set)) (value : Json) :
    r.Takes [(key, value)] (reader.Accepts value) := by
  intro record
  constructor
  · rintro ⟨next, hnext⟩
    rcases exists_of_placeAll_field key hfield hnext with ⟨b, hb, -⟩
    exact ⟨b, hb⟩
  · rintro ⟨b, hb⟩
    have hb : reader value.node = accept true b := hb
    exact ⟨set record b, placeAll_field key hfield hb rfl⟩

/-- A member that may be left out is read when the reader of its field takes what is there. -/
theorem takes_optionalMember (key : String) {reader : Reader β} {set : α → β → α}
    (hfield : (r.fields.find? fun f => f.name == key) = some (.of key reader set))
    (toJson : γ → Json) (o : Option γ) :
    r.Takes (optionalMember key toJson o) (∀ c ∈ o, reader.Accepts (toJson c)) := by
  cases o with
  | none =>
    intro record
    constructor
    · rintro - _ ⟨⟩
    · exact fun _ => ⟨record, rfl⟩
  | some c =>
    intro record
    rw [optionalMember, takes_field key hfield (toJson c) record]
    constructor
    · rintro hc _ ⟨⟩
      exact hc
    · intro hall
      exact hall c rfl

/-- The members of two parts are read when those of both are. -/
theorem Takes.append {members others : List (String × Json)} {p q : Prop}
    (hmembers : r.Takes members p) (hothers : r.Takes others q) :
    r.Takes (members ++ others) (p ∧ q) := by
  intro record
  rw [← hmembers record, placeAll, memberNodes_append, List.foldlM_append]
  constructor
  · rintro ⟨result, hread⟩
    rcases exists_of_bind_eq_ok hread with ⟨next, hnext, hread⟩
    exact ⟨⟨next, hnext⟩, (hothers next).1 ⟨result, hread⟩⟩
  · rintro ⟨⟨next, hnext⟩, hq⟩
    rcases (hothers next).2 hq with ⟨result, hread⟩
    exact ⟨result, bind_eq_ok_iff.2 ⟨next, hnext, hread⟩⟩

/-- A written object is taken when its members are read, where their keys differ and the fields that
must be there are. -/
theorem accepts_iff {members : List (String × Json)} {p : Prop}
    (hkeys : (members.map Prod.fst).Nodup) (hrequired : r.required ⊆ r.named members)
    (hmembers : r.Takes members p) : Reader.Accepts r.read (.object members) ↔ p := by
  rw [Reader.Accepts, read_node hkeys hrequired]
  exact hmembers r.start

end Record

end Json

open Json (Reader Record)

/-! ## Sections -/

namespace Section

/-- A section is read when its media, its choices and its script are; its text always is. -/
theorem accepts_iff (s : Section) :
    Reader.Accepts Section.record.read s.toJson ↔
      (∀ m ∈ s.media, (Reader.optional Media.record.read).Accepts m.toJson) ∧
        (∀ cs ∈ s.next, (Reader.optional (Reader.list Choice.record.read)).Accepts
          (listToJson Choice.toJson cs)) ∧
        ∀ es ∈ s.script, (Reader.optional (Reader.list Step.record.read)).Accepts
          (listToJson Step.toJson es) := by
  have htext := Record.takes_optionalMember (r := Section.record) "text" rfl Json.text s.text
  have hlines := Record.takes_optionalMember (r := Section.record) "text_lines" rfl
    (listToJson Json.text) s.textLines
  have hmedia := Record.takes_optionalMember (r := Section.record) "media" rfl Media.toJson s.media
  have hnext := Record.takes_optionalMember (r := Section.record) "next" rfl
    (listToJson Choice.toJson) s.next
  have hscript := Record.takes_optionalMember (r := Section.record) "script" rfl
    (listToJson Step.toJson) s.script
  have hall := (((htext.append hlines).append hmedia).append hnext).append hscript
  have htexts : ∀ t ∈ s.text, (Reader.optional Reader.text).Accepts (Json.text t) :=
    fun t _ => ⟨some t, rfl⟩
  have htextLines : ∀ ts ∈ s.textLines, (Reader.optional (Reader.list Reader.text)).Accepts
      (listToJson Json.text ts) := by
    intro ts _
    have hlist : Reader.list Reader.text (listToJson Json.text ts).node = Json.accept true ts :=
      Json.list_node_of_forall fun t _ => Json.text_node t
    have hnull : (listToJson Json.text ts).node ≠ .null := by
      intro hnull
      cases hnull
    exact Reader.accepts_of_node (Json.optional_node hnull hlist)
  rw [toJson, Record.accepts_iff (nodup_keys s) (List.nil_subset _) hall, and_iff_right htexts,
    and_iff_right htextLines, and_assoc]

end Section

/-! ## Stories -/

namespace Story

/-- A story is read when its metadata, its sections and its progress are. -/
theorem accepts_iff (s : Story) :
    Reader.Accepts Story.record.read s.toJson ↔
      Reader.Accepts StoryInfo.record.read s.info.toJson ∧
        (∀ sec ∈ s.sections.values, Reader.Accepts Section.record.read sec.toJson) ∧
        ∀ p ∈ s.state, (Reader.optional Progress.record.read).Accepts p.toJson := by
  have hinfo := Record.takes_field (r := Story.record) "meta" rfl s.info.toJson
  have hsections := Record.takes_field (r := Story.record) "sections" rfl
    (tableToJson SectionId.toKey Section.toJson s.sections)
  have hstate := Record.takes_optionalMember (r := Story.record) "state" rfl Progress.toJson s.state
  have hall := (hinfo.append hsections).append hstate
  rw [toJson, Record.accepts_iff (nodup_keys s) (List.nil_subset _) hall, and_assoc,
    Reader.accepts_table_iff]

/-- Some story is read from the document of this one. -/
def Readable (s : Story) : Prop :=
  ∃ u, ofDocument s.toDocument = .ok u

/-- The document of a story can be read when what is written for its metadata, its sections and its
progress can be, with the numbers that they come back as. -/
theorem readable_iff (s : Story) :
    s.Readable ↔
      Reader.Accepts StoryInfo.record.read s.info.reread.toJson ∧
        (∀ sec ∈ s.sections.values, Reader.Accepts Section.record.read sec.reread.toJson) ∧
        ∀ p ∈ s.state.map Progress.reread,
          (Reader.optional Progress.record.read).Accepts p.toJson := by
  have hsections : s.reread.sections.values = s.sections.values.map Section.reread := by
    rw [reread, Table.mapEntries, Table.values, Table.values, List.map_map, List.map_map]
    rfl
  have haccepts := s.reread.accepts_iff
  rw [hsections, List.forall_mem_map] at haccepts
  rw [Readable, ofDocument_toDocument_eq]
  exact haccepts

/-- A change of a section makes no difference to whether the document of the story can be read, if
it makes none to whether sections can be. -/
theorem readable_adjustSection (s : Story) (id : SectionId) {f : Section → Section}
    (hf : ∀ sec, Reader.Accepts Section.record.read (f sec).reread.toJson ↔
      Reader.Accepts Section.record.read sec.reread.toJson) :
    (s.adjustSection id f).Readable ↔ s.Readable := by
  have hvalues : (∀ sec ∈ (s.adjustSection id f).sections.values,
      Reader.Accepts Section.record.read sec.reread.toJson) ↔
      ∀ sec ∈ s.sections.values, Reader.Accepts Section.record.read sec.reread.toJson := by
    rw [adjustSection, Table.adjust, Table.mapEntries, Table.values, Table.values, List.map_map,
      List.forall_mem_map, List.forall_mem_map]
    refine forall₂_congr fun e _ => ?_
    rw [Function.comp_apply]
    dsimp only
    split
    · exact hf e.2
    · exact Iff.rfl
  rw [readable_iff, readable_iff, hvalues]
  rfl

/-- Storing a text makes no difference to whether the document of the story can be read. -/
theorem readable_withText (s : Story) (id : SectionId) (text : String) :
    (s.adjustSection id fun sec => sec.withText text).Readable ↔ s.Readable := by
  apply readable_adjustSection
  intro sec
  rw [Section.accepts_iff, Section.accepts_iff]
  rfl

end Story

end Gamebook
