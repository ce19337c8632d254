import Gamebook.Proofs.Json.Record
import Gamebook.Proofs.Json.Value

/-!
# Sections are read as they are written

Every part of a section is read back from its tree: an absent part is left out and stays absent, an
empty list stays an empty list, and every scalar keeps its kind.  The one exception is a choice
whose target is a number: targets are written as they are, but a number is no name of a section to a
reader, so the section is refused.

Main results:

- Theorem `Scalar.reader_node`: a scalar is read as it is written.
- Theorem `Section.read_node`: so is a section, if its targets are names.
- Theorem `Section.yields_read`: a section that was read is intact, its targets are names.
-/

namespace Gamebook

open Json (Reader Record Field accept)

/-! ## Scalars -/

namespace Scalar

/-- The scalar has a text in documents: it is no number, or a finite one. -/
def isFinite : Scalar → Bool
  | number x => x.isFinite
  | _ => true

/-- The scalar is an integer or text, as a document names sections. -/
def isName : Scalar → Bool
  | number _ => false
  | _ => true

/-- A name is no number, so it is no number without a text. -/
theorem isFinite_of_isName {s : Scalar} (hs : s.isName = true) : s.isFinite = true := by
  cases s with
  | number x => cases hs
  | _ => rfl

/-- A finite number is written as itself. -/
theorem toJson_number {x : Float} (hx : x.isFinite = true) :
    (number x).toJson = .real x hx :=
  dif_pos hx

/-- An integer is written as itself. -/
theorem toJson_int (n : Int64) : ∃ hn, (int n).toJson = .integer n.toInt hn := by
  have hn : Json.IsExact n.toInt := ⟨n.minValue_le_toInt, Int.lt_trans n.toInt_lt (by decide)⟩
  exact ⟨hn, dif_pos hn⟩

/-- A scalar that has a text is not written as null. -/
theorem node_ne_null {s : Scalar} (hs : s.isFinite = true) : s.toJson.node ≠ .null := by
  cases s with
  | int n =>
    rcases toJson_int n with ⟨hn, heq⟩
    rw [heq]
    exact fun h => nomatch h
  | number x =>
    rw [toJson_number hs]
    exact fun h => nomatch h
  | text t => exact fun h => nomatch h

/-- A scalar is read as it is written. -/
theorem reader_node {s : Scalar} (hs : s.isFinite = true) : reader s.toJson.node = .ok s := by
  cases s with
  | int n =>
    rcases toJson_int n with ⟨hn, heq⟩
    have hle : n.toInt ≤ Int64.maxValue.toInt := Int64.le_iff_toInt_le.1 n.le_maxValue
    rw [heq, Json.node, reader, if_pos hle, Int64.ofInt_toInt]
  | number x =>
    rw [toJson_number hs]
    rfl
  | text t => rfl

/-- Numbers that are read are finite. -/
theorem yields_reader : Reader.Yields reader fun s => s.isFinite = true := by
  intro n s hs
  unfold reader at hs
  split at hs
  · split at hs <;> cases hs
    · rfl
    · exact Finite.isFinite_toFloat _
  · next x hx =>
    cases hs
    exact hx
  · cases hs
    rfl
  · cases hs

end Scalar

namespace SectionId

/-- The name of a section is read as it is written, and a number is refused. -/
theorem reader_node {id : SectionId} (hid : id.isFinite = true) :
    SectionId.reader id.toJson.node = accept id.isName id := by
  rw [SectionId.reader, Scalar.reader_node hid]
  cases id <;> rfl

/-- What is read where a section is named is a name. -/
theorem yields_reader : Reader.Yields SectionId.reader fun id => id.isName = true := by
  intro n id hid
  rcases exists_of_bind_eq_ok hid with ⟨s, _, hid⟩
  cases s <;> cases hid <;> rfl

end SectionId

/-! ## Parts of a section -/

/-- A choice is read as it is written, if its target is a name. -/
theorem Choice.read_node {c : Choice} (hc : c.target.isFinite = true) :
    Choice.record.read c.toJson.node = accept c.target.isName c := by
  have htext : Choice.record.placeAll Choice.record.start [("text", .text c.text)] =
      accept true { text := c.text, target := .int 0 } :=
    Record.placeAll_field "text" rfl (Json.text_node c.text) rfl
  have hnext : Choice.record.placeAll { text := c.text, target := .int 0 }
      [("next", c.target.toJson)] = accept c.target.isName c :=
    Record.placeAll_field "next" rfl (SectionId.reader_node hc) rfl
  rw [toJson, Record.read_node (by simp) (by simp [record, Record.named, Field.of])]
  exact Record.placeAll_append htext hnext

/-- Media are read as they are written. -/
theorem Media.read_node (m : Media) : Media.record.read m.toJson.node = accept true m := by
  have hkind : Media.record.placeAll Media.record.start [("type", .text m.kind)] =
      accept true { kind := m.kind, source := "" } :=
    Record.placeAll_field "type" rfl (Json.text_node m.kind) rfl
  have hsource : Media.record.placeAll { kind := m.kind, source := "" }
      [("src", .text m.source)] = accept true m :=
    Record.placeAll_field "src" rfl (Json.text_node m.source) rfl
  rw [toJson, Record.read_node (by simp) (List.nil_subset _)]
  exact Record.placeAll_append hkind hsource

/-- A step of a script is read as it is written. -/
theorem Step.read_node {e : Step} (he : ∀ p ∈ e.parameters, p.isFinite = true) :
    Step.record.read e.toJson.node = accept true e := by
  have haction : Step.record.placeAll Step.record.start [("action", .text e.action)] =
      accept true { action := e.action, parameters := [] } :=
    Record.placeAll_field "action" rfl (Json.text_node e.action) rfl
  have hlist : Reader.list Scalar.reader (listToJson Scalar.toJson e.parameters).node =
      accept true e.parameters :=
    Json.list_node_of_forall fun p hp => Scalar.reader_node (he p hp)
  have hparameters : Step.record.placeAll { action := e.action, parameters := [] }
      [("parameters", listToJson Scalar.toJson e.parameters)] = accept true e :=
    Record.placeAll_field "parameters" rfl hlist rfl
  rw [toJson, Record.read_node (by simp) (by simp [record, Record.named, Field.of])]
  exact Record.placeAll_append haction hparameters

/-! ## Sections -/

namespace Section

/-- The sections that the choices lead to. -/
def targets (s : Section) : List SectionId :=
  s.choices.map Choice.target

/-- The parameters of all steps. -/
def parameters (s : Section) : List Scalar :=
  s.steps.flatMap Step.parameters

/-- The choices lead to names, and all parameters have a text. -/
structure Intact (s : Section) : Prop where
  targets : ∀ id ∈ s.targets, id.isName = true
  parameters : ∀ p ∈ s.parameters, p.isFinite = true

/-- Lines of text refer to nothing. -/
theorem Intact.ofLines (lines : List String) : (Section.ofLines lines).Intact where
  targets := List.forall_mem_nil _
  parameters := List.forall_mem_nil _

/-- The members of a section have different keys. -/
theorem nodup_keys (s : Section) :
    ((optionalMember "text" Json.text s.text ++
      optionalMember "text_lines" (listToJson Json.text) s.textLines ++
      optionalMember "media" Media.toJson s.media ++
      optionalMember "next" (listToJson Choice.toJson) s.next ++
      optionalMember "script" (listToJson Step.toJson) s.script).map Prod.fst).Nodup := by
  have hsublist := ((((Record.keys_optionalMember "text" Json.text s.text).append
    (Record.keys_optionalMember "text_lines" (listToJson Json.text) s.textLines)).append
    (Record.keys_optionalMember "media" Media.toJson s.media)).append
    (Record.keys_optionalMember "next" (listToJson Choice.toJson) s.next)).append
    (Record.keys_optionalMember "script" (listToJson Step.toJson) s.script)
  simp only [List.map_append]
  exact hsublist.nodup (by decide)

/-- A section is read as it is written, if the targets of its choices are names. -/
theorem read_node {s : Section} (htargets : ∀ id ∈ s.targets, id.isFinite = true)
    (hparameters : ∀ p ∈ s.parameters, p.isFinite = true) :
    Section.record.read s.toJson.node = accept (s.targets.all Scalar.isName) s := by
  have hkeys := nodup_keys s
  rcases s with ⟨text, textLines, media, next, script⟩
  have htext : Section.record.placeAll {} (optionalMember "text" Json.text text) =
      accept true { text } :=
    Record.placeAll_optionalMember "text" rfl (fun _ => rfl)
      (fun t _ => ⟨by nofun, Json.text_node t⟩) rfl rfl
  have hlines : Section.record.placeAll { text }
        (optionalMember "text_lines" (listToJson Json.text) textLines) =
      accept true { text, textLines } :=
    Record.placeAll_optionalMember "text_lines" rfl (fun _ => rfl)
      (fun _ _ => ⟨by nofun, Json.list_node_of_forall fun t _ => Json.text_node t⟩) rfl rfl
  have hmedia : Section.record.placeAll { text, textLines }
        (optionalMember "media" Media.toJson media) =
      accept true { text, textLines, media } :=
    Record.placeAll_optionalMember "media" rfl (fun _ => rfl)
      (fun m _ => ⟨by nofun, m.read_node⟩) rfl rfl
  have hnext : Section.record.placeAll { text, textLines, media }
        (optionalMember "next" (listToJson Choice.toJson) next) =
      accept (((next.getD []).map Choice.target).all Scalar.isName)
        { text, textLines, media, next } := by
    refine Record.placeAll_optionalMember "next" rfl ?_ (fun cs hcs => ⟨by nofun, ?_⟩) rfl rfl
    · rintro rfl
      rfl
    · cases hcs
      rw [Option.getD_some, List.all_map]
      exact Json.list_node fun c hc => Choice.read_node (htargets _ (List.mem_map_of_mem hc))
  have hscript : Section.record.placeAll { text, textLines, media, next }
        (optionalMember "script" (listToJson Step.toJson) script) =
      accept true { text, textLines, media, next, script } := by
    refine Record.placeAll_optionalMember "script" rfl (fun _ => rfl)
      (fun es hes => ⟨by nofun, Json.list_node_of_forall fun e he => ?_⟩) rfl rfl
    cases hes
    exact Step.read_node fun p hp => hparameters p (List.mem_flatMap.2 ⟨e, he, hp⟩)
  have hall := Record.placeAll_append (Record.placeAll_append (Record.placeAll_append
    (Record.placeAll_append htext hlines) hmedia) hnext) hscript
  simp only [Bool.true_and, Bool.and_true] at hall
  rw [toJson, Record.read_node hkeys (List.nil_subset _)]
  exact hall

/-- A section that was read is intact. -/
theorem yields_read : Reader.Yields Section.record.read Intact := by
  have hchoice : Reader.Yields Choice.record.read fun c => c.target.isName = true := by
    refine Record.yields_read rfl ?_ (Record.keeps_of_skip rfl)
    refine List.forall_mem_cons.2 ⟨?_, List.forall_mem_singleton.2 ?_⟩
    · exact Field.keeps_of (Reader.yields_true _) fun _ _ hc _ => hc
    · exact Field.keeps_of SectionId.yields_reader fun _ _ _ hid => hid
  have hstep : Reader.Yields Step.record.read fun e => ∀ p ∈ e.parameters, p.isFinite = true := by
    refine Record.yields_read (List.forall_mem_nil _) ?_ (Record.keeps_of_skip rfl)
    refine List.forall_mem_cons.2 ⟨?_, List.forall_mem_singleton.2 ?_⟩
    · exact Field.keeps_of (Reader.yields_true _) fun _ _ he _ => he
    · exact Field.keeps_of (Reader.yields_list Scalar.yields_reader) fun _ _ _ hps => hps
  refine Record.yields_read ⟨List.forall_mem_nil _, List.forall_mem_nil _⟩ ?_
    (Record.keeps_of_skip rfl)
  refine List.forall_mem_cons.2 ⟨?_, List.forall_mem_cons.2 ⟨?_, List.forall_mem_cons.2 ⟨?_,
    List.forall_mem_cons.2 ⟨?_, List.forall_mem_singleton.2 ?_⟩⟩⟩⟩
  · exact Field.keeps_of (Reader.yields_true _) fun _ _ hs _ => ⟨hs.targets, hs.parameters⟩
  · exact Field.keeps_of (Reader.yields_true _) fun _ _ hs _ => ⟨hs.targets, hs.parameters⟩
  · exact Field.keeps_of (Reader.yields_true _) fun _ _ hs _ => ⟨hs.targets, hs.parameters⟩
  · refine Field.keeps_of (Reader.yields_optional (Reader.yields_list hchoice)) ?_
    intro s next hs hnext
    refine ⟨List.forall_mem_map.2 ?_, hs.parameters⟩
    cases next with
    | none => exact List.forall_mem_nil _
    | some cs => exact hnext cs rfl
  · refine Field.keeps_of (Reader.yields_optional (Reader.yields_list hstep)) ?_
    intro s script hs hscript
    refine ⟨hs.targets, fun p hp => ?_⟩
    rcases List.mem_flatMap.1 hp with ⟨e, he, hmem⟩
    cases script with
    | none => exact nomatch he
    | some es => exact hscript es rfl e he p hmem

end Section

end Gamebook
