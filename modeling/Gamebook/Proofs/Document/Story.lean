import Gamebook.Proofs.Document.Section
import Gamebook.Proofs.Scalar

/-!
# Stories and saved games are read as they are written

The parts of a story are read back one by one.  What may be refused are names: a choice, the current
section and the history are written with any scalar, and read with integers and text alone.

Main results:

- Theorem `Story.ofDocument_toDocument`: a sound story is read from its own document, with text for
  the keys of its sections, if the sections that it refers to have names.
- Theorem `SavedGame.ofDocument_toDocument`: so is a saved game.
- Theorem `Story.intact_of_ofDocument`: a story that was read is sound and refers to names.
-/

namespace Gamebook

open Json (Reader Record Field accept)

deriving instance ReflBEq for Choice

deriving instance ReflBEq for Media

deriving instance ReflBEq for Step

deriving instance ReflBEq for Section

deriving instance ReflBEq for Progress

deriving instance ReflBEq for StoryInfo

deriving instance ReflBEq for Story

deriving instance ReflBEq for SavedGame

/-! ## Progress -/

/-- Variables are read as they are written. -/
theorem Variables.reader_node (vars : Variables) :
    Variables.reader vars.toJson.node = accept true vars := by
  have hvars : Variables.reader vars.toJson.node =
      accept (vars.values.all fun _ => true) (.ofList (vars.entries.map fun e => (e.1, e.2))) :=
    Json.table_node fun value _ => Json.text_node value
  have hkeys : (vars.entries.map fun e => (e.1, e.2)) = vars.entries := List.map_id' _
  rw [hvars, hkeys, Table.ofList_entries, List.all_eq_true.2 fun _ _ => rfl]

namespace Progress

/-- The sections that the progress names: the current one and those of the history. -/
def names (p : Progress) : List SectionId :=
  p.current.toList ++ p.history

/-- The members of progress have different keys. -/
theorem nodup_keys (p : Progress) :
    ((optionalMember "current_section" Scalar.toJson p.current ++
      [("history", listToJson Scalar.toJson p.history)] ++
      if p.vars.isEmpty then [] else [("variables", p.vars.toJson)]).map Prod.fst).Nodup := by
  have hvariables : ((if p.vars.isEmpty then [] else [("variables", p.vars.toJson)]).map
      Prod.fst).Sublist ["variables"] := by
    split
    · exact List.nil_sublist _
    · exact List.Sublist.refl _
  have hsublist := ((Record.keys_optionalMember "current_section" Scalar.toJson p.current).append
    (List.Sublist.refl ["history"])).append hvariables
  simp only [List.map_append]
  exact hsublist.nodup (by decide)

/-- Progress is read as it is written, if the sections that it names are integers and text. -/
theorem read_node {p : Progress} (hp : ∀ id ∈ p.names, id.isFinite = true) :
    Progress.record.read p.toJson.node = accept (p.names.all Scalar.isName) p := by
  have hkeys := nodup_keys p
  rcases p with ⟨current, history, vars⟩
  rcases List.forall_mem_append.1 hp with ⟨hcurrent, hhistory⟩
  have hfirst : Progress.record.placeAll {}
        (optionalMember "current_section" Scalar.toJson current) =
      accept (current.toList.all Scalar.isName) { current } := by
    refine Record.placeAll_optionalMember "current_section" rfl ?_ (fun id hid => ?_) rfl rfl
    · rintro rfl
      rfl
    · cases hid
      have hid : id.isFinite = true := hcurrent id (List.mem_singleton_self id)
      have hall : [id].all Scalar.isName = id.isName := Bool.and_true _
      rw [Option.toList_some, hall]
      exact ⟨Scalar.node_ne_null hid, SectionId.reader_node hid⟩
  have hsecond : Progress.record.placeAll { current }
        [("history", listToJson Scalar.toJson history)] =
      accept (history.all Scalar.isName) { current, history } :=
    Record.placeAll_field "history" rfl
      (Json.list_node fun id hid => SectionId.reader_node (hhistory id hid)) rfl
  have hthird : Progress.record.placeAll { current, history }
        (if vars.isEmpty then [] else [("variables", vars.toJson)]) =
      accept true { current, history, vars } := by
    split
    · next hempty =>
      rw [Table.eq_empty_of_isEmpty hempty]
      rfl
    · exact Record.placeAll_field "variables" rfl (Variables.reader_node vars) rfl
  have hall := Record.placeAll_append (Record.placeAll_append hfirst hsecond) hthird
  rw [Bool.and_true, ← List.all_append] at hall
  rw [toJson, Record.read_node hkeys (List.nil_subset _)]
  exact hall

/-- The sections that progress names are integers and text when it was read. -/
theorem yields_read :
    Reader.Yields Progress.record.read fun p => ∀ id ∈ p.names, id.isName = true := by
  refine Record.yields_read (List.forall_mem_nil _) ?_ (Record.keeps_of_skip rfl)
  refine List.forall_mem_cons.2 ⟨?_, List.forall_mem_cons.2 ⟨?_, List.forall_mem_singleton.2 ?_⟩⟩
  · refine Field.keeps_of (Reader.yields_optional SectionId.yields_reader) ?_
    intro p current hp hcurrent
    refine List.forall_mem_append.2 ⟨fun id hid => ?_, (List.forall_mem_append.1 hp).2⟩
    exact hcurrent id (Option.mem_toList.1 hid)
  · refine Field.keeps_of (Reader.yields_list SectionId.yields_reader) ?_
    intro p history hp hhistory
    exact List.forall_mem_append.2 ⟨(List.forall_mem_append.1 hp).1, hhistory⟩
  · exact Field.keeps_of (Reader.yields_true _) fun _ _ hp _ => hp

end Progress

/-! ## Metadata -/

namespace StoryInfo

/-- What is carried along was taken from a document. -/
def Settled (m : StoryInfo) : Prop :=
  ∀ e ∈ m.extra.entries, e.1 ≠ "title" ∧ e.2.Settled depth

/-- The members of metadata have different keys. -/
theorem nodup_keys {m : StoryInfo} (hm : m.Settled) :
    ((optionalMember "title" Json.text m.title ++ m.extra.entries).map Prod.fst).Nodup := by
  have htitle : m.extra.entries.map Prod.fst = m.extra.keys := rfl
  have hsublist := (Record.keys_optionalMember "title" Json.text m.title).append
    (List.Sublist.refl m.extra.keys)
  rw [List.map_append, htitle]
  refine hsublist.nodup (List.nodup_cons.2 ⟨fun hmem => ?_, m.extra.nodup_keys⟩)
  rcases List.mem_map.1 hmem with ⟨e, he, hkey⟩
  exact (hm e he).1 hkey

/-- Members that are carried along are read as they are written. -/
theorem placeAll_extra {entries : List (String × Json)}
    (hentries : ∀ e ∈ entries, e.1 ≠ "title" ∧ e.2.Settled depth) (m : StoryInfo) :
    StoryInfo.record.placeAll m entries =
      accept true { m with extra := entries.foldl (fun t e => t.insert e.1 e.2) m.extra } := by
  induction entries generalizing m with
  | nil => rfl
  | cons e rest ih =>
    rcases e with ⟨key, value⟩
    rcases List.forall_mem_cons.1 hentries with ⟨⟨hkey, hvalue⟩, hrest⟩
    have hfind : (StoryInfo.record.fields.find? fun f => f.name == key) = none :=
      List.find?_eq_none.2 (List.forall_mem_singleton.2 (by simpa [Field.of] using Ne.symm hkey))
    have hplace : StoryInfo.record.place m (some key, value.node) =
        .ok { m with extra := m.extra.insert key value } := by
      rw [Record.place, hfind]
      have hvalue : value.node.toJson? depth = some value := hvalue
      simp only [record, readExtra, hvalue]
    rw [Record.placeAll, Json.memberNodes, List.foldlM_cons, hplace]
    exact ih hrest { m with extra := m.extra.insert key value }

/-- Metadata are read as they are written. -/
theorem read_node {m : StoryInfo} (hm : m.Settled) :
    StoryInfo.record.read m.toJson.node = accept true m := by
  have hkeys := nodup_keys hm
  rcases m with ⟨title, extra⟩
  have htitle : StoryInfo.record.placeAll {} (optionalMember "title" Json.text title) =
      accept true { title } :=
    Record.placeAll_optionalMember "title" rfl (fun _ => rfl)
      (fun t _ => ⟨by nofun, Json.text_node t⟩) rfl rfl
  have hextra := placeAll_extra hm { title }
  have hentries : extra.entries.foldl (fun t e => t.insert e.1 e.2) Table.empty = extra :=
    extra.ofList_entries
  rw [hentries] at hextra
  rw [toJson, Record.read_node hkeys (List.nil_subset _)]
  exact Record.placeAll_append htitle hextra

/-- What is carried along was taken from the document that was read. -/
theorem yields_read : Reader.Yields StoryInfo.record.read Settled := by
  refine Record.yields_read (List.forall_mem_nil _) ?_ ?_
  · exact List.forall_mem_singleton.2 (Field.keeps_of (Reader.yields_true _) fun _ _ hm _ => hm)
  · intro m key n next hfind hm hnext
    have hkey : key ≠ "title" := by
      have hname := List.find?_eq_none.1 hfind _ List.mem_cons_self
      exact fun heq => hname (beq_iff_eq.2 heq.symm)
    have hextra : readExtra m key n = .ok next := hnext
    unfold readExtra at hextra
    split at hextra
    · next value hvalue =>
      cases hextra
      intro e he
      constructor
      · rcases Table.fst_of_mem_insertEntry he with heq | ⟨other, hother, heq⟩
        · rw [heq]
          exact hkey
        · rw [← heq]
          exact (hm other hother).1
      · rcases Table.snd_of_mem_insertEntry he with heq | ⟨other, hother, heq⟩
        · rw [heq]
          exact Json.settled_of_toJson? hvalue
        · rw [← heq]
          exact (hm other hother).2
    · cases hextra

end StoryInfo

/-! ## Stories -/

namespace Story

/-- The sections that a story refers to: the targets of all choices, and what its progress names. -/
def references (s : Story) : List SectionId :=
  s.sections.values.flatMap Section.targets ++ s.progress.names

/-- The story with text for the keys of its sections. -/
def withTextKeys (s : Story) : Story :=
  { s with
    sections := .ofList (s.sections.entries.map fun e => (Scalar.text e.1.canonical, e.2)) }

/-- All that the story holds has a text, and its sections have names. -/
structure Sound (s : Story) : Prop where
  info : s.info.Settled
  ids : ∀ id ∈ s.ids, id.isName = true
  references : ∀ id ∈ s.references, id.isFinite = true
  parameters : ∀ sec ∈ s.sections.values, ∀ p ∈ sec.parameters, p.isFinite = true

/-- The story is as documents have it: all that it refers to has a name. -/
structure Intact (s : Story) : Prop where
  info : s.info.Settled
  ids : ∀ id ∈ s.ids, id.isName = true
  sections : ∀ sec ∈ s.sections.values, sec.Intact
  names : ∀ id ∈ s.progress.names, id.isName = true

/-- An intact story refers to names. -/
theorem Intact.references {s : Story} (hs : s.Intact) : ∀ id ∈ s.references, id.isName = true := by
  refine List.forall_mem_append.2 ⟨fun id hid => ?_, hs.names⟩
  rcases List.mem_flatMap.1 hid with ⟨sec, hsec, hid⟩
  exact (hs.sections sec hsec).targets id hid

/-- An intact story is sound. -/
theorem Intact.sound {s : Story} (hs : s.Intact) : s.Sound where
  info := hs.info
  ids := hs.ids
  references id hid := Scalar.isFinite_of_isName (hs.references id hid)
  parameters sec hsec := (hs.sections sec hsec).parameters

/-- Texts are ordered as the names are that they identify. -/
theorem compare_text_canonical (a b : SectionId) :
    compare (Scalar.text a.canonical) (Scalar.text b.canonical) = compare a b := by
  have hsame : ∀ id : SectionId, (Scalar.text id.canonical == id) = true :=
    fun _ => Scalar.beq_iff.2 rfl
  rw [Scalar.compare_congr (hsame a)]
  exact Std.TransCmp.congr_right (Std.LawfulBEqOrd.compare_eq_iff_beq.2 (hsame b))

/-- The sections with text for their keys stand in the same order. -/
theorem entries_withTextKeys (s : Story) :
    s.withTextKeys.sections.entries =
      s.sections.entries.map fun e => (Scalar.text e.1.canonical, e.2) := by
  apply Table.entries_ofList
  apply List.pairwise_map.2
  apply s.sections.ascending.imp
  intro p q hlt
  rw [compare_text_canonical]
  exact hlt

/-- Keys are the same whether they are text or not. -/
theorem withTextKeys_beq (s : Story) : (s.withTextKeys == s) = true := by
  have hentries : ∀ entries : List (SectionId × Section),
      ((entries.map fun e => (Scalar.text e.1.canonical, e.2)) == entries) = true := by
    intro entries
    induction entries with
    | nil => rfl
    | cons e rest ih =>
      have hkey : (Scalar.text e.1.canonical == e.1) = true := Scalar.beq_iff.2 rfl
      have hentry : ((Scalar.text e.1.canonical, e.2) == e) = true :=
        Bool.and_eq_true_iff.2 ⟨hkey, beq_self_eq_true e.2⟩
      exact Bool.and_eq_true_iff.2 ⟨hentry, ih⟩
  have hsections : (s.withTextKeys.sections == s.sections) = true := by
    have heq := hentries s.sections.entries
    rw [← entries_withTextKeys] at heq
    exact heq
  have hinfo : (s.info == s.info) = true := beq_self_eq_true s.info
  have hstate : (s.state == s.state) = true := beq_self_eq_true s.state
  exact Bool.and_eq_true_iff.2 ⟨hinfo, Bool.and_eq_true_iff.2 ⟨hsections, hstate⟩⟩

/-- The key that is written for a name is the text that identifies it. -/
theorem toKey_of_isName {id : SectionId} (hid : id.isName = true) : id.toKey = id.canonical := by
  cases id with
  | number x => cases hid
  | _ => rfl

/-- The keys that are written for names are no matter of how they are kept. -/
theorem toJson_withTextKeys {s : Story} (hids : ∀ id ∈ s.ids, id.isName = true) :
    s.withTextKeys.toJson = s.toJson := by
  have hsections : tableToJson SectionId.toKey Section.toJson s.withTextKeys.sections =
      tableToJson SectionId.toKey Section.toJson s.sections := by
    rw [tableToJson, tableToJson, entries_withTextKeys, List.map_map]
    apply congrArg Json.object
    apply List.map_congr_left
    intro e he
    have hkey := toKey_of_isName (hids e.1 (List.mem_map_of_mem he))
    exact congrArg (·, e.2.toJson) hkey.symm
  rw [toJson, hsections]
  rfl

/-- The members of a story have different keys. -/
theorem nodup_keys (s : Story) :
    (([("meta", s.info.toJson),
        ("sections", tableToJson SectionId.toKey Section.toJson s.sections)] ++
      optionalMember "state" Progress.toJson s.state).map Prod.fst).Nodup := by
  have hsublist := (List.Sublist.refl ["meta", "sections"]).append
    (Record.keys_optionalMember "state" Progress.toJson s.state)
  rw [List.map_append]
  exact hsublist.nodup (by decide)

/-- A sound story is read as it is written, with text for the keys of its sections, if it refers to
names. -/
theorem read_node {s : Story} (hs : s.Sound) :
    Story.record.read s.toJson.node =
      accept (s.references.all Scalar.isName) s.withTextKeys := by
  have hkeys := nodup_keys s
  rcases List.forall_mem_append.1 hs.references with ⟨htargets, hnames⟩
  have hinfo : Story.record.placeAll {} [("meta", s.info.toJson)] =
      accept true { info := s.info } :=
    Record.placeAll_field "meta" rfl (StoryInfo.read_node hs.info) rfl
  have hread : ∀ sec ∈ s.sections.values,
      Section.record.read sec.toJson.node = accept (sec.targets.all Scalar.isName) sec :=
    fun sec hsec => Section.read_node
      (fun id hid => htargets id (List.mem_flatMap.2 ⟨sec, hsec, hid⟩)) (hs.parameters sec hsec)
  have htable : Reader.table Scalar.text Section.record.read
        (tableToJson SectionId.toKey Section.toJson s.sections).node =
      accept ((s.sections.values.flatMap Section.targets).all Scalar.isName)
        s.withTextKeys.sections := by
    rw [Json.table_node hread, List.all_flatMap]
    apply congrArg (fun entries => accept _ (Table.ofList entries))
    apply List.map_congr_left
    intro e he
    rw [toKey_of_isName (hs.ids e.1 (List.mem_map_of_mem he))]
  have hsections : Story.record.placeAll { info := s.info }
        [("sections", tableToJson SectionId.toKey Section.toJson s.sections)] =
      accept ((s.sections.values.flatMap Section.targets).all Scalar.isName)
        { info := s.info, sections := s.withTextKeys.sections } :=
    Record.placeAll_field "sections" rfl htable rfl
  have hstate : Story.record.placeAll
        { info := s.info, sections := s.withTextKeys.sections }
        (optionalMember "state" Progress.toJson s.state) =
      accept (s.progress.names.all Scalar.isName) s.withTextKeys := by
    refine Record.placeAll_optionalMember "state" rfl ?_ (fun p hp => ⟨by nofun, ?_⟩) rfl rfl
    · intro hnone
      rw [progress, hnone]
      rfl
    · have hprogress : s.progress = p := by rw [progress, hp, Option.getD_some]
      rw [hprogress]
      exact Progress.read_node (hprogress ▸ hnames)
  have hall := Record.placeAll_append (Record.placeAll_append hinfo hsections) hstate
  rw [Bool.true_and, ← List.all_append] at hall
  rw [toJson, Record.read_node hkeys (List.nil_subset _)]
  exact hall

/-- A story that was read is intact. -/
theorem yields_read : Reader.Yields Story.record.read Intact := by
  refine Record.yields_read ⟨List.forall_mem_nil _, List.forall_mem_nil _, List.forall_mem_nil _,
    List.forall_mem_nil _⟩ ?_ (Record.keeps_of_skip rfl)
  refine List.forall_mem_cons.2 ⟨?_, List.forall_mem_cons.2 ⟨?_, List.forall_mem_singleton.2 ?_⟩⟩
  · refine Field.keeps_of StoryInfo.yields_read ?_
    exact fun _ _ hs hinfo => ⟨hinfo, hs.ids, hs.sections, hs.names⟩
  · refine Field.keeps_of (Reader.yields_table (q := fun id => id.isName = true)
      (fun _ => rfl) Section.yields_read) ?_
    exact fun _ _ hs hsections => ⟨hs.info, hsections.1, hsections.2, hs.names⟩
  · refine Field.keeps_of (Reader.yields_optional Progress.yields_read) ?_
    intro s state hs hstate
    refine ⟨hs.info, hs.ids, hs.sections, ?_⟩
    cases state with
    | none => exact List.forall_mem_nil _
    | some p => exact hstate p rfl

/-- A story that was read from a document is intact. -/
theorem intact_of_ofDocument {text : String} {s : Story} (hs : ofDocument text = .ok s) :
    s.Intact := by
  rcases exists_of_bind_eq_ok hs with ⟨t, ht, hs⟩
  split at hs <;> cases hs
  exact yields_read _ _ ht

/-- A sound story is read from its document, if it refers to names and its numbers read back. -/
theorem ofDocument_toDocument {s : Story} (hs : s.Sound)
    (hreals : ∀ x ∈ s.toJson.reals, Json.ReadsBack x) :
    ofDocument s.toDocument = accept (s.references.all Scalar.isName) s.withTextKeys := by
  rw [ofDocument, toDocument, Json.read_pretty _ hreals, read_node hs]

end Story

/-! ## Saved games -/

namespace SavedGame

/-- A saved game is read as it is written, if the sections that it names are integers and text. -/
theorem read_node {g : SavedGame} (hinfo : g.info.Settled)
    (hnames : ∀ id ∈ g.state.names, id.isFinite = true) :
    SavedGame.record.read g.toJson.node = accept (g.state.names.all Scalar.isName) g := by
  have hfirst : SavedGame.record.placeAll {} [("meta", g.info.toJson)] =
      accept true { info := g.info } :=
    Record.placeAll_field "meta" rfl (StoryInfo.read_node hinfo) rfl
  have hsecond : SavedGame.record.placeAll { info := g.info } [("state", g.state.toJson)] =
      accept (g.state.names.all Scalar.isName) g :=
    Record.placeAll_field "state" rfl (Progress.read_node hnames) rfl
  rw [toJson, Record.read_node (by simp) (List.nil_subset _)]
  exact Record.placeAll_append hfirst hsecond

/-- The numbers of a saved game are numbers of the story. -/
theorem mem_reals_capture {s : Story} {x : Float} (hx : x ∈ (capture s).toJson.reals) :
    x ∈ s.toJson.reals := by
  rcases List.mem_append.1 hx with hinfo | hstate
  · exact List.mem_append_left _ hinfo
  · have hprogress : x ∈ s.progress.toJson.reals := by
      rwa [Json.realsOfMembers, Json.realsOfMembers, List.append_nil] at hstate
    cases hkept : s.state with
    | none =>
      -- nothing is kept, and the progress that is saved holds no number
      rw [Story.progress, hkept] at hprogress
      exact nomatch hprogress
    | some p =>
      have heq : s.progress = p := by rw [Story.progress, hkept, Option.getD_some]
      rw [Story.toJson, hkept, ← heq]
      exact List.mem_append_right _ (List.mem_append_right _ hstate)

/-- The progress of a sound story is read from its document, if the sections that it names are
integers and text and the numbers read back. -/
theorem ofDocument_toDocument {s : Story} (hs : s.Sound)
    (hreals : ∀ x ∈ (capture s).toJson.reals, Json.ReadsBack x) :
    ofDocument (capture s).toDocument =
      accept (s.progress.names.all Scalar.isName) (capture s) := by
  rw [ofDocument, toDocument, Json.read_pretty _ hreals]
  exact read_node hs.info (List.forall_mem_append.1 hs.references).2

end SavedGame

end Gamebook
