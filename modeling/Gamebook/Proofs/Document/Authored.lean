import Gamebook.Proofs.Document.Story
import Gamebook.Story.Authoring

/-!
# Documents of authored stories

A story that was read from a document and edited can be written and read again without a loss, as
long as its edits name sections by integers and text.  The invariant is that the story stays intact:
all that it refers to has a name, all numbers have a text, and what its metadata carry along was
taken from a document.

Main results:

- Theorem `Story.Edit.intact`: an edit keeps a story intact.
- Theorem `Story.Authored.intact`: so every authored story is intact.
- Theorem `Story.Authored.round_trip`: an authored story and its saved game are read from their own
  documents as they are.
-/

namespace Gamebook

/-! ## Sections -/

namespace Section.Intact

variable {s : Section}

/-- A section stays intact with another text. -/
theorem withText (hs : s.Intact) (text : String) : (s.withText text).Intact :=
  ⟨hs.targets, hs.parameters⟩

/-- A section stays intact with other media. -/
theorem withMedia (hs : s.Intact) (media : Option Media) : { s with media }.Intact :=
  ⟨hs.targets, hs.parameters⟩

/-- A section stays intact with a choice that leads to a name. -/
theorem addChoice (hs : s.Intact) {c : Choice} (hc : c.target.isName = true) :
    (s.addChoice c).Intact := by
  refine ⟨?_, hs.parameters⟩
  rw [Section.targets, Section.choices_addChoice, List.map_append]
  exact List.forall_mem_append.2 ⟨hs.targets, List.forall_mem_singleton.2 hc⟩

/-- A section stays intact with some of its choices. -/
theorem of_sublist (hs : s.Intact) {next : Option (List Choice)}
    (hnext : (next.getD []).Sublist s.choices) : { s with next }.Intact := by
  refine ⟨fun id hid => hs.targets id ?_, hs.parameters⟩
  exact (hnext.map Choice.target).subset hid

/-- A section stays intact with the choices that are kept. -/
theorem keepChoices (hs : s.Intact) (keep : Choice → Bool) : (s.keepChoices keep).Intact := by
  apply hs.of_sublist
  have hchoices : (s.next.map (List.filter keep)).getD [] = s.choices.filter keep :=
    Section.choices_keepChoices s keep
  rw [hchoices]
  exact List.filter_sublist

end Section.Intact

namespace Story

/-! ## Edits -/

/-- One step of editing.  New choices lead to integers or text; variables change at will. -/
inductive Edit (s : Story) : Story → Prop where
  | addSection {id : SectionId} {s' : Story} (hedit : s.addSection = .ok (id, s')) : Edit s s'
  | addChoice {id target : SectionId} {text : String} {position : Nat} {s' : Story}
      (htarget : target.isName = true)
      (hedit : s.addChoice id target text = .ok (position, s')) : Edit s s'
  | removeSection {id : SectionId} {sec : Section} {s' : Story}
      (hedit : s.removeSection id = .ok (sec, s')) : Edit s s'
  | removeChoice {id : SectionId} {position : Nat} {c : Choice} {s' : Story}
      (hedit : s.removeChoice id position = .ok (c, s')) : Edit s s'
  | setText {id : SectionId} {text : String} {s' : Story} (hedit : s.setText id text = .ok s') :
      Edit s s'
  | setMedia {id : SectionId} {media : Media} {s' : Story}
      (hedit : s.setMedia id media = .ok s') : Edit s s'
  | clearMedia {id : SectionId} {media : Option Media} {s' : Story}
      (hedit : s.clearMedia id = .ok (media, s')) : Edit s s'
  | setVariables (vars : Variables) : Edit s (s.adjustProgress fun p => { p with vars })

/-- A story that was read from a document and edited any number of times. -/
inductive Authored : Story → Prop where
  | read {text : String} {s : Story} (hread : ofDocument text = .ok s) : Authored s
  | edit {s s' : Story} (hs : Authored s) (hedit : Edit s s') : Authored s'

namespace Intact

variable {s s' : Story}

/-- A story stays intact when a section is changed to an intact one. -/
theorem adjustSection (hs : s.Intact) {id : SectionId} {f : Section → Section}
    (hf : ∀ sec, sec.Intact → (f sec).Intact) : (s.adjustSection id f).Intact := by
  refine ⟨hs.info, ?_, ?_, hs.names⟩
  · intro key hkey
    have hkeys : (s.adjustSection id f).ids = s.ids := Table.keys_adjust s.sections id f
    rw [hkeys] at hkey
    exact hs.ids key hkey
  · intro sec hsec
    rcases List.mem_map.1 hsec with ⟨⟨key, _⟩, hentry, rfl⟩
    rcases Table.mem_mapEntries.1 hentry with ⟨before, hbefore, rfl⟩
    have hintact := hs.sections before (List.mem_map_of_mem hbefore)
    split
    · exact hf before hintact
    · exact hintact

/-- A story stays intact with a section of one empty line under a fresh name. -/
theorem addSection (hs : s.Intact) {id : SectionId} (hedit : s.addSection = .ok (id, s')) :
    s'.Intact := by
  unfold Story.addSection at hedit
  split at hedit
  · next fresh hfresh =>
    cases hedit
    have hid : id.isName = true := by
      unfold freshId? at hfresh
      simp only at hfresh
      split at hfresh <;> cases hfresh
      rfl
    refine ⟨hs.info, ?_, ?_, hs.names⟩
    · intro key hkey
      rcases List.mem_map.1 hkey with ⟨e, he, rfl⟩
      rcases Table.fst_of_mem_insertEntry he with heq | ⟨other, hother, heq⟩
      · rw [heq]
        exact hid
      · rw [← heq]
        exact hs.ids other.1 (List.mem_map_of_mem hother)
    · intro sec hsec
      rcases List.mem_map.1 hsec with ⟨e, he, rfl⟩
      rcases Table.snd_of_mem_insertEntry he with heq | ⟨other, hother, heq⟩
      · rw [heq]
        exact Section.Intact.ofLines [""]
      · rw [← heq]
        exact hs.sections other.2 (List.mem_map_of_mem hother)
  · cases hedit

/-- A story stays intact without a section and the choices that lead to it. -/
theorem removeSection (hs : s.Intact) {id : SectionId} {sec : Section}
    (hedit : s.removeSection id = .ok (sec, s')) : s'.Intact := by
  rcases exists_of_bind_eq_ok hedit with ⟨removed, _, hedit⟩
  cases hedit
  refine ⟨hs.info, ?_, ?_, hs.names⟩
  · intro key hkey
    rcases List.mem_map.1 hkey with ⟨⟨_, _⟩, hentry, rfl⟩
    rcases Table.mem_mapEntries.1 hentry with ⟨before, hbefore, _⟩
    have hkept : (_, before) ∈ s.sections.entries := (List.mem_filter.1 hbefore).1
    exact hs.ids _ (List.mem_map.2 ⟨_, hkept, rfl⟩)
  · intro other hother
    rcases List.mem_map.1 hother with ⟨⟨_, _⟩, hentry, rfl⟩
    rcases Table.mem_mapEntries.1 hentry with ⟨before, hbefore, rfl⟩
    have hintact := hs.sections before (List.mem_map_of_mem (List.mem_filter.1 hbefore).1)
    exact hintact.keepChoices _

end Intact

/-- An edit keeps a story intact. -/
theorem Edit.intact {s s' : Story} (hs : s.Intact) (hedit : Edit s s') : s'.Intact := by
  cases hedit with
  | addSection hedit => exact hs.addSection hedit
  | addChoice htarget hedit =>
    rcases exists_of_bind_eq_ok hedit with ⟨sec, _, hedit⟩
    cases hedit
    exact hs.adjustSection fun _ hsec => hsec.addChoice htarget
  | removeSection hedit => exact hs.removeSection hedit
  | removeChoice hedit =>
    rcases exists_of_bind_eq_ok hedit with ⟨sec, _, hedit⟩
    split at hedit <;> cases hedit
    exact hs.adjustSection fun _ hsec => hsec.of_sublist (List.eraseIdx_sublist _ _)
  | setText hedit =>
    rcases exists_of_bind_eq_ok hedit with ⟨sec, _, hedit⟩
    cases hedit
    exact hs.adjustSection fun _ hsec => hsec.withText _
  | setMedia hedit =>
    rcases exists_of_bind_eq_ok hedit with ⟨sec, _, hedit⟩
    cases hedit
    exact hs.adjustSection fun _ hsec => hsec.withMedia _
  | clearMedia hedit =>
    rcases exists_of_bind_eq_ok hedit with ⟨sec, _, hedit⟩
    cases hedit
    exact hs.adjustSection fun _ hsec => hsec.withMedia none
  | setVariables vars => exact ⟨hs.info, hs.ids, hs.sections, hs.names⟩

/-- An authored story is intact. -/
theorem Authored.intact {s : Story} (hs : s.Authored) : s.Intact := by
  induction hs with
  | read hread => exact intact_of_ofDocument hread
  | edit _ hedit ih => exact hedit.intact ih

/-! ## Round trip -/

/-- An authored story whose numbers read back is read from its document as it is, but for the keys
of its sections, which come back as text; it is the same story and has the same document again.  Its
saved game is read from its own document as it is. -/
theorem Authored.round_trip {s : Story} (hs : s.Authored)
    (hreals : ∀ x ∈ s.toJson.reals, Json.ReadsBack x) :
    (∃ t, ofDocument s.toDocument = .ok t ∧ (t == s) = true ∧ t.toDocument = s.toDocument ∧
        t.info = s.info ∧ t.state = s.state ∧
        t.sections.entries =
          s.sections.entries.map fun e => (Scalar.text e.1.canonical, e.2)) ∧
      SavedGame.ofDocument (SavedGame.capture s).toDocument = .ok (SavedGame.capture s) := by
  have hnames : s.references.all Scalar.isName = true :=
    List.all_eq_true.2 hs.intact.references
  constructor
  · refine ⟨s.withTextKeys, ?_, s.withTextKeys_beq, ?_, rfl, rfl, s.entries_withTextKeys⟩
    · rw [ofDocument_toDocument hs.intact.sound hreals, hnames, Json.accept_true]
    · rw [toDocument, toJson_withTextKeys hs.intact.ids, toDocument]
  · have hprogress : s.progress.names.all Scalar.isName = true :=
      List.all_eq_true.2 hs.intact.names
    rw [SavedGame.ofDocument_toDocument hs.intact.sound
      fun x hx => hreals x (SavedGame.mem_reals_capture hx), hprogress, Json.accept_true]

/-- A story whose only section adds one and a half to the gold. -/
def addingHalf : Story where
  sections := .ofList
    [(.text "1",
      { script := some [{ action := "ADD", parameters := [.text "gold", .number 1.5] }] })]

/-- The story that adds one and a half comes back from its document after it was read and edited. -/
theorem Authored.round_trip_addingHalf :
    (∃ t, ofDocument (addingHalf.setVariable "gold" "3").toDocument = .ok t ∧
        (t == addingHalf.setVariable "gold" "3") = true ∧
        t.toDocument = (addingHalf.setVariable "gold" "3").toDocument ∧
        t.info = {} ∧ t.state = (addingHalf.setVariable "gold" "3").state ∧
        t.sections.entries =
          addingHalf.sections.entries.map fun e => (Scalar.text e.1.canonical, e.2)) ∧
      SavedGame.ofDocument (SavedGame.capture (addingHalf.setVariable "gold" "3")).toDocument =
        .ok (SavedGame.capture (addingHalf.setVariable "gold" "3")) := by
  have hstart : addingHalf.Intact := by
    refine ⟨List.forall_mem_nil _, List.forall_mem_singleton.2 rfl, List.forall_mem_singleton.2 ?_,
      List.forall_mem_nil _⟩
    exact ⟨List.forall_mem_nil _, by decide +kernel⟩
  have hread : ofDocument addingHalf.toDocument = .ok addingHalf :=
    ofDocument_toDocument hstart.sound (by decide +kernel)
  have hs : (addingHalf.setVariable "gold" "3").Authored := .edit (.read hread) (.setVariables _)
  exact hs.round_trip (by decide +kernel)

end Story

end Gamebook
