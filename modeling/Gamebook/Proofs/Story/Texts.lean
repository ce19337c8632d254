import Gamebook.Proofs.Document.Readable
import Gamebook.Proofs.Story.Carrying

/-!
# Texts that are stored

A text is stored as its lines.  Splitting a text at its line breaks and joining the lines are
inverse on every text, and lines come before a text in one piece, so nothing of an old text shows
through, in the story or in what is read from its document.

Main results:

- Theorem `Text.length_lines`: a text has one more line than it has line breaks.
- Definition `Section.Shows`: a section that holds a text as its lines.
- Theorem `Section.shows_of_read`: it is read from a document with that text.
- Definition `Story.KeysDiffer`: different sections are written under different keys.
- Theorem `Story.exists_section?_of_read`: where the sections of a story are that was read.
- Theorem `Story.setText_stores`: what it is to store a text.
- Theorem `Story.setText_lost_by_number`: when a text that was stored is not read again.
-/

namespace Gamebook

/-! ## Lines -/

namespace Text

/-- A line does not go on behind a line break. -/
theorem newline_not_mem_splitLines (cs : List Char) : ∀ line ∈ splitLines cs, '\n' ∉ line := by
  induction cs with
  | nil => exact List.forall_mem_singleton.2 List.not_mem_nil
  | cons c rest ih =>
    rw [splitLines]
    split
    · exact List.forall_mem_cons.2 ⟨List.not_mem_nil, ih⟩
    · next hc =>
      split
      · exact List.forall_mem_singleton.2 fun hmem => hc (List.mem_singleton.1 hmem).symm
      · next line lines hsplit =>
        rw [hsplit] at ih
        rcases List.forall_mem_cons.1 ih with ⟨hline, hlines⟩
        refine List.forall_mem_cons.2 ⟨fun hmem => ?_, hlines⟩
        rcases List.mem_cons.1 hmem with heq | hmem
        · exact hc heq.symm
        · exact hline hmem

/-- There is one more line than there are line breaks. -/
theorem length_splitLines (cs : List Char) : (splitLines cs).length = cs.count '\n' + 1 := by
  induction cs with
  | nil => rfl
  | cons c rest ih =>
    rw [splitLines]
    split
    · next hc => rw [hc, List.length_cons, ih, List.count_cons_self]
    · next hc =>
      rw [List.count_cons_of_ne hc]
      split
      · next hsplit => exact absurd hsplit (splitLines_ne_nil rest)
      · next line lines hsplit =>
        rw [hsplit] at ih
        exact ih

/-- The lines of a text have no line breaks. -/
theorem newline_not_mem_lines (text : String) : ∀ line ∈ lines text, '\n' ∉ line.toList := by
  intro line hline
  rcases List.mem_map.1 hline with ⟨cs, hcs, rfl⟩
  rw [String.toList_ofList]
  exact newline_not_mem_splitLines text.toList cs hcs

/-- A text has one more line than it has line breaks. -/
theorem length_lines (text : String) : (lines text).length = text.toList.count '\n' + 1 := by
  rw [lines, List.length_map, length_splitLines]

end Text

/-! ## Sections -/

namespace Section

/-- The section holds a text as lines and not in one piece: there is one more line than there are
line breaks in the text, and none of them goes on behind a line break. -/
structure Shows (s : Section) (text : String) : Prop where
  text_eq_none : s.text = none
  lines : ∃ lines, s.textLines = some lines ∧ (∀ line ∈ lines, '\n' ∉ line.toList) ∧
    lines.length = text.toList.count '\n' + 1
  rawText : s.rawText = text

/-- The lines of a text show it, whatever else there is in the section. -/
theorem shows_of_lines {s : Section} {text : String} (htext : s.text = none)
    (hlines : s.textLines = some (Text.lines text)) : s.Shows text where
  text_eq_none := htext
  lines := ⟨_, hlines, Text.newline_not_mem_lines text, Text.length_lines text⟩
  rawText := by
    rw [Section.rawText, hlines]
    exact Text.unlines_lines text

/-- What does not touch the text of a section does not change what it shows. -/
theorem Shows.of_eq {s s' : Section} {text : String} (hs : s.Shows text) (htext : s'.text = s.text)
    (hlines : s'.textLines = s.textLines) : s'.Shows text where
  text_eq_none := htext.trans hs.text_eq_none
  lines := hlines ▸ hs.lines
  rawText := by
    rw [← hs.rawText, Section.rawText, Section.rawText, htext, hlines]

open Json (Record accept) in
/-- A section that was written with a text is read with that text, whatever becomes of its other
parts. -/
theorem shows_of_read {s read : Section} {text : String}
    (hread : Section.record.read (s.withText text).toJson.node = .ok read) : read.Shows text := by
  rw [toJson, Record.read_node (nodup_keys _) (List.nil_subset _)] at hread
  rcases Record.exists_of_placeAll_append hread with ⟨third, hread, hscript⟩
  rcases Record.exists_of_placeAll_append hread with ⟨second, hread, hnext⟩
  rcases Record.exists_of_placeAll_append hread with ⟨first, hread, hmedia⟩
  have hlines : Section.record.placeAll {}
        (optionalMember "text_lines" (listToJson Json.text) (some (Text.lines text))) =
      accept true { textLines := some (Text.lines text) } := by
    refine Record.placeAll_optionalMember "text_lines" rfl (fun _ => rfl) (fun _ _ => ⟨?_, ?_⟩)
      rfl rfl
    · intro hnull
      cases hnull
    · exact Json.list_node_of_forall fun t _ => Json.text_node t
  have hfirst : first = { textLines := some (Text.lines text) } :=
    Except.ok.inj (hread.symm.trans hlines)
  have hfirst : first.Shows text := by
    rw [hfirst]
    exact shows_of_lines rfl rfl
  have hsecond := Record.of_placeAll_optionalMember "media" rfl hmedia
    (p := fun s => s.Shows text) hfirst fun _ => hfirst.of_eq rfl rfl
  have hthird := Record.of_placeAll_optionalMember "next" rfl hnext
    (p := fun s => s.Shows text) hsecond fun _ => hsecond.of_eq rfl rfl
  exact Record.of_placeAll_optionalMember "script" rfl hscript
    (p := fun s => s.Shows text) hthird fun _ => hthird.of_eq rfl rfl

end Section

/-! ## Stories -/

namespace Story

open Json (Reader Record accept)

/-- The table of sections is read from what was written for it, whatever else there is in the
story. -/
theorem table_of_read {s u : Story} (hread : Story.record.read s.toJson.node = .ok u) :
    Reader.table Scalar.text Section.record.read
      (tableToJson SectionId.toKey Section.toJson s.sections).node = .ok u.sections := by
  rw [toJson, Record.read_node (nodup_keys s) (List.nil_subset _)] at hread
  rcases Record.exists_of_placeAll_append hread with ⟨second, hread, hstate⟩
  rw [← List.singleton_append] at hread
  rcases Record.exists_of_placeAll_append hread with ⟨first, -, hsections⟩
  rcases Record.exists_of_placeAll_field "sections" rfl hsections with ⟨table, htable, rfl⟩
  have hkept := Record.of_placeAll_optionalMember "state" rfl hstate
    (p := fun u => u.sections = table) rfl fun _ => rfl
  rw [hkept]
  exact htable

/-- Nothing is found in the story that was read under a name that no key was written for. -/
theorem section?_eq_none_of_read {s u : Story} (hread : Story.record.read s.toJson.node = .ok u)
    {id : SectionId} (hid : ∀ key ∈ s.ids, (id == .text key.toKey) = false) :
    u.section? id = none := by
  rw [section?, Option.eq_none_iff_forall_ne_some]
  intro read hfound
  rcases Table.exists_mem_of_find? hfound with ⟨key, hentry, heq⟩
  rcases Json.exists_of_mem_keys_table_node (table_of_read hread) (List.mem_map_of_mem hentry) with
    ⟨written, hwritten, rfl⟩
  exact Bool.false_ne_true
    ((hid written hwritten).symm.trans (Std.LawfulBEqOrd.compare_eq_iff_beq.1 heq))

/-- Different sections are written under different keys. -/
def KeysDiffer (s : Story) : Prop :=
  ∀ key ∈ s.ids, ∀ other ∈ s.ids, key.toKey = other.toKey → (key == other) = true

/-- Integers and texts are written as different keys. -/
theorem keysDiffer_of_isName {s : Story} (hids : ∀ key ∈ s.ids, key.isName = true) :
    s.KeysDiffer := by
  intro key hkey other hother heq
  rw [toKey_of_isName (hids key hkey), toKey_of_isName (hids other hother)] at heq
  exact Scalar.beq_iff.2 heq

/-- A section is found in the story that was read under the key that was written for it, as it was
read itself. -/
theorem exists_section?_of_read {s u : Story} (hkeys : s.KeysDiffer)
    (hread : Story.record.read s.toJson.node = .ok u) {id : SectionId} {sec : Section}
    (hsec : s.section? id = some sec) :
    ∃ key ∈ s.ids, (key == id) = true ∧
      ∃ read, Section.record.read sec.toJson.node = .ok read ∧
        u.section? (.text key.toKey) = some read := by
  have hapart : ∀ k ∈ s.sections.keys, ∀ l ∈ s.sections.keys,
      compare (Scalar.text k.toKey) (Scalar.text l.toKey) = .eq → compare k l = .eq := by
    intro k hk l hl heq
    have htext : k.toKey = l.toKey := Scalar.beq_iff.1 (Std.LawfulBEqOrd.compare_eq_iff_beq.1 heq)
    exact Std.LawfulBEqOrd.compare_eq_iff_beq.2 (hkeys k hk l hl htext)
  rcases Table.exists_mem_of_find? hsec with ⟨key, hentry, hid⟩
  rcases Json.find?_of_table_node hapart (table_of_read hread) hentry with ⟨read, hvalue, hfound⟩
  have hsame : (key == id) = true :=
    Scalar.beq_iff.2 (Scalar.beq_iff.1 (Std.LawfulBEqOrd.compare_eq_iff_beq.1 hid)).symm
  exact ⟨key, List.mem_map_of_mem hentry, hsame, read, hvalue, hfound⟩

section Stored

variable {s : Story} {id : SectionId} {sec : Section}

/-- A text is stored where there is a section. -/
theorem setText_of_section? (hsec : s.section? id = some sec) (text : String) :
    s.setText id text = .ok (s.adjustSection id fun sec => sec.withText text) ∧
      (s.adjustSection id fun sec => sec.withText text).section? id = some (sec.withText text) := by
  constructor
  · rw [setText, requireSection, hsec]
    rfl
  · have hfind := Table.find?_adjust s.sections id id fun sec => sec.withText text
    simp only [Std.ReflOrd.compare_self, if_true] at hfind
    rw [section?, adjustSection, hfind]
    exact congrArg _ hsec

/-- Storing what a section shows leaves what all sections show. -/
theorem rawText_of_setText_rawText {again : Story} (hsec : s.section? id = some sec)
    (hagain : s.setText id sec.rawText = .ok again) (other : SectionId) :
    (again.section? other).map Section.rawText = (s.section? other).map Section.rawText := by
  cases (setText_of_section? hsec sec.rawText).1.symm.trans hagain
  have hfind := Table.find?_adjust s.sections id other fun sec' => sec'.withText sec.rawText
  rw [section?, adjustSection, hfind, section?]
  cases hother : s.sections.find? other with
  | none => rfl
  | some found =>
    rw [Option.map_some, Option.map_some, Option.map_some]
    split
    · next heq =>
      -- both names are those of one section
      have hsame : some sec = some found := by
        rw [← hsec, ← hother, section?, Table.find?_congr _ heq]
      rw [Section.rawText_withText, Option.some.inj hsame]
    · rfl

/-- A text that is stored is read with its section, under the key that was written for it. -/
theorem exists_shows_of_read {u : Story} {text : String} (hsec : s.section? id = some sec)
    (hkeys : s.KeysDiffer)
    (hread : ofDocument (s.adjustSection id fun sec => sec.withText text).toDocument = .ok u) :
    ∃ key ∈ s.ids, (key == id) = true ∧
      ∃ read, u.section? (.text key.toKey) = some read ∧ read.Shows text := by
  have hids : (s.adjustSection id fun sec => sec.withText text).reread.ids = s.ids :=
    (ids_reread _).trans (Table.keys_adjust s.sections id _)
  have hreread : (s.adjustSection id fun sec => sec.withText text).reread.section? id =
      some (sec.reread.withText text) := by
    rw [section?_reread, (setText_of_section? hsec text).2, Option.map_some,
      Section.reread_withText]
  rw [ofDocument_toDocument_eq] at hread
  rw [KeysDiffer, ← hids] at hkeys
  rcases exists_section?_of_read hkeys hread hreread with ⟨key, hkey, hid, read, hread, hsection⟩
  exact ⟨key, hids ▸ hkey, hid, read, hsection, Section.shows_of_read hread⟩

/-- Where sections are named by integers and texts, a text that is stored is read under the name of
its section. -/
theorem exists_section?_shows_of_read {u : Story} {text : String} (hsec : s.section? id = some sec)
    (hids : ∀ key ∈ s.ids, key.isName = true)
    (hread : ofDocument (s.adjustSection id fun sec => sec.withText text).toDocument = .ok u) :
    ∃ read, u.section? id = some read ∧ read.Shows text := by
  rcases exists_shows_of_read hsec (keysDiffer_of_isName hids) hread with
    ⟨key, hkey, hid, read, hsection, hshows⟩
  have hname : compare id (Scalar.text key.toKey) = .eq := by
    rw [toKey_of_isName (hids key hkey)]
    exact Std.LawfulBEqOrd.compare_eq_iff_beq.2 (Scalar.beq_iff.2 (Scalar.beq_iff.1 hid).symm)
  rw [section?, ← Table.find?_congr _ hname] at hsection
  exact ⟨read, hsection, hshows⟩

/-- The document of an intact story in which a text was stored can be read, with that text. -/
theorem Intact.exists_shows_of_read (hs : s.Intact) (hsec : s.section? id = some sec)
    (text : String) :
    ∃ u read, ofDocument (s.adjustSection id fun sec => sec.withText text).toDocument = .ok u ∧
      u.section? id = some read ∧ read.Shows text := by
  have hedited : (s.adjustSection id fun sec => sec.withText text).Intact :=
    hs.adjustSection fun _ hsec => hsec.withText text
  have hdocument := hedited.ofDocument_toDocument
  rcases exists_section?_shows_of_read hsec hs.ids hdocument with ⟨read, hsection, hshows⟩
  exact ⟨_, read, hdocument, hsection, hshows⟩

end Stored

/-- Storing a text in a section that is there changes nothing but the text of that section: from
then on it is the text, kept as its lines, whatever text was there before.  Storing what a section
shows leaves what all sections show.

Whether the document of the story can be read does not depend on the text.  Where it can, the
section has the text in the story that is read: under its name if sections are named by integers and
texts, and under the key that was written for it if only different sections are written under
different keys.  The document of an intact story, such as one that was read and edited, can be
read. -/
theorem setText_stores {s : Story} {id : SectionId} {sec : Section}
    (hsec : s.section? id = some sec) (text : String) :
    ∃ s' kept, s.setText id text = .ok s' ∧ s'.section? id = some kept ∧ kept.Shows text ∧
      (kept.media = sec.media ∧ kept.next = sec.next ∧ kept.script = sec.script) ∧
      s'.ids = s.ids ∧ CarriesOver (fun sec => sec) id s s' ∧
      (∃ again, s.setText id sec.rawText = .ok again ∧
        ∀ other, (again.section? other).map Section.rawText =
          (s.section? other).map Section.rawText) ∧
      (s'.Readable ↔ s.Readable) ∧
      ((∀ key ∈ s.ids, key.isName = true) → ∀ u, ofDocument s'.toDocument = .ok u →
        ∃ read, u.section? id = some read ∧ read.Shows text) ∧
      (s.KeysDiffer → ∀ u, ofDocument s'.toDocument = .ok u →
        ∃ key ∈ s.ids, (key == id) = true ∧
          ∃ read, u.section? (.text key.toKey) = some read ∧ read.Shows text) ∧
      (s.Intact → ∃ u read, ofDocument s'.toDocument = .ok u ∧ u.section? id = some read ∧
        read.Shows text) := by
  obtain ⟨hstored, hfound⟩ := setText_of_section? hsec text
  have hids : (s.adjustSection id fun sec => sec.withText text).ids = s.ids :=
    Table.keys_adjust s.sections id _
  refine ⟨_, sec.withText text, hstored, hfound, Section.shows_of_lines rfl rfl, ⟨rfl, rfl, rfl⟩,
    hids, carriesOver_adjustSection s id _, ?_, readable_withText s id text,
    fun hids u => exists_section?_shows_of_read hsec hids,
    fun hkeys u => exists_shows_of_read hsec hkeys, fun hs => hs.exists_shows_of_read hsec text⟩
  have hagain := (setText_of_section? hsec sec.rawText).1
  exact ⟨_, hagain, rawText_of_setText_rawText hsec hagain⟩

/-- A hall with a text in one piece and a script that adds one and a half to the gold. -/
def oldHall : Section where
  text := some "An old hall."
  script := some [{ action := "ADD", parameters := [.text "gold", .number 1.5] }]

/-- A story of the hall alone. -/
def ofOldHall : Story where
  sections := .ofList [(.text "1", oldHall)]

/-- The hall is given a text that begins and ends with empty lines, and has it when the story is
read again. -/
theorem setText_stores_ofOldHall :
    ∃ s' u read, ofOldHall.setText (.int 1) "\nA new hall.\n\n" = .ok s' ∧
      ofDocument s'.toDocument = .ok u ∧ u.section? (.int 1) = some read ∧
      read.Shows "\nA new hall.\n\n" := by
  have hintact : ofOldHall.Intact := by
    refine ⟨List.forall_mem_nil _, List.forall_mem_singleton.2 rfl, List.forall_mem_singleton.2 ?_,
      List.forall_mem_nil _⟩
    exact ⟨List.forall_mem_nil _, by decide +kernel⟩
  have hsec : ofOldHall.section? (.int 1) = some oldHall := rfl
  rcases setText_stores hsec "\nA new hall.\n\n" with
    ⟨s', _, hstored, _, _, _, _, _, _, _, _, _, hread⟩
  rcases hread hintact with ⟨u, read, hu, hsection, hshows⟩
  exact ⟨s', u, read, hstored, hu, hsection, hshows⟩

/-- A story whose first section has a choice that its script added.  The choice leads to a number,
which is no name of a section to a reader. -/
def forkToNumber : Story where
  info := { title := some "Cave" }
  sections := .ofList
    [(.text "1",
      { textLines := some ["A fork.", ""]
        next := some [{ text := "Go", target := .number 2 }]
        script := some [{ action := "ADD_CHOICE", parameters := [.number 2, .text "Go"] }] }),
     (.text "2", { text := some "End" })]
  state := some { current := some (.text "1") }

/-- A story with a number for the name of its section, which is written as another text than the one
that identifies it. -/
def namedByNumber : Story where
  sections := .ofList [(.number 2, Section.ofLines ["A hall."])]

/-- The document of the fork cannot be read. -/
theorem not_readable_forkToNumber : ¬forkToNumber.Readable := by
  have hsound : forkToNumber.Sound := by
    refine ⟨List.forall_mem_nil _, ?_, ?_, ?_⟩ <;> decide +kernel
  have hreals : ∀ x ∈ forkToNumber.toJson.reals, Json.ReadsBack x := by decide +kernel
  rintro ⟨u, hu⟩
  rw [ofDocument_toDocument hsound hreals, Json.accept_eq_ok_iff] at hu
  exact absurd hu.1 (by decide +kernel)

/-- The document of the other story can be read. -/
theorem readable_namedByNumber : namedByNumber.Readable := by
  refine (readable_iff _).2 ⟨⟨_, rfl⟩, List.forall_mem_singleton.2 ⟨_, rfl⟩, ?_⟩
  intro p hp
  cases hp

/-- A text that was stored is not always read again: the document cannot be read where a choice
leads to a number, and the section is not found where its own name is one. -/
theorem setText_lost_by_number :
    (∃ s', forkToNumber.setText (.int 1) "A fork.\n" = .ok s' ∧ ¬s'.Readable) ∧
      ∃ s' u, namedByNumber.setText (.number 2) "A new hall." = .ok s' ∧
        ofDocument s'.toDocument = .ok u ∧ u.section? (.number 2) = none := by
  constructor
  · have hsec : (forkToNumber.section? (.int 1)).isSome = true := by decide +kernel
    rcases Option.isSome_iff_exists.1 hsec with ⟨sec, hsec⟩
    refine ⟨_, (setText_of_section? hsec "A fork.\n").1, ?_⟩
    rw [readable_withText]
    exact not_readable_forkToNumber
  · have hsec : (namedByNumber.section? (.number 2)).isSome = true := by decide +kernel
    rcases Option.isSome_iff_exists.1 hsec with ⟨sec, hsec⟩
    rcases (readable_withText _ (.number 2) "A new hall.").2 readable_namedByNumber with ⟨u, hu⟩
    refine ⟨_, u, (setText_of_section? hsec "A new hall.").1, hu, ?_⟩
    rw [ofDocument_toDocument_eq] at hu
    apply section?_eq_none_of_read hu
    rw [ids_reread, ids, adjustSection, Table.keys_adjust]
    exact List.forall_mem_singleton.2 (by decide +kernel)

end Story

end Gamebook
