import Gamebook.Proofs.Cli.Files
import Gamebook.Proofs.Story.Removing

/-!
# What is told of a removal

The program ends an edit with a line that tells what was done.  The line about a removed section
tells a number of choices as those that led to it.  It is the number of all choices that the story
has lost, and with the section go the choices that it had itself, wherever they led.

Main results:

- Theorem `Desk.execute_of_apply`: what becomes of a desk when a story on it is edited.
- Theorem `Edit.apply_removeSection`: the number that is told.
- Theorem `removal_tells_lost_choices`: the line that is told, and when its number is the one that
  it says.
- Theorem `removal_overcounts_cave`: it is another number in a story of one choice.
-/

namespace Gamebook

namespace Cli

/-! ## Desks -/

namespace Desk

variable {d : Desk} {path text : String}

/-- On a desk, a text is loaded from its file, and nothing changes. -/
theorem ending_loadText (hread : d.folder.read path = .ok text) :
    ending (loadText path) d = (.ok text, d) := by
  have hlift : ending (Console.readFile path) d = (.ok (d.folder.read path), d) := rfl
  rw [loadText, ending_bind, hlift, hread]
  rfl

/-- On a desk, a text is stored in its file if there can be one. -/
theorem ending_storeText (path text : String) (d : Desk) :
    ending (storeText path text) d =
      match d.folder.write path text with
      | .ok folder => (.ok (), { d with folder })
      | .error fault => (.error s!"cannot write '{path}': {fault.message}", d) := by
  have hlift : ending (Console.writeFile path text) d =
      (.ok (d.store path text).1, (d.store path text).2) := rfl
  rw [storeText, ending_bind, hlift, store]
  cases d.folder.write path text <;> rfl

/-- An edit that can be made of the story in a file is told of once the changed story is in the
file; where the file cannot be written, that is told instead. -/
theorem execute_of_apply {arguments : List String} {change : Edit} {s s' : Story} {notice : String}
    (hcommand : Command.ofArguments arguments = .ok (.edit path change))
    (hread : d.folder.read path = .ok text) (hstory : Story.ofDocument text = .ok s)
    (happly : change.apply s = .ok (s', notice)) (hlast : change.tellsFirst = false) :
    d.execute arguments =
      match d.folder.write path (s'.toDocument ++ "\n") with
      | .ok folder => (0, { d with folder, output := d.output ++ ("  " ++ notice ++ "\n") })
      | .error fault =>
        (1, { d with
          errors := d.errors ++ s!"error: cannot write '{path}': {fault.message}\n" }) := by
  have hdocument : editDocument path text change = .ok (s'.toDocument ++ "\n", notice) :=
    bind_eq_ok_iff.2 ⟨s, by rw [parseStory, hstory], by rw [happly]⟩
  have hlift : ending (liftExcept (editDocument path text change)) d =
      (.ok (s'.toDocument ++ "\n", notice), d) := by
    rw [hdocument]
    rfl
  rw [execute, run_execute_of_edit _ hcommand, runEdit, ending_bind, ending_loadText hread]
  dsimp only
  rw [ending_bind, hlift]
  dsimp only
  rw [hlast, if_neg Bool.false_ne_true, ending_bind, ending_storeText]
  cases d.folder.write path (s'.toDocument ++ "\n") <;> rfl

/-- What can be written to a file is in it afterwards. -/
theorem exists_write_of_writable (hwritable : filing.Writable d path) (text : String) :
    ∃ folder, d.folder.write path text = .ok folder := by
  have hstored : (d.store path text).1 = .ok () := (hwritable d rfl text).1
  rw [store] at hstored
  split at hstored
  · next folder hwrite => exact ⟨folder, hwrite⟩
  · cases hstored

end Desk

/-! ## Removed sections -/

/-- The line about a removed section. -/
def removalLine (id : SectionId) (lost : Nat) : String :=
  "  " ++ s!"Removed section {id.canonical} and {lost} choice(s) leading to it" ++ "\n"

/-- With the choices that lead to a section those are told that it has itself and that lead
elsewhere. -/
theorem Edit.apply_removeSection {s : Story} {id : SectionId} {sec : Section}
    (hsec : s.section? id = some sec) :
    ∃ notice, (removeSection id).apply s = .ok (s.without id, notice) ∧
      "  " ++ notice ++ "\n" = removalLine id (s.incomingCount id + sec.awayCount id) := by
  have hlost : s.choiceCount - (s.without id).choiceCount =
      s.incomingCount id + sec.awayCount id := by
    rw [Story.choiceCount_without hsec, Nat.add_sub_cancel_left]
  refine ⟨_, bind_eq_ok_iff.2 ⟨_, Story.removeSection_of_section? hsec, rfl⟩, ?_⟩
  rw [hlost]
  rfl

/-- Removing a section that exists, from the story in a file that can be written, succeeds.  The
line that is told then counts the choices of all sections that lead to the section, and besides them
those that the section has itself and that lead elsewhere.  So its number is that of the choices
that lead to the section just where it leads nowhere else. -/
theorem removal_tells_lost_choices {d : Desk} {arguments : List String} {path text : String}
    {s : Story} {id : SectionId} {removed : Section}
    (hcommand : Command.ofArguments arguments = .ok (.edit path (.removeSection id)))
    (hread : d.folder.read path = .ok text) (hstory : Story.ofDocument text = .ok s)
    (hsec : s.section? id = some removed) :
    let done := d.execute arguments
    (Desk.filing.Writable d path → done.1 = 0) ∧
      (done.1 = 0 → ∃ told, done.2.output = d.output ++ removalLine id told ∧
        told = s.incomingCount id + removed.awayCount id ∧
        (told = s.incomingCount id ↔ ∀ c ∈ removed.choices, (c.target == id) = true)) := by
  rcases Edit.apply_removeSection hsec with ⟨notice, happly, hline⟩
  have hdone := Desk.execute_of_apply hcommand hread hstory happly rfl
  dsimp only
  rw [hdone]
  constructor
  · intro hwritable
    rcases Desk.exists_write_of_writable hwritable ((s.without id).toDocument ++ "\n") with
      ⟨folder, hwrite⟩
    rw [hwrite]
  · intro hstatus
    refine ⟨_, ?_, rfl, ?_⟩
    · cases hwrite : d.folder.write path ((s.without id).toDocument ++ "\n") with
      | ok folder => exact congrArg (d.output ++ ·) hline
      | error fault =>
        rw [hwrite] at hstatus
        cases hstatus
    · rw [Nat.add_eq_left, Section.awayCount_eq_zero_iff]

/-- How a section of the cave is removed. -/
theorem ofArguments_removeCave {word : String} (hword : isOption word = false) :
    Command.ofArguments ["section", "remove", "cave.json", word] =
      .ok (.edit "cave.json" (.removeSection (.ofText word))) := by
  have hpath : isOption "cave.json" = false ∧ isPath "cave.json" = true := by decide +kernel
  have hfits : List.Forall₂ (fun word accepts => isOption word = false ∧ accepts word = true)
      ["cave.json", word] Verb.removeSection.grammar.words :=
    .cons hpath (.cons ⟨hword, rfl⟩ .nil)
  have hread : readCommand ["section", "remove", "cave.json", word] =
      .ok (.removeSection, { words := ["cave.json", word] }) :=
    readCommand_of_words (v := .removeSection) (List.append_nil _).symm hfits rfl
  rw [ofArguments_eq, hread]
  rfl

/-- A desk on which there is the document of the hall and the well. -/
def wellDesk : Desk where
  folder := { files := .ofList [("cave.json", Story.hallAndWell.toDocument)] }

/-- The hall and the well are read from their document. -/
theorem ofDocument_hallAndWell :
    Story.ofDocument Story.hallAndWell.toDocument = .ok Story.hallAndWell := by
  have hintact : Story.hallAndWell.Intact := by
    refine ⟨List.forall_mem_nil _, by decide +kernel, ?_, List.forall_mem_nil _⟩
    refine List.forall_mem_cons.2 ⟨?_, List.forall_mem_singleton.2 ?_⟩
    all_goals exact ⟨by decide +kernel, List.forall_mem_nil _⟩
  exact Story.ofDocument_toDocument hintact.sound (List.forall_mem_nil _)

/-- With the well go two choices that lead to it and two of its own that do not. -/
theorem removal_tells_lost_choices_wellDesk :
    let done := wellDesk.execute ["section", "remove", "cave.json", "2"]
    done.1 = 0 ∧ done.2.output = "  Removed section 2 and 4 choice(s) leading to it\n" ∧
      Story.hallAndWell.incomingCount (.int 2) = 2 := by
  have hcommand : Command.ofArguments ["section", "remove", "cave.json", "2"] =
      .ok (.edit "cave.json" (.removeSection (.int 2))) :=
    ofArguments_removeCave (by decide +kernel)
  have hread : wellDesk.folder.read "cave.json" = .ok Story.hallAndWell.toDocument :=
    read_caveFile rfl
  rcases removal_tells_lost_choices hcommand hread ofDocument_hallAndWell rfl with ⟨hends, htells⟩
  have hstatus := hends (Desk.writable_of_read hread rfl)
  rcases htells hstatus with ⟨told, houtput, htold, -⟩
  have hfour : told = 4 := htold
  rw [hfour] at houtput
  exact ⟨hstatus, houtput, by decide +kernel⟩

/-- One choice is told to have led to the first section of the cave when that is removed.  It is the
section's own way out, and none led to it. -/
theorem removal_overcounts_cave :
    let done := caveDesk.execute ["section", "remove", "cave.json", "1"]
    caveDesk.folder.read "cave.json" = .ok (cave none).toDocument ∧
      Story.ofDocument (cave none).toDocument = .ok (cave none) ∧
      (cave none).hasSection (.int 1) = true ∧
      done.1 = 0 ∧ done.2.output = "  Removed section 1 and 1 choice(s) leading to it\n" ∧
      (cave none).incomingCount (.int 1) = 0 := by
  have hcommand : Command.ofArguments ["section", "remove", "cave.json", "1"] =
      .ok (.edit "cave.json" (.removeSection (.int 1))) :=
    ofArguments_removeCave (by decide +kernel)
  rcases @Edit.apply_removeSection (cave none) (.int 1) _ rfl with ⟨notice, happly, hline⟩
  rcases Desk.exists_write_of_writable (Desk.writable_of_read read_caveDesk rfl) _ with
    ⟨folder, hwrite⟩
  have hdone := Desk.execute_of_apply hcommand read_caveDesk ofDocument_cave happly rfl
  rw [hwrite] at hdone
  dsimp only
  rw [hdone]
  exact ⟨read_caveDesk, ofDocument_cave, rfl, rfl, hline, by decide +kernel⟩

end Cli

end Gamebook
