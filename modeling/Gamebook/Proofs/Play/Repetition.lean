import Gamebook.Proofs.Play.Document
import Gamebook.Proofs.Script.Choices

/-!
# Choices over a whole play

The script of a section runs each time that the section is entered, also when the reader goes back
to it or takes up a saved game in it.  What it adds is added to the choices that earlier runs have
left.  All the same no choice comes to be there twice, unless the document that is played has it
twice.

Main results:

- Definition `Story.RepeatsNone`: no choice is there more often than before, but for once.
- Theorem `Session.exists_changes_perform`: a move changes the progress, and then what a script
  changes.
- Definition `Session.Plays`: the sessions that moves lead to, with the story that is played.
- Theorem `Session.choices_not_repeated`: how scripts and whole plays treat choices.
-/

namespace Gamebook

namespace Story

/-- A choice that is in a section of the second story is there once, or no more often than in the
first story. -/
def RepeatsNone (s s' : Story) : Prop :=
  ∀ id target text, s'.copies id target text ≤ max 1 (s.copies id target text)

variable {s s' s'' : Story}

/-- Sections that stay as they are repeat no choice. -/
theorem repeatsNone_of_eq (hsections : s'.sections = s.sections) : RepeatsNone s s' := by
  intro id target text
  rw [copies, copies, choicesOf, section?, hsections]
  exact Nat.le_max_right 1 _

/-- What repeats no choice twice repeats none. -/
theorem RepeatsNone.trans (hfirst : RepeatsNone s s') (hnext : RepeatsNone s' s'') :
    RepeatsNone s s'' := by
  intro id target text
  have hbefore := hfirst id target text
  have hafter := hnext id target text
  omega

/-- Edits of choices repeat none. -/
theorem EditsChoices.repeatsNone {edits : List ChoiceEdit} (hedits : EditsChoices edits s s') :
    RepeatsNone s s' := by
  intro id target text
  cases hread : s.isRead id with
  | true => exact (hedits.read id hread).copies_le target text
  | false =>
    rw [copies, hedits.others id hread]
    exact Nat.le_max_right 1 _

/-- After edits of choices there are first choices that were there before, in their order, and then
choices that were added, in the order in which they were added. -/
theorem EditsChoices.exists_split {edits : List ChoiceEdit} (hedits : EditsChoices edits s s')
    (id : SectionId) :
    ∃ kept added, s'.choicesOf id = kept ++ added ∧ kept.Sublist (s.choicesOf id) ∧
      added.Sublist (edits.filterMap ChoiceEdit.added?) := by
  cases hread : s.isRead id with
  | true => exact (hedits.read id hread).exists_split
  | false =>
    refine ⟨s.choicesOf id, [], ?_, List.Sublist.refl _, List.nil_sublist _⟩
    rw [hedits.others id hread, List.append_nil]

/-- Changes repeat no choice. -/
theorem Changes.repeatsNone {offered : SectionId → Prop} (hchanges : Changes offered s s') :
    RepeatsNone s s' := by
  induction hchanges with
  | refl => exact repeatsNone_of_eq rfl
  | tail _ hchange ih =>
    rcases hchange.editsChoices with ⟨edits, hedits⟩
    exact ih.trans hedits.repeatsNone

end Story

namespace Session

variable {σ : Type}

/-! ## Moves -/

/-- A move within the story that is played changes its progress, and then what the script of a
section changes. -/
theorem Performed.exists_changes {responder : Responder σ} {s s' : Session σ}
    {operation : Operation} {result : Except MoveError (Option Scene)}
    (hperformed : Performed responder s operation result s')
    (hload : ∀ story, operation ≠ .load story) :
    ∃ offered before, before.sections = s.story.sections ∧
      Story.Changes offered before s'.story := by
  cases hperformed with
  | enters hleads hentered =>
    rcases hentered.changes with ⟨sec, -, hchanges⟩
    refine ⟨_, _, ?_, hchanges⟩
    cases hleads with
    | load => exact absurd rfl (hload _)
    | _ => rfl
  | empties hstarts =>
    -- there is nothing to enter, and the story stays the same
    cases operation with
    | load story => exact absurd rfl (hload story)
    | start | restore =>
      cases hstarts
      exact ⟨fun _ => False, _, rfl, .refl⟩
    | _ => cases hstarts
  | stays => exact ⟨fun _ => False, _, rfl, .refl⟩

/-- Every move changes the progress of the story that is played, and then what the script of a
section changes. -/
theorem exists_changes_perform (s : Session σ) (responder : Responder σ) (operation : Operation) :
    ∃ offered before, before.sections = (operation.plays s).sections ∧
      Story.Changes offered before (s.perform responder operation).2.story := by
  cases operation with
  | load story =>
    exact (perform_cases responder { s with story, mode := .menu } .start).exists_changes
      (by rintro _ ⟨⟩)
  | _ => exact (perform_cases responder s _).exists_changes (by rintro _ ⟨⟩)

/-- Every move repeats no choice. -/
theorem repeatsNone_perform (s : Session σ) (responder : Responder σ) (operation : Operation) :
    Story.RepeatsNone (operation.plays s) (s.perform responder operation).2.story := by
  rcases s.exists_changes_perform responder operation with ⟨_, before, hbefore, hchanges⟩
  exact (Story.repeatsNone_of_eq hbefore).trans hchanges.repeatsNone

/-! ## Whole plays -/

/-- The sessions that moves lead to from a session, whoever answers, each with the story that is
played in it: the one that was loaded last, as it was then. -/
inductive Plays (origin : Session σ) : Story → Session σ → Prop
  | new : Plays origin origin.story origin
  | load {story : Story} {s : Session σ} (hs : Plays origin story s) (responder : Responder σ)
      (other : Story) :
    Plays origin other (s.perform responder (.load other)).2
  | perform {story : Story} {s : Session σ} (hs : Plays origin story s) (responder : Responder σ)
      {operation : Operation} (hload : ∀ other, operation ≠ .load other) :
    Plays origin story (s.perform responder operation).2

/-- A whole play repeats no choice. -/
theorem Plays.repeatsNone {origin s : Session σ} {story : Story} (hs : Plays origin story s) :
    Story.RepeatsNone story s.story := by
  induction hs with
  | new => exact Story.repeatsNone_of_eq rfl
  | load _ responder other => exact repeatsNone_perform _ responder (.load other)
  | @perform story s _ responder operation hload ih =>
    have hmove := s.repeatsNone_perform responder operation
    rw [Operation.plays_eq hload] at hmove
    exact ih.trans hmove

/-- A script changes the choices of the section being read only.  Each of its edits adds one that is
not there to the end, or removes the first that leads to a target; so the choices that stay come
first and those that were added after them, both in their order, and none is there more often than
before, but for once.  Nor is any after a whole play, however often sections are entered again. -/
theorem choices_not_repeated :
    (∀ (responder : Responder σ) (r : Reading σ) (script : List Step),
      let after := (runScript responder r script).2.story
      let edits := choiceEdits responder r script
      Story.EditsChoices edits r.story after ∧
        ∀ id, (∀ target text, after.copies id target text ≤ max 1 (r.story.copies id target text)) ∧
          ∃ kept added, after.choicesOf id = kept ++ added ∧
            kept.Sublist (r.story.choicesOf id) ∧
            added.Sublist (edits.filterMap ChoiceEdit.added?)) ∧
      ∀ (origin : Session σ) (story : Story) (s : Session σ), Plays origin story s →
        ∀ id target text, s.story.copies id target text ≤ max 1 (story.copies id target text) := by
  refine ⟨?_, fun _ _ _ hs => hs.repeatsNone⟩
  intro responder r script after edits
  have hedits := runScript_editsChoices responder r script
  exact ⟨hedits, fun id => ⟨hedits.repeatsNone id, hedits.exists_split id⟩⟩

/-- A hall with two equal ways out.  Each visit opens a way down, where there is none, and closes
one of the ways out. -/
def twoExits : Story where
  sections := .ofList
    [(.text "1",
      { next := some [{ text := "Out", target := .int 3 }, { text := "Out", target := .text "3" }]
        script := some
          [{ action := "ADD_CHOICE", parameters := [.int 2, .text "Down"] },
           { action := "REMOVE_CHOICE", parameters := [.text "3"] }] }),
     (.text "2", Section.ofLines ["A cellar."]),
     (.text "3", Section.ofLines ["A street."])]

/-- The session in which the reader has come to the hall, has entered it again and has gone back to
it. -/
def ofTwoExits : Session Unit :=
  let first : Session Unit := { story := twoExits, responder := () }
  let started := (first.perform Responder.silent .start).2
  ((started.perform Responder.silent (.enter (.int 1))).2.perform Responder.silent .back).2

/-- After three visits there is one way down and no way out.  The first visit opens the way down and
closes the first of the ways out, and no choice is there more often than the document has it. -/
theorem ofTwoExits_not_repeated :
    let visited : Story := { twoExits with state := some { current := some (.int 1) } }
    let script := ((twoExits.section? (.int 1)).map Section.steps).getD []
    let edits := choiceEdits Responder.silent ⟨visited, ()⟩ script
    let after := (runScript Responder.silent ⟨visited, ()⟩ script).2.story
    (edits = [.add { text := "Down", target := .int 2 }, .remove (.text "3")] ∧
        Story.EditsChoices edits visited after) ∧
      ofTwoExits.story.choicesOf (.int 1) = [{ text := "Down", target := .int 2 }] ∧
      ofTwoExits.story.copies (.int 1) (.int 2) "Down" ≤
        max 1 (twoExits.copies (.int 1) (.int 2) "Down") := by
  intro visited script edits after
  have hplays : Plays { story := twoExits, responder := () } twoExits ofTwoExits := by
    refine .perform (.perform (.perform .new _ ?_) _ ?_) _ ?_ <;> rintro _ ⟨⟩
  rcases choices_not_repeated (σ := Unit) with ⟨hscript, hplay⟩
  exact ⟨⟨rfl, (hscript .silent ⟨visited, ()⟩ script).1⟩, rfl, hplay _ _ _ hplays _ _ _⟩

end Session

end Gamebook
