import Gamebook.Proofs.Play.ScriptErrors
import Gamebook.Proofs.Scalar

/-!
# The document while it is played

Scripts change the values of variables and the choices of the section being read, and nothing else
of a story.  So while a story is played its metadata stays as it is, and so does each section but
for its choices; a move that shows a section changes the choices of that section only.

Main results:

- Definitions `Story.SameDocument` and `Story.SameBut`: what is left alone, in all sections or in
  all but one.
- Theorems `Story.Changes.sameBut` and `Story.Changes.state_cases`: what a script leaves alone.
- Definition `Session.Continues`: the sessions that moves within a story lead to.
- Theorem `Session.Performed.sameBut`: what one move leaves alone.
- Theorem `Session.playing_keeps_document`: what every run leaves alone.
-/

namespace Gamebook

/-- The section without its choices. -/
def Section.withoutChoices (sec : Section) : Section :=
  { sec with next := none }

namespace Story

/-! ## Documents -/

/-- The stories have the same metadata, the same names of sections, and under each name the same
section but for its choices. -/
structure SameDocument (s s' : Story) : Prop where
  info_eq : s'.info = s.info
  ids_eq : s'.ids = s.ids
  sections_eq : ∀ id,
    (s'.section? id).map Section.withoutChoices = (s.section? id).map Section.withoutChoices

/-- The stories have the same metadata and the same sections, but for the choices of at most one
section. -/
structure SameBut (touched : Option SectionId) (s s' : Story) : Prop
    extends SameDocument s s' where
  others_eq : ∀ id, (∀ other ∈ touched, (other == id) = false) → s'.section? id = s.section? id

variable {s s' s'' : Story} {touched : Option SectionId}

/-- A story has the document that it has. -/
theorem SameDocument.refl (s : Story) : SameDocument s s :=
  ⟨rfl, rfl, fun _ => rfl⟩

/-- Documents that are the same twice are the same. -/
theorem SameDocument.trans (hfirst : SameDocument s s') (hnext : SameDocument s' s'') :
    SameDocument s s'' where
  info_eq := hnext.info_eq.trans hfirst.info_eq
  ids_eq := hnext.ids_eq.trans hfirst.ids_eq
  sections_eq id := (hnext.sections_eq id).trans (hfirst.sections_eq id)

/-- Stories with the same metadata and sections have the same document. -/
theorem sameBut_of_eq (touched : Option SectionId) (hinfo : s'.info = s.info)
    (hsections : s'.sections = s.sections) : SameBut touched s s' where
  info_eq := hinfo
  ids_eq := congrArg Table.keys hsections
  sections_eq id := by rw [section?, section?, hsections]
  others_eq id _ := by rw [section?, section?, hsections]

/-- What is left alone twice is left alone. -/
theorem SameBut.trans (hfirst : SameBut touched s s') (hnext : SameBut touched s' s'') :
    SameBut touched s s'' where
  toSameDocument := hfirst.toSameDocument.trans hnext.toSameDocument
  others_eq id hid := (hnext.others_eq id hid).trans (hfirst.others_eq id hid)

/-- Changing the choices of a section leaves all else alone. -/
theorem sameBut_adjustSection (s : Story) (id : SectionId) {f : Section → Section}
    (hf : ∀ sec, (f sec).withoutChoices = sec.withoutChoices) :
    SameBut (some id) s (s.adjustSection id f) where
  info_eq := rfl
  ids_eq := (kept_adjustSection s id f).ids_eq
  sections_eq other := map_section?_adjustSection hf s id other
  others_eq other hother := by
    have hne : compare id other ≠ .eq := by
      intro heq
      rw [Std.LawfulBEqOrd.compare_eq_iff_beq, hother id rfl] at heq
      cases heq
    have hfind := Table.find?_adjust s.sections id other f
    simp only [if_neg hne, Option.map_id'] at hfind
    exact hfind

/-! ## Scripts -/

/-- A change leaves all alone but the progress and the choices of the section being read. -/
theorem Change.sameBut {offered : SectionId → Prop} (hchange : Change offered s s') :
    SameBut s.currentId s s' := by
  cases hchange with
  | none => exact sameBut_of_eq _ rfl rfl
  | setVariable name value => exact sameBut_of_eq _ rfl rfl
  | offerChoice hoffered hcurrent =>
    rw [hcurrent]
    exact sameBut_adjustSection s _ fun _ => rfl
  | withdrawChoice hcurrent =>
    rw [hcurrent]
    exact sameBut_adjustSection s _ fun _ => rfl

/-- A change leaves all of the progress alone but the variables. -/
theorem Change.state_cases {offered : SectionId → Prop} (hchange : Change offered s s') :
    s'.state = s.state ∨ ∃ vars, s'.state = some { s.progress with vars } := by
  cases hchange with
  | none => exact Or.inl rfl
  | setVariable name value => exact Or.inr ⟨_, rfl⟩
  | offerChoice => exact Or.inl rfl
  | withdrawChoice => exact Or.inl rfl

/-- Changes leave all alone but the progress and the choices of the section being read. -/
theorem Changes.sameBut {offered : SectionId → Prop} (hchanges : Changes offered s s') :
    SameBut s.currentId s s' := by
  induction hchanges with
  | refl => exact sameBut_of_eq _ rfl rfl
  | tail hearlier hchange ih =>
    have hlast := hchange.sameBut
    rw [Changes.kept hearlier |>.currentId_eq] at hlast
    exact ih.trans hlast

/-- Changes leave all of the progress alone but the variables. -/
theorem Changes.state_cases {offered : SectionId → Prop} (hchanges : Changes offered s s') :
    s'.state = s.state ∨ ∃ vars, s'.state = some { s.progress with vars } := by
  induction hchanges with
  | refl => exact Or.inl rfl
  | @tail s' s'' _ hchange ih =>
    rcases hchange.state_cases with heq | ⟨vars, hvars⟩
    · rw [heq]
      exact ih
    · right
      rw [hvars, progress]
      rcases ih with heq | ⟨earlier, hearlier⟩
      · exact ⟨vars, by rw [heq, progress]⟩
      · exact ⟨vars, by rw [hearlier, Option.getD_some]⟩

end Story

namespace Session

variable {σ : Type}

/-! ## Moves -/

/-- The story that is played after an operation. -/
def Operation.plays (s : Session σ) : Operation → Story
  | .load story => story
  | _ => s.story

/-- An operation that loads no story plays on with the one that there is. -/
theorem Operation.plays_eq {operation : Operation} (hload : ∀ story, operation ≠ .load story)
    (s : Session σ) : operation.plays s = s.story := by
  cases operation with
  | load story => exact absurd rfl (hload story)
  | _ => rfl

section

variable {responder : Responder σ} {s s' base : Session σ} {operation : Operation}
  {id : SectionId} {remember : Bool}

/-- A section is entered from the story that is played, but for its progress. -/
theorem Leads.sameBut (hleads : s.Leads operation base id remember) (touched : Option SectionId) :
    Story.SameBut touched (operation.plays s) base.story := by
  cases hleads <;> exact Story.sameBut_of_eq touched rfl rfl

/-- Entering a section leaves all alone but the progress and the choices of the section. -/
theorem Entered.sameBut (hentered : s.Entered id remember s') :
    Story.SameBut (some id) s.story s'.story := by
  rcases hentered.changes with ⟨sec, -, hchanges⟩
  have hmoved : Story.SameBut (some id) s.story (s.moved id remember) :=
    Story.sameBut_of_eq _ rfl rfl
  exact hmoved.trans hchanges.sameBut

/-- A move that shows a section leaves all alone but the progress and the choices of that
section. -/
theorem Performed.sameBut {scene : Scene}
    (hperformed : Performed responder s operation (.ok (some scene)) s') :
    Story.SameBut (some scene.id) (operation.plays s) s'.story := by
  cases hperformed with
  | enters hleads hentered hanswer htransition =>
    rw [(scriptErrors_of_transition htransition).1]
    exact (hleads.sameBut _).trans hentered.sameBut
  | stays hanswer =>
    cases answered_of_inPlace? hanswer with
    | shown => exact Story.sameBut_of_eq _ rfl rfl

/-- A move within the story leaves the document alone. -/
theorem Performed.sameDocument {result : Except MoveError (Option Scene)}
    (hperformed : Performed responder s operation result s')
    (hload : ∀ story, operation ≠ .load story) :
    Story.SameDocument s.story s'.story := by
  cases hperformed with
  | enters hleads hentered =>
    rw [← Operation.plays_eq hload s]
    exact ((hleads.sameBut none).toSameDocument).trans hentered.sameBut.toSameDocument
  | empties hstarts =>
    cases operation with
    | load story => exact absurd rfl (hload story)
    | start =>
      cases hstarts
      exact .refl s.story
    | restore game =>
      cases hstarts
      exact .refl s.story
    | _ => cases hstarts
  | stays => exact .refl s.story

end

/-- Every move leaves the document of the story that is played alone. -/
theorem sameDocument_perform (s : Session σ) (responder : Responder σ) (operation : Operation) :
    Story.SameDocument (operation.plays s) (s.perform responder operation).2.story := by
  cases operation with
  | load story =>
    -- a story that is loaded is started in a session that has not begun to play it
    exact (perform_cases responder { s with story, mode := .menu } .start).sameDocument
      (by rintro _ ⟨⟩)
  | _ => exact (perform_cases responder s _).sameDocument (by rintro _ ⟨⟩)

/-! ## Every run -/

/-- The sessions that moves lead to from a session without loading another story. -/
inductive Continues (origin : Session σ) : Session σ → Prop
  | refl : Continues origin origin
  | perform {s : Session σ} (hs : Continues origin s) (responder : Responder σ)
      {operation : Operation} (hload : ∀ story, operation ≠ .load story) :
    Continues origin (s.perform responder operation).2

/-- While a story is played its document stays as it is. -/
theorem Continues.sameDocument {origin s : Session σ} (hs : Continues origin s) :
    Story.SameDocument origin.story s.story := by
  induction hs with
  | refl => exact .refl _
  | perform hs responder hload ih =>
    exact ih.trans ((perform_cases responder _ _).sameDocument hload)

/-- A script leaves all of a story alone but the choices of the section being read, and all of the
progress but the variables.  So the document stays as it is while a story is played, from wherever
play goes on and also when the story is loaded, and a move that shows a section changes the choices
of that section only. -/
theorem playing_keeps_document :
    (∀ (responder : Responder σ) (r : Reading σ) (script : List Step),
      let after := (runScript responder r script).2.story
      Story.SameBut r.story.currentId r.story after ∧
        after.currentId = r.story.currentId ∧ after.history = r.story.history ∧
        (after.state = r.story.state ∨
          ∃ vars, after.state = some { r.story.progress with vars })) ∧
      (∀ origin s : Session σ, Continues origin s → Story.SameDocument origin.story s.story) ∧
      ∀ (s : Session σ) (responder : Responder σ) (operation : Operation),
        let (result, after) := s.perform responder operation
        Story.SameDocument (operation.plays s) after.story ∧
          ∀ scene, result = .ok (some scene) →
            Story.SameBut (some scene.id) (operation.plays s) after.story := by
  refine ⟨?_, fun _ _ => Continues.sameDocument, ?_⟩
  · intro responder r script after
    have hchanges := runScript_changes responder r script
    exact ⟨hchanges.sameBut, hchanges.kept.currentId_eq, hchanges.kept.history_eq,
      hchanges.state_cases⟩
  · intro s responder operation
    refine ⟨sameDocument_perform s responder operation, ?_⟩
    intro scene hscene
    exact (performed_of_eq (Prod.ext hscene rfl)).sameBut

end Session

end Gamebook
