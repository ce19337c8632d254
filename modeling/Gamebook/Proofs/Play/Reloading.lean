import Gamebook.Proofs.Document.Story
import Gamebook.Proofs.Play.Moves

/-!
# Reloading stories and saved games

While a story is played its scripts add choices, and a reader who follows them carries the targets
into the current section, the history and the saved game.  A target is any scalar of a script, also
a number; documents are written with it, but a number is no name of a section to a reader.  So a
state is read from its own documents exactly when no number has come in that way, and numbers come
from nowhere else.

Main results:

- Definition `Story.Follows`: what playing a story keeps of it.
- Theorem `Story.Follows.perform`: one move keeps it.
- Theorem `Session.Played.follows`: so does every run.
- Theorem `Session.Played.reloads_iff`: when a state that is reached is read from its documents.
-/

namespace Gamebook

/-! ## Reading again -/

/-- The story is read from its own document. -/
def Story.Reloads (s : Story) : Prop :=
  ∃ t, ofDocument s.toDocument = .ok t ∧ (t == s) = true

/-- The saved game is read from its own document. -/
def SavedGame.Reloads (g : SavedGame) : Prop :=
  ∃ t, ofDocument g.toDocument = .ok t ∧ (t == g) = true

/-- A sound story is read from its own document exactly when all that it refers to are integers and
text. -/
theorem Story.reloads_iff_of_sound {s : Story} (hs : s.Sound)
    (hreals : ∀ x ∈ s.toJson.reals, Json.ReadsBack x) :
    s.Reloads ↔ ∀ id ∈ s.references, id.isName = true := by
  rw [Reloads, ofDocument_toDocument hs hreals, ← List.all_eq_true]
  constructor
  · rintro ⟨t, ht, -⟩
    exact (Json.accept_eq_ok_iff.1 ht).1
  · intro hnames
    exact ⟨s.withTextKeys, Json.accept_eq_ok_iff.2 ⟨hnames, rfl⟩, s.withTextKeys_beq⟩

/-- The saved game of a sound story is read from its own document exactly when the sections that it
names are integers and text. -/
theorem SavedGame.reloads_capture_iff_of_sound {s : Story} (hs : s.Sound)
    (hreals : ∀ x ∈ s.toJson.reals, Json.ReadsBack x) :
    (capture s).Reloads ↔ ∀ id ∈ s.progress.names, id.isName = true := by
  rw [Reloads, ofDocument_toDocument hs fun x hx => hreals x (mem_reals_capture hx),
    ← List.all_eq_true]
  constructor
  · rintro ⟨t, ht, -⟩
    exact (Json.accept_eq_ok_iff.1 ht).1
  · intro hnames
    exact ⟨capture s, Json.accept_eq_ok_iff.2 ⟨hnames, rfl⟩, beq_self_eq_true _⟩

/-! ## What playing keeps -/

namespace Story

/-- The scripts of all sections. -/
def scripts (s : Story) : List (List Step) :=
  s.sections.values.map Section.steps

/-- A script of the story may add a choice that leads to the target. -/
def OffersChoice (s : Story) (target : SectionId) : Prop :=
  ∃ script ∈ s.scripts, Offers script target

/-- The story is the other one as it was played: the same metadata, names and scripts, and all that
it refers to satisfies a condition. -/
structure Follows (p : SectionId → Prop) (story s : Story) : Prop where
  info_eq : s.info = story.info
  ids_eq : s.ids = story.ids
  scripts_eq : s.scripts = story.scripts
  references : ∀ id ∈ s.references, p id

variable {p : SectionId → Prop} {story s s' : Story}

/-- The script of a section that is found is one of the story. -/
theorem steps_mem_scripts {id : SectionId} {sec : Section} (hsec : s.section? id = some sec) :
    sec.steps ∈ s.scripts := by
  rcases Table.exists_mem_of_find? hsec with ⟨key, hentry, -⟩
  exact List.mem_map_of_mem (List.mem_map_of_mem (f := Prod.snd) hentry)

/-- The section being read is named by the progress. -/
theorem mem_names_of_currentId {id : SectionId} (hcurrent : s.currentId = some id) :
    id ∈ s.progress.names := by
  rcases Option.bind_eq_some_iff.1 hcurrent with ⟨progress, hstate, hid⟩
  apply List.mem_append_left
  rw [Story.progress, hstate, Option.getD_some, hid]
  exact List.mem_singleton_self id

/-- The same names name sections. -/
theorem Follows.hasSection_eq (hs : Follows p story s) (id : SectionId) :
    s.hasSection id = story.hasSection id :=
  Table.contains_congr_keys hs.ids_eq id

/-- What the progress names satisfies the condition. -/
theorem Follows.names (hs : Follows p story s) : ∀ id ∈ s.progress.names, p id :=
  (List.forall_mem_append.1 hs.references).2

/-- What follows an intact story is sound, if all that it refers to has a text. -/
theorem Follows.sound (hstory : story.Intact)
    (hs : Follows (fun id => id.isFinite = true) story s) : s.Sound where
  info := hs.info_eq ▸ hstory.info
  ids := hs.ids_eq ▸ hstory.ids
  references := hs.references
  parameters := by
    have hscripts : ∀ script ∈ s.scripts, ∀ q ∈ script.flatMap Step.parameters,
        q.isFinite = true := by
      rw [hs.scripts_eq]
      exact List.forall_mem_map.2 fun sec hsec => (hstory.sections sec hsec).parameters
    exact List.forall_mem_map.1 hscripts

/-- With another progress the story refers to what that progress names. -/
theorem Follows.withState (hs : Follows p story s) {progress : Progress}
    (hnames : ∀ id ∈ progress.names, p id) : Follows p story { s with state := some progress } where
  info_eq := hs.info_eq
  ids_eq := hs.ids_eq
  scripts_eq := hs.scripts_eq
  references := List.forall_mem_append.2 ⟨(List.forall_mem_append.1 hs.references).1, hnames⟩

/-- Changing a section keeps its script if only its choices change. -/
theorem Follows.adjustSection (hs : Follows p story s) {id : SectionId} {f : Section → Section}
    (hsteps : ∀ sec, (f sec).steps = sec.steps)
    (htargets : ∀ sec, (∀ target ∈ sec.targets, p target) → ∀ target ∈ (f sec).targets, p target) :
    Follows p story (s.adjustSection id f) where
  info_eq := hs.info_eq
  ids_eq := (kept_adjustSection s id f).ids_eq.trans hs.ids_eq
  scripts_eq := by
    rw [← hs.scripts_eq]
    simp only [scripts, Story.adjustSection, Table.adjust, Table.mapEntries, Table.values,
      List.map_map]
    apply List.map_congr_left
    intro e _
    simp only [Function.comp_apply]
    split
    · exact hsteps e.2
    · rfl
  references := by
    rcases List.forall_mem_append.1 hs.references with ⟨hsections, hnames⟩
    refine List.forall_mem_append.2 ⟨fun target htarget => ?_, hnames⟩
    rcases List.mem_flatMap.1 htarget with ⟨sec, hsec, htarget⟩
    rcases List.mem_map.1 hsec with ⟨⟨key, _⟩, hentry, rfl⟩
    rcases Table.mem_mapEntries.1 hentry with ⟨before, hbefore, rfl⟩
    have hearlier : ∀ target ∈ before.targets, p target := fun target htarget =>
      hsections target (List.mem_flatMap.2 ⟨before, List.mem_map_of_mem hbefore, htarget⟩)
    split at htarget
    · exact htargets before hearlier target htarget
    · exact hearlier target htarget

/-- A change that a script makes is followed, if what it offers satisfies the condition. -/
theorem Follows.change (hs : Follows p story s) (hchange : Change p s s') :
    Follows p story s' := by
  cases hchange with
  | none => exact hs
  | setVariable name value =>
    exact hs.withState hs.names
  | offerChoice hoffered =>
    refine hs.adjustSection (fun _ => rfl) ?_
    intro sec hsec
    rw [Section.targets, Section.choices_addChoice, List.map_append]
    exact List.forall_mem_append.2 ⟨hsec, List.forall_mem_singleton.2 hoffered⟩
  | withdrawChoice =>
    refine hs.adjustSection (fun _ => rfl) ?_
    intro sec hsec target htarget
    apply hsec target
    exact ((List.eraseIdx_sublist sec.choices _).map Choice.target).subset htarget

/-- All that a script changes is followed, if what it offers satisfies the condition. -/
theorem Follows.changes (hs : Follows p story s) (hchanges : Changes p s s') :
    Follows p story s' := by
  induction hchanges with
  | refl => exact hs
  | tail _ hchange ih => exact ih.change hchange

end Story

/-! ## Moves -/

/-- A bounded history holds some of the sections. -/
theorem Progress.mem_of_mem_bounded {limit : Option Nat} {ids : List SectionId} {id : SectionId}
    (hid : id ∈ bounded limit ids) : id ∈ ids := by
  cases limit with
  | none => exact hid
  | some n => exact List.mem_of_mem_drop hid

/-- Moving to a section names that section and some of those named before. -/
theorem Progress.names_moveTo {p : Progress} {limit : Option Nat} {remember : Bool}
    {id other : SectionId} (hother : other ∈ (p.moveTo limit remember id).names) :
    other = id ∨ other ∈ p.names := by
  rcases List.mem_append.1 hother with hcurrent | hhistory
  · exact Or.inl (List.mem_singleton.1 hcurrent)
  · right
    simp only [moveTo] at hhistory
    cases hprevious : p.current with
    | none =>
      simp only [hprevious] at hhistory
      exact List.mem_append_right _ hhistory
    | some previous =>
      simp only [hprevious] at hhistory
      split at hhistory
      · rcases List.mem_append.1 (mem_of_mem_bounded hhistory) with hearlier | hlast
        · exact List.mem_append_right _ hearlier
        · apply List.mem_append_left _
          rw [hprevious, List.mem_singleton.1 hlast]
          exact List.mem_singleton_self previous
      · exact List.mem_append_right _ hhistory

namespace Session

variable {σ : Type} {p : SectionId → Prop} {story : Story} {s s' : Session σ}

/-- The operation stays in the story, and the sections that it brings along satisfy a condition. -/
inductive Operation.Within (p : SectionId → Prop) : Operation → Prop
  | start : Within p .start
  | enter {id : SectionId} (hid : p id) : Within p (.enter id)
  | back : Within p .back
  | choose (position : Nat) : Within p (.choose position)
  | forward : Within p .forward
  | scene : Within p .scene
  | restore {game : SavedGame} (hnames : ∀ id ∈ game.state.names, p id) : Within p (.restore game)

/-- The choices of the section being read lead to what the story refers to. -/
theorem target_mem_references {id : SectionId} {sec : Section} {c : Choice}
    (hcurrent : s.currentSection = .ok (id, sec)) (hc : c ∈ sec.choices) :
    c.target ∈ s.story.references := by
  have hsec : sec ∈ s.story.sections.values := by
    unfold currentSection at hcurrent
    split at hcurrent
    · cases hcurrent
    · next hid =>
      split at hcurrent
      · next hfind =>
        cases hcurrent
        rcases Table.exists_mem_of_find? hfind with ⟨key, hentry, -⟩
        exact List.mem_map_of_mem (f := Prod.snd) hentry
      · cases hcurrent
  exact List.mem_append_left _ (List.mem_flatMap.2 ⟨sec, hsec, List.mem_map_of_mem hc⟩)

/-- A story starts at a section of it, or at one that its progress names. -/
theorem startsAt_cases {story : Story} {id : SectionId} (hstart : story.StartsAt id) :
    id ∈ story.ids ∨ id ∈ story.progress.names := by
  rcases hstart with ⟨first, hfirst, rfl⟩
  cases hcurrent : story.currentId.filter story.hasSection with
  | none => exact Or.inl (List.mem_of_head? hfirst)
  | some id =>
    exact Or.inr (Story.mem_names_of_currentId (Option.filter_eq_some_iff.1 hcurrent).1)

/-- The session that a section is entered from follows the story, and the section satisfies the
condition. -/
theorem Leads.follows {base : Session σ} {operation : Operation} {id : SectionId} {remember : Bool}
    (hs : Story.Follows p story s.story) (hids : ∀ id ∈ story.ids, p id)
    (hoperation : operation.Within p) (hleads : s.Leads operation base id remember) :
    Story.Follows p story base.story ∧ p id := by
  have hnames := hs.names
  have hstarts : ∀ {s : Story} {id : SectionId},
      Story.Follows p story s → s.StartsAt id → p id := by
    intro s id hs hstart
    rcases startsAt_cases hstart with hid | hid
    · rw [hs.ids_eq] at hid
      exact hids id hid
    · exact hs.names id hid
  cases hleads with
  | start hstart => exact ⟨hs, hstarts hs hstart⟩
  | load => cases hoperation
  | enter =>
    cases hoperation with
    | enter hid => exact ⟨hs, hid⟩
  | @back id progress hcurrent hpop =>
    rw [Progress.eq_of_pop? hpop] at hnames
    rcases List.forall_mem_append.1 hnames with ⟨hcurrent, hhistory⟩
    rcases List.forall_mem_append.1 hhistory with ⟨hhistory, hlast⟩
    exact ⟨hs.withState (List.forall_mem_append.2 ⟨hcurrent, hhistory⟩),
      hlast id (List.mem_singleton_self id)⟩
  | choose hcurrent hc =>
    exact ⟨hs, hs.references _ (target_mem_references hcurrent (List.mem_of_getElem? hc))⟩
  | forward hcurrent hc =>
    refine ⟨hs, hs.references _ (target_mem_references hcurrent ?_)⟩
    rw [hc]
    exact List.mem_singleton_self _
  | restore htitle hmatch hstart =>
    cases hoperation with
    | restore hgame =>
      have hbase := hs.withState hgame
      exact ⟨hbase, hstarts hbase hstart⟩

/-- What entering a section leads to follows the story. -/
theorem Entered.follows {id : SectionId} {remember : Bool} (hs : Story.Follows p story s.story)
    (hoffers : ∀ target, story.OffersChoice target → p target) (hid : p id)
    (hentered : s.Entered id remember s') : Story.Follows p story s'.story := by
  rcases hentered.changes with ⟨sec, hsec, hchanges⟩
  have hmoved : Story.Follows p story (s.moved id remember) := by
    apply hs.withState
    intro other hother
    rcases Progress.names_moveTo hother with rfl | hother
    · exact hid
    · exact hs.names other hother
  apply hmoved.changes
  apply hchanges.mono
  intro target htarget
  exact hoffers target ⟨sec.steps, hs.scripts_eq ▸ Story.steps_mem_scripts hsec, htarget⟩

end Session

/-- A move follows the story, if what scripts offer and what the move brings along satisfy the
condition. -/
theorem Story.Follows.perform {σ : Type} {p : SectionId → Prop} {story : Story} {s : Session σ}
    (hs : Story.Follows p story s.story) (hids : ∀ id ∈ story.ids, p id)
    (hoffers : ∀ target, story.OffersChoice target → p target) (responder : Responder σ)
    {operation : Session.Operation} (hoperation : operation.Within p) :
    Story.Follows p story (s.perform responder operation).2.story := by
  cases hnext : s.perform responder operation with
  | mk result s' =>
    cases Session.performed_of_eq hnext with
    | enters hleads hentered =>
      rcases hleads.follows hs hids hoperation with ⟨hbase, hid⟩
      exact hentered.follows hbase hoffers hid
    | empties hstarts hempty =>
      cases hoperation with
      | start =>
        cases hstarts
        exact hs
      | restore hnames =>
        cases hstarts
        exact hs
      | _ => cases hstarts
    | stays => exact hs

/-! ## Offered choices -/

/-- The target of the choice that an action may add is one of its parameters. -/
theorem Action.mem_parameters_of_offered? {name : String} {parameters : List Scalar} {a : Action}
    {target : SectionId} (hparse : parse name parameters = .ok a)
    (hoffered : a.offered? = some target) : target ∈ parameters := by
  fun_induction parse name parameters generalizing a with
  | case1 => cases hparse
  | case2 => cases hparse; cases hoffered
  | case3 => cases hparse; cases hoffered
  | case4 => cases hparse; cases hoffered
  | case5 => cases hparse; cases hoffered
  | case6 _ name token value next rest comparison htoken hkind ih =>
    rcases exists_of_map_eq_ok hparse with ⟨action, hnext, rfl⟩
    have hrest := ih hnext hoffered
    simp [hrest]
  | case7 => cases hparse
  | case8 _ name next rest hkind ih =>
    rcases exists_of_map_eq_ok hparse with ⟨action, hnext, rfl⟩
    have hrest := ih hnext hoffered
    simp [hrest]
  | case9 _ name next rest hkind ih =>
    rcases exists_of_map_eq_ok hparse with ⟨action, hnext, rfl⟩
    have hrest := ih hnext hoffered
    simp [hrest]
  | case10 => cases hparse; cases hoffered; simp
  | case11 => cases hparse; cases hoffered
  | case12 => cases hparse; cases hoffered; simp
  | case13 => cases hparse; cases hoffered
  | case14 => cases hparse

/-- The target of the choice that a step may add is one of its parameters. -/
theorem Step.mem_parameters_of_offered? {e : Step} {target : SectionId}
    (hoffered : e.offered? = some target) : target ∈ e.parameters := by
  unfold offered? at hoffered
  split at hoffered
  · next a haction => exact Action.mem_parameters_of_offered? haction hoffered
  · cases hoffered

namespace Session

variable {σ : Type} {story : Story}

/-! ## Every run -/

/-- The sessions in which a story is played from its beginning.  The reader enters sections by
integers and text, and restores games that name their sections so, as all games do that were read
from a document, or that were saved while the story was played. -/
inductive Played (story : Story) : Session σ → Prop
  | new (settings : Settings) (answerer : σ) :
    Played story { story, settings, responder := answerer }
  | perform {s : Session σ} (hs : Played story s) (responder : Responder σ) {operation : Operation}
      (hoperation : operation.Within fun id => id.isName = true) :
    Played story (s.perform responder operation).2
  | restoreSaved {s t : Session σ} (hs : Played story s) (ht : Played story t)
      (responder : Responder σ) : Played story (s.perform responder (.restore t.save)).2

/-- Every run follows the story, if the condition holds of names and of what scripts offer. -/
theorem Played.follows {p : SectionId → Prop} {s : Session σ} (hs : Played story s)
    (hstory : story.Intact) (hnames : ∀ id : SectionId, id.isName = true → p id)
    (hoffers : ∀ target, story.OffersChoice target → p target) :
    Story.Follows p story s.story := by
  have hids : ∀ id ∈ story.ids, p id := fun id hid => hnames id (hstory.ids id hid)
  have hmono : ∀ {operation : Operation}, (operation.Within fun id => id.isName = true) →
      operation.Within p := by
    intro operation hoperation
    cases hoperation with
    | start => exact .start
    | enter hid => exact .enter (hnames _ hid)
    | back => exact .back
    | choose position => exact .choose position
    | forward => exact .forward
    | scene => exact .scene
    | restore hgame => exact .restore fun id hid => hnames id (hgame id hid)
  induction hs with
  | new settings answerer =>
    exact ⟨rfl, rfl, rfl, fun id hid => hnames id (hstory.references id hid)⟩
  | perform hs responder hoperation ih => exact ih.perform hids hoffers responder (hmono hoperation)
  | restoreSaved hs ht responder ih iht =>
    exact ih.perform hids hoffers responder (.restore iht.names)

/-- What the scripts of an intact story offer has a text. -/
theorem isFinite_of_offersChoice (hstory : story.Intact) {target : SectionId}
    (htarget : story.OffersChoice target) : target.isFinite = true := by
  rcases htarget with ⟨script, hscript, e, he, hoffered⟩
  rcases List.mem_map.1 hscript with ⟨sec, hsec, rfl⟩
  refine (hstory.sections sec hsec).parameters target (List.mem_flatMap.2 ⟨e, he, ?_⟩)
  exact Step.mem_parameters_of_offered? hoffered

/-- A story that is played stays sound. -/
theorem Played.sound {s : Session σ} (hs : Played story s) (hstory : story.Intact) :
    s.story.Sound :=
  (hs.follows hstory (fun _ => Scalar.isFinite_of_isName)
    fun _ htarget => isFinite_of_offersChoice hstory htarget).sound hstory

/-- In every state that is reached while a story is played, the story is read from its own document
exactly when all that it refers to are integers and text, and the saved game exactly when the
current section and the history are.  What is neither comes from a choice that a script of the story
offers. -/
theorem Played.reloads_iff {text : String} {s : Session σ}
    (hread : Story.ofDocument text = .ok story) (hs : Played story s)
    (hreals : ∀ x ∈ s.story.toJson.reals, Json.ReadsBack x) :
    (s.story.Reloads ↔ ∀ id ∈ s.story.references, id.isName = true) ∧
      (s.save.Reloads ↔ ∀ id ∈ s.story.progress.names, id.isName = true) ∧
      ∀ id ∈ s.story.references, id.isName = true ∨ story.OffersChoice id := by
  have hstory := Story.intact_of_ofDocument hread
  have hsound := hs.sound hstory
  exact ⟨Story.reloads_iff_of_sound hsound hreals,
    SavedGame.reloads_capture_iff_of_sound hsound hreals,
    (hs.follows hstory (fun _ => Or.inl) fun _ => Or.inr).references⟩

/-- A story whose first section offers its second one by a number. -/
def offeringTwo : Story where
  sections := .ofList
    [(.text "1",
      { script := some [{ action := "ADD_CHOICE", parameters := [.number 2, .text "Go"] }] }),
     (.text "2", Section.ofLines ["The end."])]

/-- The story comes from a document. -/
theorem intact_offeringTwo : offeringTwo.Intact := by
  refine ⟨List.forall_mem_nil _, by decide, ?_, List.forall_mem_nil _⟩
  refine List.forall_mem_cons.2 ⟨⟨List.forall_mem_nil _, by decide +kernel⟩, ?_⟩
  exact List.forall_mem_singleton.2 (Section.Intact.ofLines ["The end."])

/-- The story is read from its document. -/
theorem ofDocument_offeringTwo : Story.ofDocument offeringTwo.toDocument = .ok offeringTwo :=
  Story.ofDocument_toDocument intact_offeringTwo.sound (by decide +kernel)

/-- The session in which the story has been started. -/
def ofOfferingTwo : Session Unit :=
  (perform Responder.silent { story := offeringTwo, responder := () } .start).2

/-- The story is not read any more with the choice that it has been given, but the saved game of a
reader in its first section is. -/
theorem ofOfferingTwo_reloads : ¬ofOfferingTwo.story.Reloads ∧ ofOfferingTwo.save.Reloads := by
  have hs : Played offeringTwo ofOfferingTwo := .perform (.new _ _) _ .start
  rcases Played.reloads_iff ofDocument_offeringTwo hs (by decide +kernel) with ⟨hstory, hsave, -⟩
  rw [hstory, hsave]
  decide +kernel

/-- The session in which that choice has been followed. -/
def ofFollowingTwo : Session Unit :=
  (perform Responder.silent ofOfferingTwo (.choose 0)).2

/-- Once the choice has been followed neither the story nor the saved game is read any more, though
the story was read from a document and all numbers read back. -/
theorem ofFollowingTwo_not_reloads :
    Story.ofDocument offeringTwo.toDocument = .ok offeringTwo ∧ Played offeringTwo ofFollowingTwo ∧
      (∀ x ∈ ofFollowingTwo.story.toJson.reals, Json.ReadsBack x) ∧
      ¬ofFollowingTwo.story.Reloads ∧ ¬ofFollowingTwo.save.Reloads := by
  have hs : Played offeringTwo ofFollowingTwo :=
    .perform (.perform (.new _ _) _ .start) _ (.choose 0)
  have hreals : ∀ x ∈ ofFollowingTwo.story.toJson.reals, Json.ReadsBack x := by decide +kernel
  have hsound := hs.sound intact_offeringTwo
  have hstory := Story.reloads_iff_of_sound hsound hreals
  have hsave := SavedGame.reloads_capture_iff_of_sound hsound hreals
  refine ⟨ofDocument_offeringTwo, hs, hreals, ?_, ?_⟩
  · rw [hstory]
    decide +kernel
  · rw [save, hsave]
    decide +kernel

end Session

end Gamebook
