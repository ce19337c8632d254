import Gamebook.Play.Session
import Gamebook.Proofs.Script.Changes

/-!
# What moves do to a session

Every move of a reader ends in one of three ways: a section is entered, a story without sections
leaves the reader at the menu, or the session stays as it is.  This module says so once; what holds
of every move then follows by cases.

Main results:

- Theorem `Session.transition_of_section?`: entering a section that exists always succeeds, and
  shows it with what its script has changed.
- Definition `Session.inPlace?`: the answers that are given without entering a section.
- Definition `Session.Leads`: the sections to which an operation leads, and the session that they
  are entered from.
- Definition `Session.Answered` and theorem `Session.answered_of_inPlace?`: why an operation is
  answered in place.
- Theorem `Session.perform_cases`: the three ways in which a move ends.
- Theorem `Session.answered_of_error`: why a move fails.
-/

namespace Gamebook

/-- The section at which a story starts: the one that the progress names, if it exists, or else the
first one. -/
def Story.StartsAt (story : Story) (id : SectionId) : Prop :=
  ∃ first, story.firstId = some first ∧
    id = (story.currentId.filter story.hasSection).getD first

/-- A name of a section stands among the names of the story. -/
theorem Story.hasSection_of_mem_ids {story : Story} {id : SectionId} (hid : id ∈ story.ids) :
    story.hasSection id = true :=
  Table.contains_eq_true_iff.2 ⟨id, hid, Std.ReflCmp.compare_self⟩

/-- A section that is found exists. -/
theorem Story.hasSection_of_section? {story : Story} {id : SectionId} {sec : Section}
    (hsec : story.section? id = some sec) : story.hasSection id = true :=
  Table.contains_of_find? hsec

/-- A section that exists is found. -/
theorem Story.exists_section?_of_hasSection {story : Story} {id : SectionId}
    (hid : story.hasSection id = true) : ∃ sec, story.section? id = some sec :=
  Table.exists_find?_of_contains hid

/-- The section at which a story starts exists. -/
theorem Story.StartsAt.hasSection {story : Story} {id : SectionId} (hstart : story.StartsAt id) :
    story.hasSection id = true := by
  obtain ⟨first, hfirst, rfl⟩ := hstart
  cases hcurrent : story.currentId.filter story.hasSection with
  | none => exact Story.hasSection_of_mem_ids (List.mem_of_head? hfirst)
  | some id => exact (Option.filter_eq_some_iff.1 hcurrent).2

/-- What was popped from the history stood at its end. -/
theorem Progress.eq_of_pop? {p p' : Progress} {id : SectionId} (hpop : p.pop? = some (id, p')) :
    p = { p' with history := p'.history ++ [id] } := by
  rw [Progress.pop?, Option.map_eq_some_iff] at hpop
  obtain ⟨last, hlast, heq⟩ := hpop
  cases heq
  obtain ⟨earlier, hhistory⟩ := List.getLast?_eq_some_iff.1 hlast
  rw [hhistory, List.dropLast_concat, ← hhistory]

namespace Session

variable {σ : Type} (responder : Responder σ)

/-- A session of which a section is being played is playing. -/
theorem mode_of_currentId {s : Session σ} {id : SectionId} (hcurrent : s.currentId = some id) :
    s.mode = .playing := by
  unfold currentId at hcurrent
  split at hcurrent
  · assumption
  · cases hcurrent

/-- The section being played is the one being read. -/
theorem story_currentId_of_currentId {s : Session σ} {id : SectionId}
    (hcurrent : s.currentId = some id) : s.story.currentId = some id := by
  unfold currentId at hcurrent
  split at hcurrent
  · exact hcurrent
  · cases hcurrent

/-! ## Entering sections -/

/-- The story in which the reader has moved to a section, before its script runs. -/
def moved (s : Session σ) (id : SectionId) (remember : Bool) : Story :=
  s.story.adjustProgress fun p => p.moveTo s.settings.historyLimit remember id

/-- What a session is after entering a section. -/
structure Entered (s : Session σ) (id : SectionId) (remember : Bool) (s' : Session σ) : Prop where
  mode_eq : s'.mode = .playing
  settings_eq : s'.settings = s.settings
  changes : ∃ sec, s.story.section? id = some sec ∧
    Story.Changes (Offers sec.steps) (s.moved id remember) s'.story

/-- A section that does not exist is not entered. -/
theorem transition_of_not_hasSection {s : Session σ} {id : SectionId}
    (hid : s.story.hasSection id = false) (remember : Bool) :
    s.transition responder id remember = (.error (.missingSection id), s) := by
  rw [transition, hid, if_neg Bool.false_ne_true]

/-- Entering a section that exists always succeeds, whatever its script does: the section is shown
with what the script has changed and with the failures of the script. -/
theorem transition_of_section? {s : Session σ} {id : SectionId} {sec : Section}
    (hsec : s.story.section? id = some sec) (remember : Bool) :
    ∃ report reading sec',
      runScript responder ⟨s.moved id remember, s.responder⟩ sec.steps = (report, reading) ∧
      reading.story.section? id = some sec' ∧
      s.transition responder id remember =
        (.ok { reading.story.render id sec' with scriptErrors := report.errors },
          { s with
            story := reading.story, responder := reading.responder, mode := .playing }) := by
  cases hscript : runScript responder ⟨s.moved id remember, s.responder⟩ sec.steps with
  | mk report reading =>
    have hsection : runSection responder ⟨s.moved id remember, s.responder⟩ id =
        (.ok report, reading) := by
      rw [runSection_of_section? responder hsec, hscript]
    -- the script keeps the section, so there is something to show
    have hafter : reading.story.hasSection id = true := by
      rw [(changes_of_runScript_eq responder hscript).kept.hasSection_eq]
      exact Story.hasSection_of_section? hsec
    rcases Story.exists_section?_of_hasSection hafter with ⟨sec', hsec'⟩
    refine ⟨report, reading, sec', rfl, hsec', ?_⟩
    rw [transition, if_pos (Story.hasSection_of_section? hsec)]
    rw [moved] at hsection
    simp only [hsection, hsec']

/-- Entering a section that exists always succeeds. -/
theorem transition_of_hasSection {s : Session σ} {id : SectionId}
    (hid : s.story.hasSection id = true) (remember : Bool) :
    ∃ scene s', s.transition responder id remember = (.ok scene, s') ∧
      s.Entered id remember s' := by
  rcases Story.exists_section?_of_hasSection hid with ⟨sec, hsec⟩
  rcases transition_of_section? responder hsec remember with
    ⟨report, reading, sec', hscript, -, htransition⟩
  exact ⟨_, _, htransition, rfl, rfl, sec, hsec, changes_of_runScript_eq responder hscript⟩

/-- The section that was entered is the one being read. -/
theorem Entered.currentId_eq {s s' : Session σ} {id : SectionId} {remember : Bool}
    (hentered : s.Entered id remember s') : s'.story.currentId = some id := by
  obtain ⟨sec, -, hchanges⟩ := hentered.changes
  rw [hchanges.kept.currentId_eq]
  rfl

/-- The section that was entered exists. -/
theorem Entered.hasSection {s s' : Session σ} {id : SectionId} {remember : Bool}
    (hentered : s.Entered id remember s') : s'.story.hasSection id = true := by
  obtain ⟨sec, hsec, hchanges⟩ := hentered.changes
  rw [hchanges.kept.hasSection_eq]
  exact Story.hasSection_of_section? hsec

/-! ## Starting -/

/-- A story without sections is not started. -/
theorem start_of_firstId_eq_none {s : Session σ} (hfirst : s.story.firstId = none) :
    s.start responder = (.error .emptyStory, { s with mode := .menu }) := by
  rw [start, hfirst]

/-- Any other story starts at a section of it. -/
theorem start_of_firstId {s : Session σ} {first : SectionId}
    (hfirst : s.story.firstId = some first) :
    ∃ id scene s', s.story.StartsAt id ∧ s.start responder = (.ok scene, s') ∧
      s.transition responder id false = (.ok scene, s') ∧ s.Entered id false s' := by
  have hstart : s.story.StartsAt ((s.story.currentId.filter s.story.hasSection).getD first) :=
    ⟨first, hfirst, rfl⟩
  obtain ⟨scene, s', htransition, hentered⟩ :=
    transition_of_hasSection responder hstart.hasSection false
  refine ⟨_, scene, s', hstart, ?_, htransition, hentered⟩
  rw [start, hfirst]
  exact htransition

/-! ## Answers in place -/

/-- The answer where a section is to be entered that does not exist. -/
def absent? (story : Story) (id : SectionId) : Option (Except MoveError (Option Scene)) :=
  if story.hasSection id then none else some (.error (.missingSection id))

/-- The answer where a story without sections is to be started. -/
def sectionless? (story : Story) : Option (Except MoveError (Option Scene)) :=
  if story.firstId.isNone then some (.error .emptyStory) else none

/-- The answer of an operation that enters no section; absent where it enters one.  Neither the
scripts of the story nor the one who answers prompts have a part in it. -/
def inPlace? (s : Session σ) : Operation → Option (Except MoveError (Option Scene))
  | .start => sectionless? s.story
  | .load story => sectionless? story
  | .enter id => absent? s.story id
  | .back =>
    if s.currentId.isNone then some (.error .notPlaying)
    else
      match s.story.progress.pop? with
      | none => some (.ok none)
      | some (id, _) => absent? s.story id
  | .choose position =>
    match s.currentSection with
    | .error e => some (.error e)
    | .ok (_, sec) =>
      match sec.choices[position]? with
      | some c => absent? s.story c.target
      | none => some (.error (.invalidChoice position sec.choices.length))
  | .forward =>
    match s.currentSection with
    | .error e => some (.error e)
    | .ok (_, sec) =>
      match sec.choices with
      | [c] => absent? s.story c.target
      | _ => some (.ok none)
  | .scene => some (s.scene.map some)
  | .restore game =>
    match s.story.title with
    | none => some (.error .noStoryLoaded)
    | some title =>
      if game.info.title = some title then sectionless? s.story
      else some (.error (.titleMismatch title (game.info.title.getD "")))

/-- A section that exists can be entered. -/
theorem absent?_of_hasSection {story : Story} {id : SectionId}
    (hid : story.hasSection id = true) : absent? story id = none :=
  if_pos hid

/-- A section that does not exist cannot be entered. -/
theorem absent?_of_not_hasSection {story : Story} {id : SectionId}
    (hid : story.hasSection id = false) :
    absent? story id = some (.error (.missingSection id)) := by
  rw [absent?, hid, if_neg Bool.false_ne_true]

/-- A story with sections can be started. -/
theorem sectionless?_of_firstId {story : Story} {first : SectionId}
    (hfirst : story.firstId = some first) : sectionless? story = none := by
  rw [sectionless?, hfirst]
  rfl

/-- A story without sections cannot be started. -/
theorem sectionless?_of_firstId_eq_none {story : Story} (hfirst : story.firstId = none) :
    sectionless? story = some (.error .emptyStory) := by
  rw [sectionless?, hfirst]
  rfl

/-! ## Operations -/

/-- The sections to which an operation leads, each with the session that it is entered from and with
whether the move is remembered. -/
inductive Leads (s : Session σ) : Operation → Session σ → SectionId → Bool → Prop
  | start {id : SectionId} (hstart : s.story.StartsAt id) : Leads s .start s id false
  | load {story : Story} {id : SectionId} (hstart : story.StartsAt id) :
    Leads s (.load story) { s with story, mode := .menu } id false
  | enter (id : SectionId) : Leads s (.enter id) s id true
  | back {id : SectionId} {progress : Progress} (hcurrent : s.currentId.isSome = true)
      (hpop : s.story.progress.pop? = some (id, progress)) :
    Leads s .back { s with story := { s.story with state := some progress } } id false
  | choose {position : Nat} {id : SectionId} {sec : Section} {c : Choice}
      (hcurrent : s.currentSection = .ok (id, sec)) (hc : sec.choices[position]? = some c) :
    Leads s (.choose position) s c.target true
  | forward {id : SectionId} {sec : Section} {c : Choice}
      (hcurrent : s.currentSection = .ok (id, sec)) (hc : sec.choices = [c]) :
    Leads s .forward s c.target true
  | restore {game : SavedGame} {id : SectionId} (htitle : s.story.title.isSome = true)
      (hmatch : game.info.title = s.story.title)
      (hstart : Story.StartsAt { s.story with state := some game.state } id) :
    Leads s (.restore game) { s with story := { s.story with state := some game.state } } id false

/-- The story that an operation starts, where it starts one. -/
def Operation.starts? (s : Session σ) : Operation → Option Story
  | .start => some s.story
  | .load story => some story
  | .restore _ => some s.story
  | _ => none

/-- Why an operation is answered in place, and what the answer is. -/
inductive Answered (s : Session σ) : Operation → Except MoveError (Option Scene) → Prop
  | notPlaying {operation : Operation} (hcurrent : s.currentId = none) :
    Answered s operation (.error .notPlaying)
  /-- The section being played does not exist. -/
  | astray {operation : Operation} {id : SectionId} (hcurrent : s.currentId = some id)
      (hid : s.story.hasSection id = false) :
    Answered s operation (.error (.missingSection id))
  /-- The operation leads to a section that does not exist. -/
  | missing {operation : Operation} {base : Session σ} {id : SectionId} {remember : Bool}
      (hleads : s.Leads operation base id remember) (hid : s.story.hasSection id = false) :
    Answered s operation (.error (.missingSection id))
  | empty {operation : Operation} {story : Story} (hstarts : operation.starts? s = some story)
      (hempty : story.firstId = none) :
    Answered s operation (.error .emptyStory)
  | nothingBefore (hpop : s.story.progress.pop? = none) : Answered s .back (.ok none)
  | invalidChoice {position : Nat} {id : SectionId} {sec : Section}
      (hcurrent : s.currentSection = .ok (id, sec)) (hc : sec.choices[position]? = none) :
    Answered s (.choose position) (.error (.invalidChoice position sec.choices.length))
  | noSingleChoice {id : SectionId} {sec : Section} (hcurrent : s.currentSection = .ok (id, sec))
      (hone : sec.choices.length ≠ 1) :
    Answered s .forward (.ok none)
  | shown {scene : Scene} (hscene : s.scene = .ok scene) : Answered s .scene (.ok (some scene))
  | noStoryLoaded {game : SavedGame} (htitle : s.story.title = none) :
    Answered s (.restore game) (.error .noStoryLoaded)
  | titleMismatch {game : SavedGame} {title : String} (htitle : s.story.title = some title)
      (hmatch : game.info.title ≠ some title) :
    Answered s (.restore game) (.error (.titleMismatch title (game.info.title.getD "")))

/-- Without a section being played that exists there is none to show or to leave. -/
theorem answered_of_currentSection_eq_error {s : Session σ} {operation : Operation}
    {e : MoveError} (hcurrent : s.currentSection = .error e) : s.Answered operation (.error e) := by
  unfold currentSection at hcurrent
  split at hcurrent
  · next hid =>
    cases hcurrent
    exact .notPlaying hid
  · next id hid =>
    split at hcurrent
    · cases hcurrent
    · next hsec =>
      cases hcurrent
      exact .astray hid (Story.hasSection_eq_false_iff.2 hsec)

/-- An operation that leads to one section is answered in place only where it is missing. -/
theorem answered_of_absent? {s base : Session σ} {operation : Operation} {id : SectionId}
    {remember : Bool} {answer : Except MoveError (Option Scene)}
    (hleads : s.Leads operation base id remember) (habsent : absent? s.story id = some answer) :
    s.Answered operation answer := by
  cases hid : s.story.hasSection id with
  | true =>
    rw [absent?_of_hasSection hid] at habsent
    cases habsent
  | false =>
    rw [absent?_of_not_hasSection hid] at habsent
    cases habsent
    exact .missing hleads hid

/-- An operation that starts a story is answered in place only where it has no sections. -/
theorem answered_of_sectionless? {s : Session σ} {operation : Operation} {story : Story}
    {answer : Except MoveError (Option Scene)} (hstarts : operation.starts? s = some story)
    (hempty : sectionless? story = some answer) : s.Answered operation answer := by
  cases hfirst : story.firstId with
  | some first =>
    rw [sectionless?_of_firstId hfirst] at hempty
    cases hempty
  | none =>
    rw [sectionless?_of_firstId_eq_none hfirst] at hempty
    cases hempty
    exact .empty hstarts hfirst

/-- Every answer in place has its reason. -/
theorem answered_of_inPlace? {s : Session σ} {operation : Operation}
    {answer : Except MoveError (Option Scene)} (hanswer : s.inPlace? operation = some answer) :
    s.Answered operation answer := by
  cases operation with
  | start => exact answered_of_sectionless? rfl hanswer
  | load story => exact answered_of_sectionless? rfl hanswer
  | enter id => exact answered_of_absent? (.enter id) hanswer
  | back =>
    cases hcurrent : s.currentId with
    | none =>
      rw [inPlace?, hcurrent] at hanswer
      cases hanswer
      exact .notPlaying hcurrent
    | some current =>
      simp only [inPlace?, hcurrent, Option.isNone_some, Bool.false_eq_true, if_false] at hanswer
      split at hanswer
      · next hpop =>
        cases hanswer
        exact .nothingBefore hpop
      · next hpop => exact answered_of_absent? (.back (by rw [hcurrent]; rfl) hpop) hanswer
  | choose position =>
    cases hcurrent : s.currentSection with
    | error e =>
      simp only [inPlace?, hcurrent] at hanswer
      cases hanswer
      exact answered_of_currentSection_eq_error hcurrent
    | ok current =>
      obtain ⟨id, sec⟩ := current
      simp only [inPlace?, hcurrent] at hanswer
      split at hanswer
      · next hc => exact answered_of_absent? (.choose hcurrent hc) hanswer
      · next hc =>
        cases hanswer
        exact .invalidChoice hcurrent hc
  | forward =>
    cases hcurrent : s.currentSection with
    | error e =>
      simp only [inPlace?, hcurrent] at hanswer
      cases hanswer
      exact answered_of_currentSection_eq_error hcurrent
    | ok current =>
      obtain ⟨id, sec⟩ := current
      simp only [inPlace?, hcurrent] at hanswer
      split at hanswer
      · next hc => exact answered_of_absent? (.forward hcurrent hc) hanswer
      · next hmany =>
        cases hanswer
        refine .noSingleChoice hcurrent fun hone => ?_
        obtain ⟨c, hc⟩ := List.length_eq_one_iff.1 hone
        exact hmany c hc
  | scene =>
    cases hanswer
    cases hcurrent : s.currentSection with
    | error e =>
      rw [scene, hcurrent]
      exact answered_of_currentSection_eq_error hcurrent
    | ok current =>
      have hscene : s.scene = .ok (s.story.render current.1 current.2) := by
        rw [scene, hcurrent]
        rfl
      rw [hscene]
      exact .shown hscene
  | restore game =>
    cases htitle : s.story.title with
    | none =>
      simp only [inPlace?, htitle] at hanswer
      cases hanswer
      exact .noStoryLoaded htitle
    | some title =>
      simp only [inPlace?, htitle] at hanswer
      split at hanswer
      · exact answered_of_sectionless? rfl hanswer
      · next hmatch =>
        cases hanswer
        exact .titleMismatch htitle hmatch

/-- How a move ends. -/
inductive Performed (s : Session σ) (operation : Operation) :
    Except MoveError (Option Scene) → Session σ → Prop
  /-- A section is entered. -/
  | enters {base s' : Session σ} {id : SectionId} {remember : Bool} {scene : Scene}
      (hleads : s.Leads operation base id remember) (hentered : base.Entered id remember s')
      (hanswer : s.inPlace? operation = none)
      (htransition : base.transition responder id remember = (.ok scene, s')) :
    Performed s operation (.ok (some scene)) s'
  /-- There is no section to start at. -/
  | empties {story : Story} (hstarts : operation.starts? s = some story)
      (hempty : story.firstId = none)
      (hanswer : s.inPlace? operation = some (.error .emptyStory)) :
    Performed s operation (.error .emptyStory) { s with story, mode := .menu }
  /-- The session stays as it is. -/
  | stays {result : Except MoveError (Option Scene)}
      (hanswer : s.inPlace? operation = some result) :
    Performed s operation result s

/-- An operation that leads to one section enters it, or changes nothing where it is missing. -/
theorem performed_enter {s : Session σ} {operation : Operation} {id : SectionId}
    (hleads : s.Leads operation s id true)
    (hanswer : s.inPlace? operation = absent? s.story id) :
    Performed responder s operation ((s.enter responder id).1.map some)
      (s.enter responder id).2 := by
  rw [enter]
  cases hid : s.story.hasSection id with
  | false =>
    rw [transition_of_not_hasSection responder hid]
    exact .stays (hanswer.trans (absent?_of_not_hasSection hid))
  | true =>
    obtain ⟨scene, s', htransition, hentered⟩ := transition_of_hasSection responder hid true
    rw [htransition]
    exact .enters hleads hentered (hanswer.trans (absent?_of_hasSection hid)) htransition

/-- Following a choice enters its target. -/
theorem performed_choose (s : Session σ) (position : Nat) :
    Performed responder s (.choose position) ((s.choose responder position).1.map some)
      (s.choose responder position).2 := by
  cases hcurrent : s.currentSection with
  | error e =>
    rw [choose, hcurrent]
    exact .stays (by simp only [inPlace?, hcurrent]; rfl)
  | ok current =>
    obtain ⟨id, sec⟩ := current
    cases hc : sec.choices[position]? with
    | none =>
      simp only [choose, hcurrent, hc]
      exact .stays (by simp only [inPlace?, hcurrent, hc]; rfl)
    | some c =>
      simp only [choose, hcurrent, hc]
      exact performed_enter responder (.choose hcurrent hc) (by simp only [inPlace?, hcurrent, hc])

/-- Following the only choice enters its target. -/
theorem performed_forward (s : Session σ) :
    Performed responder s .forward (s.forward responder).1 (s.forward responder).2 := by
  cases hcurrent : s.currentSection with
  | error e =>
    rw [forward, hcurrent]
    exact .stays (by simp only [inPlace?, hcurrent])
  | ok current =>
    obtain ⟨id, sec⟩ := current
    by_cases hone : sec.choices.length = 1
    · obtain ⟨c, hc⟩ := List.length_eq_one_iff.1 hone
      have hfirst : sec.choices[0]? = some c := by
        rw [hc]
        rfl
      simp only [forward, hcurrent, if_pos hone, choose, hfirst]
      exact performed_enter responder (.forward hcurrent hc) (by simp only [inPlace?, hcurrent, hc])
    · simp only [forward, hcurrent, if_neg hone]
      refine .stays ?_
      simp only [inPlace?, hcurrent]
      split
      · next hc => exact absurd (by rw [hc]; rfl) hone
      · rfl

/-- A failed step back leaves the session as it was. -/
theorem back_of_missing {s : Session σ} {id : SectionId} {progress : Progress}
    (hcurrent : s.currentId.isNone = false) (hpop : s.story.progress.pop? = some (id, progress))
    (hid : s.story.hasSection id = false) :
    s.back responder = (.error (.missingSection id), s) := by
  have hstate : s.story.state = some { progress with history := progress.history ++ [id] } := by
    rw [← Progress.eq_of_pop? hpop]
    cases hstate : s.story.state with
    | none =>
      rw [Story.progress, hstate] at hpop
      cases hpop
    | some p => rw [Story.progress, hstate, Option.getD_some]
  have htransition : transition responder
      { s with story := { s.story with state := some progress } } id false =
      (.error (.missingSection id), { s with story := { s.story with state := some progress } }) :=
    transition_of_not_hasSection responder
      (s := { s with story := { s.story with state := some progress } }) hid false
  simp only [back, hcurrent, Bool.false_eq_true, if_false, hpop, htransition]
  congr
  simp only [Story.adjustProgress, Story.progress, Option.getD_some, ← hstate]

/-- Going back enters the latest section of the history, or changes nothing. -/
theorem performed_back (s : Session σ) :
    Performed responder s .back (s.back responder).1 (s.back responder).2 := by
  cases hcurrent : s.currentId.isNone with
  | true =>
    rw [back, if_pos hcurrent]
    exact .stays (by rw [inPlace?, if_pos hcurrent])
  | false =>
    have hplaying : ¬s.currentId.isNone = true := by
      rw [hcurrent]
      exact Bool.false_ne_true
    cases hpop : s.story.progress.pop? with
    | none =>
      simp only [back, if_neg hplaying, hpop]
      exact .stays (by simp only [inPlace?, if_neg hplaying, hpop])
    | some popped =>
      obtain ⟨id, progress⟩ := popped
      have hanswer : s.inPlace? .back = absent? s.story id := by
        simp only [inPlace?, if_neg hplaying, hpop]
      cases hid : s.story.hasSection id with
      | false =>
        rw [back_of_missing responder hcurrent hpop hid]
        exact .stays (hanswer.trans (absent?_of_not_hasSection hid))
      | true =>
        let base : Session σ := { s with story := { s.story with state := some progress } }
        have hleads : s.Leads .back base id false :=
          .back (Option.not_isNone _ ▸ hcurrent ▸ rfl) hpop
        obtain ⟨scene, s', htransition, hentered⟩ :=
          transition_of_hasSection responder (s := base) hid false
        have hback : s.back responder = (.ok (some scene), s') := by
          simp only [back, if_neg hplaying, hpop, base] at htransition ⊢
          rw [htransition]
        rw [hback]
        exact .enters hleads hentered (hanswer.trans (absent?_of_hasSection hid)) htransition

/-- Starting a story enters a section of it, or leaves the reader at the menu where it has none. -/
theorem performed_start {s : Session σ} (base : Session σ) {operation : Operation}
    (hstarts : operation.starts? s = some base.story)
    (hbase : { base with mode := .menu } = { s with story := base.story, mode := .menu })
    (hanswer : s.inPlace? operation = sectionless? base.story)
    (hleads : ∀ id, base.story.StartsAt id → s.Leads operation base id false) :
    Performed responder s operation ((base.start responder).1.map some)
      (base.start responder).2 := by
  cases hfirst : base.story.firstId with
  | none =>
    rw [start_of_firstId_eq_none responder hfirst, hbase]
    exact .empties hstarts hfirst (hanswer.trans (sectionless?_of_firstId_eq_none hfirst))
  | some first =>
    obtain ⟨id, scene, s', hstart, hrun, htransition, hentered⟩ :=
      start_of_firstId responder hfirst
    rw [hrun]
    exact .enters (hleads id hstart) hentered (hanswer.trans (sectionless?_of_firstId hfirst))
      htransition

/-- Restoring a saved game starts the story with its progress, or leaves the progress as it was. -/
theorem performed_restore (s : Session σ) (game : SavedGame) :
    Performed responder s (.restore game) ((s.restore responder game).1.map some)
      (s.restore responder game).2 := by
  rw [restore]
  cases htitle : s.story.title with
  | none => exact .stays (by simp only [inPlace?, htitle]; rfl)
  | some title =>
    simp only
    by_cases hmatch : game.info.title = some title
    · rw [if_pos hmatch]
      have hanswer : s.inPlace? (.restore game) = sectionless? s.story := by
        simp only [inPlace?, htitle, if_pos hmatch]
      let base : Session σ := { s with story := { s.story with state := some game.state } }
      cases hfirst : base.story.firstId with
      | none =>
        rw [start_of_firstId_eq_none responder hfirst]
        exact .empties rfl hfirst (hanswer.trans (sectionless?_of_firstId_eq_none hfirst))
      | some first =>
        obtain ⟨id, scene, s', hstart, hrun, htransition, hentered⟩ :=
          start_of_firstId responder hfirst
        rw [hrun]
        refine .enters (.restore ?_ ?_ hstart) hentered
          (hanswer.trans (sectionless?_of_firstId hfirst)) htransition
        · rw [htitle]
          rfl
        · rw [htitle, hmatch]
    · rw [if_neg hmatch]
      exact .stays (by simp only [inPlace?, htitle, if_neg hmatch]; rfl)

/-- Every move enters a section, finds no section to start at, or changes nothing. -/
theorem perform_cases (s : Session σ) (operation : Operation) :
    Performed responder s operation (s.perform responder operation).1
      (s.perform responder operation).2 := by
  cases operation with
  | start => exact performed_start responder s rfl rfl rfl fun _ hstart => .start hstart
  | load story =>
    exact performed_start responder { s with story, mode := .menu } rfl rfl rfl
      fun _ hstart => .load hstart
  | enter id => exact performed_enter responder (.enter id) rfl
  | back => exact performed_back responder s
  | choose position => exact performed_choose responder s position
  | forward => exact performed_forward responder s
  | restore game => exact performed_restore responder s game
  | scene => exact .stays rfl

section

variable {responder} {s s' : Session σ} {operation : Operation}

/-- A move ends in one of these ways, whatever it is known to give. -/
theorem performed_of_eq {result : Except MoveError (Option Scene)}
    (hperform : s.perform responder operation = (result, s')) :
    Performed responder s operation result s' := by
  have hperformed := perform_cases responder s operation
  rw [hperform] at hperformed
  exact hperformed

/-- A move that shows no scene is answered in place. -/
theorem inPlace?_of_no_scene
    (hnone : ∀ scene, (s.perform responder operation).1 ≠ .ok (some scene)) :
    s.inPlace? operation = some (s.perform responder operation).1 := by
  cases hnext : s.perform responder operation with
  | mk result s' =>
    rw [hnext] at hnone
    cases performed_of_eq hnext with
    | enters => exact absurd rfl (hnone _)
    | stays hanswer => exact hanswer
    | empties hstarts hempty hanswer => exact hanswer

/-- Every failure has its reason. -/
theorem answered_of_error {e : MoveError}
    (hfails : (s.perform responder operation).1 = .error e) : s.Answered operation (.error e) := by
  rw [← hfails]
  apply answered_of_inPlace?
  apply inPlace?_of_no_scene
  intro scene hscene
  rw [hfails] at hscene
  cases hscene

end

end Session

end Gamebook
