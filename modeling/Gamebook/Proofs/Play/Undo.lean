import Gamebook.Proofs.Play.Course
import Gamebook.Proofs.Play.Reloading
import Gamebook.Proofs.Play.ScriptErrors
import Gamebook.Proofs.Scalar

/-!
# Undoing moves

The history is a stack: a section that is left by entering another one is pushed, and a step back
pops the latest and enters it without pushing.  With a limit only the top of the stack is kept.
Scripts run on the way in both directions, and none of them reaches the stack.

Main results:

- Theorem `Progress.pushAll_eq_bounded`: pushing many sections and dropping the oldest each time is
  pushing all of them and dropping once.
- Definition `Session.Stands`: where a reader stands, and the sections to go back to.
- Theorems `Session.Stands.enter` and `Session.Stands.back`: one move pushes, or pops.
- Theorems `Session.LeadsThrough.pushes` and `Session.Stands.pops`: so do many.
- Theorem `Session.Reachable.undo_is_stack`: the steps back show the sections that were left, the
  latest first.
-/

namespace Gamebook

/-! ## Bounded histories -/

namespace Progress

/-- Pushes sections one after the other; beyond the limit the oldest are dropped each time. -/
def pushAll (limit : Option Nat) (history ids : List SectionId) : List SectionId :=
  ids.foldl (fun history id => bounded limit (history ++ [id])) history

/-- What was dropped once need not be dropped again. -/
theorem bounded_bounded_append (limit : Option Nat) (earlier later : List SectionId) :
    bounded limit (bounded limit earlier ++ later) = bounded limit (earlier ++ later) := by
  cases limit with
  | none => rfl
  | some n =>
    have hle : earlier.length - n ≤ earlier.length := Nat.sub_le _ _
    simp only [bounded]
    rw [← List.drop_append_of_le_length hle, List.drop_drop, List.length_drop,
      List.length_append]
    congr 1
    omega

/-- Dropping each time is dropping once at the end. -/
theorem pushAll_eq_bounded (limit : Option Nat) (history : List SectionId) {ids : List SectionId}
    (hids : ids ≠ []) : pushAll limit history ids = bounded limit (history ++ ids) := by
  induction ids generalizing history with
  | nil => exact absurd rfl hids
  | cons id rest ih =>
    by_cases hrest : rest = []
    · subst hrest
      rfl
    · calc pushAll limit history (id :: rest)
          = pushAll limit (bounded limit (history ++ [id])) rest := rfl
        _ = bounded limit (bounded limit (history ++ [id]) ++ rest) := ih _ hrest
        _ = bounded limit (history ++ id :: rest) := by
          rw [bounded_bounded_append, List.append_assoc, List.singleton_append]

/-- The latest sections of a bounded history are those that the limit allows by themselves.  Without
a limit all the earlier ones are kept. -/
theorem exists_bounded_append (limit : Option Nat) (earlier later : List SectionId) :
    ∃ kept, bounded limit (earlier ++ later) = kept ++ bounded limit later ∧
      (limit = none → kept = earlier) := by
  cases limit with
  | none => exact ⟨earlier, rfl, fun _ => rfl⟩
  | some n =>
    have hlater : (earlier ++ later).length - n - earlier.length = later.length - n := by
      rw [List.length_append]
      omega
    refine ⟨earlier.drop ((earlier ++ later).length - n), ?_, fun hnone => nomatch hnone⟩
    rw [bounded, bounded, List.drop_append, hlater]

/-- The latest sections first, a bounded history is the beginning of the whole. -/
theorem reverse_bounded (n : Nat) (ids : List SectionId) :
    (bounded (some n) ids).reverse = ids.reverse.take (min ids.length n) := by
  rw [bounded, List.reverse_drop]
  congr 1
  omega

/-- How many sections a bounded history has. -/
theorem length_bounded (n : Nat) (ids : List SectionId) :
    (bounded (some n) ids).length = min ids.length n := by
  rw [bounded, List.length_drop]
  omega

/-- A remembered move pushes the section that was left. -/
theorem history_moveTo_of_current {p : Progress} {current : SectionId}
    (hcurrent : p.current = some current) (limit : Option Nat) (id : SectionId) :
    (p.moveTo limit true id).history = bounded limit (p.history ++ [current]) := by
  rw [moveTo, hcurrent]
  rfl

/-- Any other move leaves the history as it is. -/
theorem history_moveTo_false (p : Progress) (limit : Option Nat) (id : SectionId) :
    (p.moveTo limit false id).history = p.history := by
  rw [moveTo]
  cases p.current <;> rfl

end Progress

namespace Session

variable {σ : Type} {origin s s' : Session σ} {current : SectionId} {history : List SectionId}

/-! ## One move -/

/-- The section that a move shows. -/
def shownId? : Except MoveError (Option Scene) → Option SectionId
  | .ok (some scene) => some scene.id
  | _ => none

/-- The reader stands in a section and can go back to those of a history, the latest last.  The
sections and the settings are those of the session that was set out from. -/
structure Stands (origin s : Session σ) (current : SectionId) (history : List SectionId) :
    Prop where
  mode_eq : s.mode = .playing
  settings_eq : s.settings = origin.settings
  ids_eq : s.story.ids = origin.story.ids
  currentId_eq : s.story.currentId = some current
  history_eq : s.story.history = history

/-- A session that is playing is one to set out from. -/
theorem Stands.of_currentId (hcurrent : s.currentId = some current) :
    Stands s s current s.story.history where
  mode_eq := mode_of_currentId hcurrent
  settings_eq := rfl
  ids_eq := rfl
  currentId_eq := story_currentId_of_currentId hcurrent
  history_eq := rfl

/-- The section where the reader stands is being played. -/
theorem Stands.currentId (hs : Stands origin s current history) : s.currentId = some current := by
  rw [Session.currentId, hs.mode_eq]
  exact hs.currentId_eq

/-- The same names name sections as where the reader set out from. -/
theorem Stands.hasSection_eq (hs : Stands origin s current history) (id : SectionId) :
    s.story.hasSection id = origin.story.hasSection id :=
  Table.contains_congr_keys hs.ids_eq id

/-- The progress names the section where the reader stands. -/
theorem Stands.current_eq (hs : Stands origin s current history) :
    s.story.progress.current = some current := by
  rcases Option.bind_eq_some_iff.1 hs.currentId_eq with ⟨p, hstate, hcurrent⟩
  rw [Story.progress, hstate, Option.getD_some, hcurrent]

/-- With another history the reader stands in the same section. -/
theorem Stands.withHistory (hs : Stands origin s current history) (other : List SectionId) :
    Stands origin
      { s with story := { s.story with state := some { s.story.progress with history := other } } }
      current other where
  mode_eq := hs.mode_eq
  settings_eq := hs.settings_eq
  ids_eq := hs.ids_eq
  currentId_eq := hs.current_eq
  history_eq := rfl

/-- Entering a section pushes the one that is left, if the move is remembered. -/
theorem Stands.entered (hs : Stands origin s current history) {id : SectionId} {remember : Bool}
    (hentered : s.Entered id remember s') :
    Stands origin s' id
      (if remember then Progress.bounded origin.settings.historyLimit (history ++ [current])
        else history) := by
  rcases hentered.changes with ⟨sec, -, hchanges⟩
  have hkept := hchanges.kept
  refine ⟨hentered.mode_eq, hentered.settings_eq.trans hs.settings_eq, hkept.ids_eq.trans hs.ids_eq,
    hentered.currentId_eq, ?_⟩
  rw [hkept.history_eq, ← hs.settings_eq, ← hs.history_eq]
  cases remember with
  | true => exact Progress.history_moveTo_of_current hs.current_eq _ id
  | false => exact Progress.history_moveTo_false s.story.progress _ id

/-- Entering a section that exists shows it and pushes the one that is left. -/
theorem Stands.enter (hs : Stands origin s current history) (responder : Responder σ)
    {id : SectionId} (hid : origin.story.hasSection id = true) :
    shownId? (s.perform responder (.enter id)).1 = some id ∧
      Stands origin (s.perform responder (.enter id)).2 id
        (Progress.bounded origin.settings.historyLimit (history ++ [current])) := by
  rw [← hs.hasSection_eq] at hid
  rcases transition_of_hasSection responder hid true with ⟨scene, s', htransition, hentered⟩
  have hperform : s.perform responder (.enter id) = (.ok (some scene), s') := by
    rw [perform, Session.enter, htransition]
    rfl
  rw [hperform]
  exact ⟨congrArg some (scriptErrors_of_transition htransition).1, hs.entered hentered⟩

/-- A remembered move, by a name or by a choice, enters the section that it leads to. -/
theorem perform_of_leads {operation : Operation} {id : SectionId} {base : Session σ}
    (hleads : s.Leads operation base id true) (responder : Responder σ) :
    s.perform responder operation = s.perform responder (.enter id) := by
  cases hleads with
  | enter => rfl
  | choose hcurrent hc => simp only [perform, choose, hcurrent, hc]
  | @forward left sec c hcurrent hc =>
    have hfirst : sec.choices[0]? = some c := by
      rw [hc]
      rfl
    have hone : sec.choices.length = 1 := by
      rw [hc]
      rfl
    simp only [perform, perform.shown, forward, choose, hcurrent, hfirst, if_pos hone]

/-- A step back shows the latest section of the history and pops it. -/
theorem Stands.back {id : SectionId} (hs : Stands origin s current (history ++ [id]))
    (responder : Responder σ) (hid : origin.story.hasSection id = true) :
    shownId? (s.perform responder .back).1 = some id ∧
      Stands origin (s.perform responder .back).2 id history := by
  have hpop : s.story.progress.pop? = some (id, { s.story.progress with history }) := by
    have hhistory : s.story.progress.history = history ++ [id] := hs.history_eq
    rw [Progress.pop?, hhistory, List.getLast?_concat, List.dropLast_concat, Option.map_some]
  cases hnext : s.perform responder .back with
  | mk result s' =>
    cases performed_of_eq hnext with
    | enters hleads hentered hanswer htransition =>
      cases hleads with
      | back hcurrent hpopped =>
        rw [hpop] at hpopped
        cases hpopped
        exact ⟨congrArg some (scriptErrors_of_transition htransition).1,
          (hs.withHistory history).entered hentered⟩
    | empties hstarts => cases hstarts
    | stays hanswer =>
      -- there is a section to go back to, and it exists
      rw [← hs.hasSection_eq] at hid
      simp only [inPlace?, hs.currentId, Option.isNone_some, Bool.false_eq_true, if_false, hpop,
        absent?_of_hasSection hid] at hanswer
      cases hanswer

/-! ## Many moves -/

/-- Makes moves one after the other; gives what each of them shows. -/
def performAll (responder : Responder σ) (s : Session σ) :
    List Operation → List (Option SectionId) × Session σ
  | [] => ([], s)
  | operation :: rest =>
    let (result, s) := s.perform responder operation
    let (shown, s) := performAll responder s rest
    (shownId? result :: shown, s)

/-- The moves enter sections, each by its name or by a choice that leads there. -/
inductive LeadsThrough (responder : Responder σ) :
    Session σ → List Operation → List SectionId → Prop
  | nil (s : Session σ) : LeadsThrough responder s [] []
  | cons {s : Session σ} {operation : Operation} {target id : SectionId} {moves : List Operation}
      {ids : List SectionId} (hleads : s.Leads operation s target true)
      (htarget : (target == id) = true)
      (hrest : LeadsThrough responder (s.perform responder operation).2 moves ids) :
    LeadsThrough responder s (operation :: moves) (id :: ids)

/-- Moves through sections that exist show them and push those that are left. -/
theorem LeadsThrough.pushes {responder : Responder σ} {moves : List Operation}
    {ids : List SectionId} (hmoves : LeadsThrough responder s moves ids)
    (hs : Stands origin s current history)
    (hids : ∀ id ∈ ids, origin.story.hasSection id = true) :
    ∃ entered, (entered == ids) = true ∧
      (∀ id ∈ entered, origin.story.hasSection id = true) ∧
      (s.performAll responder moves).1 = entered.map some ∧
      Stands origin (s.performAll responder moves).2 (entered.getLastD current)
        (Progress.pushAll origin.settings.historyLimit history (current :: entered).dropLast) := by
  induction hmoves generalizing current history with
  | nil s => exact ⟨[], rfl, List.forall_mem_nil _, rfl, hs⟩
  | @cons s operation target id moves ids hleads htarget hrest ih =>
    rcases List.forall_mem_cons.1 hids with ⟨hid, hids⟩
    have hexists : origin.story.hasSection target = true := by
      rw [← hid]
      exact Table.contains_congr _ (Std.LawfulBEqOrd.compare_eq_iff_beq.2 htarget)
    rcases hs.enter responder hexists with ⟨hshown, hnext⟩
    rw [← perform_of_leads hleads responder] at hshown hnext
    rcases ih hnext hids with ⟨entered, heq, hentered, hall, hlast⟩
    refine ⟨target :: entered, ?_, List.forall_mem_cons.2 ⟨hexists, hentered⟩, ?_, ?_⟩
    · rw [List.cons_beq_cons, htarget, heq, Bool.and_true]
    · exact congrArg₂ List.cons hshown hall
    · rw [List.getLastD_cons]
      exact hlast

/-- Steps back show the latest sections of the history, one after the other, and pop them. -/
theorem Stands.pops {latest : List SectionId}
    (hs : Stands origin s current (history ++ latest.reverse)) (responder : Responder σ)
    (hlatest : ∀ id ∈ latest, origin.story.hasSection id = true) :
    (s.performAll responder (List.replicate latest.length .back)).1 = latest.map some ∧
      Stands origin (s.performAll responder (List.replicate latest.length .back)).2
        (latest.getLastD current) history := by
  induction latest generalizing s current with
  | nil =>
    rw [List.reverse_nil, List.append_nil] at hs
    exact ⟨rfl, hs⟩
  | cons id latest ih =>
    rcases List.forall_mem_cons.1 hlatest with ⟨hid, hlatest⟩
    rw [List.reverse_cons, ← List.append_assoc] at hs
    rcases hs.back responder hid with ⟨hshown, hnext⟩
    rcases ih hnext hlatest with ⟨hall, hlast⟩
    rw [List.getLastD_cons]
    exact ⟨congrArg₂ List.cons hshown hall, hlast⟩

/-- Steps back show what the limit allows of the sections that were pushed last. -/
theorem Stands.pops_bounded {left : List SectionId}
    (hs : Stands origin s current
      (Progress.bounded origin.settings.historyLimit (history ++ left)))
    (responder : Responder σ) (hleft : ∀ id ∈ left, origin.story.hasSection id = true) :
    let latest := (Progress.bounded origin.settings.historyLimit left).reverse
    let (shown, undone) := s.performAll responder (List.replicate latest.length .back)
    shown = latest.map some ∧
      ∃ kept, (origin.settings.historyLimit = none → kept = history) ∧
        Stands origin undone (latest.getLastD current) kept := by
  intro latest
  rcases Progress.exists_bounded_append origin.settings.historyLimit history left with
    ⟨kept, hbounded, hkept⟩
  rw [hbounded, ← List.reverse_reverse (Progress.bounded _ left)] at hs
  have hlatest : ∀ id ∈ latest, origin.story.hasSection id = true := fun id hid =>
    hleft id (Progress.mem_of_mem_bounded (List.mem_reverse.1 hid))
  rcases hs.pops responder hlatest with ⟨hshown, hundone⟩
  exact ⟨hshown, kept, hkept, hundone⟩

/-! ## Undoing -/

/-- From a section that is being played, moves through sections that exist all succeed, and push the
sections that are left; with a limit, only as many of the latest are kept.  Steps back show these
again, the latest first: all of them where there is no limit, after which the reader is where they
were, and as many as the limit allows otherwise. -/
theorem Reachable.undo_is_stack (hs : Reachable s) (hcurrent : s.currentId = some current)
    (responder : Responder σ) {moves : List Operation} {ids : List SectionId}
    (hmoves : LeadsThrough responder s moves ids) (hne : ids ≠ [])
    (hids : ∀ id ∈ ids, s.story.hasSection id = true) :
    ∃ entered : List SectionId, (entered == ids) = true ∧
      let left := current :: entered.dropLast
      let pushed := s.story.history ++ left
      let after := (s.performAll responder moves).2
      (s.performAll responder moves).1 = entered.map some ∧
      (s.settings.historyLimit = none →
        after.story.history = pushed ∧
        let (shown, undone) := after.performAll responder (List.replicate ids.length .back)
        shown = left.reverse.map some ∧
          undone.currentId = some current ∧ undone.story.history = s.story.history) ∧
      ∀ limit, s.settings.historyLimit = some limit →
        after.story.history = pushed.drop (pushed.length - limit) ∧
        (after.performAll responder (List.replicate (min ids.length limit) .back)).1 =
          (left.reverse.take (min ids.length limit)).map some := by
  have hstands := Stands.of_currentId hcurrent
  rcases hmoves.pushes hstands hids with ⟨entered, heq, hentered, hshown, hafter⟩
  have hlength : entered.length = ids.length := List.length_eq_of_beq heq
  have hsome : entered ≠ [] := by
    rw [← List.length_pos_iff, hlength, List.length_pos_iff]
    exact hne
  rw [List.dropLast_cons_of_ne_nil hsome, Progress.pushAll_eq_bounded _ _ (List.cons_ne_nil _ _)]
    at hafter
  refine ⟨entered, heq, ?_⟩
  intro left pushed after
  have hhistory : after.story.history = Progress.bounded s.settings.historyLimit pushed :=
    hafter.history_eq
  have hleft : left.length = ids.length := by
    have hpos : 0 < entered.length := List.length_pos_iff.2 hsome
    rw [List.length_cons, List.length_dropLast, Nat.sub_add_cancel hpos, hlength]
  have hexist : ∀ id ∈ left, s.story.hasSection id = true :=
    List.forall_mem_cons.2 ⟨hs.onCourse.hasSection_of_currentId hcurrent,
      fun id hid => hentered id (List.dropLast_subset entered hid)⟩
  rcases hafter.pops_bounded responder hexist with ⟨hall, kept, hkept, hundone⟩
  rw [List.length_reverse] at hall hundone
  refine ⟨hshown, ?_, ?_⟩
  · intro hlimit
    rw [hlimit] at hhistory
    rw [hlimit, Progress.bounded, hleft] at hall hundone
    rw [hkept hlimit] at hundone
    refine ⟨hhistory, hall, ?_, hundone.history_eq⟩
    rw [hundone.currentId, List.reverse_cons, List.getLastD_concat]
  · intro limit hlimit
    rw [hlimit] at hhistory
    rw [hlimit, Progress.length_bounded, Progress.reverse_bounded, hleft] at hall
    exact ⟨hhistory, hall⟩

/-- A story whose first section offers its second one. -/
def hall : Story where
  sections := .ofList
    [(.int 1,
      { script := some [{ action := "ADD_CHOICE", parameters := [.int 2, .text "Left"] }] }),
     (.int 2, Section.ofLines ["A wall."]),
     (.int 3, Section.ofLines ["A door."])]

/-- The session in which the reader stands in the first section. -/
def ofHall : Session Unit :=
  (perform Responder.silent { story := hall, responder := () } .start).2

/-- The choice leads to the second section also where that is written as a text, and two steps back
undo it and the move that follows. -/
theorem ofHall_undo_is_stack :
    ofHall.Reachable ∧ ofHall.currentId = some (.int 1) ∧
      LeadsThrough Responder.silent ofHall [.choose 0, .enter (.int 3)] [.text "2", .int 3] ∧
      ∃ entered : List SectionId, (entered == [.text "2", .int 3]) = true ∧
        ((ofHall.performAll Responder.silent [.choose 0, .enter (.int 3)]).2.performAll
          Responder.silent [.back, .back]).1 =
            (.int 1 :: entered.dropLast).reverse.map some := by
  have hs : ofHall.Reachable := .perform (.new _ _ _) _ _
  have hcurrent : ofHall.currentId = some (.int 1) := rfl
  have hmoves : LeadsThrough Responder.silent ofHall [.choose 0, .enter (.int 3)]
      [.text "2", .int 3] :=
    .cons (.choose rfl rfl) (by decide) (.cons (.enter _) (by decide) (.nil _))
  have hids : ∀ id ∈ [Scalar.text "2", Scalar.int 3], ofHall.story.hasSection id = true := by
    decide +kernel
  rcases hs.undo_is_stack hcurrent Responder.silent hmoves (List.cons_ne_nil _ _) hids with
    ⟨entered, heq, -, hundo, -⟩
  exact ⟨hs, hcurrent, hmoves, entered, heq, (hundo rfl).2.1⟩

end Session

end Gamebook
