import Gamebook.Proofs.Play.Undo

/-!
# The limit of the history

A limit drops the oldest sections when one is pushed.  A history that comes along with a story or a
saved game is taken up as it is, however long: nothing is dropped before the next section is pushed,
and steps back only shorten it.  So a history is longer than the limit exactly as long as it is the
beginning of one that was supplied too long.

Main results:

- Definition `Session.Supplied`: the sessions that moves lead to, with the histories supplied to
  them.
- Theorem `Session.Performed.withinLimit`: one move keeps the history within the limit or at the
  beginning of a supplied one.
- Theorem `Session.Supplied.withinLimit`: so does every run.
- Theorem `Session.Supplied.history_bounded`: when the limit holds.
-/

namespace Gamebook

/-- Moving on when no section is current leaves the history as it is. -/
theorem Progress.history_moveTo_of_none {p : Progress} (hcurrent : p.current = none)
    (limit : Option Nat) (remember : Bool) (id : SectionId) :
    (p.moveTo limit remember id).history = p.history := by
  rw [moveTo, hcurrent]

namespace Session

variable {σ : Type}

/-! ## Supplied histories -/

/-- The histories that come along with an operation. -/
def Operation.brings : Operation → List (List SectionId)
  | .load story => [story.history]
  | .restore game => [game.state.history]
  | _ => []

/-- The history with which an operation starts to play, where it starts. -/
def Operation.takesUp? (s : Session σ) : Operation → Option (List SectionId)
  | .start => some s.story.history
  | .load story => some story.history
  | .restore game => some game.state.history
  | _ => none

/-- The sessions that moves lead to, from a new session of any story, each with the histories that
its stories and the saved games have brought along. -/
inductive Supplied : List (List SectionId) → Session σ → Prop
  | new (story : Story) (settings : Settings) (answerer : σ) :
    Supplied [story.history] { story, settings, responder := answerer }
  | perform {histories : List (List SectionId)} {s : Session σ} (hs : Supplied histories s)
      (responder : Responder σ) (operation : Operation) :
    Supplied (operation.brings ++ histories) (s.perform responder operation).2

/-- A history has at most as many entries as the limit allows, or it is the beginning of one that
was supplied. -/
def WithinLimit (n : Nat) (histories : List (List SectionId)) (history : List SectionId) : Prop :=
  history.length ≤ n ∨ ∃ supplied ∈ histories, history <+: supplied

section

variable {n : Nat} {histories : List (List SectionId)} {history : List SectionId}

/-- A supplied history is one. -/
theorem withinLimit_of_mem (hhistory : history ∈ histories) : WithinLimit n histories history :=
  Or.inr ⟨history, hhistory, List.prefix_rfl⟩

/-- The beginning of a history within the limit is within the limit. -/
theorem WithinLimit.of_prefix {earlier : List SectionId} (hhistory : WithinLimit n histories history)
    (hearlier : earlier <+: history) : WithinLimit n histories earlier := by
  rcases hhistory with hlength | ⟨supplied, hsupplied, hprefix⟩
  · exact Or.inl (Nat.le_trans hearlier.length_le hlength)
  · exact Or.inr ⟨supplied, hsupplied, hearlier.trans hprefix⟩

/-- More histories may be supplied. -/
theorem WithinLimit.append_left (hhistory : WithinLimit n histories history)
    (more : List (List SectionId)) : WithinLimit n (more ++ histories) history := by
  rcases hhistory with hlength | ⟨supplied, hsupplied, hprefix⟩
  · exact Or.inl hlength
  · exact Or.inr ⟨supplied, List.mem_append_right _ hsupplied, hprefix⟩

/-- A history is within the limit, or one that was supplied is not. -/
theorem WithinLimit.cases_length (hhistory : WithinLimit n histories history) :
    history.length ≤ n ∨ ∃ supplied ∈ histories, n < supplied.length ∧ history <+: supplied := by
  by_cases hlength : history.length ≤ n
  · exact Or.inl hlength
  · rcases hhistory with hle | ⟨supplied, hsupplied, hprefix⟩
    · exact absurd hle hlength
    · have hle := hprefix.length_le
      exact Or.inr ⟨supplied, hsupplied, by omega, hprefix⟩

end

/-! ## One move -/

section

variable {responder : Responder σ} {s s' base : Session σ} {operation : Operation}
  {id : SectionId} {remember : Bool}

/-- What is entered from has the settings of the session. -/
theorem Leads.settings_eq (hleads : s.Leads operation base id remember) :
    base.settings = s.settings := by
  cases hleads <;> rfl

/-- No move changes the settings. -/
theorem Performed.settings_eq {result : Except MoveError (Option Scene)}
    (hperformed : Performed responder s operation result s') : s'.settings = s.settings := by
  cases hperformed with
  | enters hleads hentered => exact hentered.settings_eq.trans hleads.settings_eq
  | empties => rfl
  | stays => rfl

/-- After entering a section the history is that of moving there. -/
theorem Entered.history_eq (hentered : s.Entered id remember s') :
    s'.story.history =
      (s.story.progress.moveTo s.settings.historyLimit remember id).history := by
  rcases hentered.changes with ⟨sec, -, hchanges⟩
  rw [hchanges.kept.history_eq]
  rfl

/-- An operation that is remembered enters the section from the session itself. -/
theorem Leads.base_eq_of_remembered (hleads : s.Leads operation base id true) : base = s := by
  cases hleads <;> rfl

/-- An operation that starts to play enters a section with the history that it takes up. -/
theorem Leads.history_eq_of_takesUp? {history : List SectionId}
    (hleads : s.Leads operation base id remember) (htakes : operation.takesUp? s = some history) :
    remember = false ∧ base.story.history = history := by
  cases hleads <;> cases htakes <;> exact ⟨rfl, rfl⟩

/-- A section that is entered without being remembered is entered with the beginning of the history,
or with one that comes along. -/
theorem Leads.withinLimit {n : Nat} {histories : List (List SectionId)}
    (hleads : s.Leads operation base id false)
    (hs : WithinLimit n histories s.story.history) :
    WithinLimit n (operation.brings ++ histories) base.story.history := by
  cases hleads with
  | start => exact hs
  | load => exact withinLimit_of_mem List.mem_cons_self
  | @back _ progress hcurrent hpop =>
    apply hs.of_prefix
    rw [Story.history, Story.history, Progress.eq_of_pop? hpop]
    exact List.prefix_append _ _
  | restore => exact withinLimit_of_mem List.mem_cons_self

/-- A move keeps the history within the limit, or at the beginning of one that was supplied. -/
theorem Performed.withinLimit {n : Nat} {histories : List (List SectionId)}
    {result : Except MoveError (Option Scene)} (hlimit : s.settings.historyLimit = some n)
    (hperformed : Performed responder s operation result s')
    (hs : WithinLimit n histories s.story.history) :
    WithinLimit n (operation.brings ++ histories) s'.story.history := by
  cases hperformed with
  | @enters base _ id remember scene hleads hentered =>
    rw [hentered.history_eq]
    cases remember with
    | false =>
      rw [Progress.history_moveTo_false]
      exact hleads.withinLimit hs
    | true =>
      have hbase := hleads.base_eq_of_remembered
      subst hbase
      cases hcurrent : base.story.progress.current with
      | none =>
        rw [Progress.history_moveTo_of_none hcurrent]
        exact hs.append_left _
      | some current =>
        rw [Progress.history_moveTo_of_current hcurrent, hlimit]
        exact Or.inl (Progress.length_bounded_le n _)
  | @empties story hstarts =>
    cases operation with
    | load loaded =>
      cases hstarts
      exact withinLimit_of_mem List.mem_cons_self
    | start =>
      cases hstarts
      exact hs
    | restore game =>
      cases hstarts
      exact hs.append_left _
    | _ => cases hstarts
  | stays => exact hs.append_left _

/-- An operation that starts to play leaves the history that it takes up as it is. -/
theorem history_of_takesUp? {history : List SectionId} {scene : Scene}
    (htakes : operation.takesUp? s = some history)
    (hperform : s.perform responder operation = (.ok (some scene), s')) :
    s'.story.history = history := by
  cases performed_of_eq hperform with
  | enters hleads hentered =>
    rcases hleads.history_eq_of_takesUp? htakes with ⟨rfl, hbase⟩
    rw [hentered.history_eq, Progress.history_moveTo_false]
    exact hbase
  | stays hanswer =>
    cases answered_of_inPlace? hanswer with
    | shown => cases htakes

/-- A step back shows a scene only where there is a history. -/
theorem history_ne_nil_of_back {scene : Scene}
    (hback : (s.perform responder .back).1 = .ok (some scene)) : s.story.history ≠ [] := by
  intro hnil
  cases hnext : s.perform responder .back with
  | mk result s' =>
    rw [hnext] at hback
    cases performed_of_eq hnext with
    | enters hleads =>
      cases hleads with
      | back hcurrent hpop =>
        rw [Story.history, Progress.eq_of_pop? hpop] at hnil
        exact List.append_ne_nil_of_right_ne_nil _ (List.cons_ne_nil _ _) hnil
    | empties => cases hback
    | stays hanswer =>
      cases hback
      cases answered_of_inPlace? hanswer

end

/-! ## Every run -/

variable {histories : List (List SectionId)} {s : Session σ} {n : Nat}

/-- In every session that is reached the history is within the limit, or it is the beginning of one
that was supplied. -/
theorem Supplied.withinLimit (hs : Supplied histories s)
    (hlimit : s.settings.historyLimit = some n) : WithinLimit n histories s.story.history := by
  induction hs with
  | new story settings answerer => exact withinLimit_of_mem List.mem_cons_self
  | @perform histories s hs responder operation ih =>
    have hperformed := perform_cases responder s operation
    rw [hperformed.settings_eq] at hlimit
    exact hperformed.withinLimit hlimit (ih hlimit)

/-- A history is longer than the limit only while it is the beginning of one that was supplied
longer than the limit.  So the limit holds, and a limit of zero rules steps back out, where no
longer one is supplied.  An operation that starts to play leaves the history with which it starts as
it is, so a longer one exceeds the limit at once. -/
theorem Supplied.history_bounded (hs : Supplied histories s)
    (hlimit : s.settings.historyLimit = some n) :
    (s.story.history.length ≤ n ∨
      ∃ supplied ∈ histories, n < supplied.length ∧ s.story.history <+: supplied) ∧
    ((∀ supplied ∈ histories, supplied.length ≤ n) →
      s.story.history.length ≤ n ∧
        (n = 0 → ∀ (responder : Responder σ) scene,
          (s.perform responder .back).1 ≠ .ok (some scene))) ∧
    ∀ (responder : Responder σ) operation history scene,
      operation.takesUp? s = some history →
      (s.perform responder operation).1 = .ok (some scene) →
      (s.perform responder operation).2.story.history = history := by
  have hcases := (hs.withinLimit hlimit).cases_length
  refine ⟨hcases, ?_, ?_⟩
  · intro hsupplied
    have hlength : s.story.history.length ≤ n := by
      rcases hcases with hlength | ⟨supplied, hmem, hlong, -⟩
      · exact hlength
      · exact absurd hlong (Nat.not_lt.2 (hsupplied supplied hmem))
    refine ⟨hlength, ?_⟩
    rintro rfl responder scene hback
    exact history_ne_nil_of_back hback (List.length_eq_zero_iff.1 (Nat.le_zero.1 hlength))
  · intro responder operation history scene htakes hscene
    exact history_of_takesUp? htakes (Prod.ext hscene rfl)

/-- A story of two sections that is being read in the first one. -/
def twoRooms (history : List SectionId) : Story where
  sections := .ofList
    [(.int 1, Section.ofLines ["A door."]), (.int 2, Section.ofLines ["A wall."])]
  state := some { current := some (.int 1), history }

/-- The session in which a story is started that comes with a history, though there shall be
none. -/
def ofOldHistory : Session Unit :=
  (perform Responder.silent
    { story := twoRooms [.int 2], settings := { historyLimit := some 0 }, responder := () }
    .start).2

/-- The history is longer than the limit, and the step back succeeds. -/
theorem ofOldHistory_exceeds_limit :
    ofOldHistory.Reachable ∧ ofOldHistory.settings.historyLimit = some 0 ∧
      ofOldHistory.mode = .playing ∧ ofOldHistory.story.history.length = 1 ∧
      ∃ scene, (ofOldHistory.perform Responder.silent .back).1 = .ok (some scene) :=
  ⟨.perform (.new _ _ _) _ _, rfl, rfl, rfl, _, rfl⟩

/-- The session in which the second section has been entered from the first one, with one entry in
the history. -/
def ofSecondRoom : Session Unit :=
  (perform Responder.silent
    { story := twoRooms [.int 2], settings := { historyLimit := some 1 }, responder := () }
    (.enter (.int 2))).2

/-- The history that came with the story is as long as the limit, and so it is after entering the
second section. -/
theorem ofSecondRoom_history_bounded :
    Supplied [[.int 2]] ofSecondRoom ∧ ofSecondRoom.settings.historyLimit = some 1 ∧
      ofSecondRoom.story.history.length ≤ 1 ∧ ofSecondRoom.story.history ≠ [] := by
  have hs : Supplied [[.int 2]] ofSecondRoom :=
    Supplied.perform (.new (twoRooms [.int 2]) { historyLimit := some 1 } ()) Responder.silent
      (.enter (.int 2))
  have hlimit : ofSecondRoom.settings.historyLimit = some 1 := rfl
  have hsupplied : ∀ supplied ∈ [[Scalar.int 2]], supplied.length ≤ 1 := by
    intro supplied hmem
    rw [List.mem_singleton.1 hmem]
    exact Nat.le_refl 1
  exact ⟨hs, hlimit, ((hs.history_bounded hlimit).2.1 hsupplied).1, List.cons_ne_nil _ _⟩

end Session

end Gamebook
