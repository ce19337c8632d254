import Gamebook.Cli.Run
import Gamebook.Proofs.Cli.Prompts
import Gamebook.Proofs.Cli.Typing
import Gamebook.Proofs.Play.Showing

/-!
# Playing at a desk

The player displays a scene, takes a line and does what it says.  Each move that it makes is one of
the session, made again with one answer more for every prompt, and the scene that the move shows is
displayed.  So the scene that was displayed last is the one that was shown last, and the numbers
beside its choices are those that the reader can type.

Main results:

- Theorem `Game.sceneText_eq`: a scene as it is displayed, with a number beside each choice.
- Theorem `Game.exists_run_follow`: what following a move does.
- Definition `Game.ShowsLast` and theorem `Game.ShowsLast.turn`: a turn keeps track of the scene
  that was shown last.
- Theorem `Game.ShowsLast.map_position`: its choices are numbered in their order.
- Theorem `run_runPlay`: how playing a story begins.
- Theorems `Game.takes_of_choose` and `Game.exists_run_turn_of_other`: what a number does.
- Theorem `shown_scene_is_playable`: what is shown is what can be played.
-/

namespace Gamebook

namespace Cli

/-! ## Moves at a desk -/

/-- The desk after a sign that a line is wanted was written and the line was taken. -/
def Desk.asked (d : Desk) : Desk :=
  { d with input := d.input.tail, output := d.output ++ "> " }

/-- A program that asks for a line goes on with the next one of the desk. -/
theorem run_asking {α : Type} (next : Option String → StateM Desk α) (d : Desk) :
    (do
      Console.print "> "
      next (← askLine) : StateM Desk α).run d =
      (next (d.input.head?.map withoutLineEnd)).run d.asked :=
  rfl

namespace Game

section

variable {m : Type → Type} [Monad m] [Console m]

/-- Operations that come to the same are followed alike. -/
theorem converse_congr {s : Session Answers} {operation other : Session.Operation}
    (hsame : ∀ given, attempt s operation given = attempt s other given) (bound : Nat)
    (given : List (Option String)) :
    (converse s operation bound given : m _) = converse s other bound given := by
  induction bound generalizing given with
  | zero => rw [converse, converse, hsame]
  | succ bound ih => simp only [converse, hsame, ih]

/-- Operations that come to the same are followed alike. -/
theorem follow_congr {g : Game} {operation other : Session.Operation}
    (hsame : ∀ given, attempt g.session operation given = attempt g.session other given)
    (hbound : promptBound g.session operation = promptBound g.session other) (nowhere : String) :
    (g.follow operation nowhere : m Game) = g.follow other nowhere := by
  rw [follow, follow, move, move, hbound, converse_congr hsame]

/-- Taking a choice that is shown is entering its target. -/
theorem follow_choose {g : Game} {scene : Scene} (hscene : g.session.scene = .ok scene)
    {position : Nat} {c : ShownChoice} (hc : scene.choices[position]? = some c)
    (nowhere : String) :
    (g.follow (.choose position) nowhere : m Game) = g.follow (.enter c.target) nowhere := by
  apply follow_congr
  · intro given
    have hscene : (g.session.answeredBy ({ given } : Answers)).scene = .ok scene := hscene
    have hchoose := Session.choose_of_scene hscene Answers.responder position
    rw [hc] at hchoose
    exact congrArg Session.perform.shown hchoose
  · rfl

end

/-- The text of a scene as it is displayed. -/
def sceneText (scene : Scene) : String :=
  String.join ((sceneLines scene).map (· ++ "\n"))

/-- What stands beside the number of a choice. -/
def label (c : ShownChoice) : String :=
  if c.isPlain then "continue" else c.text

/-- A scene is displayed with its text, its media, and a line for each choice that gives its number
and its label; where there are no choices a line says that the story ends. -/
theorem sceneText_eq (scene : Scene) :
    sceneText scene =
      "\n" ++ scene.text ++ "\n" ++
        (scene.media.elim "" fun m => s!"[{m.kind}: {m.source}]\n") ++ "\n" ++
        (if scene.choices = [] then "  The End\n"
          else String.join (scene.choices.map fun c => s!"  {c.position + 1}. {label c}\n")) ++
        "\n" := by
  have hmedia : String.join ((scene.media.toList.map fun m => s!"[{m.kind}: {m.source}]").map
      (· ++ "\n")) = scene.media.elim "" fun m => s!"[{m.kind}: {m.source}]\n" := by
    cases scene.media with
    | none => rfl
    | some m =>
      refine String.join_cons.trans (String.append_empty.trans ?_)
      exact String.append_assoc
  have hways : String.join ((if scene.isEnding then ["  The End"]
        else scene.choices.map choiceLine).map (· ++ "\n")) =
      if scene.choices = [] then "  The End\n"
      else String.join (scene.choices.map fun c => s!"  {c.position + 1}. {label c}\n") := by
    cases hchoices : scene.choices with
    | nil => rw [Scene.isEnding, hchoices]; rfl
    | cons c rest =>
      rw [Scene.isEnding, hchoices, if_neg (List.cons_ne_nil c rest), List.isEmpty_cons,
        if_neg Bool.false_ne_true, List.map_map]
      exact congrArg String.join (List.map_congr_left fun c _ => rfl)
  have hempty : String.join ([""].map (· ++ "\n")) = "\n" := rfl
  have htext : String.join (["", scene.text].map (· ++ "\n")) = "\n" ++ scene.text ++ "\n" := by
    rw [String.append_assoc]
    rfl
  rw [sceneText, sceneLines, List.map_append, List.map_append, List.map_append, List.map_append,
    String.join_append, String.join_append, String.join_append, String.join_append, htext, hmedia,
    hways, hempty]

/-- A move that is followed is made with the lines that were typed at its prompts, none of which is
left open, and the scene that it shows is displayed. -/
theorem exists_run_follow (g : Game) (operation : Session.Operation) (nowhere : String)
    (d : Desk) :
    ∃ n d', let moved := attempt g.session operation (typedAnswers d.input n)
      (g.follow operation nowhere : StateM Desk Game).run d = ({ g with session := moved.2 }, d') ∧
        d'.input = d.input.drop n ∧ moved.2.responder.open? = none ∧
        ∀ scene, moved.1 = .ok (some scene) → ∃ before, d'.output = before ++ sceneText scene := by
  rcases exists_run_move g.session operation d with ⟨n, d', hrun, hinput, hclosed⟩
  rcases hattempt : attempt g.session operation (typedAnswers d.input n) with ⟨result, session⟩
  rw [hattempt] at hrun hclosed
  refine ⟨n, ?_⟩
  rw [hattempt]
  unfold follow
  rw [StateT.run_bind, hrun]
  cases result with
  | error e =>
    refine ⟨_, rfl, hinput, hclosed, ?_⟩
    rintro scene ⟨⟩
  | ok shown? =>
    cases shown? with
    | none =>
      refine ⟨_, rfl, hinput, hclosed, ?_⟩
      rintro scene ⟨⟩
    | some scene =>
      refine ⟨_, rfl, hinput, hclosed, ?_⟩
      rintro _ ⟨⟩
      exact ⟨d'.output, rfl⟩

/-- A turn takes the choice whose number is typed. -/
theorem run_turn_of_choose {g : Game} {d : Desk} {line : String} {position : Nat}
    (hline : d.input.head? = some line)
    (hwish : Wish.ofLine (withoutLineEnd line) = .choose (position + 1)) :
    (g.turn : StateM Desk (Option Game)).run d =
      (some <$> g.follow (.choose position) "" : StateM Desk (Option Game)).run d.asked := by
  unfold turn
  rw [run_asking, hline, Option.map_some]
  simp only [hwish]

/-- A turn takes a choice.  Its target is entered, the lines that were typed after the number are
the answers to the prompts of that move, no prompt is left open, and the scene that is shown then is
displayed. -/
def Takes (g : Game) (c : ShownChoice) (d : Desk) : Prop :=
  ∃ n d', let answers : Answers := { given := typedAnswers d.input.tail n }
    let moved := (g.session.answeredBy answers).enter Answers.responder c.target
    (g.turn : StateM Desk (Option Game)).run d = (some { g with session := moved.2 }, d') ∧
      d'.input = d.input.tail.drop n ∧ moved.2.responder.open? = none ∧
      ∀ scene, moved.1 = .ok scene → ∃ before, d'.output = before ++ sceneText scene

/-- A turn takes the choice that is shown at the position whose number is typed. -/
theorem takes_of_choose {g : Game} {scene : Scene} (hscene : g.session.scene = .ok scene)
    {d : Desk} {line : String} (hline : d.input.head? = some line) {position : Nat}
    {c : ShownChoice} (hc : scene.choices[position]? = some c)
    (hwish : Wish.ofLine (withoutLineEnd line) = .choose (position + 1)) : g.Takes c d := by
  rcases exists_run_follow g (.enter c.target) "" d.asked with
    ⟨n, d', hrun, hinput, hclosed, hshown⟩
  refine ⟨n, d', ?_, hinput, hclosed, ?_⟩
  · rw [run_turn_of_choose hline hwish, follow_choose hscene hc, StateT.run_map, hrun]
    rfl
  · intro next hnext
    exact hshown next (congrArg (Except.map some) hnext)

/-- A move that fails and asks nothing is told and leaves the game as it is. -/
theorem run_follow_of_error {g : Game} {operation : Session.Operation} {e : MoveError}
    (hfails : attempt g.session operation [] =
      (.error e, g.session.answeredBy ({} : Answers))) (nowhere : String) (d : Desk) :
    (g.follow operation nowhere : StateM Desk Game).run d =
      ({ g with session := g.session.answeredBy {} },
        { d with output := d.output ++ String.join [failureText e ++ "\n", "\n"] }) := by
  have hmove : (move g.session operation : StateM Desk _).run d =
      ((.error e, g.session.answeredBy {}), d) := by
    unfold move
    cases promptBound g.session operation with
    | zero =>
      rw [converse, hfails]
      rfl
    | succ bound =>
      rw [converse, hfails]
      rfl
  unfold follow
  rw [StateT.run_bind, hmove]
  rfl

/-- A number that is not shown, or what is no number, leaves the game as it is, but for the answers
to the prompts of the latest move. -/
theorem exists_run_turn_of_other {g : Game} {scene : Scene}
    (hscene : g.session.scene = .ok scene) {d : Desk} {line : String}
    (hline : d.input.head? = some line)
    (hwish : (∃ text, Wish.ofLine (withoutLineEnd line) = .unknown text) ∨
      ∃ n, Wish.ofLine (withoutLineEnd line) = .choose n ∧
        ∀ c ∈ scene.choices, n ≠ c.position + 1) :
    ∃ answers d', (g.turn : StateM Desk (Option Game)).run d =
      (some { g with session := g.session.answeredBy answers }, d') := by
  unfold turn
  rw [run_asking, hline, Option.map_some]
  rcases hwish with ⟨text, hunknown⟩ | ⟨n, hchoose, hother⟩
  · simp only [hunknown]
    exact ⟨g.session.responder, _, rfl⟩
  · cases n with
    | zero =>
      simp only [hchoose]
      exact ⟨g.session.responder, _, rfl⟩
    | succ position =>
      simp only [hchoose]
      have hnone : scene.choices[position]? = none := by
        rw [Option.eq_none_iff_forall_not_mem]
        intro c hc
        apply hother c (List.mem_of_getElem? hc)
        rw [Session.position_of_scene hscene hc]
      have hfails : attempt g.session (.choose position) [] =
          (.error (.invalidChoice position scene.choices.length), g.session.answeredBy {}) := by
        have hscene : (g.session.answeredBy ({} : Answers)).scene = .ok scene := hscene
        have hchoose := Session.choose_of_scene hscene Answers.responder position
        rw [hnone] at hchoose
        exact congrArg Session.perform.shown hchoose
      rw [StateT.run_map, run_follow_of_error hfails]
      exact ⟨{}, _, rfl⟩

/-! ## Playing -/

/-- A story is being played, and the scene is the one that was shown last. -/
structure ShowsLast (g : Game) (scene : Scene) : Prop where
  shows : Session.Shows (some scene) g.session
  playing : g.session.mode = .playing

/-- The scene that was shown last can be shown again. -/
theorem ShowsLast.scene_eq {g : Game} {scene : Scene} (hg : g.ShowsLast scene) :
    g.session.scene = .ok scene.withoutErrors := by
  rcases hg.shows.canShow hg.playing with ⟨last, hlast, hscene⟩
  cases hlast
  exact hscene

/-- The choices of the scene that was shown last are numbered in their order. -/
theorem ShowsLast.map_position {g : Game} {scene : Scene} (hg : g.ShowsLast scene) :
    scene.choices.map ShownChoice.position = List.range scene.choices.length := by
  apply List.ext_getElem
  · rw [List.length_map, List.length_range]
  · intro position hposition _
    rw [List.length_map] at hposition
    have hc := List.getElem?_eq_getElem hposition
    rw [List.getElem_map, List.getElem_range]
    exact Session.position_of_scene hg.scene_eq hc

/-- A game goes on from a run with the scene that was shown last, or with another one, which is then
the last that was written. -/
def GoesOn (scene : Scene) (g : Game) (d : Desk) : Prop :=
  ∃ next, g.ShowsLast next ∧ (next = scene ∨ ∃ before, d.output = before ++ sceneText next)

/-- Where no move is made the scene stays the last that was shown. -/
theorem ShowsLast.goesOn {g : Game} {scene : Scene} (hg : g.ShowsLast scene) (d : Desk) :
    GoesOn scene g d :=
  ⟨scene, hg, Or.inl rfl⟩

/-- A game goes on from a move within the story that is followed. -/
theorem ShowsLast.follow {g : Game} {scene : Scene} (hg : g.ShowsLast scene)
    {operation : Session.Operation} (hload : ∀ story, operation ≠ .load story)
    (hoperation : operation ≠ .scene) (nowhere : String) (d : Desk) :
    ∃ g' d', (g.follow operation nowhere : StateM Desk Game).run d = (g', d') ∧
      GoesOn scene g' d' := by
  rcases exists_run_follow g operation nowhere d with ⟨n, d', hrun, -, -, hshown⟩
  generalize typedAnswers d.input n = answers at hrun hshown
  refine ⟨_, d', hrun, ?_⟩
  have hshows : Session.Shows (some scene) (g.session.answeredBy ({ given := answers } : Answers)) :=
    hg.shows.answeredBy _
  have hafter := hshows.perform Answers.responder operation
  have hplaying : (attempt g.session operation answers).2.mode = .playing := by
    cases hmode : (attempt g.session operation answers).2.mode with
    | playing => rfl
    | menu =>
      rcases (hshows.onCourse.mode_perform_eq_menu hg.playing Answers.responder operation).1 hmode
        with ⟨story, rfl, -⟩
      exact absurd rfl (hload story)
  by_cases hnext : ∃ next, (attempt g.session operation answers).1 = .ok (some next)
  · rcases hnext with ⟨next, hnext⟩
    refine ⟨next, ⟨?_, hplaying⟩, Or.inr (hshown next hnext)⟩
    have hleaves := Session.Operation.leaves_of_shown hoperation (some scene) next
    rw [← hnext] at hleaves
    exact hleaves ▸ hafter
  · have hnone : ∀ next, (attempt g.session operation answers).1 ≠ .ok (some next) :=
      fun next heq => hnext ⟨next, heq⟩
    refine ⟨scene, ⟨?_, hplaying⟩, Or.inl rfl⟩
    exact Session.Operation.leaves_of_no_scene hnone operation (some scene) ▸ hafter

/-- A game goes on from a saved game that is read, or stays as it is. -/
theorem ShowsLast.load {g : Game} {scene : Scene} (hg : g.ShowsLast scene) (d : Desk) :
    ∃ g' d', (g.load : StateM Desk Game).run d = (g', d') ∧ GoesOn scene g' d' := by
  have hread : (Console.readFile g.savePath : StateM Desk _).run d =
      (d.folder.read g.savePath, d) := rfl
  unfold Game.load
  rw [StateT.run_bind, hread]
  cases d.folder.read g.savePath with
  | error fault => exact ⟨g, _, rfl, hg.goesOn _⟩
  | ok text =>
    cases hgame : SavedGame.ofDocument text with
    | error fault =>
      simp only [bind, hgame]
      exact ⟨g, _, rfl, hg.goesOn _⟩
    | ok game =>
      simp only [bind, hgame]
      exact hg.follow (by rintro _ ⟨⟩) (by rintro ⟨⟩) "" d

/-- A game goes on from every turn but the last. -/
theorem ShowsLast.turn {g g' : Game} {scene : Scene} (hg : g.ShowsLast scene) {d d' : Desk}
    (hturn : (g.turn : StateM Desk (Option Game)).run d = (some g', d')) :
    GoesOn scene g' d' := by
  have hmap : ∀ {program : StateM Desk Game} {e : Desk},
      (∃ next after, program.run e = (next, after) ∧ GoesOn scene next after) →
      (some <$> program : StateM Desk (Option Game)).run e = (some g', d') →
      GoesOn scene g' d' := by
    rintro program e ⟨next, after, hrun, hnext⟩ hprogram
    rw [StateT.run_map, hrun] at hprogram
    cases hprogram
    exact hnext
  unfold Game.turn at hturn
  rw [run_asking] at hturn
  cases hline : d.input.head? with
  | none =>
    rw [hline] at hturn
    cases hturn
  | some line =>
    rw [hline, Option.map_some] at hturn
    dsimp only at hturn
    generalize Wish.ofLine (withoutLineEnd line) = wish at hturn
    cases wish with
    | quit => cases hturn
    | onwards => exact hmap (hg.follow (by rintro _ ⟨⟩) (by rintro ⟨⟩) _ _) hturn
    | back => exact hmap (hg.follow (by rintro _ ⟨⟩) (by rintro ⟨⟩) _ _) hturn
    | save =>
      rcases hsave : (g.save : StateM Desk Unit).run d.asked with ⟨⟨⟩, after⟩
      rw [StateT.run_bind, hsave] at hturn
      cases hturn
      exact hg.goesOn _
    | load => exact hmap (hg.load _) hturn
    | choose number =>
      cases number with
      | zero =>
        cases hturn
        exact hg.goesOn _
      | succ position => exact hmap (hg.follow (by rintro _ ⟨⟩) (by rintro ⟨⟩) _ _) hturn
    | unknown text =>
      cases hturn
      exact hg.goesOn _

/-- A story that is started shows its first scene. -/
theorem showsLast_of_start {story : Story} {savePath : String} {answers : List (Option String)}
    {scene : Scene} {session : Session Answers}
    (hstart : attempt { story, responder := {} } .start answers = (.ok (some scene), session)) :
    ShowsLast { session, savePath } scene := by
  have hnew : Session.Shows none ({ story, responder := { given := answers } } : Session Answers) :=
    .new story {} _
  have hafter := hnew.perform Answers.responder .start
  rw [attempt] at hstart
  rw [hstart] at hafter
  refine ⟨hafter, ?_⟩
  cases Session.performed_of_eq hstart with
  | enters hleads hentered => exact hentered.mode_eq
  | stays hanswer => cases Session.answered_of_inPlace? hanswer

end Game

/-- Playing a story fails at once, or it goes on from the first scene, which is then the last that
was written. -/
theorem run_runPlay (playOn : Game → StateM Desk Unit) (story : Story) (save : Option String)
    (d : Desk) :
    (∃ failure d', (runPlay playOn story save).run.run d = (.error failure, d')) ∨
      ∃ g scene d', (runPlay playOn story save).run.run d = (.ok (), ((playOn g).run d').2) ∧
        g.ShowsLast scene ∧ ∃ before, d'.output = before ++ Game.sceneText scene := by
  rcases Game.exists_run_move { story, responder := {} } .start d with ⟨n, d', hrun, -, -⟩
  have hlift := Game.run_move_lift { story, responder := {} } .start d
  generalize Game.typedAnswers d.input n = answers at hrun
  rw [hrun] at hlift
  rcases hstart : Game.attempt { story, responder := {} } .start answers with ⟨result, session⟩
  rw [hstart] at hlift
  unfold runPlay
  rw [ExceptT.run_bind, StateT.run_bind, hlift]
  cases result with
  | error e => exact Or.inl ⟨_, _, rfl⟩
  | ok shown? =>
    cases shown? with
    | none =>
      -- a start that succeeds shows a scene
      cases Session.performed_of_eq hstart with
      | stays hanswer => cases Session.answered_of_inPlace? hanswer
    | some scene =>
      right
      refine ⟨{ session, savePath := save.getD (SavedGame.fileName story) }, scene, ?desk, ?run,
        Game.showsLast_of_start hstart, ?shown⟩
      case run => rfl
      case shown => exact ⟨_, rfl⟩

/-- While a story is being played, the scene that can be shown again is the one that the latest move
has shown, without the failures of its script.  A choice at a position of that scene is followed as
its target is entered, any other position is refused, and going onwards follows the choice where
there is exactly one.

The player starts with a scene that is displayed and displays every other one that a turn shows,
each choice on a line with its number, and these are the numbers from one on, each of them once.
The number of a choice that is displayed takes that choice.  Any other number leaves the game as it
is, but for the answers to the prompts of the latest move, which no later move looks at; so does
what is no number. -/
theorem shown_scene_is_playable :
    (∀ {σ : Type} (s : Session σ) (last : Option Scene), Session.Shows last s →
      s.mode = .playing → ∃ scene, last = some scene ∧ s.Playable scene) ∧
      (∀ (playOn : Game → StateM Desk Unit) (story : Story) (save : Option String) (d : Desk),
        (∃ failure d', (runPlay playOn story save).run.run d = (.error failure, d')) ∨
          ∃ g scene d', (runPlay playOn story save).run.run d = (.ok (), ((playOn g).run d').2) ∧
            g.ShowsLast scene ∧ ∃ before, d'.output = before ++ Game.sceneText scene) ∧
      (∀ scene : Scene, Game.sceneText scene =
        "\n" ++ scene.text ++ "\n" ++
          (scene.media.elim "" fun m => s!"[{m.kind}: {m.source}]\n") ++ "\n" ++
          (if scene.choices = [] then "  The End\n"
            else String.join
              (scene.choices.map fun c => s!"  {c.position + 1}. {Game.label c}\n")) ++
          "\n") ∧
      (∀ (g : Game) (scene : Scene) (d : Desk), g.ShowsLast scene →
        scene.choices.map ShownChoice.position = List.range scene.choices.length ∧
        (∀ g' d', (g.turn : StateM Desk (Option Game)).run d = (some g', d') →
          Game.GoesOn scene g' d') ∧
        ∀ line, d.input.head? = some line →
          (∀ c ∈ scene.choices, Wish.ofLine (withoutLineEnd line) = .choose (c.position + 1) →
            g.Takes c d ∧
            (g.turn : StateM Desk (Option Game)).run d =
              (some <$> g.follow (.enter c.target) "" : StateM Desk (Option Game)).run d.asked) ∧
          ((∃ text, Wish.ofLine (withoutLineEnd line) = .unknown text) ∨
            (∃ n, Wish.ofLine (withoutLineEnd line) = .choose n ∧
              ∀ c : ShownChoice, c ∈ scene.choices → n ≠ c.position + 1) →
            ∃ answers d', (g.turn : StateM Desk (Option Game)).run d =
              (some { g with session := g.session.answeredBy answers }, d'))) ∧
      ∀ z : Int, Wish.ofLine (withoutLineEnd (toString z ++ "\n")) =
        if 0 ≤ z ∧ z < UInt64.size then .choose z.toNat else .unknown (toString z) := by
  refine ⟨fun _ _ hs => hs.playable, run_runPlay, Game.sceneText_eq, ?_, ?_⟩
  · intro g scene d hg
    refine ⟨hg.map_position, fun _ _ => hg.turn, ?_⟩
    intro line hline
    constructor
    · intro c hc hwish
      have hposition := Session.getElem?_position_of_scene hg.scene_eq hc
      refine ⟨Game.takes_of_choose hg.scene_eq hline hposition hwish, ?_⟩
      rw [Game.run_turn_of_choose hline hwish, Game.follow_choose hg.scene_eq hposition]
    · exact Game.exists_run_turn_of_other hg.scene_eq hline
  · intro z
    rw [withoutLineEnd_toString, Wish.ofLine_toString]

/-- A story whose first section leads to two others. -/
def fork : Story where
  sections := .ofList
    [(.int 1,
      { next := some [{ text := "Left", target := .int 2 }, { text := "Right", target := .int 3 }] }),
     (.int 2, Section.ofLines ["A wall."]),
     (.int 3, Section.ofLines ["A door."])]

/-- The second number leads right, and there is no third one. -/
theorem fork_is_playable :
    let started := Game.attempt { story := fork, responder := {} } .start []
    let g : Game := { session := started.2, savePath := "save.json" }
    ∃ scene, g.ShowsLast scene ∧
      g.Takes ⟨1, "Right", .int 3, false⟩ { input := ["2\n"] } ∧
      ∃ answers d', (g.turn : StateM Desk (Option Game)).run { input := ["3\n"] } =
        (some { g with session := g.session.answeredBy answers }, d') := by
  intro started g
  have hstart : ∃ scene, started = (.ok (some scene), started.2) ∧
      scene.choices = [⟨0, "Left", .int 2, false⟩, ⟨1, "Right", .int 3, false⟩] := ⟨_, rfl, rfl⟩
  rcases hstart with ⟨scene, hstart, hchoices⟩
  have hg : g.ShowsLast scene := Game.showsLast_of_start hstart
  have hturn := shown_scene_is_playable.2.2.2.1 g scene
  refine ⟨scene, hg, ?_, ?_⟩
  · refine (((hturn _ hg).2.2 "2\n" rfl).1 ⟨1, "Right", .int 3, false⟩ ?_ ?_).1
    · rw [hchoices]
      exact List.mem_cons_of_mem _ List.mem_cons_self
    · decide +kernel
  · refine ((hturn _ hg).2.2 "3\n" rfl).2 (Or.inr ⟨3, ?_, ?_⟩)
    · decide +kernel
    · rw [hchoices]
      decide

end Cli

end Gamebook
