import Gamebook.Document.Story
import Gamebook.Play.Scene
import Gamebook.Play.Settings

/-!
# Playing

A session is a story being played.  Entering a section makes it the current one, runs its script and
shows it with what the script has changed.  Every operation gives the session back; after a failed
one it is where it was.

- `Session.transition` enters a section, with or without a note in the history.
- `Session.start`, `load`, `enter`, `back`, `choose`, `forward` and `restore` are the moves of a
  reader, `scene` shows the current section again and `save` captures the progress.
- `Session.perform` makes the move that an `Operation` names.
-/

namespace Gamebook

/-- Why a session cannot make a move. -/
inductive MoveError where
  /-- A choice, the history or the caller names a section that does not exist. -/
  | missingSection (id : SectionId)
  | emptyStory
  | notPlaying
  | invalidChoice (position available : Nat)
  /-- A story without a title takes no saved games. -/
  | noStoryLoaded
  | titleMismatch (story save : String)
  | script (error : StepError)

/-- The text of an error. -/
def MoveError.message : MoveError → String
  | missingSection id => missingSectionMessage id
  | emptyStory => "the story has no sections"
  | notPlaying => "no section is being played"
  | invalidChoice position available =>
    s!"there is no choice {position} (the scene has {available})"
  | noStoryLoaded => "no story is loaded to restore the save into"
  | titleMismatch story save => s!"save is for \"{save}\" but the story is \"{story}\""
  | script error => error.message

/-- Whether a section is being played. -/
inductive Mode where
  | menu
  | playing
  deriving Repr, DecidableEq

/-- A story being played, and the state of the one who answers its prompts. -/
structure Session (σ : Type) where
  story : Story
  settings : Settings := {}
  mode : Mode := .menu
  responder : σ

/-- The progress after moving to a section.  Where the move is remembered, the section that was
current goes to the history. -/
def Progress.moveTo (p : Progress) (limit : Option Nat) (remember : Bool) (id : SectionId) :
    Progress :=
  let left :=
    match p.current with
    | some previous => if remember then p.push limit previous else p
    | none => p
  { left with current := some id }

namespace Session

variable {σ : Type}

/-- The section being played. -/
def currentId (s : Session σ) : Option SectionId :=
  match s.mode with
  | .playing => s.story.currentId
  | .menu => none

/-- The section being played with its name. -/
def currentSection (s : Session σ) : Except MoveError (SectionId × Section) :=
  match s.currentId with
  | none => .error .notPlaying
  | some id =>
    match s.story.section? id with
    | some sec => .ok (id, sec)
    | none => .error (.missingSection id)

/-- Shows the section being played again, without running its script. -/
def scene (s : Session σ) : Except MoveError Scene := do
  let (id, sec) ← s.currentSection
  .ok (s.story.render id sec)

/-! ## Moves -/

/-- Enters a section: makes it the current one, runs its script and shows it. -/
def transition (responder : Responder σ) (s : Session σ) (id : SectionId) (remember : Bool) :
    Except MoveError Scene × Session σ :=
  if s.story.hasSection id then
    let story := s.story.adjustProgress fun p => p.moveTo s.settings.historyLimit remember id
    let (result, reading) := runSection responder ⟨story, s.responder⟩ id
    let s := { s with story := reading.story, responder := reading.responder, mode := .playing }
    match result with
    | .error e => (.error (.script e), s)
    | .ok report =>
      match s.story.section? id with
      | some sec => (.ok { s.story.render id sec with scriptErrors := report.errors }, s)
      | none => (.error (.missingSection id), s)
  else (.error (.missingSection id), s)

/-- Starts at the section that the progress names, or at the first section where it names none that
exists.  The history stays as it is. -/
def start (responder : Responder σ) (s : Session σ) : Except MoveError Scene × Session σ :=
  match s.story.firstId with
  | none => (.error .emptyStory, { s with mode := .menu })
  | some first =>
    let id := (s.story.currentId.filter s.story.hasSection).getD first
    s.transition responder id false

/-- Starts another story. -/
def load (responder : Responder σ) (s : Session σ) (story : Story) :
    Except MoveError Scene × Session σ :=
  { s with story, mode := .menu }.start responder

/-- Enters a section and remembers the one that was current. -/
def enter (responder : Responder σ) (s : Session σ) (id : SectionId) :
    Except MoveError Scene × Session σ :=
  s.transition responder id true

/-- Enters the latest section of the history again; there is no scene where the history is empty.  A
failed step back leaves the history as it was. -/
def back (responder : Responder σ) (s : Session σ) :
    Except MoveError (Option Scene) × Session σ :=
  if s.currentId.isNone then (.error .notPlaying, s)
  else
    match s.story.progress.pop? with
    | none => (.ok none, s)
    | some (id, progress) =>
      match { s with story := { s.story with state := some progress } }.transition responder id
          false with
      | (.ok scene, after) => (.ok (some scene), after)
      | (.error e, after) =>
        let story := after.story.adjustProgress fun p => { p with history := p.history ++ [id] }
        (.error e, { after with story })

/-- Follows a choice of the section being played. -/
def choose (responder : Responder σ) (s : Session σ) (position : Nat) :
    Except MoveError Scene × Session σ :=
  match s.currentSection with
  | .error e => (.error e, s)
  | .ok (_, sec) =>
    match sec.choices[position]? with
    | some c => s.enter responder c.target
    | none => (.error (.invalidChoice position sec.choices.length), s)

/-- Follows the choice of the section being played where it has exactly one. -/
def forward (responder : Responder σ) (s : Session σ) :
    Except MoveError (Option Scene) × Session σ :=
  match s.currentSection with
  | .error e => (.error e, s)
  | .ok (_, sec) =>
    if sec.choices.length = 1 then
      let (result, s) := s.choose responder 0
      (result.map some, s)
    else (.ok none, s)

/-! ## Saved games -/

/-- Captures the progress. -/
def save (s : Session σ) : SavedGame :=
  SavedGame.capture s.story

/-- Takes the progress of a saved game of this story and starts from it.  Where that fails the
progress is what it was. -/
def restore (responder : Responder σ) (s : Session σ) (game : SavedGame) :
    Except MoveError Scene × Session σ :=
  match s.story.title with
  | none => (.error .noStoryLoaded, s)
  | some title =>
    if game.info.title = some title then
      match { s with story := { s.story with state := some game.state } }.start responder with
      | (.ok scene, after) => (.ok scene, after)
      | (.error e, after) =>
        (.error e, { after with story := { after.story with state := s.story.state } })
    else (.error (.titleMismatch title (game.info.title.getD "")), s)

/-! ## Operations -/

/-- A move of a reader. -/
inductive Operation where
  | start
  | load (story : Story)
  | enter (id : SectionId)
  | back
  | choose (position : Nat)
  | forward
  | scene
  | restore (game : SavedGame)

/-- Makes a move.  There is no scene where there is nothing to go back to or no single choice to
follow. -/
def perform (responder : Responder σ) (s : Session σ) :
    Operation → Except MoveError (Option Scene) × Session σ
  | .start => shown (s.start responder)
  | .load story => shown (s.load responder story)
  | .enter id => shown (s.enter responder id)
  | .back => s.back responder
  | .choose position => shown (s.choose responder position)
  | .forward => s.forward responder
  | .scene => (s.scene.map some, s)
  | .restore game => shown (s.restore responder game)
where
  /-- The result of a move that always shows a scene. -/
  shown : Except MoveError Scene × Session σ → Except MoveError (Option Scene) × Session σ
    | (result, s) => (result.map some, s)

end Session

end Gamebook
