import Gamebook.Cli.Console
import Gamebook.Play.Session
import Gamebook.Text.Blank

/-!
# The player

Playing a story line by line: a scene is shown with its choices, the reader types what to do, and so
on until the reader quits or the input ends.

- `Wish.ofLine` reads a line that was typed.
- `Game.turn` asks for a line and does what it says.
-/

namespace Gamebook

namespace Cli

/-! ## Answers -/

/-- The answers that a reader has given to the prompts of one move. -/
structure Answers where
  given : List (Option String) := []
  /-- The first prompt that has not been answered. -/
  open? : Option String := none

/-- Answers from what was given, and notes the first prompt beyond it. -/
def Answers.responder : Responder Answers where
  ask _ prompt a :=
    match a.given with
    | answer :: given => (answer, { a with given })
    | [] => (none, { a with open? := a.open? <|> some prompt })

/-! ## Wishes -/

/-- What a reader types. -/
inductive Wish where
  | quit
  /-- Go on where there is only one way. -/
  | onwards
  | back
  | save
  | load
  /-- Take the choice that is shown with this number. -/
  | choose (number : Nat)
  | unknown (text : String)
  deriving Repr, DecidableEq

/-- Reads a line that was typed; blanks around it do not count. -/
def Wish.ofLine (line : String) : Wish :=
  let text := String.ofList (Text.trimBlanks line.toList)
  if text.toLower = "q" ∨ text.toLower = "quit" then .quit
  else
    match text with
    | "" | "n" => .onwards
    | "b" => .back
    | "s" => .save
    | "l" => .load
    | _ =>
      match Number.word? text with
      | some number => .choose number
      | none => .unknown text

/-- A story that is being played, and the file that saved games go to. -/
structure Game where
  session : Session Answers
  savePath : String

/-- The text for a move that failed; choices are counted from one. -/
def failureText : MoveError → String
  | .invalidChoice position available =>
    s!"there is no choice {position + 1} (pick 1 to {available})"
  | e => e.message

/-! ## Showing -/

/-- The line of a choice. -/
def choiceLine (c : ShownChoice) : String :=
  let label := if c.isPlain then "continue" else c.text
  s!"  {c.position + 1}. {label}"

/-- The lines of a scene. -/
def sceneLines (scene : Scene) : List String :=
  let media := scene.media.toList.map fun m => s!"[{m.kind}: {m.source}]"
  let ways := if scene.isEnding then ["  The End"] else scene.choices.map choiceLine
  ["", scene.text] ++ media ++ [""] ++ ways ++ [""]

namespace Game

variable {m : Type → Type} [Monad m] [Console m]

/-- Shows a scene and what went wrong in its script. -/
def display (scene : Scene) : m Unit := do
  complainLines (scene.scriptErrors.map fun e => s!"  script: {e.message}")
  printLines (sceneLines scene)

/-- Tells a reader something. -/
def tell (text : String) : m Unit :=
  printLines [text, ""]

/-- Makes a move with some answers to its prompts. -/
def attempt (s : Session Answers) (operation : Session.Operation) (given : List (Option String)) :
    Except MoveError (Option Scene) × Session Answers :=
  Session.perform Answers.responder { s with responder := { given } } operation

/-- Makes a move and shows its prompts one after the other.  Where a move meets a prompt beyond the
answers so far the prompt is shown, and the move is made again with one answer more; the number
bounds the prompts. -/
def converse (s : Session Answers) (operation : Session.Operation) :
    Nat → List (Option String) → m (Except MoveError (Option Scene) × Session Answers)
  | 0, given => return attempt s operation given
  | bound + 1, given => do
    let (result, after) := attempt s operation given
    match after.responder.open? with
    | none => return (result, after)
    | some prompt =>
      Console.print s!"{prompt} "
      let answer ← askLine
      converse s operation bound (given ++ [answer])

/-- The most prompts that a move can show.  A move runs the script of one section, in which each
step shows one prompt at most; a saved game changes no scripts, and a story that is loaded brings
its own. -/
def promptBound (s : Session Answers) : Session.Operation → Nat
  | .load story => story.stepCount
  | _ => s.story.stepCount

/-- Makes a move and shows its prompts. -/
def move (s : Session Answers) (operation : Session.Operation) :
    m (Except MoveError (Option Scene) × Session Answers) :=
  converse s operation (promptBound s operation) []

/-- Makes a move and shows what comes of it. -/
def follow (g : Game) (operation : Session.Operation) (nowhere : String) : m Game := do
  let (result, session) ← move g.session operation
  match result with
  | .ok (some scene) => display scene
  | .ok none => tell nowhere
  | .error e => tell (failureText e)
  return { g with session }

/-- Writes a saved game. -/
def save (g : Game) : m Unit := do
  match ← Console.writeFile g.savePath g.session.save.toDocument with
  | .ok _ => tell s!"  Saved to {g.savePath}"
  | .error fault => tell s!"cannot write '{g.savePath}': {fault.message}"

/-- Reads the saved game and goes on from it. -/
def load (g : Game) : m Game := do
  match ← Console.readFile g.savePath with
  | .error fault =>
    tell s!"cannot read '{g.savePath}': {fault.message}"
    return g
  | .ok text =>
    match SavedGame.ofDocument text with
    | .error fault =>
      tell s!"invalid save game: {fault.message}"
      return g
    | .ok game => g.follow (.restore game) ""

/-- Asks for a line and does what it says.  There is no game after the last line. -/
def turn (g : Game) : m (Option Game) := do
  Console.print "> "
  match ← askLine with
  | none => return none
  | some line =>
    match Wish.ofLine line with
    | .quit => return none
    | .onwards => some <$> g.follow .forward "pick a choice by number"
    | .back => some <$> g.follow .back "nothing to go back to"
    | .save =>
      g.save
      return some g
    | .load => some <$> g.load
    | .choose (position + 1) => some <$> g.follow (.choose position) ""
    | .choose 0 =>
      tell "choices start at 1"
      return some g
    | .unknown text =>
      tell s!"unknown command '{text}'"
      return some g

/-- Plays on for at most a number of turns. -/
def turns : Nat → Game → m Unit
  | 0, _ => return ()
  | bound + 1, g => do
    match ← g.turn with
    | some g => turns bound g
    | none => return ()

end Game

end Cli

end Gamebook
