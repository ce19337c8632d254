import Gamebook.Cli.Command
import Gamebook.Cli.Desk
import Gamebook.Cli.Overview
import Gamebook.Cli.Player
import Gamebook.Problem
import Gamebook.Route.Search
import Gamebook.Route.Transcript

/-!
# Running commands

What the commands do with their surroundings.  A command fails with a text, which is written to the
place for errors; a command that fails has written no file.

- `Command.run` runs a command.
- `execute` runs the program on its arguments and gives its exit status.
- `Desk.execute` does so on a desk.
-/

namespace Gamebook

namespace Cli

variable {m : Type → Type} [Monad m] [Console m]

/-! ## Documents -/

/-- The result of a part of a program that has no surroundings. -/
def liftExcept {ε α : Type} (result : Except ε α) : ExceptT ε m α :=
  ExceptT.mk (pure result)

/-- Reads a story from a document. -/
def parseStory (path text : String) : Except String Story :=
  match Story.ofDocument text with
  | .ok s => .ok s
  | .error fault => .error s!"{path}: invalid story document: {fault.message}"

/-- The text of a file. -/
def loadText (path : String) : ExceptT String m String := do
  match ← Console.readFile path with
  | .ok text => return text
  | .error fault => throw s!"cannot read '{path}': {fault.message}"

/-- The story in a file. -/
def loadStory (path : String) : ExceptT String m Story := do
  let text ← loadText path
  liftExcept (parseStory path text)

/-- Writes a text into a file. -/
def storeText (path text : String) : ExceptT String m Unit := do
  match ← Console.writeFile path text with
  | .ok _ => return ()
  | .error fault => throw s!"cannot write '{path}': {fault.message}"

/-! ## Commands -/

/-- The number of problems in words. -/
def problemCount (n : Nat) : String :=
  if n = 1 then "1 problem found" else s!"{n} problems found"

/-- Tells the problems of a story, and fails where there are any. -/
def runCheck (s : Story) : ExceptT String m Unit := do
  let problems := s.problems
  complainLines (problems.flatMap Problem.report)
  if problems.isEmpty then
    printLines
      [s!"  All checks passed for '{displayTitle s}'.",
       s!"  {s.sectionCount} sections, {s.choiceCount} choices"]
  else throw (problemCount problems.length)

/-- Plays a story.  The turns after the first scene are left to the surroundings, where a reader may
take as many as there are lines. -/
def runPlay (playOn : Game → m Unit) (s : Story) (save : Option String) :
    ExceptT String m Unit := do
  let savePath := save.getD (SavedGame.fileName s)
  let (result, session) ← Game.move { story := s, responder := {} } .start
  match result with
  | .error e => throw e.message
  | .ok scene =>
    printLines
      [s!"  Playing {displayTitle s}",
       "  Pick a choice by number. Enter or 'n' continues, 'b' goes back,",
       "  's' saves, 'l' loads, 'q' quits."]
    scene.forM Game.display
    playOn { session, savePath }

/-- Writes a route through a story out. -/
def runRoute (s : Story) (r : RouteRequest) : ExceptT String m Unit := do
  match (s.findRoute r.start r.goal r.waypoints).route with
  | none =>
    throw (s!"no linear story from {r.start.canonical} to {r.goal.canonical}" ++
      " through all requested sections")
  | some route =>
    let text := s.transcribe { includeMedia := r.includeMedia } route
    match r.output with
    | none => Console.print text
    | some path =>
      storeText path text
      printLines [s!"  Wrote {route.length} sections to {path}"]

/-- The document of a changed story, and what was done to it. -/
def editDocument (path text : String) (edit : Edit) : Except String (String × String) := do
  let s ← parseStory path text
  match edit.apply s with
  | .ok (s, notice) => .ok (s.toDocument ++ "\n", notice)
  | .error e => .error e.message

/-- Changes the story in a file. -/
def runEdit (path : String) (edit : Edit) : ExceptT String m Unit := do
  let text ← loadText path
  let (document, notice) ← liftExcept (editDocument path text edit)
  if edit.tellsFirst then
    printLines ["  " ++ notice]
    storeText path document
  else
    storeText path document
    printLines ["  " ++ notice]

/-- Runs a command. -/
def Command.run (playOn : Game → m Unit) : Command → ExceptT String m Unit
  | check path => do runCheck (← loadStory path)
  | info path => do printLines (overview (← loadStory path))
  | play path save => do runPlay playOn (← loadStory path) save
  | route path request => do runRoute (← loadStory path) request
  | edit path change => runEdit path change

/-! ## The program -/

/-- Runs the program on its arguments.  The exit status is 0 where all went well, 1 where the
command failed, and 2 where the arguments do not fit. -/
def execute (playOn : Game → m Unit) (arguments : List String) : m Nat := do
  match Command.ofArguments arguments with
  | .ok command =>
    match ← (command.run playOn).run with
    | .ok _ => return 0
    | .error failure =>
      complainLines [s!"error: {failure}"]
      return 1
  | .error .help =>
    printLines usage
    return 0
  | .error (.version path) =>
    printLines [versionText path]
    return 0
  | .error .misuse =>
    complainLines ("error: these arguments do not fit" :: "" :: usage)
    return 2

/-- Runs the program on a desk.  Each turn of a game takes a line or finds that there is none, so
there are no more turns than lines and one. -/
def Desk.execute (d : Desk) (arguments : List String) : Nat × Desk :=
  (Cli.execute (Game.turns (d.input.length + 1)) arguments : StateM Desk Nat).run d

end Cli

end Gamebook
