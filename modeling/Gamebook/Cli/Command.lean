import Gamebook.Cli.Arguments
import Gamebook.Cli.Edit

/-!
# Commands

What can be asked for on the command line, and how each command is written.

- `Command` is a command with its arguments.
- `Command.ofArguments` reads the arguments of the program.
- `usage` lists how the commands are written.
-/

namespace Gamebook

namespace Cli

/-- What is wanted of a route that is written out. -/
structure RouteRequest where
  start : SectionId
  goal : SectionId
  waypoints : List SectionId
  /-- The file to write to; the output where there is none. -/
  output : Option String
  includeMedia : Bool

/-- A command.  Each works on the story in a file. -/
inductive Command where
  | check (story : String)
  | info (story : String)
  | play (story : String) (save : Option String)
  | route (story : String) (request : RouteRequest)
  | edit (story : String) (edit : Edit)

/-! ## Names -/

/-- The name of a command. -/
inductive Verb where
  | check
  | info
  | play
  | linearize
  | addSection
  | removeSection
  | setText
  | setMedia
  | addChoice
  | removeChoice
  deriving Repr, DecidableEq

namespace Verb

/-- All commands. -/
def all : List Verb :=
  [check, info, play, linearize, addSection, removeSection, setText, setMedia, addChoice,
   removeChoice]

/-- The words that name a command. -/
def path : Verb → List String
  | check => ["check"]
  | info => ["info"]
  | play => ["play"]
  | linearize => ["linearize"]
  | addSection => ["section", "add"]
  | removeSection => ["section", "remove"]
  | setText => ["section", "text"]
  | setMedia => ["section", "media"]
  | addChoice => ["choice", "add"]
  | removeChoice => ["choice", "remove"]

/-- The arguments that follow, as a reader is told. -/
def synopsis : Verb → String
  | check | info => "STORY"
  | play => "STORY [--save FILE]"
  | linearize => "STORY --from ID --to ID [--through ID]... [--output FILE] [--no-media]"
  | addSection => "STORY [--text TEXT]"
  | removeSection => "STORY ID"
  | setText => "STORY ID TEXT"
  | setMedia => "STORY ID [SOURCE]"
  | addChoice => "STORY FROM TO [--text TEXT]"
  | removeChoice => "STORY FROM POSITION"

/-- The command that some words name. -/
def ofPath? (path : List String) : Option Verb :=
  all.find? fun v => v.path == path

/-- The words are the beginning of the names of some commands. -/
def isGroup (path : List String) : Bool :=
  all.any fun v => path.isPrefixOf v.path && path != v.path

/-- Some words name their command. -/
@[simp]
theorem ofPath?_path (v : Verb) : ofPath? v.path = some v := by
  cases v <;> rfl

end Verb

/-- The name of the program. -/
def programName : String := "sa"

/-- The version of the program. -/
def versionNumber : String := "0.1.0"

/-- How the commands are written. -/
def usage : List String :=
  "Plays and edits branching stories." :: "" :: "Usage:" ::
    Verb.all.map fun v => "  " ++ " ".intercalate (programName :: v.path ++ [v.synopsis])

/-- What is told of the version of the program, or of a command within. -/
def versionText (path : List String) : String :=
  "-".intercalate (programName :: path) ++ " " ++ versionNumber

/-! ## Grammars -/

/-- The options that may stand with every command and before it.  There is nothing more to tell with
`verbose`, which is accepted all the same. -/
def commonOptions (path : List String) : List OptionSpec :=
  [{ long := "verbose", short := some 'v', kind := .switch },
   { long := "help", short := some 'h', kind := .stop .help },
   { long := "version", short := some 'V', kind := .stop (.version path) }]

/-- The path of a file is not empty. -/
def isPath (argument : String) : Bool :=
  !argument.isEmpty

/-- Any word. -/
def isWord (_ : String) : Bool :=
  true

/-- A position in a list. -/
def isPosition (argument : String) : Bool :=
  (Number.word? argument).isSome

/-- The arguments that a command takes, the common options apart. -/
def Verb.grammar : Verb → Grammar
  | check | info => { words := [isPath] }
  | play =>
    { words := [isPath]
      options := [{ long := "save", short := some 's', kind := .single, accepts := isPath }] }
  | linearize =>
    { words := [isPath]
      options :=
        [{ long := "from", kind := .single }, { long := "to", kind := .single },
         { long := "through", kind := .repeated },
         { long := "output", short := some 'o', kind := .single, accepts := isPath },
         { long := "no-media", kind := .switch }]
      needed := ["from", "to"] }
  | addSection =>
    { words := [isPath], options := [{ long := "text", short := some 't', kind := .single }] }
  | removeSection => { words := [isPath, isWord] }
  | setText => { words := [isPath, isWord, isWord] }
  | setMedia => { words := [isPath, isWord, isWord], least := 2 }
  | addChoice =>
    { words := [isPath, isWord, isWord]
      options := [{ long := "text", short := some 't', kind := .single }] }
  | removeChoice => { words := [isPath, isWord, isPosition] }

/-- The command that has been read. -/
def Verb.command? (v : Verb) (a : Arguments) : Option Command :=
  match v, a.words with
  | check, [story] => some (.check story)
  | info, [story] => some (.info story)
  | play, [story] => some (.play story (a.value? "save"))
  | linearize, [story] => do
    some <| .route story
      { start := SectionId.ofText (← a.value? "from")
        goal := SectionId.ofText (← a.value? "to")
        waypoints := (a.values "through").map SectionId.ofText
        output := a.value? "output"
        includeMedia := !a.has "no-media" }
  | addSection, [story] => some (.edit story (.addSection (a.value? "text")))
  | removeSection, [story, id] => some (.edit story (.removeSection (SectionId.ofText id)))
  | setText, [story, id, text] =>
    some (.edit story (.setText (SectionId.ofText id) (typedText text)))
  | setMedia, story :: id :: source =>
    some (.edit story (.setMedia (SectionId.ofText id) source.head?))
  | addChoice, [story, owner, target] =>
    some <| .edit story <|
      .addChoice (SectionId.ofText owner) (SectionId.ofText target) ((a.value? "text").getD "")
  | removeChoice, [story, owner, position] => do
    some (.edit story (.removeChoice (SectionId.ofText owner) (← Number.word? position)))
  | _, _ => none

/-! ## Reading -/

/-- Help is asked for by a word, on the whole program or on what further words name. -/
def readHelp (path : List String) : List String → Stop
  | [] => .help
  | word :: rest =>
    let longer := path ++ [word]
    if (Verb.ofPath? longer).isSome || Verb.isGroup longer then readHelp longer rest
    else if word = "help" && Verb.isGroup path && rest.isEmpty then .help
    else .misuse

/-- Reads the name of a command; the options before each of its words are those that all commands
have. -/
def readVerb (path : List String) (a : Arguments) :
    List String → Except Stop (Verb × List String)
  | [] => .error .misuse
  | argument :: rest =>
    if isOption argument then do
      let (a, _) ← a.readOption (commonOptions path) argument none
      readVerb path a rest
    else
      let longer := path ++ [argument]
      match Verb.ofPath? longer with
      | some v => .ok (v, rest)
      | none =>
        if Verb.isGroup longer then readVerb longer {} rest
        else if argument = "help" then .error (readHelp path rest)
        else .error .misuse

/-- Reads the arguments of the program. -/
def Command.ofArguments (arguments : List String) : Except Stop Command := do
  let (v, rest) ← readVerb [] {} arguments
  let g := v.grammar
  let a ← Arguments.read { g with options := commonOptions v.path ++ g.options } {} rest
  match v.command? a with
  | some command => .ok command
  | none => .error .misuse

end Cli

end Gamebook
