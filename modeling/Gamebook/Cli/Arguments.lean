/-!
# Arguments

How a command line is read: options with one hyphen and a letter or with two hyphens and a word,
their values, and the other words.  Arguments are read from left to right and the first that does
not fit ends the reading.

- `OptionSpec` describes an option, `Grammar` the arguments of a command.
- `Arguments.read` reads the arguments of a command.
-/

namespace Gamebook

namespace Cli

/-- Why reading arguments ends before there is a command. -/
inductive Stop where
  /-- Help is asked for. -/
  | help
  /-- The version is asked for, of the whole program or of a command within. -/
  | version (path : List String)
  /-- The arguments do not fit. -/
  | misuse
  deriving Repr, DecidableEq

/-- What an option does. -/
inductive OptionKind where
  /-- Stands by itself, once. -/
  | switch
  /-- Takes a value, once. -/
  | single
  /-- Takes a value each time that it is given. -/
  | repeated
  /-- Ends the reading. -/
  | stop (reason : Stop)

/-- An option. -/
structure OptionSpec where
  long : String
  short : Option Char := none
  kind : OptionKind
  /-- The values that the option takes. -/
  accepts : String → Bool := fun _ => true

/-- The arguments that a command takes. -/
structure Grammar where
  options : List OptionSpec := []
  /-- The options that must be given. -/
  needed : List String := []
  /-- The words in order, each by what it may be. -/
  words : List (String → Bool) := []
  /-- How many of the words must be given. -/
  least : Nat := words.length

/-- What has been read. -/
structure Arguments where
  /-- The options by their long names with their values, as they were given. -/
  options : List (String × String) := []
  words : List String := []

/-- The argument is an option, not a word. -/
def isOption (argument : String) : Bool :=
  "-".isPrefixOf argument && argument ≠ "-"

namespace Arguments

/-! ## What was given -/

/-- The option was given. -/
def has (a : Arguments) (long : String) : Bool :=
  a.options.any fun o => o.1 == long

/-- The values of an option in order. -/
def values (a : Arguments) (long : String) : List String :=
  (a.options.filter fun o => o.1 == long).map Prod.snd

/-- The value of an option that is given once. -/
def value? (a : Arguments) (long : String) : Option String :=
  (a.values long).head?

/-! ## Reading -/

/-- Takes an option with its value. -/
def addOption (a : Arguments) (o : OptionSpec) (value : String) : Except Stop Arguments :=
  let again :=
    match o.kind with
    | .repeated => false
    | _ => a.has o.long
  if again || !o.accepts value then .error .misuse
  else .ok { a with options := a.options ++ [(o.long, value)] }

/-- Takes an option whose value is the next argument. -/
def addSpaced (a : Arguments) (o : OptionSpec) (next : Option String) : Except Stop Arguments :=
  match next with
  | some value => if isOption value then .error .misuse else a.addOption o value
  | none => .error .misuse

/-- Takes a word, where there is room for one more. -/
def addWord (g : Grammar) (a : Arguments) (word : String) : Except Stop Arguments :=
  match g.words[a.words.length]? with
  | some accepts =>
    if accepts word then .ok { a with words := a.words ++ [word] } else .error .misuse
  | none => .error .misuse

/-- Reads an option after its two hyphens; a value may follow an equals sign.  The flag tells
whether the next argument was its value. -/
def readLong (specs : List OptionSpec) (a : Arguments) (body : List Char) (next : Option String) :
    Except Stop (Arguments × Bool) :=
  let name := String.ofList (body.takeWhile (· ≠ '='))
  match specs.find? fun o => o.long == name, body.dropWhile (· ≠ '=') with
  | none, _ => .error .misuse
  | some o, '=' :: value =>
    match o.kind with
    | .single | .repeated => do return (← a.addOption o (String.ofList value), false)
    | .switch | .stop _ => .error .misuse
  | some o, _ =>
    match o.kind with
    | .single | .repeated => do return (← a.addSpaced o next, true)
    | .switch => do return (← a.addOption o "", false)
    | .stop reason => .error reason

/-- Reads options that are letters after one hyphen.  What follows the letter of an option that
takes a value is the value, with an equals sign before it or without. -/
def readShort (specs : List OptionSpec) (a : Arguments) (next : Option String) :
    List Char → Except Stop (Arguments × Bool)
  | [] => .ok (a, false)
  | c :: rest =>
    match specs.find? fun o => o.short == some c with
    | none => .error .misuse
    | some o =>
      match o.kind, rest with
      | .stop reason, _ => .error reason
      | .switch, rest => do readShort specs (← a.addOption o "") next rest
      | _, [] => do return (← a.addSpaced o next, true)
      | _, '=' :: value => do return (← a.addOption o (String.ofList value), false)
      | _, value => do return (← a.addOption o (String.ofList value), false)

/-- Reads an option. -/
def readOption (specs : List OptionSpec) (a : Arguments) (argument : String)
    (next : Option String) : Except Stop (Arguments × Bool) :=
  match argument.toList with
  | '-' :: '-' :: body => readLong specs a body next
  | _ :: letters => readShort specs a next letters
  | [] => .error .misuse

/-- Nothing that the command needs is missing. -/
def isComplete (g : Grammar) (a : Arguments) : Bool :=
  g.least ≤ a.words.length && g.needed.all a.has

/-- Reads all arguments of a command.  After two hyphens alone there are only words. -/
def read (g : Grammar) (a : Arguments) : List String → Except Stop Arguments
  | [] => if a.isComplete g then .ok a else .error .misuse
  | argument :: rest =>
    if argument = "--" then do
      let a ← rest.foldlM (addWord g) a
      read g a []
    else if isOption argument then do
      let (a, spaced) ← readOption g.options a argument rest.head?
      read g a (if spaced then rest.tail else rest)
    else do
      let a ← addWord g a argument
      read g a rest
termination_by arguments => arguments.length
decreasing_by
  · simp
  · split <;> simp only [List.length_tail, List.length_cons] <;> omega
  · simp

end Arguments

end Cli

end Gamebook
