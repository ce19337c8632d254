import Gamebook.Catalog
import Gamebook.Section
import Gamebook.Story.Authoring
import Gamebook.Text.Quoted

/-!
# Actions

The steps of a script as a document lists them are names with parameters; this module reads them as
actions.  A conditional action carries the action that it chains to, whose name and parameters
follow its own in line.

- `Action.parse` reads the name and the parameters of an action.
- `Action.toStep` writes an action as a step again.
- `expectedTypes` lists the kinds of the parameters that a step should have.
-/

namespace Gamebook

/-- What is wrong with a step of a script. -/
inductive StepError where
  /-- The name is not in the catalog. -/
  | unknownAction (name : String)
  /-- There are fewer parameters than the action declares. -/
  | tooFewParameters (kind : ActionKind) (found : Nat)
  /-- A parameter is none of the tokens that the action accepts. -/
  | badToken (kind : ActionKind) (value : String)
  /-- The section being read does not exist. -/
  | missingSection (id : SectionId)

namespace StepError

/-- The text of an error. -/
def message : StepError → String
  | unknownAction name =>
    let hint :=
      match ActionKind.suggest name with
      | some suggestion => s!" (did you mean {suggestion}?)"
      | none => ""
    s!"no such action: {name}{hint}"
  | tooFewParameters kind found =>
    s!"too few parameters for {kind.name}: expected {kind.parameters.length}, found {found}"
  | badToken kind value =>
    let tokens := " ".intercalate kind.tokens
    s!"bad value {Text.quoted value} for {kind.name}, expected one of {tokens}"
  | missingSection id => missingSectionMessage id

end StepError

/-- A step of a script. -/
inductive Action where
  /-- Does nothing. -/
  | none
  /-- Gives a variable a value. -/
  | set (name value : String)
  /-- Asks the reader for the value of a variable. -/
  | input (name prompt : String)
  /-- Adds a number to the number that a variable holds. -/
  | addToVariable (name amount : String)
  /-- Goes on when a variable is set and compares as wanted. -/
  | compareDo (name : String) (comparison : Comparison) (value : String) (next : Action)
  /-- Goes on when a variable is set. -/
  | ifSetDo (name : String) (next : Action)
  /-- Goes on when a variable is not set. -/
  | ifNotSetDo (name : String) (next : Action)
  /-- Adds a choice to the section being read. -/
  | addChoice (target : SectionId) (text : String)
  /-- Removes a choice from the section being read. -/
  | removeChoice (target : SectionId)
  /-- Adds a choice when a variable is set. -/
  | ifSetAddChoice (name : String) (target : SectionId) (text : String)
  /-- Removes a choice when a variable is set. -/
  | ifSetRemoveChoice (name : String) (target : SectionId)

namespace Action

/-- The kind of an action. -/
def kind : Action → ActionKind
  | none => .none
  | set .. => .set
  | input .. => .input
  | addToVariable .. => .addToVariable
  | compareDo .. => .compareDo
  | ifSetDo .. => .ifSetDo
  | ifNotSetDo .. => .ifNotSetDo
  | addChoice .. => .addChoice
  | removeChoice .. => .removeChoice
  | ifSetAddChoice .. => .ifSetAddChoice
  | ifSetRemoveChoice .. => .ifSetRemoveChoice

/-! ## Reading -/

/-- Reads the parameters of an action.  Names of sections stay as they are written, all other
parameters count by their texts, and parameters after those that are needed are passed over. -/
def parse (name : String) (parameters : List Scalar) : Except StepError Action :=
  match ActionKind.ofName? name with
  | Option.none => .error (.unknownAction name)
  | some kind =>
    match kind, parameters with
    | .none, _ => .ok none
    | .set, name :: value :: _ => .ok (set name.canonical value.canonical)
    | .input, name :: prompt :: _ => .ok (input name.canonical prompt.canonical)
    | .addToVariable, name :: amount :: _ => .ok (addToVariable name.canonical amount.canonical)
    | .compareDo, name :: token :: value :: next :: rest =>
      match Comparison.ofToken? token.canonical with
      | some comparison =>
        compareDo name.canonical comparison value.canonical <$> parse next.canonical rest
      | Option.none => .error (.badToken kind token.canonical)
    | .ifSetDo, name :: next :: rest => ifSetDo name.canonical <$> parse next.canonical rest
    | .ifNotSetDo, name :: next :: rest => ifNotSetDo name.canonical <$> parse next.canonical rest
    | .addChoice, target :: text :: _ => .ok (addChoice target text.canonical)
    | .removeChoice, target :: _ => .ok (removeChoice target)
    | .ifSetAddChoice, name :: target :: text :: _ =>
      .ok (ifSetAddChoice name.canonical target text.canonical)
    | .ifSetRemoveChoice, name :: target :: _ => .ok (ifSetRemoveChoice name.canonical target)
    | kind, parameters => .error (.tooFewParameters kind parameters.length)

/-- Reads a step of a script. -/
def ofStep (e : Step) : Except StepError Action :=
  parse e.action e.parameters

/-! ## Writing -/

/-- The parameters of an action, those of the actions that it chains to in line. -/
def parameters : Action → List Scalar
  | none => []
  | set name value => [.text name, .text value]
  | input name prompt => [.text name, .text prompt]
  | addToVariable name amount => [.text name, .text amount]
  | compareDo name comparison value next =>
    .text name :: .text comparison.token :: .text value :: .text next.kind.name :: next.parameters
  | ifSetDo name next => .text name :: .text next.kind.name :: next.parameters
  | ifNotSetDo name next => .text name :: .text next.kind.name :: next.parameters
  | addChoice target text => [target, .text text]
  | removeChoice target => [target]
  | ifSetAddChoice name target text => [.text name, target, .text text]
  | ifSetRemoveChoice name target => [.text name, target]

/-- The step of a script that an action is written as. -/
def toStep (a : Action) : Step where
  action := a.kind.name
  parameters := a.parameters

end Action

/-! ## Expected parameters -/

/-- The kinds of the parameters that an action should have, followed by those of the actions that it
chains to, as far as their names are in the catalog. -/
def expectedParameters (name : String) (parameters : List Scalar) : List ParameterKind :=
  match ActionKind.ofName? name with
  | none => []
  | some kind =>
    if kind.chains then
      match h : parameters.drop (kind.parameters.length - 1) with
      | [] => kind.parameters
      | next :: rest =>
        have : rest.length < parameters.length := by
          have := congrArg List.length h
          simp only [List.length_drop, List.length_cons] at this
          omega
        kind.parameters ++ expectedParameters next.canonical rest
    else kind.parameters
termination_by parameters.length

/-- The kinds of the parameters that a step should have. -/
def expectedTypes (e : Step) : List ParameterKind :=
  expectedParameters e.action e.parameters

/-! ## Checking -/

/-- The steps of a script that cannot be read, with their positions. -/
def validateScript (script : List Step) : List (Nat × StepError) :=
  script.zipIdx.filterMap fun (e, position) =>
    match Action.ofStep e with
    | .ok _ => none
    | .error error => some (position, error)

end Gamebook
