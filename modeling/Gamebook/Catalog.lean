import Gamebook.Comparison
import Gamebook.Text.Similarity
import Gamebook.Text.UpperCase

/-!
# The catalog of actions

The closed list of the actions that a script may name, and what parameters each of them takes.
-/

namespace Gamebook

/-- The kind of a parameter. -/
inductive ParameterKind where
  | string
  /-- The name of a variable. -/
  | variableName
  /-- The name of a section. -/
  | target
  /-- One of a few tokens. -/
  | token
  /-- The name of another action, whose own parameters follow in line. -/
  | action
  deriving Repr, DecidableEq

/-- The name that messages give the kind of a parameter. -/
def ParameterKind.name : ParameterKind → String
  | string => "STRING"
  | variableName => "VARIABLE"
  | target => "SECTION"
  | token => "ENUM"
  | action => "ACTION"

/-- What a step of a script does. -/
inductive ActionKind where
  | none
  | input
  | set
  | addToVariable
  | compareDo
  | ifSetDo
  | ifNotSetDo
  | addChoice
  | removeChoice
  | ifSetAddChoice
  | ifSetRemoveChoice
  deriving Repr, DecidableEq

namespace ActionKind

/-- All kinds of actions in the order of the catalog. -/
def all : List ActionKind :=
  [none, input, set, addToVariable, compareDo, ifSetDo, ifNotSetDo, addChoice, removeChoice,
   ifSetAddChoice, ifSetRemoveChoice]

/-- The name that scripts use. -/
def name : ActionKind → String
  | none => "NONE"
  | input => "INPUT"
  | set => "SET"
  | addToVariable => "ADD_TO_VARIABLE"
  | compareDo => "COMPARE_DO"
  | ifSetDo => "IF_SET_DO"
  | ifNotSetDo => "IF_NOT_SET_DO"
  | addChoice => "ADD_CHOICE"
  | removeChoice => "REMOVE_CHOICE"
  | ifSetAddChoice => "IF_SET_ADD_CHOICE"
  | ifSetRemoveChoice => "IF_SET_REMOVE_CHOICE"

/-- The kind with exactly this name. -/
def ofName? (name : String) : Option ActionKind :=
  all.find? fun k => k.name == name

/-- The parameters that a kind of action declares.  An action among them comes last. -/
def parameters : ActionKind → List ParameterKind
  | none => []
  | input | set | addToVariable => [.variableName, .string]
  | compareDo => [.variableName, .token, .string, .action]
  | ifSetDo | ifNotSetDo => [.variableName, .action]
  | addChoice => [.target, .string]
  | removeChoice => [.target]
  | ifSetAddChoice => [.variableName, .target, .string]
  | ifSetRemoveChoice => [.variableName, .target]

/-- The tokens that a kind of action accepts where it declares one. -/
def tokens : ActionKind → List String
  | compareDo => Comparison.tokens
  | _ => []

/-- The kind chains to another action. -/
def chains (k : ActionKind) : Bool :=
  k.parameters.getLast? == some .action

/-- Reading a name gives the kind that it names. -/
@[simp]
theorem ofName?_name (k : ActionKind) : ofName? k.name = some k := by
  cases k <;> rfl

/-! ## Suggestions -/

/-- How similar a name must be to be suggested. -/
def suggestionThreshold : Float := 0.8

/-- The better of two rated names; of equally good ones the second. -/
def better (best : Option (String × Float)) (next : String × Float) : Option (String × Float) :=
  match best with
  | some (name, score) => if score > next.2 then some (name, score) else some next
  | .none => some next

/-- The name of the catalog that is most similar to a name in any case, if one is similar enough. -/
def suggest (name : String) : Option String :=
  let upper := Text.upperCase name.toList
  let rated := all.map fun k => (k.name, Text.similarity upper k.name.toList)
  let close := rated.filter fun (_, score) => score ≥ suggestionThreshold
  (close.foldl better .none).map Prod.fst

end ActionKind

end Gamebook
