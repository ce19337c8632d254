import Gamebook.Table
import Gamebook.Text.Lines

/-!
# Variables

The named values of a story.  Values are text; an empty value counts as not set.
-/

namespace Gamebook

/-- Values by name, in the order of the names. -/
abbrev Variables := Table String String

namespace Variables

/-- The variable exists and is not empty. -/
def isSet (vars : Variables) (name : String) : Bool :=
  (vars.find? name).any fun value => !value.isEmpty

/-- The variables with an empty one under a name, unless there is one already. -/
def declare (vars : Variables) (name : String) : Variables :=
  if vars.contains name then vars else vars.insert name ""

/-- The token that stands for a variable in a text. -/
def token (name : String) : List Char :=
  '$' :: '{' :: (name.toList ++ ['}'])

/-- The text with the tokens of all variables replaced by their values, one variable after the other
in the order of their names.  Tokens of other names stay. -/
def substitute (vars : Variables) (text : String) : String :=
  String.ofList <| vars.entries.foldl
    (fun cs (name, value) => Text.replaceAll (token name) value.toList cs) text.toList

end Variables

end Gamebook
