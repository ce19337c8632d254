import Gamebook.Number

/-!
# Comparing and adding values

The values of variables are text.  Equality compares the texts themselves; the order compares their
numeric readings, so a text without one is neither below, above nor equal in that order.
-/

namespace Gamebook

/-- A comparison between two values. -/
inductive Comparison where
  | equal
  | different
  | above
  | atLeast
  | atMost
  | below
  deriving Repr, DecidableEq

namespace Comparison

/-- All comparisons, in the order in which their tokens are listed. -/
def all : List Comparison :=
  [equal, different, above, atLeast, atMost, below]

/-- The token that names a comparison in a script. -/
def token : Comparison → String
  | equal => "="
  | different => "!="
  | above => ">"
  | atLeast => ">="
  | atMost => "<="
  | below => "<"

/-- The tokens of all comparisons. -/
def tokens : List String :=
  all.map token

/-- The comparison with a token. -/
def ofToken? (token : String) : Option Comparison :=
  all.find? fun c => c.token == token

/-- Whether the comparison holds between two values. -/
def holds (c : Comparison) (left right : String) : Bool :=
  match c with
  | equal => left == right
  | different => left != right
  | above => Number.ofText left > Number.ofText right
  | atLeast => Number.ofText left ≥ Number.ofText right
  | atMost => Number.ofText left ≤ Number.ofText right
  | below => Number.ofText left < Number.ofText right

/-- Reading a token gives the comparison that it names. -/
@[simp]
theorem ofToken?_token (c : Comparison) : ofToken? c.token = some c := by
  cases c <;> rfl

end Comparison

/-- The sum of two values as text; an absent value counts as zero. -/
def Number.sum (current : Option String) (amount : String) : String :=
  Number.text ((current.map Number.ofText).getD 0 + Number.ofText amount)

end Gamebook
