import Gamebook.Scalar
import Gamebook.Variables

/-!
# Progress

Where a reader is in a story, the sections read before, and the values of the variables.
-/

namespace Gamebook

/-- The progress of a reader. -/
structure Progress where
  /-- The section being read. -/
  current : Option SectionId := none
  /-- The sections read before, the latest last. -/
  history : List SectionId := []
  vars : Variables := Table.empty
  deriving BEq, Inhabited

namespace Progress

/-- The last entries of a list, at most as many as a limit allows. -/
def bounded (limit : Option Nat) (ids : List SectionId) : List SectionId :=
  match limit with
  | none => ids
  | some n => ids.drop (ids.length - n)

/-- The progress with one more section in the history; beyond the limit the oldest are dropped. -/
def push (state : Progress) (limit : Option Nat) (id : SectionId) : Progress :=
  { state with history := bounded limit (state.history ++ [id]) }

/-- The latest section of the history, and the progress without it. -/
def pop? (state : Progress) : Option (SectionId × Progress) :=
  state.history.getLast?.map fun id => (id, { state with history := state.history.dropLast })

/-- A bounded history has at most as many entries as its limit allows. -/
theorem length_bounded_le (n : Nat) (ids : List SectionId) :
    (bounded (some n) ids).length ≤ n := by
  simp only [bounded, List.length_drop]
  omega

end Progress

end Gamebook
