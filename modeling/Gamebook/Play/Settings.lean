/-!
# Settings

The settings of playing and of writing a route out.
-/

namespace Gamebook

/-- What a reader may set. -/
structure Settings where
  /-- How many sections the history keeps; all where there is no limit. -/
  historyLimit : Option Nat := none
  /-- Media are written out with their sections. -/
  includeMedia : Bool := true
  /-- Variables are replaced by their values when a route is written out. -/
  substituteVariables : Bool := true

end Gamebook
