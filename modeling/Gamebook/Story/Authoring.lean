import Gamebook.Story

/-!
# Editing stories

Adding, changing and removing sections and choices.  An edit answers with the changed story, or with
the reason why there is nothing to change.
-/

namespace Gamebook

/-- Why a story cannot be edited. -/
inductive EditError where
  | missingSection (id : SectionId)
  | missingChoice (id : SectionId) (position : Nat)
  /-- The greatest integer is taken as the name of a section. -/
  | idsExhausted

/-- The text for a section that does not exist. -/
def missingSectionMessage (id : SectionId) : String :=
  s!"section {id.canonical} is missing from the story"

/-- The text of an error. -/
def EditError.message : EditError → String
  | missingSection id => missingSectionMessage id
  | missingChoice id position => s!"section {id.canonical} has no choice at position {position}"
  | idsExhausted => "no integer section id is left to allocate"

namespace Story

/-- The section with a name, which must exist. -/
def requireSection (s : Story) (id : SectionId) : Except EditError Section :=
  match s.section? id with
  | some sec => .ok sec
  | none => .error (.missingSection id)

/-- The least positive integer above all integers that name sections, if it is an integer of 64
bits. -/
def freshId? (s : Story) : Option SectionId :=
  let greatest := (s.ids.filterMap Scalar.toInt?).foldl max 0
  if greatest = Int64.maxValue then none else some (.int (greatest + 1))

/-- Adds a section with one empty line under a fresh name. -/
def addSection (s : Story) : Except EditError (SectionId × Story) :=
  match s.freshId? with
  | some id => .ok (id, { s with sections := s.sections.insert id (Section.ofLines [""]) })
  | none => .error .idsExhausted

/-- Adds a choice at the end of a section's list and tells its position.  The target need not exist,
and the same choice may be there already. -/
def addChoice (s : Story) (id target : SectionId) (text : String) :
    Except EditError (Nat × Story) := do
  let sec ← s.requireSection id
  .ok (sec.choices.length, s.adjustSection id fun sec => sec.addChoice { text, target })

/-- Removes a section and all choices that lead to it. -/
def removeSection (s : Story) (id : SectionId) : Except EditError (Section × Story) := do
  let sec ← s.requireSection id
  let others := (s.sections.erase id).mapEntries fun _ sec =>
    sec.keepChoices fun c => !(c.target == id)
  .ok (sec, { s with sections := others })

/-- Removes the choice at a position of a section's list. -/
def removeChoice (s : Story) (id : SectionId) (position : Nat) :
    Except EditError (Choice × Story) := do
  let sec ← s.requireSection id
  match sec.choices[position]? with
  | some c =>
    .ok (c, s.adjustSection id fun sec => { sec with next := some (sec.choices.eraseIdx position) })
  | none => .error (.missingChoice id position)

/-- Replaces the text of a section. -/
def setText (s : Story) (id : SectionId) (text : String) : Except EditError Story := do
  let _ ← s.requireSection id
  .ok (s.adjustSection id fun sec => sec.withText text)

/-- Gives a section media, in the place of those that it had. -/
def setMedia (s : Story) (id : SectionId) (media : Media) : Except EditError Story := do
  let _ ← s.requireSection id
  .ok (s.adjustSection id fun sec => { sec with media := some media })

/-- Takes away a section's media and tells what they were. -/
def clearMedia (s : Story) (id : SectionId) : Except EditError (Option Media × Story) := do
  let sec ← s.requireSection id
  .ok (sec.media, s.adjustSection id fun sec => { sec with media := none })

end Story

end Gamebook
