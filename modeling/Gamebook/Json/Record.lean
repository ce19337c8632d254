import Gamebook.Json.Value

/-!
# Reading values from documents

A reader walks a tree from left to right and stops at the first problem: the text is malformed
there, or a value has the wrong shape.  Numbers beyond the finite ones and unpaired surrogates are
malformed wherever a value is used; a member that no reader asks for is only required to be
well-formed.

- `Record` describes a structure that is written as an object, or as an array of its fields.
- `read` runs a reader on a whole text.
-/

namespace Gamebook

namespace Json

/-- Why a text cannot be read. -/
inductive Fault where
  /-- The text is not JSON. -/
  | malformed
  /-- A value has the wrong shape. -/
  | mismatched
  deriving Repr, DecidableEq

/-- The text of a fault. -/
def Fault.message : Fault → String
  | malformed => "the text is not well-formed JSON"
  | mismatched => "a value does not have the shape that is wanted here"

/-- A reader of a tree. -/
abbrev Reader (α : Type) := Node → Except Fault α

/-- The fault of a value that stands where another shape is wanted. -/
def Node.fault : Node → Fault
  | .gap | .unpaired | .numeral .tooLarge => .malformed
  | _ => .mismatched

namespace Reader

/-- Reads a piece of text. -/
def text : Reader String
  | .text s => .ok s
  | n => .error n.fault

/-- Reads a value that may be null. -/
def optional {α : Type} (reader : Reader α) : Reader (Option α)
  | .null => .ok none
  | n => some <$> reader n

/-- Reads the items of an array. -/
def list {α : Type} (reader : Reader α) : Reader (List α)
  | .array items => items.mapM reader
  | n => .error n.fault

/-- Reads one member into a table. -/
def entry {κ ν : Type} [Ord κ] [Std.TransOrd κ] (key : String → κ) (reader : Reader ν)
    (t : Table κ ν) : Option String × Node → Except Fault (Table κ ν)
  | (none, _) => .error .malformed
  | (some k, n) => t.insert (key k) <$> reader n

/-- Reads the members of an object into a table; of members with one key the last counts. -/
def table {κ ν : Type} [Ord κ] [Std.TransOrd κ] (key : String → κ) (reader : Reader ν) :
    Reader (Table κ ν)
  | .object members => members.foldlM (entry key reader) Table.empty
  | n => .error n.fault

end Reader

/-! ## Records -/

/-- A field of a record: its name, and how a value is read into the record. -/
structure Field (α : Type) where
  name : String
  put : α → Reader α

/-- The field with a name, a reader of its values and a way to put a value into the record. -/
def Field.of {α β : Type} (name : String) (reader : Reader β) (set : α → β → α) : Field α where
  name := name
  put record n := set record <$> reader n

/-- Passes over a member that is not part of the record. -/
def skip {α : Type} (record : α) (_ : String) (n : Node) : Except Fault α :=
  if n.isComplete then .ok record else .error .malformed

/-- A structure that is written as an object, or as the array of its fields in their order. -/
structure Record (α : Type) where
  /-- The record before any field is read. -/
  start : α
  fields : List (Field α)
  /-- The fields that an object must have. -/
  required : List String := []
  /-- The number of fields that an array must have; absent where an array is no form of it. -/
  leastItems : Option Nat := some 0
  /-- Reads a member whose key is no field. -/
  other : α → String → Node → Except Fault α := skip

namespace Record

variable {α : Type}

/-- Reads one member, given the names of the fields that were read before. -/
def member (r : Record α) (state : α × List String) :
    Option String × Node → Except Fault (α × List String)
  | (none, _) => .error .malformed
  | (some key, n) =>
    match r.fields.find? fun f => f.name == key with
    | some f =>
      if state.2.contains key then .error .mismatched
      else (·, key :: state.2) <$> f.put state.1 n
    | none => (·, state.2) <$> r.other state.1 key n

/-- Reads the members of an object. -/
def ofMembers (r : Record α) (members : List (Option String × Node)) : Except Fault α := do
  let (record, seen) ← members.foldlM r.member (r.start, [])
  if r.required.all seen.contains then .ok record else .error .mismatched

/-- Reads the items of an array into the fields that are left. -/
def ofItems (record : α) : Nat → List (Field α) → List Node → Except Fault α
  | _, [], [] => .ok record
  | _, [], _ :: _ => .error .malformed
  | 0, _ :: _, [] => .ok record
  | _ + 1, _ :: _, [] => .error .mismatched
  | least, f :: fields, n :: items => do
    let record ← f.put record n
    ofItems record (least - 1) fields items

/-- Reads a record. -/
def read (r : Record α) : Reader α
  | .object members => r.ofMembers members
  | .array items =>
    match r.leastItems with
    | some least => ofItems r.start least r.fields items
    | none => .error .mismatched
  | n => .error n.fault

end Record

/-! ## Whole texts -/

/-- Reads a text that holds one value and nothing after it. -/
def read {α : Type} (reader : Reader α) (text : String) : Except Fault α := do
  let outline := Outline.ofText text
  let value ← reader outline.root
  if outline.trailing.isEmpty then .ok value else .error .malformed

end Json

end Gamebook
