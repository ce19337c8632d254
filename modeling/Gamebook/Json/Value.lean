import Gamebook.Json.Node
import Gamebook.Table

/-!
# JSON values

Values that are written to documents, and the metadata that documents carry along.  The members of
an object that comes from a document are in ascending order of their keys, each key once.
-/

namespace Gamebook

/-- A JSON value. -/
inductive Json where
  | null
  | bool (b : Bool)
  | integer (n : Int) (hn : Json.IsExact n)
  | real (x : Float) (hx : x.isFinite = true)
  | text (s : String)
  | array (items : List Json)
  | object (members : List (String × Json))

namespace Json

/-- The value of a whole number; one that does not fit 64 bits has none and is written as null. -/
def whole (n : Int) : Json :=
  if hn : IsExact n then integer n hn else null

/-- The value of a number; one that is not finite has none and is written as null. -/
def number (x : Float) : Json :=
  if hx : x.isFinite then real x hx else null

mutual

/-- Values are the same when they are written alike; a whole number differs from a real one. -/
def same : Json → Json → Bool
  | .null, .null => true
  | .bool a, .bool b => a == b
  | .integer m _, .integer n _ => m == n
  | .real x _, .real y _ => x == y
  | .text s, .text t => s == t
  | .array xs, .array ys => sameItems xs ys
  | .object xs, .object ys => sameMembers xs ys
  | _, _ => false

/-- Lists of the same values in the same order. -/
def sameItems : List Json → List Json → Bool
  | [], [] => true
  | x :: xs, y :: ys => same x y && sameItems xs ys
  | _, _ => false

/-- The same keys with the same values in the same order. -/
def sameMembers : List (String × Json) → List (String × Json) → Bool
  | [], [] => true
  | (k, x) :: xs, (l, y) :: ys => k == l && same x y && sameMembers xs ys
  | _, _ => false

end

instance : BEq Json := ⟨same⟩

instance : Inhabited Json := ⟨null⟩

/-- The value of a numeral, if it is finite. -/
def Numeral.toJson? : Numeral → Option Json
  | whole n hn => some (.integer n hn)
  | real x hx => some (.real x hx)
  | tooLarge => none

/-- The value of a tree whose containers are nested at most `depth` deep.  Of members with one key
the last counts. -/
def Node.toJson? : Nat → Node → Option Json
  | _, .null => some .null
  | _, .bool b => some (.bool b)
  | _, .numeral n => n.toJson?
  | _, .text s => some (.text s)
  | depth + 1, .array items => (items.mapM (toJson? depth)).map .array
  | depth + 1, .object members =>
    let entries := members.mapM fun (key, n) => do
      let key ← key
      let value ← toJson? depth n
      some (key, value)
    entries.map fun entries =>
      .object (entries.foldl (fun done (key, value) => Table.insertEntry key value done) [])
  | _, _ => none

end Json

end Gamebook
