import Gamebook.Number

/-!
# Scalars

Section names and script parameters are integers, other numbers or pieces of text.  Documents are
edited by hand and by tools that do not agree on whether `7` and `"7"` differ, so scalars are the
same when their canonical texts are the same; how each one was written is kept beside it.

- `Scalar.canonical` is the text that identifies a scalar.
- `Scalar.toInt?` is the integer that it spells, if it does.
- The order puts integers first, by value, and all other scalars after them, by code points.
-/

namespace Gamebook

/-- An integer, a number that is written with a fraction or an exponent, or a piece of text. -/
inductive Scalar where
  | int (n : Int64)
  | number (x : Float)
  | text (s : String)

/-- The name of a section. -/
abbrev SectionId := Scalar

/-- The integer whose decimal spelling is exactly the text; `012` and `+12` spell none. -/
def spelledInt? (text : String) : Option Int64 :=
  let (negative, digits) := Number.splitSign text.toList
  let magnitude : Int := Number.natOfDigits digits
  let n := Int64.ofInt (if negative then -magnitude else magnitude)
  if toString n = text then some n else none

/-- The name of a section as it is typed: the integer that the text spells, or else the text. -/
def SectionId.ofText (text : String) : SectionId :=
  match spelledInt? text with
  | some n => .int n
  | none => .text text

namespace Scalar

/-- The text that identifies the scalar. -/
def canonical : Scalar → String
  | int n => toString n
  | number x => Number.text x
  | text s => s

/-- The integer that the scalar is or spells. -/
def toInt? : Scalar → Option Int64
  | int n => some n
  | s => spelledInt? s.canonical

/-- Integers are the same when they are equal, all other scalars when their canonical texts are. -/
instance : BEq Scalar where
  beq
    | int m, int n => m == n
    | a, b => a.canonical == b.canonical

/-- A scalar is hashed as the text that identifies it. -/
instance : Hashable Scalar where
  hash s := hash s.canonical

instance : Inhabited Scalar where
  default := int 0

instance : Ord Scalar where
  compare a b :=
    match a.toInt?, b.toInt? with
    | some m, some n => compare m n
    | some _, none => .lt
    | none, some _ => .gt
    | none, none => compare a.canonical b.canonical

theorem compare_def (a b : Scalar) :
    compare a b =
      match a.toInt?, b.toInt? with
      | some m, some n => compare m n
      | some _, none => .lt
      | none, some _ => .gt
      | none, none => compare a.canonical b.canonical :=
  rfl

/-- The order of scalars is a total preorder. -/
instance : Std.TransOrd Scalar where
  eq_swap {a b} := by
    simp only [compare_def]
    cases a.toInt? <;> cases b.toInt?
    · exact Std.OrientedOrd.eq_swap
    · rfl
    · rfl
    · exact Std.OrientedOrd.eq_swap
  isLE_trans {a b c} := by
    simp only [compare_def]
    cases a.toInt? <;> cases b.toInt? <;> cases c.toInt? <;> simp
    all_goals exact Std.TransOrd.isLE_trans

end Scalar

end Gamebook
