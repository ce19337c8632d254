/-!
# Similarity of texts

The Jaro-Winkler similarity: how many characters of two texts can be paired off within a window, how
many of the pairs are out of order, and how much the texts have in common at their start.
-/

namespace Gamebook

namespace Text

/-! ## Pairing characters off -/

/-- Takes the first free occurrence of a character at a position from `first` to `last`.  Each
position carries whether it is taken. -/
def takeFree (c : Char) (first last : Nat) (position : Nat) :
    List (Char × Bool) → Option (List (Char × Bool))
  | [] => none
  | (d, taken) :: rest =>
    if last < position then none
    else if first ≤ position ∧ c = d ∧ !taken then some ((d, true) :: rest)
    else (takeFree c first last (position + 1) rest).map ((d, taken) :: ·)

/-- Pairs off the characters of a text from the left, each with one at most `window` positions away
from it.  The result holds the characters that found a partner and what is taken of the other text.
-/
def pairOff (window : Nat) (position : Nat) (other : List (Char × Bool)) :
    List Char → List Char × List (Char × Bool)
  | [] => ([], other)
  | c :: rest =>
    match takeFree c (position - window) (position + window) 0 other with
    | some other =>
      let (paired, other) := pairOff window (position + 1) other rest
      (c :: paired, other)
    | none => pairOff window (position + 1) other rest

/-! ## Similarity -/

/-- The Jaro similarity: the mean of the shares of paired characters in both texts and of the pairs
that are in order; two pairs out of order count as one transposition. -/
def jaro (a b : List Char) : Float :=
  if a.isEmpty && b.isEmpty then 1
  else
    let window := max a.length b.length / 2 - 1
    let (paired, other) := pairOff window 0 (b.map (·, false)) a
    let partners := (other.filter Prod.snd).map Prod.fst
    if paired.isEmpty then 0
    else
      let matched := paired.length
      let outOfOrder := ((paired.zip partners).filter fun (c, d) => c ≠ d).length
      let share := Float.ofNat matched / Float.ofNat a.length
      let otherShare := Float.ofNat matched / Float.ofNat b.length
      let inOrder := Float.ofNat (matched - outOfOrder / 2) / Float.ofNat matched
      (share + otherShare + inOrder) / 3

/-- The length of the common start of two texts. -/
def commonStart : List Char → List Char → Nat
  | c :: a, d :: b => if c = d then commonStart a b + 1 else 0
  | _, _ => 0

/-- The Jaro similarity, raised for texts that are similar already by up to four characters of a
common start. -/
def similarity (a b : List Char) : Float :=
  let base := jaro a b
  if base > 0.7 then
    base + 0.1 * Float.ofNat (min 4 (commonStart a b)) * (1 - base)
  else base

end Text

end Gamebook
