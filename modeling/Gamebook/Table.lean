/-!
# Tables

A finite map whose entries are listed in ascending order of their keys, each key once.  Keys are
identified by the comparison alone, so two keys that compare as equal name one entry; the key that
arrived first stays, and a later value replaces the earlier one.
-/

namespace Gamebook

/-- A list of entries in strictly ascending order of their keys. -/
structure Table (κ : Type) (ν : Type) [Ord κ] where
  entries : List (κ × ν)
  ascending : entries.Pairwise fun p q => compare p.1 q.1 = .lt

namespace Table

variable {κ ν μ : Type} [Ord κ]

/-! ## Entries in order -/

/-- Puts a value under a key into a list of entries in ascending order. -/
def insertEntry (key : κ) (value : ν) : List (κ × ν) → List (κ × ν)
  | [] => [(key, value)]
  | (k, v) :: rest =>
    match compare key k with
    | .lt => (key, value) :: (k, v) :: rest
    | .eq => (k, value) :: rest
    | .gt => (k, v) :: insertEntry key value rest

/-- An entry after an insertion has the new key or a key that was there. -/
theorem fst_of_mem_insertEntry {key : κ} {value : ν} {entries : List (κ × ν)} {p : κ × ν}
    (h : p ∈ insertEntry key value entries) : p.1 = key ∨ ∃ q ∈ entries, q.1 = p.1 := by
  induction entries with
  | nil => simp_all [insertEntry]
  | cons e rest ih =>
    obtain ⟨k, v⟩ := e
    unfold insertEntry at h
    split at h
    · rcases List.mem_cons.1 h with rfl | h
      · exact Or.inl rfl
      · exact Or.inr ⟨p, h, rfl⟩
    · rcases List.mem_cons.1 h with rfl | h
      · exact Or.inr ⟨(k, v), by simp, rfl⟩
      · exact Or.inr ⟨p, by simp [h], rfl⟩
    · rcases List.mem_cons.1 h with rfl | h
      · exact Or.inr ⟨(k, v), by simp, rfl⟩
      · rcases ih h with h | ⟨q, hq, hqp⟩
        · exact Or.inl h
        · exact Or.inr ⟨q, by simp [hq], hqp⟩

/-- Inserting keeps the entries in ascending order. -/
theorem ascending_insertEntry [Std.TransOrd κ] (key : κ) (value : ν) {entries : List (κ × ν)}
    (h : entries.Pairwise fun p q => compare p.1 q.1 = .lt) :
    (insertEntry key value entries).Pairwise fun p q => compare p.1 q.1 = .lt := by
  induction entries with
  | nil => simp [insertEntry]
  | cons e rest ih =>
    obtain ⟨k, v⟩ := e
    obtain ⟨hk, hrest⟩ := List.pairwise_cons.1 h
    unfold insertEntry
    split
    · next hlt =>
      refine List.pairwise_cons.2 ⟨fun q hq => ?_, h⟩
      rcases List.mem_cons.1 hq with rfl | hq
      · exact hlt
      · exact Std.TransCmp.lt_trans hlt (hk q hq)
    · exact List.pairwise_cons.2 ⟨hk, hrest⟩
    · next hgt =>
      refine List.pairwise_cons.2 ⟨fun q hq => ?_, ih hrest⟩
      rcases fst_of_mem_insertEntry hq with hq | ⟨p, hp, hpq⟩
      · simpa [hq] using Std.OrientedCmp.lt_of_gt hgt
      · simpa [hpq] using hk p hp

/-! ## Looking up -/

/-- The table without entries. -/
def empty : Table κ ν where
  entries := []
  ascending := List.Pairwise.nil

instance : Inhabited (Table κ ν) := ⟨empty⟩

instance : EmptyCollection (Table κ ν) := ⟨empty⟩

/-- Tables are the same when they list the same keys with the same values. -/
instance [BEq κ] [BEq ν] : BEq (Table κ ν) where
  beq s t := s.entries == t.entries

/-- The value under a key. -/
def find? (t : Table κ ν) (key : κ) : Option ν :=
  (t.entries.find? fun e => compare key e.1 == .eq).map Prod.snd

/-- There is an entry under the key. -/
def contains (t : Table κ ν) (key : κ) : Bool :=
  (t.find? key).isSome

/-- The keys in ascending order. -/
def keys (t : Table κ ν) : List κ :=
  t.entries.map Prod.fst

/-- The values in the order of their keys. -/
def values (t : Table κ ν) : List ν :=
  t.entries.map Prod.snd

/-- The number of entries. -/
def size (t : Table κ ν) : Nat :=
  t.entries.length

/-- There are no entries. -/
def isEmpty (t : Table κ ν) : Bool :=
  t.entries.isEmpty

/-! ## Changing -/

/-- Puts a value under a key.  A key that is there already stays as it was written. -/
def insert [Std.TransOrd κ] (t : Table κ ν) (key : κ) (value : ν) : Table κ ν where
  entries := insertEntry key value t.entries
  ascending := ascending_insertEntry key value t.ascending

/-- The table without the entry under a key. -/
def erase (t : Table κ ν) (key : κ) : Table κ ν where
  entries := t.entries.filter fun e => compare key e.1 != .eq
  ascending := t.ascending.filter _

/-- The same keys with values computed from each entry. -/
def mapEntries (t : Table κ ν) (f : κ → ν → μ) : Table κ μ where
  entries := t.entries.map fun e => (e.1, f e.1 e.2)
  ascending := by
    rw [List.pairwise_map]
    exact t.ascending

/-- Changes the value under a key, if there is one. -/
def adjust (t : Table κ ν) (key : κ) (f : ν → ν) : Table κ ν :=
  t.mapEntries fun k v => if compare key k == .eq then f v else v

/-- The table of a list of entries, inserted from the first to the last. -/
def ofList [Std.TransOrd κ] (entries : List (κ × ν)) : Table κ ν :=
  entries.foldl (fun t e => t.insert e.1 e.2) empty

@[simp]
theorem entries_empty : (empty : Table κ ν).entries = [] :=
  rfl

/-- Changing one value keeps all keys. -/
@[simp]
theorem keys_adjust (t : Table κ ν) (key : κ) (f : ν → ν) : (t.adjust key f).keys = t.keys := by
  simp [adjust, mapEntries, keys]

end Table

end Gamebook
