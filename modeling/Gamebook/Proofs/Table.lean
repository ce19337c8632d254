import Gamebook.Table

/-!
# Looking up and filling tables

What a lookup finds, in terms of the entries of a table, and how the operations on tables change it.

Main results:

- Theorem `Table.find?_eq_some_iff`: a lookup finds the value of the entry whose key compares as
  equal.
- Theorem `Table.find?_congr`: keys that compare as equal find the same value.
- Theorems `Table.exists_split_of_find?` and `Table.exists_split_insert`: what stands before and
  after an entry that is found or inserted.
- Theorem `Table.entries_ofList`: ascending entries are inserted as they stand.
-/

namespace Gamebook

namespace Table

variable {κ ν μ : Type} [Ord κ]

/-! ## Looking up -/

/-- What a lookup finds is the value of an entry whose key compares as equal. -/
theorem exists_mem_of_find? {t : Table κ ν} {key : κ} {value : ν}
    (hfind : t.find? key = some value) :
    ∃ k, (k, value) ∈ t.entries ∧ compare key k = .eq := by
  rw [find?, Option.map_eq_some_iff] at hfind
  rcases hfind with ⟨⟨k, v⟩, hentry, rfl⟩
  exact ⟨k, List.mem_of_find?_eq_some hentry, by simpa using List.find?_some hentry⟩

/-- There is an entry under a key exactly when some key compares as equal to it. -/
theorem contains_eq_true_iff {t : Table κ ν} {key : κ} :
    t.contains key = true ↔ ∃ k ∈ t.keys, compare key k = .eq := by
  simp [contains, find?, keys]

/-- Whether there is an entry under a key is a matter of the keys alone. -/
theorem contains_congr_keys {s : Table κ ν} {t : Table κ μ} (hkeys : s.keys = t.keys) (key : κ) :
    s.contains key = t.contains key := by
  rw [Bool.eq_iff_iff, contains_eq_true_iff, contains_eq_true_iff, hkeys]

/-- A lookup that finds something shows that there is an entry. -/
theorem contains_of_find? {t : Table κ ν} {key : κ} {value : ν}
    (hfind : t.find? key = some value) : t.contains key = true := by
  rw [contains, hfind]
  rfl

/-- Where there is an entry, a lookup finds its value. -/
theorem exists_find?_of_contains {t : Table κ ν} {key : κ} (hkey : t.contains key = true) :
    ∃ value, t.find? key = some value :=
  Option.isSome_iff_exists.1 hkey

/-- Keys that compare as equal find the same value. -/
theorem find?_congr [Std.TransOrd κ] (t : Table κ ν) {a b : κ} (hab : compare a b = .eq) :
    t.find? a = t.find? b := by
  simp only [find?, Std.TransCmp.congr_left hab]

/-- Keys that compare as equal are both there or both missing. -/
theorem contains_congr [Std.TransOrd κ] (t : Table κ ν) {a b : κ} (hab : compare a b = .eq) :
    t.contains a = t.contains b := by
  rw [contains, contains, find?_congr t hab]

/-- In ascending entries the one with a key that compares as equal is the one that is found. -/
theorem find?_eq_some_of_mem [Std.TransOrd κ] {entries : List (κ × ν)}
    (hentries : entries.Pairwise fun p q => compare p.1 q.1 = .lt) {key : κ} {p : κ × ν}
    (hp : p ∈ entries) (hkey : compare key p.1 = .eq) :
    (entries.find? fun e => compare key e.1 == .eq) = some p := by
  induction entries with
  | nil => cases hp
  | cons e rest ih =>
    rcases List.pairwise_cons.1 hentries with ⟨habove, hrest⟩
    rcases List.mem_cons.1 hp with rfl | hp
    · exact List.find?_cons_of_pos (by simp [hkey])
    · have hlt : compare key e.1 = .gt := by
        rw [Std.TransCmp.congr_left hkey]
        exact Std.OrientedCmp.gt_of_lt (habove p hp)
      rw [List.find?_cons_of_neg (by simp [hlt])]
      exact ih hrest hp

/-- A lookup finds the value of an entry whose key compares as equal. -/
theorem find?_of_mem [Std.TransOrd κ] {t : Table κ ν} {key k : κ} {value : ν}
    (hentry : (k, value) ∈ t.entries) (hkey : compare key k = .eq) : t.find? key = some value := by
  rw [find?, find?_eq_some_of_mem t.ascending hentry hkey]
  rfl

/-- A lookup finds exactly the value of the entry whose key compares as equal. -/
theorem find?_eq_some_iff [Std.TransOrd κ] {t : Table κ ν} {key : κ} {value : ν} :
    t.find? key = some value ↔ ∃ k, (k, value) ∈ t.entries ∧ compare key k = .eq :=
  ⟨exists_mem_of_find?, fun ⟨_, hentry, hkey⟩ => find?_of_mem hentry hkey⟩

/-- In whichever order the entries of a table are gone through, the first one of a key is the one
that is found. -/
theorem lookup_of_perm [Std.TransOrd κ] [Std.LawfulEqOrd κ] [BEq κ] [LawfulBEq κ] {t : Table κ ν}
    {order : List (κ × ν)} (horder : order.Perm t.entries) (key : κ) :
    order.lookup key = t.find? key := by
  cases hlookup : order.lookup key with
  | some value =>
    rcases List.lookup_eq_some_iff.1 hlookup with ⟨before, after, rfl, -⟩
    have hentry : (key, value) ∈ t.entries :=
      horder.subset (List.mem_append_right before List.mem_cons_self)
    exact (find?_of_mem hentry Std.ReflOrd.compare_self).symm
  | none =>
    cases hfind : t.find? key with
    | none => rfl
    | some value =>
      rcases exists_mem_of_find? hfind with ⟨k, hentry, hk⟩
      have hne := List.lookup_eq_none_iff.1 hlookup _ (horder.symm.subset hentry)
      rw [Std.LawfulEqOrd.eq_of_compare hk] at hne
      simp at hne

/-! ## Inserting and erasing -/

/-- Nothing is found in the empty table. -/
@[simp]
theorem find?_empty (key : κ) : (empty : Table κ ν).find? key = none :=
  rfl

/-- After an insertion the new value is found under every key that compares as equal to the new
one. -/
theorem find?_insert_of_eq [Std.TransOrd κ] (t : Table κ ν) {new key : κ} (value : ν)
    (hkey : compare key new = .eq) : (t.insert new value).find? key = some value := by
  simp only [find?, insert, Std.TransCmp.congr_left hkey]
  induction t.entries with
  | nil =>
    rw [insertEntry, List.find?_cons_of_pos (by simp [Std.ReflOrd.compare_self])]
    rfl
  | cons e rest ih =>
    unfold insertEntry
    split
    · rw [List.find?_cons_of_pos (by simp [Std.ReflOrd.compare_self])]
      rfl
    · next heq =>
      rw [List.find?_cons_of_pos (by simp [heq])]
      rfl
    · next hgt =>
      rw [List.find?_cons_of_neg (by simp [hgt])]
      exact ih

/-- After an insertion other keys find what they found before. -/
theorem find?_insert_of_ne [Std.TransOrd κ] (t : Table κ ν) {new key : κ} (value : ν)
    (hkey : compare key new ≠ .eq) : (t.insert new value).find? key = t.find? key := by
  simp only [find?, insert]
  induction t.entries with
  | nil => rw [insertEntry, List.find?_cons_of_neg (by simpa using hkey)]
  | cons e rest ih =>
    rcases e with ⟨k, v⟩
    unfold insertEntry
    split
    · rw [List.find?_cons_of_neg (by simpa using hkey)]
    · next heq =>
      rw [Std.TransCmp.congr_right heq] at hkey
      rw [List.find?_cons_of_neg (by simpa using hkey),
        List.find?_cons_of_neg (by simpa using hkey)]
    · rw [List.find?_cons, List.find?_cons]
      split
      · rfl
      · exact ih

/-- A value that is put under a key that is there leaves the list of keys as it was. -/
theorem map_fst_insertEntry [Std.TransOrd κ] {entries : List (κ × ν)}
    (hentries : entries.Pairwise fun p q => compare p.1 q.1 = .lt) {key : κ} (value : ν)
    {e : κ × ν} (he : e ∈ entries) (hkey : compare key e.1 = .eq) :
    (insertEntry key value entries).map Prod.fst = entries.map Prod.fst := by
  induction entries with
  | nil => cases he
  | cons first rest ih =>
    rcases List.pairwise_cons.1 hentries with ⟨habove, hrest⟩
    have hless : compare key first.1 ≠ .lt := by
      intro hlt
      rcases List.mem_cons.1 he with rfl | he
      · cases hkey.symm.trans hlt
      · cases hkey.symm.trans (Std.TransCmp.lt_trans hlt (habove e he))
    unfold insertEntry
    split
    · next hlt => exact absurd hlt hless
    · rfl
    · next hgt =>
      rcases List.mem_cons.1 he with rfl | he
      · cases hkey.symm.trans hgt
      · rw [List.map_cons, List.map_cons, ih hrest he]

/-- A value that is put under a key that is there leaves the keys as they were. -/
theorem keys_insert_of_contains [Std.TransOrd κ] {t : Table κ ν} {key : κ} (value : ν)
    (hkey : t.contains key = true) : (t.insert key value).keys = t.keys := by
  rcases contains_eq_true_iff.1 hkey with ⟨k, hk, hcompare⟩
  rcases List.mem_map.1 hk with ⟨e, he, rfl⟩
  exact map_fst_insertEntry t.ascending value he hcompare

/-- What is found after an entry is taken away. -/
theorem find?_erase [Std.TransOrd κ] (t : Table κ ν) (old key : κ) :
    (t.erase old).find? key = if compare key old = .eq then none else t.find? key := by
  rw [find?, find?, erase]
  dsimp only
  rw [List.find?_filter]
  split
  · next hkey =>
    rw [List.find?_eq_none.2, Option.map_none]
    intro e _
    simp [Std.TransCmp.congr_left hkey]
  · next hkey =>
    congr 2
    funext e
    cases he : compare key e.1 with
    | eq =>
      have hold : compare old e.1 ≠ .eq := fun heq =>
        hkey (by rw [Std.TransCmp.congr_right heq, he])
      simp [hold]
    | _ => simp

/-- The entry that is found stands among entries of other keys, which are left when it is taken
away. -/
theorem exists_split_of_find? [Std.TransOrd κ] {t : Table κ ν} {key : κ} {value : ν}
    (hfind : t.find? key = some value) :
    ∃ k before after, compare key k = .eq ∧ t.entries = before ++ (k, value) :: after ∧
      (t.erase key).entries = before ++ after := by
  rcases exists_mem_of_find? hfind with ⟨k, hentry, hk⟩
  rcases List.append_of_mem hentry with ⟨before, after, hentries⟩
  have hascending := t.ascending
  rw [hentries, List.pairwise_append, List.pairwise_cons] at hascending
  rcases hascending with ⟨-, ⟨habove, -⟩, hbelow⟩
  have hbefore : ∀ e ∈ before, (compare key e.1 != .eq) = true := by
    intro e he
    have hlt := hbelow e he (k, value) List.mem_cons_self
    rw [Std.TransCmp.congr_left hk, Std.OrientedCmp.gt_of_lt hlt]
    rfl
  have hafter : ∀ e ∈ after, (compare key e.1 != .eq) = true := by
    intro e he
    rw [Std.TransCmp.congr_left hk, habove e he]
    rfl
  refine ⟨k, before, after, hk, hentries, ?_⟩
  rw [erase]
  dsimp only
  rw [hentries, List.filter_append, List.filter_cons_of_neg (by simp [hk]),
    List.filter_eq_self.2 hbefore, List.filter_eq_self.2 hafter]

/-- An entry with a new key goes in among the others. -/
theorem exists_split_insertEntry {key : κ} {entries : List (κ × ν)}
    (hkey : ∀ e ∈ entries, compare key e.1 ≠ .eq) (value : ν) :
    ∃ before after, entries = before ++ after ∧
      insertEntry key value entries = before ++ (key, value) :: after := by
  induction entries with
  | nil => exact ⟨[], [], rfl, rfl⟩
  | cons e rest ih =>
    rcases List.forall_mem_cons.1 hkey with ⟨hfirst, hrest⟩
    unfold insertEntry
    split
    · exact ⟨[], e :: rest, rfl, rfl⟩
    · next heq => exact absurd heq hfirst
    · rcases ih hrest with ⟨before, after, hentries, hinsert⟩
      refine ⟨e :: before, after, ?_, ?_⟩
      · rw [hentries, List.cons_append]
      · rw [hinsert, List.cons_append]

/-- A value under a new key goes in among the entries, which stay as they are. -/
theorem exists_split_insert [Std.TransOrd κ] {t : Table κ ν} {key : κ}
    (hkey : t.contains key = false) (value : ν) :
    ∃ before after, t.entries = before ++ after ∧
      (t.insert key value).entries = before ++ (key, value) :: after := by
  apply exists_split_insertEntry
  intro e he heq
  rw [contains_eq_true_iff.2 ⟨e.1, List.mem_map_of_mem he, heq⟩] at hkey
  cases hkey

/-! ## Changing values -/

/-- The entries after computing all values anew. -/
theorem mem_mapEntries {t : Table κ ν} {f : κ → ν → μ} {k : κ} {value : μ} :
    (k, value) ∈ (t.mapEntries f).entries ↔ ∃ v, (k, v) ∈ t.entries ∧ f k v = value := by
  simp only [mapEntries, List.mem_map, Prod.exists, Prod.mk.injEq]
  constructor
  · rintro ⟨_, v, hentry, rfl, rfl⟩
    exact ⟨v, hentry, rfl⟩
  · rintro ⟨v, hentry, rfl⟩
    exact ⟨k, v, hentry, rfl, rfl⟩

/-- Computing all values anew keeps all keys. -/
@[simp]
theorem keys_mapEntries (t : Table κ ν) (f : κ → ν → μ) : (t.mapEntries f).keys = t.keys := by
  simp [mapEntries, keys]

/-- Values that are computed as they are change nothing. -/
theorem mapEntries_self (t : Table κ ν) : (t.mapEntries fun _ value => value) = t := by
  cases t
  simp [mapEntries]

/-- What is found after computing all values anew is computed from what was found before, and from
the key as it is written in the table. -/
theorem exists_find?_mapEntries [Std.TransOrd κ] (t : Table κ ν) (f : κ → ν → μ) (key : κ) :
    ∃ k, (t.mapEntries f).find? key = (t.find? key).map (f k) := by
  cases hfind : t.find? key with
  | none =>
    have hmissing : (t.mapEntries f).contains key = false := by
      rw [contains_congr_keys (keys_mapEntries t f), contains, hfind]
      rfl
    exact ⟨key, by simpa [contains] using hmissing⟩
  | some v =>
    rcases exists_mem_of_find? hfind with ⟨k, hentry, hk⟩
    exact ⟨k, find?_of_mem (mem_mapEntries.2 ⟨v, hentry, rfl⟩) hk⟩

/-- Changing one value changes what is found under its key and nothing else. -/
theorem find?_adjust [Std.TransOrd κ] (t : Table κ ν) (key other : κ) (f : ν → ν) :
    (t.adjust key f).find? other =
      (t.find? other).map fun v => if compare key other = .eq then f v else v := by
  cases hfind : t.find? other with
  | none =>
    have hmissing : (t.adjust key f).contains other = false := by
      rw [contains_congr_keys (keys_adjust t key f), contains, hfind]
      rfl
    simpa [contains] using hmissing
  | some v =>
    rcases exists_mem_of_find? hfind with ⟨k, hentry, hk⟩
    refine find?_of_mem (k := k) ?_ hk
    refine mem_mapEntries.2 ⟨v, hentry, ?_⟩
    simp [Std.TransCmp.congr_right hk]

/-! ## Filling a table -/

/-- A value that is put among entries may be computed anew before or after. -/
theorem map_insertEntry (f : ν → μ) (key : κ) (value : ν) (entries : List (κ × ν)) :
    (insertEntry key value entries).map (fun e => (e.1, f e.2)) =
      insertEntry key (f value) (entries.map fun e => (e.1, f e.2)) := by
  induction entries with
  | nil => rfl
  | cons e rest ih =>
    rw [List.map_cons, insertEntry, insertEntry]
    cases compare key e.1 with
    | gt => exact congrArg _ ih
    | _ => rfl

/-- A key above all others goes to the end. -/
theorem insertEntry_of_last {key : κ} {value : ν} {entries : List (κ × ν)}
    (hlast : ∀ e ∈ entries, compare key e.1 = .gt) :
    insertEntry key value entries = entries ++ [(key, value)] := by
  induction entries with
  | nil => rfl
  | cons e rest ih =>
    rw [insertEntry, hlast e List.mem_cons_self]
    simp only [List.cons_append]
    rw [ih fun e he => hlast e (List.mem_cons_of_mem _ he)]

/-- An entry after an insertion has the new value or a value that was there. -/
theorem snd_of_mem_insertEntry {key : κ} {value : ν} {entries : List (κ × ν)} {p : κ × ν}
    (hp : p ∈ insertEntry key value entries) : p.2 = value ∨ ∃ q ∈ entries, q.2 = p.2 := by
  induction entries with
  | nil =>
    rw [insertEntry, List.mem_singleton] at hp
    exact Or.inl (by rw [hp])
  | cons e rest ih =>
    rcases e with ⟨k, v⟩
    unfold insertEntry at hp
    split at hp
    · rcases List.mem_cons.1 hp with rfl | hp
      · exact Or.inl rfl
      · exact Or.inr ⟨p, hp, rfl⟩
    · rcases List.mem_cons.1 hp with rfl | hp
      · exact Or.inl rfl
      · exact Or.inr ⟨p, List.mem_cons_of_mem _ hp, rfl⟩
    · rcases List.mem_cons.1 hp with rfl | hp
      · exact Or.inr ⟨(k, v), List.mem_cons_self, rfl⟩
      · rcases ih hp with hvalue | ⟨q, hq, hqp⟩
        · exact Or.inl hvalue
        · exact Or.inr ⟨q, List.mem_cons_of_mem _ hq, hqp⟩

/-- Ascending entries that are inserted one after the other come out as they stand. -/
theorem foldl_insertEntry [Std.OrientedOrd κ] (done : List (κ × ν)) {entries : List (κ × ν)}
    (hascending : (done ++ entries).Pairwise fun p q => compare p.1 q.1 = .lt) :
    entries.foldl (fun done e => insertEntry e.1 e.2 done) done = done ++ entries := by
  induction entries generalizing done with
  | nil => simp
  | cons e rest ih =>
    have hlast : ∀ d ∈ done, compare e.1 d.1 = .gt := fun d hd =>
      Std.OrientedCmp.gt_of_lt
        ((List.pairwise_append.1 hascending).2.2 d hd e List.mem_cons_self)
    rw [List.append_cons] at hascending
    rw [List.foldl_cons, insertEntry_of_last hlast, ih _ hascending, ← List.append_cons]

/-- Tables with the same entries are equal. -/
theorem eq_of_entries_eq {s t : Table κ ν} (hentries : s.entries = t.entries) : s = t := by
  cases s
  cases t
  cases hentries
  rfl

/-- A table without entries is the empty table. -/
theorem eq_empty_of_isEmpty {t : Table κ ν} (ht : t.isEmpty = true) : t = empty :=
  eq_of_entries_eq (List.isEmpty_iff.1 ht)

/-- Inserting entries one after the other inserts into the list of entries. -/
theorem entries_foldl_insert [Std.TransOrd κ] (entries : List (κ × ν)) (t : Table κ ν) :
    (entries.foldl (fun t e => t.insert e.1 e.2) t).entries =
      entries.foldl (fun done e => insertEntry e.1 e.2 done) t.entries := by
  induction entries generalizing t with
  | nil => rfl
  | cons e rest ih => exact ih (t.insert e.1 e.2)

/-- The table of ascending entries lists them as they stand. -/
theorem entries_ofList [Std.TransOrd κ] {entries : List (κ × ν)}
    (hascending : entries.Pairwise fun p q => compare p.1 q.1 = .lt) :
    (ofList entries).entries = entries :=
  (entries_foldl_insert entries empty).trans (foldl_insertEntry [] hascending)

/-- The table of the entries of a table is that table. -/
theorem ofList_entries [Std.TransOrd κ] (t : Table κ ν) : ofList t.entries = t :=
  eq_of_entries_eq (entries_ofList t.ascending)

/-- No key is listed twice. -/
theorem nodup_keys [Std.ReflOrd κ] (t : Table κ ν) : t.keys.Nodup := by
  rw [keys, List.nodup_iff_pairwise_ne, List.pairwise_map]
  apply t.ascending.imp
  intro p q hlt heq
  rw [heq, Std.ReflOrd.compare_self] at hlt
  cases hlt

/-! ## Sameness -/

instance [BEq κ] [BEq ν] [ReflBEq κ] [ReflBEq ν] : ReflBEq (Table κ ν) where
  rfl {t} := beq_self_eq_true t.entries

instance [BEq κ] [BEq ν] [LawfulBEq κ] [LawfulBEq ν] : LawfulBEq (Table κ ν) where
  eq_of_beq {s t} h := eq_of_entries_eq (eq_of_beq (a := s.entries) (b := t.entries) h)

end Table

end Gamebook
