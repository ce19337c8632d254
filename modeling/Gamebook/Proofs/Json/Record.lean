import Gamebook.Document.Story
import Gamebook.Proofs.Json.Tree
import Gamebook.Proofs.Result
import Gamebook.Proofs.Table

/-!
# Readers on what is written

What readers answer on the trees of written values, and what is known of a value that a reader gives
on any tree.  A written value is read back as it is, or it is refused as a value of the wrong shape.

Main results:

- Theorem `Record.read_node`: the members of a written object are read one by one, whatever their
  order is.
- Theorems `table_node_eq_foldlM` and `table_node`: a written table is read entry by entry.
- Theorems `find?_of_table_node` and `exists_of_mem_keys_table_node`: its entries are found in the
  table that was read, and nothing else.
- Theorem `Record.yields_read`: what each field keeps holds of a record that was read.
-/

namespace Gamebook

namespace Json

/-- A value that is taken, or refused for its shape. -/
def accept {α : Type} (ok : Bool) (a : α) : Except Fault α :=
  if ok then .ok a else .error .mismatched

section Accept

variable {α β : Type}

/-- A value that is taken is answered. -/
@[simp]
theorem accept_true (a : α) : accept true a = .ok a :=
  rfl

/-- A value is answered exactly when it is taken. -/
theorem accept_eq_ok_iff {ok : Bool} {a b : α} : accept ok a = .ok b ↔ ok = true ∧ a = b := by
  cases ok with
  | false => exact ⟨(fun h => nomatch h), (fun h => nomatch h.1)⟩
  | true => exact ⟨fun h => ⟨rfl, Except.ok.inj h⟩, fun h => congrArg _ h.2⟩

/-- A value is taken with all that is made of it. -/
@[simp]
theorem map_accept (f : α → β) (ok : Bool) (a : α) : f <$> accept ok a = accept ok (f a) := by
  cases ok <;> rfl

/-- Two values are taken one after the other when both are. -/
theorem accept_bind {ok ok' : Bool} {a : α} {b : β} {f : α → Except Fault β}
    (hf : f a = accept ok' b) : accept ok a >>= f = accept (ok && ok') b := by
  cases ok with
  | false => rfl
  | true => exact hf

/-- The items of a list are taken one by one. -/
theorem mapM_accept {f : β → Except Fault α} {g : α → β} {ok : α → Bool} {items : List α}
    (hitems : ∀ a ∈ items, f (g a) = accept (ok a) a) :
    (items.map g).mapM f = accept (items.all ok) items := by
  induction items with
  | nil => rfl
  | cons a rest ih =>
    rcases List.forall_mem_cons.1 hitems with ⟨ha, hrest⟩
    rw [List.map_cons, List.mapM_cons, ha, List.all_cons]
    apply accept_bind
    rw [ih hrest]
    cases rest.all ok <;> rfl

end Accept

/-! ## Lists, optional values and tables -/

section Readers

variable {α : Type} {reader : Reader α} {toJson : α → Json} {ok : α → Bool}

/-- Text is read as it is written. -/
theorem text_node (s : String) : Reader.text (Json.text s).node = accept true s :=
  rfl

/-- A written list is read item by item. -/
theorem list_node {items : List α}
    (hitems : ∀ a ∈ items, reader (toJson a).node = accept (ok a) a) :
    Reader.list reader (listToJson toJson items).node = accept (items.all ok) items := by
  rw [listToJson, node, nodes_eq_map, List.map_map, Reader.list]
  exact mapM_accept hitems

/-- A written list is read if all its items are. -/
theorem list_node_of_forall {items : List α}
    (hitems : ∀ a ∈ items, reader (toJson a).node = accept true a) :
    Reader.list reader (listToJson toJson items).node = accept true items := by
  rw [list_node hitems, List.all_eq_true.2 fun _ _ => rfl]

/-- A value that is not written as null may as well be optional. -/
theorem optional_node {value : Json} {ok : Bool} {a : α} (hnull : value.node ≠ .null)
    (hvalue : reader value.node = accept ok a) :
    Reader.optional reader value.node = accept ok (some a) := by
  have hsome : Reader.optional reader value.node = some <$> reader value.node := by
    cases hnode : value.node with
    | null => exact absurd hnode hnull
    | _ => rfl
  rw [hsome, hvalue, map_accept]

/-- A written table is read by taking in its entries one after the other. -/
theorem table_node_eq_foldlM {κ κ' : Type} [Ord κ] [Ord κ'] [Std.TransOrd κ'] {β : Type}
    {keyText : κ → String} {key : String → κ'} {reader : Reader β} (t : Table κ α) :
    Reader.table key reader (tableToJson keyText toJson t).node =
      t.entries.foldlM (fun done e => done.insert (key (keyText e.1)) <$> reader (toJson e.2).node)
        Table.empty := by
  rw [tableToJson, node, memberNodes_eq_map, List.map_map, Reader.table, List.foldlM_map]
  rfl

/-- A written table is read entry by entry; the keys come back as they are read. -/
theorem table_node {κ κ' : Type} [Ord κ] [Ord κ'] [Std.TransOrd κ'] {keyText : κ → String}
    {key : String → κ'} {t : Table κ α}
    (hvalues : ∀ a ∈ t.values, reader (toJson a).node = accept (ok a) a) :
    Reader.table key reader (tableToJson keyText toJson t).node =
      accept (t.values.all ok) (.ofList (t.entries.map fun e => (key (keyText e.1), e.2))) := by
  have hfold : ∀ (entries : List (κ × α)) (done : Table κ' α),
      (∀ e ∈ entries, reader (toJson e.2).node = accept (ok e.2) e.2) →
      entries.foldlM (fun done e => done.insert (key (keyText e.1)) <$> reader (toJson e.2).node)
          done =
        accept (entries.all fun e => ok e.2)
          (entries.foldl (fun t e => t.insert (key (keyText e.1)) e.2) done) := by
    intro entries
    induction entries with
    | nil => exact fun _ _ => rfl
    | cons e rest ih =>
      intro done hentries
      rcases List.forall_mem_cons.1 hentries with ⟨he, hrest⟩
      rw [List.foldlM_cons, he, map_accept, List.all_cons]
      exact accept_bind (ih _ hrest)
  have hentries : ∀ e ∈ t.entries, reader (toJson e.2).node = accept (ok e.2) e.2 :=
    fun e he => hvalues e.2 (List.mem_map_of_mem he)
  rw [table_node_eq_foldlM, Table.ofList, List.foldl_map, Table.values, List.all_map]
  exact hfold t.entries Table.empty hentries

end Readers

/-! ## Records -/

namespace Record

variable {α β : Type} {r : Record α}

/-- Reads one member without regard to the others. -/
def place (r : Record α) (record : α) : Option String × Node → Except Fault α
  | (none, _) => .error .malformed
  | (some key, n) =>
    match r.fields.find? fun f => f.name == key with
    | some f => f.put record n
    | none => r.other record key n

/-- Reads the members of a written object without regard to each other. -/
def placeAll (r : Record α) (record : α) (members : List (String × Json)) : Except Fault α :=
  (memberNodes members).foldlM r.place record

/-- The names of fields that are keys of members. -/
def named (r : Record α) (members : List (String × Json)) : List String :=
  (members.map Prod.fst).filter fun key => (r.fields.find? fun f => f.name == key).isSome

/-- Members with different keys are read without regard to each other. -/
theorem foldlM_member {members : List (String × Json)} {record : α} {seen : List String}
    (hkeys : (members.map Prod.fst).Nodup) (hseen : ∀ key ∈ members.map Prod.fst, key ∉ seen) :
    (memberNodes members).foldlM r.member (record, seen) =
      (·, (r.named members).reverse ++ seen) <$> r.placeAll record members := by
  induction members generalizing record seen with
  | nil => rfl
  | cons member rest ih =>
    rcases member with ⟨key, value⟩
    rcases List.nodup_cons.1 hkeys with ⟨hkey, hrest⟩
    rcases List.forall_mem_cons.1 hseen with ⟨hunseen, hothers⟩
    rw [placeAll, memberNodes, List.foldlM_cons, List.foldlM_cons, member, place, named,
      List.map_cons, List.filter_cons]
    cases hfind : r.fields.find? fun f => f.name == key with
    | none =>
      simp only [Option.isSome_none, Bool.false_eq_true, if_false]
      cases hother : r.other record key value.node with
      | error e => rfl
      | ok next => exact ih hrest hothers
    | some f =>
      have hcontains : seen.contains key = false := by simpa using hunseen
      simp only [Option.isSome_some, if_true, hcontains, Bool.false_eq_true, if_false,
        List.reverse_cons, List.append_assoc, List.singleton_append]
      cases hput : f.put record value.node with
      | error e => rfl
      | ok next =>
        apply ih hrest
        intro other hother hmem
        rcases List.mem_cons.1 hmem with rfl | hmem
        · exact hkey hother
        · exact hothers other hother hmem

/-- The members of a written object are read without regard to each other, where their keys differ
and the fields that must be there are. -/
theorem read_node {members : List (String × Json)} (hkeys : (members.map Prod.fst).Nodup)
    (hrequired : r.required ⊆ r.named members) :
    r.read (Json.object members).node = r.placeAll r.start members := by
  have hall : r.required.all ((r.named members).reverse ++ []).contains = true := by
    rw [List.all_eq_true]
    intro key hkey
    simpa using hrequired hkey
  rw [node, read, ofMembers, foldlM_member hkeys (fun _ _ => List.not_mem_nil)]
  cases r.placeAll r.start members with
  | error e => rfl
  | ok record => exact if_pos hall

/-- The members of a part are read before those of the next. -/
theorem placeAll_append {ok ok' : Bool} {start record next : α}
    {members others : List (String × Json)} (hmembers : r.placeAll start members = accept ok record)
    (hothers : r.placeAll record others = accept ok' next) :
    r.placeAll start (members ++ others) = accept (ok && ok') next := by
  rw [placeAll, memberNodes_append, List.foldlM_append]
  rw [placeAll] at hmembers
  rw [hmembers]
  exact accept_bind hothers

/-- A member of a field is read as the field says. -/
theorem placeAll_field (key : String) {reader : Reader β} {set : α → β → α}
    (hfield : (r.fields.find? fun f => f.name == key) = some (.of key reader set)) {value : Json}
    {ok : Bool} {b : β} (hvalue : reader value.node = accept ok b) {record next : α}
    (hset : set record b = next) : r.placeAll record [(key, value)] = accept ok next := by
  subst hset
  have hplace : r.place record (some key, value.node) = accept ok (set record b) := by
    rw [place, hfield]
    simp only [Field.of, hvalue, map_accept]
  rw [placeAll, memberNodes, memberNodes, List.foldlM_cons, hplace]
  cases ok <;> rfl

/-- A member that may be left out has its key. -/
theorem keys_optionalMember (key : String) (toJson : β → Json) (o : Option β) :
    ((optionalMember key toJson o).map Prod.fst).Sublist [key] := by
  cases o with
  | none => exact List.nil_sublist _
  | some b => exact List.Sublist.refl _

/-- A member that may be left out is read as its field says; nothing is refused where it is left
out. -/
theorem placeAll_optionalMember (key : String) {reader : Reader β} {set : α → Option β → α}
    (hfield : (r.fields.find? fun f => f.name == key) =
      some (.of key (Reader.optional reader) set))
    {toJson : β → Json} {ok : Bool} {o : Option β} (hok : o = none → ok = true)
    (hvalue : ∀ b ∈ o, (toJson b).node ≠ .null ∧ reader (toJson b).node = accept ok b)
    {record next : α} (hnone : set record none = record) (hset : set record o = next) :
    r.placeAll record (optionalMember key toJson o) = accept ok next := by
  cases o with
  | none =>
    rw [← hset, hnone, hok rfl]
    rfl
  | some b =>
    rcases hvalue b rfl with ⟨hnull, hb⟩
    exact placeAll_field key hfield (optional_node hnull hb) hset

/-! ### What written members are read as -/

/-- The members of one part are read before those of the other. -/
theorem exists_of_placeAll_append {members others : List (String × Json)} {record result : α}
    (hread : r.placeAll record (members ++ others) = .ok result) :
    ∃ next, r.placeAll record members = .ok next ∧ r.placeAll next others = .ok result := by
  rw [placeAll, memberNodes_append, List.foldlM_append] at hread
  exact exists_of_bind_eq_ok hread

/-- A member that was read of a field was put into the record. -/
theorem exists_of_placeAll_field (key : String) {reader : Reader β} {set : α → β → α}
    (hfield : (r.fields.find? fun f => f.name == key) = some (.of key reader set)) {value : Json}
    {record next : α} (hread : r.placeAll record [(key, value)] = .ok next) :
    ∃ b, reader value.node = .ok b ∧ set record b = next := by
  rw [placeAll, memberNodes, memberNodes, List.foldlM_cons, place, hfield] at hread
  rcases exists_of_bind_eq_ok hread with ⟨put, hput, hnext⟩
  cases hnext
  exact exists_of_map_eq_ok hput

/-- What is kept by putting a value into the record is kept by a member that may be left out. -/
theorem of_placeAll_optionalMember (key : String) {reader : Reader β} {set : α → β → α}
    (hfield : (r.fields.find? fun f => f.name == key) = some (.of key reader set))
    {γ : Type} {toJson : γ → Json} {o : Option γ} {record next : α}
    (hread : r.placeAll record (optionalMember key toJson o) = .ok next) {p : α → Prop}
    (hrecord : p record) (hset : ∀ b, p (set record b)) : p next := by
  cases o with
  | none =>
    cases hread
    exact hrecord
  | some c =>
    rcases exists_of_placeAll_field key hfield hread with ⟨b, -, rfl⟩
    exact hset b

end Record

/-- The entries of a written table that was read are found under their keys, if different keys are
read as different ones. -/
theorem find?_of_table_node {α κ κ' : Type} [Ord κ] [Ord κ'] [Std.TransOrd κ']
    {keyText : κ → String} {key : String → κ'} {reader : Reader α} {toJson : α → Json}
    {t : Table κ α} {t' : Table κ' α}
    (hkeys : ∀ k ∈ t.keys, ∀ l ∈ t.keys,
      compare (key (keyText k)) (key (keyText l)) = .eq → compare k l = .eq)
    (hread : Reader.table key reader (tableToJson keyText toJson t).node = .ok t') {k : κ} {a : α}
    (hentry : (k, a) ∈ t.entries) :
    ∃ b, reader (toJson a).node = .ok b ∧ t'.find? (key (keyText k)) = some b := by
  have hfold : ∀ (entries : List (κ × α)) (done t' : Table κ' α),
      (entries.Pairwise fun p q => compare (key (keyText p.1)) (key (keyText q.1)) ≠ .eq) →
      entries.foldlM (fun done e => done.insert (key (keyText e.1)) <$> reader (toJson e.2).node)
          done = .ok t' →
      (∀ l, (∀ e ∈ entries, compare l (key (keyText e.1)) ≠ .eq) → t'.find? l = done.find? l) ∧
        ∀ e ∈ entries, ∃ b, reader (toJson e.2).node = .ok b ∧
          t'.find? (key (keyText e.1)) = some b := by
    intro entries
    induction entries with
    | nil =>
      rintro done _ - ⟨⟩
      exact ⟨fun _ _ => rfl, List.forall_mem_nil _⟩
    | cons e rest ih =>
      intro done t' hdifferent hread
      rcases List.pairwise_cons.1 hdifferent with ⟨hlater, hrest⟩
      rw [List.foldlM_cons] at hread
      rcases exists_of_bind_eq_ok hread with ⟨next, hnext, hread⟩
      rcases exists_of_map_eq_ok hnext with ⟨b, hb, rfl⟩
      rcases ih _ _ hrest hread with ⟨hkept, hfound⟩
      constructor
      · intro l hl
        rcases List.forall_mem_cons.1 hl with ⟨he, hothers⟩
        rw [hkept l hothers, Table.find?_insert_of_ne _ _ he]
      · refine List.forall_mem_cons.2 ⟨⟨b, hb, ?_⟩, hfound⟩
        -- no later entry has the key of this one
        rw [hkept, Table.find?_insert_of_eq _ _ Std.ReflOrd.compare_self]
        exact hlater
  have hdifferent : t.entries.Pairwise fun p q =>
      compare (key (keyText p.1)) (key (keyText q.1)) ≠ .eq := by
    refine t.ascending.imp_of_mem fun {p q} hp hq hlt heq => ?_
    cases hlt.symm.trans (hkeys p.1 (List.mem_map_of_mem hp) q.1 (List.mem_map_of_mem hq) heq)
  rw [table_node_eq_foldlM] at hread
  exact (hfold t.entries Table.empty t' hdifferent hread).2 _ hentry

/-- A table that was read has no other keys than those that were written. -/
theorem exists_of_mem_keys_table_node {α κ κ' : Type} [Ord κ] [Ord κ'] [Std.TransOrd κ']
    {keyText : κ → String} {key : String → κ'} {reader : Reader α} {toJson : α → Json}
    {t : Table κ α} {t' : Table κ' α}
    (hread : Reader.table key reader (tableToJson keyText toJson t).node = .ok t') {k : κ'}
    (hk : k ∈ t'.keys) : ∃ l ∈ t.keys, key (keyText l) = k := by
  have hfold : ∀ (entries : List (κ × α)) (done t' : Table κ' α),
      entries.foldlM (fun done e => done.insert (key (keyText e.1)) <$> reader (toJson e.2).node)
          done = .ok t' →
      ∀ e' ∈ t'.entries, (∃ e ∈ done.entries, e.1 = e'.1) ∨
        ∃ e ∈ entries, key (keyText e.1) = e'.1 := by
    intro entries
    induction entries with
    | nil =>
      rintro done _ ⟨⟩ e' he'
      exact Or.inl ⟨e', he', rfl⟩
    | cons e rest ih =>
      intro done t' hread e' he'
      rw [List.foldlM_cons] at hread
      rcases exists_of_bind_eq_ok hread with ⟨next, hnext, hread⟩
      rcases exists_of_map_eq_ok hnext with ⟨b, -, rfl⟩
      rcases ih _ _ hread e' he' with ⟨before, hbefore, heq⟩ | ⟨later, hlater, heq⟩
      · rcases Table.fst_of_mem_insertEntry hbefore with hnew | ⟨old, hold, hsame⟩
        · exact Or.inr ⟨e, List.mem_cons_self, hnew.symm.trans heq⟩
        · exact Or.inl ⟨old, hold, hsame.trans heq⟩
      · exact Or.inr ⟨later, List.mem_cons_of_mem _ hlater, heq⟩
  rw [table_node_eq_foldlM] at hread
  rcases List.mem_map.1 hk with ⟨e', he', rfl⟩
  rcases hfold t.entries Table.empty t' hread e' he' with ⟨e, he, -⟩ | ⟨e, he, heq⟩
  · cases he
  · exact ⟨e.1, List.mem_map_of_mem he, heq⟩

/-! ## What readers give -/

/-- Whatever a reader gives satisfies a condition. -/
def Reader.Yields {α : Type} (reader : Reader α) (p : α → Prop) : Prop :=
  ∀ n a, reader n = .ok a → p a

/-- Putting any value that is read into a record keeps a condition. -/
def Field.Keeps {α : Type} (f : Field α) (p : α → Prop) : Prop :=
  ∀ record n next, p record → f.put record n = .ok next → p next

section Yields

variable {α β : Type} {reader : Reader α} {p : α → Prop}

/-- Nothing is asked of what is read. -/
theorem Reader.yields_true (reader : Reader α) : reader.Yields fun _ => True :=
  fun _ _ _ => trivial

/-- An optional value is absent or read. -/
theorem Reader.yields_optional (hreader : reader.Yields p) :
    (Reader.optional reader).Yields fun o => ∀ a ∈ o, p a := by
  intro n o ho
  unfold Reader.optional at ho
  split at ho
  · cases ho
    exact fun a ha => nomatch ha
  · rcases exists_of_map_eq_ok ho with ⟨a, ha, rfl⟩
    rintro _ ⟨⟩
    exact hreader n a ha

/-- Each item of a list is read. -/
theorem Reader.yields_list (hreader : reader.Yields p) :
    (Reader.list reader).Yields fun items => ∀ a ∈ items, p a := by
  have hmapM : ∀ (ns : List Node) (items : List α), ns.mapM reader = .ok items →
      ∀ a ∈ items, p a := by
    intro ns
    induction ns with
    | nil =>
      rintro _ ⟨⟩
      exact List.forall_mem_nil p
    | cons n ns ih =>
      intro items hitems
      rw [List.mapM_cons] at hitems
      rcases exists_of_bind_eq_ok hitems with ⟨a, ha, hitems⟩
      rcases exists_of_bind_eq_ok hitems with ⟨rest, hrest, hitems⟩
      cases hitems
      exact List.forall_mem_cons.2 ⟨hreader n a ha, ih rest hrest⟩
  intro n items hitems
  unfold Reader.list at hitems
  split at hitems
  · exact hmapM _ _ hitems
  · cases hitems

/-- Each key of a table is read from a text, each value from a tree. -/
theorem Reader.yields_table {κ : Type} [Ord κ] [Std.TransOrd κ] {key : String → κ}
    {q : κ → Prop} (hkey : ∀ s, q (key s)) (hreader : reader.Yields p) :
    (Reader.table key reader).Yields fun t => (∀ k ∈ t.keys, q k) ∧ ∀ a ∈ t.values, p a := by
  have hfold : ∀ (members : List (Option String × Node)) (done t : Table κ α),
      (∀ e ∈ done.entries, q e.1 ∧ p e.2) → members.foldlM (entry key reader) done = .ok t →
      ∀ e ∈ t.entries, q e.1 ∧ p e.2 := by
    intro members
    induction members with
    | nil =>
      rintro done _ hdone ⟨⟩
      exact hdone
    | cons member rest ih =>
      intro done t hdone ht
      rw [List.foldlM_cons] at ht
      rcases exists_of_bind_eq_ok ht with ⟨next, hnext, ht⟩
      refine ih next t ?_ ht
      rcases member with ⟨_ | k, n⟩
      · cases hnext
      · rcases exists_of_map_eq_ok hnext with ⟨a, ha, rfl⟩
        intro e he
        constructor
        · rcases Table.fst_of_mem_insertEntry he with heq | ⟨other, hother, heq⟩
          · rw [heq]
            exact hkey k
          · rw [← heq]
            exact (hdone other hother).1
        · rcases Table.snd_of_mem_insertEntry he with heq | ⟨other, hother, heq⟩
          · rw [heq]
            exact hreader n a ha
          · rw [← heq]
            exact (hdone other hother).2
  intro n t ht
  unfold Reader.table at ht
  split at ht
  · have hentries := hfold _ Table.empty t (List.forall_mem_nil _) ht
    exact ⟨List.forall_mem_map.2 fun e he => (hentries e he).1,
      List.forall_mem_map.2 fun e he => (hentries e he).2⟩
  · cases ht

/-- A field keeps what setting it to a value that is read keeps. -/
theorem Field.keeps_of {name : String} {set : β → α → β} {q : β → Prop}
    (hreader : reader.Yields p) (hset : ∀ record a, q record → p a → q (set record a)) :
    (Field.of name reader set).Keeps q := by
  intro record n next hrecord hnext
  rcases exists_of_map_eq_ok hnext with ⟨a, ha, rfl⟩
  exact hset record a hrecord (hreader n a ha)

end Yields

namespace Record

variable {α : Type} {r : Record α} {p : α → Prop}

/-- What every field keeps holds of a record that was read from its fields in their order. -/
theorem of_ofItems {least : Nat} {fields : List (Field α)} {items : List Node} {record result : α}
    (hfields : ∀ f ∈ fields, f.Keeps p) (hrecord : p record)
    (hresult : ofItems record least fields items = .ok result) : p result := by
  fun_induction ofItems record least fields items with
  | case1 => cases hresult; exact hrecord
  | case2 => cases hresult
  | case3 => cases hresult; exact hrecord
  | case4 => cases hresult
  | case5 record least f fields n items ih =>
    rcases exists_of_bind_eq_ok hresult with ⟨next, hnext, hresult⟩
    rcases List.forall_mem_cons.1 hfields with ⟨hf, hfields⟩
    exact ih next hfields (hf record n next hrecord hnext) hresult

/-- What every field keeps holds of a record that was read from members. -/
theorem of_foldlM_member {members : List (Option String × Node)} {state result : α × List String}
    (hfields : ∀ f ∈ r.fields, f.Keeps p)
    (hother : ∀ record key n next, (r.fields.find? fun f => f.name == key) = none →
      p record → r.other record key n = .ok next → p next)
    (hstate : p state.1) (hresult : members.foldlM r.member state = .ok result) : p result.1 := by
  induction members generalizing state with
  | nil =>
    cases hresult
    exact hstate
  | cons member rest ih =>
    rw [List.foldlM_cons] at hresult
    rcases exists_of_bind_eq_ok hresult with ⟨next, hnext, hresult⟩
    refine ih ?_ hresult
    rcases member with ⟨_ | key, n⟩
    · cases hnext
    · rw [member] at hnext
      split at hnext
      · next f hfind =>
        split at hnext
        · cases hnext
        · rcases exists_of_map_eq_ok hnext with ⟨record, hput, rfl⟩
          exact hfields f (List.mem_of_find?_eq_some hfind) _ n record hstate hput
      · next hfind =>
        rcases exists_of_map_eq_ok hnext with ⟨record, hput, rfl⟩
        exact hother _ key n record hfind hstate hput

/-- Passing over a member keeps everything. -/
theorem keeps_of_skip (hskip : r.other = skip) (record : α) (key : String) (n : Node) (next : α)
    (_ : (r.fields.find? fun f => f.name == key) = none) (hrecord : p record)
    (hnext : r.other record key n = .ok next) : p next := by
  rw [hskip, skip] at hnext
  split at hnext <;> cases hnext
  exact hrecord

/-- What every field keeps holds of a record that was read. -/
theorem yields_read (hstart : p r.start) (hfields : ∀ f ∈ r.fields, f.Keeps p)
    (hother : ∀ record key n next, (r.fields.find? fun f => f.name == key) = none →
      p record → r.other record key n = .ok next → p next) :
    Reader.Yields r.read p := by
  intro n result hresult
  unfold read at hresult
  split at hresult
  · rw [ofMembers] at hresult
    rcases exists_of_bind_eq_ok hresult with ⟨⟨record, seen⟩, hmembers, hresult⟩
    have hrecord := of_foldlM_member hfields hother hstart hmembers
    simp only at hresult
    split at hresult <;> cases hresult
    exact hrecord
  · split at hresult
    · exact of_ofItems hfields hstart hresult
    · cases hresult
  · cases hresult

end Record

end Json

end Gamebook
