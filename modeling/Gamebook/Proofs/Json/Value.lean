import Gamebook.Proofs.Json.Tree
import Gamebook.Proofs.Result
import Gamebook.Proofs.Table

/-!
# Values that documents carry along

A value that was taken from a document is settled: the members of its objects are in order and each
key stands once, so it is taken from the next document as it is.

Main results:

- Instance of `ReflBEq`: a value is the same as itself.
- Theorem `settled_of_toJson?`: what is taken from a document is settled.
- Theorem `Settled.reread`: it stays settled with its numbers as they are read.
-/

namespace Gamebook

namespace Json

/-! ## Sameness -/

mutual

/-- A value is the same as itself. -/
theorem same_self : ∀ value : Json, same value value = true
  | .null => rfl
  | .bool b => beq_self_eq_true b
  | .integer n _ => beq_self_eq_true n
  | .real _ hx => Finite.beq_self hx
  | .text s => beq_self_eq_true s
  | .array items => sameItems_self items
  | .object members => sameMembers_self members

/-- Items are the same as themselves. -/
theorem sameItems_self : ∀ items : List Json, sameItems items items = true
  | [] => rfl
  | item :: rest => by
    rw [sameItems, same_self item, sameItems_self rest]
    rfl

/-- Members are the same as themselves. -/
theorem sameMembers_self : ∀ members : List (String × Json), sameMembers members members = true
  | [] => rfl
  | (key, value) :: rest => by
    rw [sameMembers, same_self value, sameMembers_self rest, beq_self_eq_true key]
    rfl

end

instance : ReflBEq Json where
  rfl {value} := same_self value

/-! ## Settled values -/

/-- The value is taken from its own tree. -/
def Settled (depth : Nat) (value : Json) : Prop :=
  value.node.toJson? depth = some value

/-- The value of a list of trees is taken item by item. -/
theorem mapM_node_of_settled {depth : Nat} {items : List Json}
    (hitems : ∀ item ∈ items, item.Settled depth) :
    (nodes items).mapM (Node.toJson? depth) = some items := by
  rw [nodes_eq_map]
  induction items with
  | nil => rfl
  | cons item rest ih =>
    have hitem : item.node.toJson? depth = some item := hitems item List.mem_cons_self
    rw [List.map_cons, List.mapM_cons, hitem,
      ih fun other hother => hitems other (List.mem_cons_of_mem _ hother)]
    rfl

/-- The members of a list of trees are taken one by one. -/
theorem mapM_memberNodes_of_settled {depth : Nat} {members : List (String × Json)}
    (hmembers : ∀ member ∈ members, member.2.Settled depth) :
    ((memberNodes members).mapM fun (key, n) => do
        let key ← key
        let value ← Node.toJson? depth n
        some (key, value)) = some members := by
  induction members with
  | nil => rfl
  | cons member rest ih =>
    obtain ⟨key, value⟩ := member
    have hvalue : value.node.toJson? depth = some value := hmembers _ List.mem_cons_self
    have hrest := ih fun other hother => hmembers other (List.mem_cons_of_mem _ hother)
    rw [memberNodes, List.mapM_cons, hrest]
    simp only [hvalue]
    rfl

/-- The members of an object stay settled when a member is put among them. -/
theorem settled_insertEntry {depth : Nat} {key : String} {value : Json}
    {members : List (String × Json)} (hvalue : value.Settled depth)
    (hmembers : ∀ member ∈ members, member.2.Settled depth) :
    ∀ member ∈ Table.insertEntry key value members, member.2.Settled depth := by
  intro member hmember
  rcases Table.snd_of_mem_insertEntry hmember with heq | ⟨other, hother, heq⟩
  · rw [heq]
    exact hvalue
  · rw [← heq]
    exact hmembers other hother

/-- Members that are put in order one by one are in order and stay settled. -/
theorem foldl_insertEntry_settled {depth : Nat} {entries done : List (String × Json)}
    (hentries : ∀ member ∈ entries, member.2.Settled depth)
    (hdone : ∀ member ∈ done, member.2.Settled depth)
    (hascending : done.Pairwise fun p q => compare p.1 q.1 = .lt) :
    (∀ member ∈ entries.foldl (fun done (key, value) => Table.insertEntry key value done) done,
        member.2.Settled depth) ∧
      (entries.foldl (fun done (key, value) => Table.insertEntry key value done) done).Pairwise
        fun p q => compare p.1 q.1 = .lt := by
  induction entries generalizing done with
  | nil => exact ⟨hdone, hascending⟩
  | cons member rest ih =>
    obtain ⟨hmember, hrest⟩ := List.forall_mem_cons.1 hentries
    exact ih hrest (settled_insertEntry hmember hdone)
      (Table.ascending_insertEntry _ _ hascending)

/-- What is taken from a document is settled. -/
theorem settled_of_toJson? {depth : Nat} {n : Node} {value : Json}
    (hvalue : n.toJson? depth = some value) : value.Settled depth := by
  induction depth generalizing n value with
  | zero =>
    cases n with
    | numeral m =>
      cases m <;> cases hvalue <;> rfl
    | _ => cases hvalue <;> rfl
  | succ depth ih =>
    cases n with
    | numeral m =>
      cases m <;> cases hvalue <;> rfl
    | array items =>
      obtain ⟨values, hvalues, rfl⟩ := Option.map_eq_some_iff.1 hvalue
      have hsettled := forall_of_mapM_eq_some (fun _ _ hitem => ih hitem) hvalues
      rw [Settled, node, Node.toJson?, mapM_node_of_settled hsettled]
      rfl
    | object members =>
      obtain ⟨entries, hentries, rfl⟩ := Option.map_eq_some_iff.1 hvalue
      have hsettled : ∀ member ∈ entries, member.2.Settled depth := by
        refine forall_of_mapM_eq_some ?_ hentries
        rintro ⟨key, n⟩ member hmember
        obtain ⟨_, _, hmember⟩ := Option.bind_eq_some_iff.1 hmember
        obtain ⟨_, hn, hmember⟩ := Option.bind_eq_some_iff.1 hmember
        cases hmember
        exact ih hn
      obtain ⟨hsettled, hascending⟩ :=
        foldl_insertEntry_settled hsettled (List.forall_mem_nil _) List.Pairwise.nil
      -- the members are in order by now, so putting them in order again changes nothing
      have hagain := Table.foldl_insertEntry [] hascending
      rw [Settled, node, Node.toJson?, mapM_memberNodes_of_settled hsettled]
      exact congrArg (fun members => some (object members)) hagain
    | _ => cases hvalue <;> rfl

/-! ## Rereading -/

/-- Members that are put in order are read in that order. -/
theorem rereadMembers_foldl_insertEntry (entries done : List (String × Json)) :
    rereadMembers (entries.foldl (fun done (key, value) => Table.insertEntry key value done) done) =
      (rereadMembers entries).foldl (fun done (key, value) => Table.insertEntry key value done)
        (rereadMembers done) := by
  induction entries generalizing done with
  | nil => rfl
  | cons member rest ih =>
    have hinsert : rereadMembers (Table.insertEntry member.1 member.2 done) =
        Table.insertEntry member.1 member.2.reread (rereadMembers done) := by
      simp only [rereadMembers_eq_map]
      exact Table.map_insertEntry reread member.1 member.2 done
    rw [List.foldl_cons, ih, hinsert]
    rfl

mutual

/-- The tree of a value as it is read holds the value of the tree as it is read. -/
theorem toJson?_reread : ∀ (value : Json) {depth : Nat} {v : Json},
    value.node.toJson? depth = some v → value.reread.node.toJson? depth = some v.reread
  | .null, depth, v, hv => by cases depth <;> cases hv <;> rfl
  | .bool _, depth, v, hv => by cases depth <;> cases hv <;> rfl
  | .integer _ _, depth, v, hv => by cases depth <;> cases hv <;> rfl
  | .real _ _, depth, v, hv => by cases depth <;> cases hv <;> rfl
  | .text _, depth, v, hv => by cases depth <;> cases hv <;> rfl
  | .array items, depth, v, hv => by
    cases depth with
    | zero => cases hv
    | succ depth =>
      rw [node, Node.toJson?] at hv
      obtain ⟨values, hvalues, rfl⟩ := Option.map_eq_some_iff.1 hv
      rw [reread, node, Node.toJson?, mapM_nodes_reread items hvalues]
      rfl
  | .object members, depth, v, hv => by
    cases depth with
    | zero => cases hv
    | succ depth =>
      rw [node, Node.toJson?] at hv
      obtain ⟨entries, hentries, rfl⟩ := Option.map_eq_some_iff.1 hv
      rw [reread, node, Node.toJson?]
      have hread := mapM_memberNodes_reread members hentries
      simp only [hread]
      exact congrArg (fun members => some (object members))
        (rereadMembers_foldl_insertEntry entries []).symm

/-- So do the trees of items. -/
theorem mapM_nodes_reread : ∀ (items : List Json) {depth : Nat} {values : List Json},
    (nodes items).mapM (Node.toJson? depth) = some values →
      (nodes (rereadItems items)).mapM (Node.toJson? depth) = some (rereadItems values)
  | [], _, _, hvalues => by
    cases hvalues
    rfl
  | item :: rest, _, _, hvalues => by
    rw [nodes, List.mapM_cons] at hvalues
    obtain ⟨v, hv, hvalues⟩ := Option.bind_eq_some_iff.1 hvalues
    obtain ⟨vs, hvs, hvalues⟩ := Option.bind_eq_some_iff.1 hvalues
    cases hvalues
    rw [rereadItems, nodes, List.mapM_cons, toJson?_reread item hv, mapM_nodes_reread rest hvs]
    rfl

/-- So do the trees of members. -/
theorem mapM_memberNodes_reread : ∀ (members : List (String × Json)) {depth : Nat}
    {entries : List (String × Json)},
    ((memberNodes members).mapM fun (key, n) => do
        let key ← key
        let value ← Node.toJson? depth n
        some (key, value)) = some entries →
      ((memberNodes (rereadMembers members)).mapM fun (key, n) => do
        let key ← key
        let value ← Node.toJson? depth n
        some (key, value)) = some (rereadMembers entries)
  | [], _, _, hentries => by
    cases hentries
    rfl
  | (key, value) :: rest, _, _, hentries => by
    rw [memberNodes, List.mapM_cons] at hentries
    obtain ⟨entry, hentry, hentries⟩ := Option.bind_eq_some_iff.1 hentries
    obtain ⟨more, hmore, hentries⟩ := Option.bind_eq_some_iff.1 hentries
    obtain ⟨_, hkey, hentry⟩ := Option.bind_eq_some_iff.1 hentry
    obtain ⟨v, hv, hentry⟩ := Option.bind_eq_some_iff.1 hentry
    cases hkey
    cases hentry
    cases hentries
    rw [rereadMembers, memberNodes, List.mapM_cons, mapM_memberNodes_reread rest hmore]
    simp only [toJson?_reread value hv]
    rfl

end

/-- A settled value is read as a settled one. -/
theorem Settled.reread {depth : Nat} {value : Json} (hvalue : value.Settled depth) :
    value.reread.Settled depth :=
  toJson?_reread value hvalue

end Json

end Gamebook
