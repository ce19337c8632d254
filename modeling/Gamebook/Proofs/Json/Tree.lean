import Gamebook.Json.Record
import Gamebook.Proofs.Json.Tokens

/-!
# Trees of what is written

A reader of the text of a value works on the tree of that value.

Main results:

- Definition `node`: the tree of a value.
- Theorem `build_value`: the tokens of a value are built into its tree.
- Theorem `read_pretty_append_reread`: a document is read as the tree of what its numbers are read
  as, whatever blanks follow it.
- Theorem `read_pretty_append`: where the numbers read back, that is the tree of the value.
-/

namespace Gamebook

namespace Json

mutual

/-- The tree of a value. -/
def node : Json → Node
  | .null => .null
  | .bool b => .bool b
  | .integer n hn => .numeral (.whole n hn)
  | .real x hx => .numeral (.real x hx)
  | .text s => .text s
  | .array items => .array (nodes items)
  | .object members => .object (memberNodes members)

/-- The trees of the items of an array. -/
def nodes : List Json → List Node
  | [] => []
  | item :: rest => node item :: nodes rest

/-- The trees of the members of an object, with their keys. -/
def memberNodes : List (String × Json) → List (Option String × Node)
  | [] => []
  | (key, value) :: rest => (some key, node value) :: memberNodes rest

end

/-- The trees of items are taken one by one. -/
theorem nodes_eq_map (items : List Json) : nodes items = items.map node := by
  induction items with
  | nil => rfl
  | cons item rest ih => rw [nodes, ih, List.map_cons]

/-- The trees of members are taken one by one. -/
theorem memberNodes_eq_map (members : List (String × Json)) :
    memberNodes members = members.map fun (key, value) => (some key, node value) := by
  induction members with
  | nil => rfl
  | cons member rest ih => rw [memberNodes, ih, List.map_cons]

/-- The trees of members are those of one part and then those of the other. -/
theorem memberNodes_append (members others : List (String × Json)) :
    memberNodes (members ++ others) = memberNodes members ++ memberNodes others := by
  simp only [memberNodes_eq_map, List.map_append]

/-! ## Building -/

/-- What is built of the tokens after a move. -/
def Move.resume : Move → List Token → Outline
  | .next expect stack, ts => build expect stack ts
  | .done root, ts => ⟨root, ts⟩
  | .fail stack, ts => ⟨abandon stack, ts⟩

/-- Reading goes on after the move of the first token. -/
theorem build_cons (expect : Expect) (stack : List Frame) (t : Token) (ts : List Token) :
    build expect stack (t :: ts) = (move expect stack t).resume ts := by
  rw [build]
  cases move expect stack t <;> rfl

/-- No value starts with the end of an array. -/
theorem build_itemOrEnd (value : Json) (done : List Node) (stack : List Frame)
    (rest : List Token) :
    build .itemOrEnd (.array done :: stack) (tokensOf value ++ rest) =
      build .value (.array done :: stack) (tokensOf value ++ rest) := by
  cases value with
  | array items => cases items <;> rfl
  | object members => cases members <;> rfl
  | _ => rfl

mutual

/-- The tokens of a value are built into its tree. -/
theorem build_value : ∀ (value : Json) (stack : List Frame) (rest : List Token),
    build .value stack (tokensOf value ++ rest) = (deliver value.node stack).resume rest
  | .null, stack, rest => build_cons .value stack .null rest
  | .bool b, stack, rest => build_cons .value stack (.bool b) rest
  | .integer n hn, stack, rest => build_cons .value stack (.numeral (.whole n hn)) rest
  | .real x hx, stack, rest => build_cons .value stack (.numeral (.real x hx)) rest
  | .text s, stack, rest => build_cons .value stack (.text s) rest
  | .array [], stack, rest => by
    exact build_cons .itemOrEnd (.array [] :: stack) .closeArray rest
  | .array (item :: items), stack, rest => by
    have hitem := build_itemOrEnd item [] stack (tokensOfItems items ++ rest)
    rw [build_value item (.array [] :: stack), deliver, Move.resume,
      build_items items [item.node] stack rest] at hitem
    rw [tokensOf, List.cons_append, build_cons, List.append_assoc]
    exact hitem
  | .object [], stack, rest => by
    exact build_cons .keyOrEnd (.object [] none :: stack) .closeObject rest
  | .object ((key, value) :: members), stack, rest => by
    have hvalue := build_value value (.object [] (some key) :: stack)
      (tokensOfMembers members ++ rest)
    rw [deliver, Move.resume, build_members members [(some key, value.node)] stack rest] at hvalue
    rw [tokensOf, List.cons_append, build_cons, List.cons_append, List.cons_append,
      List.append_assoc]
    exact hvalue

/-- The tokens of the items that follow are built into the rest of the array. -/
theorem build_items : ∀ (items : List Json) (done : List Node) (stack : List Frame)
    (rest : List Token),
    build .commaOrEnd (.array done :: stack) (tokensOfItems items ++ rest) =
      (deliver (.array (done.reverse ++ nodes items)) stack).resume rest
  | [], done, stack, rest => by
    rw [nodes, List.append_nil]
    exact build_cons .commaOrEnd (.array done :: stack) .closeArray rest
  | item :: items, done, stack, rest => by
    have hitem := build_value item (.array done :: stack) (tokensOfItems items ++ rest)
    rw [deliver, Move.resume, build_items items (item.node :: done) stack rest,
      List.reverse_cons, List.append_assoc, List.singleton_append] at hitem
    rw [tokensOfItems, List.cons_append, build_cons, List.append_assoc]
    exact hitem

/-- The tokens of the members that follow are built into the rest of the object. -/
theorem build_members : ∀ (members : List (String × Json)) (done : List (Option String × Node))
    (stack : List Frame) (rest : List Token),
    build .commaOrEnd (.object done none :: stack) (tokensOfMembers members ++ rest) =
      (deliver (.object (done.reverse ++ memberNodes members)) stack).resume rest
  | [], done, stack, rest => by
    rw [memberNodes, List.append_nil]
    exact build_cons .commaOrEnd (.object done none :: stack) .closeObject rest
  | (key, value) :: members, done, stack, rest => by
    have hvalue := build_value value (.object done (some key) :: stack)
      (tokensOfMembers members ++ rest)
    rw [deliver, Move.resume, build_members members ((some key, value.node) :: done) stack rest,
      List.reverse_cons, List.append_assoc, List.singleton_append] at hvalue
    rw [tokensOfMembers, List.cons_append, build_cons, List.cons_append, List.cons_append,
      List.append_assoc]
    exact hvalue

end

/-- A document is read as the tree of its value, as it is read, is, whatever blanks follow it. -/
theorem read_pretty_append_reread {α : Type} (reader : Reader α) (value : Json) {blanks : String}
    (hblanks : ∀ c ∈ blanks.toList, Token.isSpace c = true) :
    read reader (value.pretty ++ blanks) = reader value.reread.node := by
  have hbuild : Outline.ofTokens (tokensOf value.reread) = ⟨value.reread.node, []⟩ := by
    have hvalue := build_value value.reread [] []
    rw [List.append_nil] at hvalue
    exact hvalue
  rw [read, Outline.ofText, tokens_pretty_append value hblanks, hbuild]
  cases reader value.reread.node <;> rfl

/-- A document is read as the tree of its value, as it is read, is. -/
theorem read_pretty_reread {α : Type} (reader : Reader α) (value : Json) :
    read reader value.pretty = reader value.reread.node := by
  have hblanks : ∀ c ∈ "".toList, Token.isSpace c = true := List.forall_mem_nil _
  rw [← read_pretty_append_reread reader value hblanks, String.append_empty]

/-- A document whose numbers read back is read as the tree of its value is. -/
theorem read_pretty {α : Type} (reader : Reader α) {value : Json}
    (hreals : ∀ x ∈ value.reals, ReadsBack x) : read reader value.pretty = reader value.node := by
  rw [read_pretty_reread, reread_eq_self value hreals]

end Json

end Gamebook
