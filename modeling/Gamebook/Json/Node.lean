import Gamebook.Json.Token

/-!
# Syntax trees with gaps

A reader of documents reports the first problem from left to right, and a value of the wrong shape
may stand before the place where the text stops being JSON.  So a text that is not well-formed has a
tree too: it holds everything up to the first fault, and a gap in the place of the fault.

- `Outline.ofTokens` builds the tree of a text with a stack of unfinished containers.
- `Node.isComplete` says that a tree has no gap.
-/

namespace Gamebook

namespace Json

/-- A tree of a JSON text.  The members of an object are in the order of the text; the key of a
member is absent where it cannot be read. -/
inductive Node where
  | null
  | bool (b : Bool)
  | numeral (n : Numeral)
  | text (s : String)
  /-- A string with an escaped surrogate that has no partner. -/
  | unpaired
  | array (items : List Node)
  | object (members : List (Option String × Node))
  /-- The place where the text stops being JSON. -/
  | gap

mutual

/-- The text of the tree is well-formed. -/
def Node.isComplete : Node → Bool
  | .gap => false
  | .array items => areComplete items
  | .object members => areCompleteMembers members
  | _ => true

/-- The texts of all items are well-formed. -/
def areComplete : List Node → Bool
  | [] => true
  | n :: rest => n.isComplete && areComplete rest

/-- The texts of all members are well-formed. -/
def areCompleteMembers : List (Option String × Node) → Bool
  | [] => true
  | (_, n) :: rest => n.isComplete && areCompleteMembers rest

end

/-! ## Building a tree from tokens -/

/-- An unfinished container.  What it holds so far is listed from the last to the first. -/
inductive Frame where
  | array (done : List Node)
  /-- The key belongs to the value that is read next. -/
  | object (done : List (Option String × Node)) (key : Option String)

/-- The container with an unfinished value as its last one. -/
def Frame.close : Frame → Node → Node
  | array done, last => .array (last :: done).reverse
  | object done key, last => .object ((key, last) :: done).reverse

/-- The tree of a text that stops being JSON inside these containers, the innermost first. -/
def abandon (stack : List Frame) : Node :=
  stack.foldl (fun inner frame => frame.close inner) .gap

/-- What may stand at the current place of a text. -/
inductive Expect where
  | value
  | itemOrEnd
  | keyOrEnd
  | key
  | colon
  | commaOrEnd

/-- What a token does to the reading. -/
inductive Move where
  | next (expect : Expect) (stack : List Frame)
  | done (root : Node)
  | fail (stack : List Frame)

/-- Puts a finished value into the innermost container. -/
def deliver (n : Node) : List Frame → Move
  | [] => .done n
  | .array done :: stack => .next .commaOrEnd (.array (n :: done) :: stack)
  | .object done key :: stack => .next .commaOrEnd (.object ((key, n) :: done) none :: stack)

/-- A token where a value starts. -/
def startValue (stack : List Frame) : Token → Move
  | .null => deliver .null stack
  | .bool b => deliver (.bool b) stack
  | .numeral n => deliver (.numeral n) stack
  | .text s => deliver (.text s) stack
  | .unpaired => deliver .unpaired stack
  | .openArray => .next .itemOrEnd (.array [] :: stack)
  | .openObject => .next .keyOrEnd (.object [] none :: stack)
  | _ => .fail stack

/-- A token where a key stands. -/
def readKey : List Frame → Token → Move
  | .object done _ :: stack, .text s => .next .colon (.object done (some s) :: stack)
  | .object done _ :: stack, .unpaired => .next .colon (.object done none :: stack)
  | stack, _ => .fail stack

/-- The move of a token in the place where it stands. -/
def move : Expect → List Frame → Token → Move
  | .value, stack, t => startValue stack t
  | .itemOrEnd, .array done :: stack, .closeArray => deliver (.array done.reverse) stack
  | .itemOrEnd, stack, t => startValue stack t
  | .keyOrEnd, .object done _ :: stack, .closeObject => deliver (.object done.reverse) stack
  | .keyOrEnd, stack, t => readKey stack t
  | .key, stack, t => readKey stack t
  | .colon, stack, .colon => .next .value stack
  | .commaOrEnd, .array done :: stack, .comma => .next .value (.array done :: stack)
  | .commaOrEnd, .array done :: stack, .closeArray => deliver (.array done.reverse) stack
  | .commaOrEnd, .object done _ :: stack, .comma => .next .key (.object done none :: stack)
  | .commaOrEnd, .object done _ :: stack, .closeObject => deliver (.object done.reverse) stack
  | _, stack, _ => .fail stack

/-- The tree of a text and what stands after its value. -/
structure Outline where
  root : Node
  trailing : List Token

/-- Reads tokens until the value is finished or the text stops being JSON. -/
def build (expect : Expect) (stack : List Frame) : List Token → Outline
  | [] => ⟨abandon stack, []⟩
  | t :: rest =>
    match move expect stack t with
    | .next expect stack => build expect stack rest
    | .done root => ⟨root, rest⟩
    | .fail stack => ⟨abandon stack, rest⟩

/-- The tree of a sequence of tokens. -/
def Outline.ofTokens (ts : List Token) : Outline :=
  build .value [] ts

/-- The tree of a text. -/
def Outline.ofText (text : String) : Outline :=
  ofTokens (tokens text.toList)

end Json

end Gamebook
