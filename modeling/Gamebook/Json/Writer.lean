import Gamebook.Json.Value

/-!
# Writing JSON

Documents are written with one member or item a line, two blanks a level; other values are written
without any blanks.  Strings escape quotes, backslashes and control characters and nothing else.
-/

namespace Gamebook

namespace Json

/-- Numbers are written plainly from a hundred-thousandth up to ten quadrillions, with at least one
decimal, and a zero keeps its sign. -/
def layout : Decimal.Layout where
  plainFrom := -5
  plainBelow := 16
  pointZero := true
  signedZero := true
  tie := .even

/-- The text of a number; what is not finite has none of its own and is written as null. -/
def numberText (x : Float) : String :=
  if x.isNaN || x.isInf then "null" else layout.render x

/-! ## Strings -/

/-- A hexadecimal digit in lower case. -/
def hexDigit (n : Nat) : Char :=
  Nat.digitChar n

/-- A character of a string as it is written. -/
def escape (c : Char) : List Char :=
  match c with
  | '"' => ['\\', '"']
  | '\\' => ['\\', '\\']
  | '\n' => ['\\', 'n']
  | '\r' => ['\\', 'r']
  | '\t' => ['\\', 't']
  | c =>
    if c = '\x08' then ['\\', 'b']
    else if c = '\x0c' then ['\\', 'f']
    else if c.toNat < 0x20 then
      ['\\', 'u', '0', '0', hexDigit (c.toNat / 16), hexDigit (c.toNat % 16)]
    else [c]

/-- A string with its quotes. -/
def quote (s : String) : List Char :=
  '"' :: (s.toList.flatMap escape ++ ['"'])

/-! ## Values -/

/-- Where blanks are written. -/
inductive Spacing where
  | compact
  | indented

namespace Spacing

/-- The start of a line at a depth of nesting. -/
def newline : Spacing → Nat → List Char
  | compact, _ => []
  | indented, depth => '\n' :: List.replicate (2 * depth) ' '

/-- What stands between a key and its value. -/
def colon : Spacing → List Char
  | compact => [':']
  | indented => [':', ' ']

end Spacing

mutual

/-- The text of a value at a depth of nesting. -/
def write (spacing : Spacing) (depth : Nat) : Json → List Char
  | .null => "null".toList
  | .bool b => if b then "true".toList else "false".toList
  | .integer n _ => (toString n).toList
  | .real x _ => (numberText x).toList
  | .text s => quote s
  | .array [] => ['[', ']']
  | .array (item :: rest) =>
    '[' :: (spacing.newline (depth + 1) ++ write spacing (depth + 1) item ++
      writeItems spacing depth rest)
  | .object [] => ['{', '}']
  | .object ((key, value) :: rest) =>
    '{' :: (spacing.newline (depth + 1) ++ quote key ++ spacing.colon ++
      write spacing (depth + 1) value ++ writeMembers spacing depth rest)

/-- The items after the first one, and the end of their array. -/
def writeItems (spacing : Spacing) (depth : Nat) : List Json → List Char
  | [] => spacing.newline depth ++ [']']
  | item :: rest =>
    ',' :: (spacing.newline (depth + 1) ++ write spacing (depth + 1) item ++
      writeItems spacing depth rest)

/-- The members after the first one, and the end of their object. -/
def writeMembers (spacing : Spacing) (depth : Nat) : List (String × Json) → List Char
  | [] => spacing.newline depth ++ ['}']
  | (key, value) :: rest =>
    ',' :: (spacing.newline (depth + 1) ++ quote key ++ spacing.colon ++
      write spacing (depth + 1) value ++ writeMembers spacing depth rest)

end

/-- The text of a value without blanks. -/
def compact (value : Json) : String :=
  String.ofList (write .compact 0 value)

/-- The text of a document. -/
def pretty (value : Json) : String :=
  String.ofList (write .indented 0 value)

end Json

end Gamebook
