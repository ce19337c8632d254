import Gamebook.Decimal.Layout
import Gamebook.Text.Blank

/-!
# Numbers in text

Variables hold text.  This module gives text its numeric reading and writes numbers back as text.

- `Number.read?` accepts blanks around the spelling, the empty text as zero, `Infinity`, whole
  numbers in the radices sixteen, eight and two, and decimals with an optional exponent.
- `Number.ofText` is the same reading with NaN for everything else.
- `Number.text` writes a number with the fewest digits that read back.
-/

namespace Gamebook

/-- The number nearest to a decimal, infinite when it is too large.  Decimals far outside the range
of the finite numbers are answered by the place of their leading digit alone. -/
def Decimal.toFloat (d : Decimal) : Float :=
  let place := (Decimal.Span.digitCount d.digits : Int) + d.exponent
  if d.digits = 0 ∨ place < -330 then 0
  else if 320 < place then 1 / 0
  else Float.ofScientific d.digits (d.exponent < 0) d.exponent.natAbs

namespace Number

/-- The value that stands for text without a numeric reading. -/
def nan : Float := 0 / 0

/-- The infinite value. -/
def infinity : Float := 1 / 0

/-! ## Reading -/

/-- The value of a digit in a radix of at most sixteen. -/
def digitValue? (radix : Nat) (c : Char) : Option Nat :=
  let value? :=
    if '0' ≤ c ∧ c ≤ '9' then some (c.toNat - '0'.toNat)
    else if 'a' ≤ c ∧ c ≤ 'f' then some (c.toNat - 'a'.toNat + 10)
    else if 'A' ≤ c ∧ c ≤ 'F' then some (c.toNat - 'A'.toNat + 10)
    else none
  value?.filter (· < radix)

/-- A whole number spelled in a radix, at least one digit.  Each digit is added in floating-point
arithmetic, so long spellings are rounded digit by digit. -/
def inRadix? (radix : Nat) (digits : List Char) : Option Float :=
  if digits = [] then none
  else
    (digits.mapM (digitValue? radix)).map
      (List.foldl (fun value d => value * Float.ofNat radix + Float.ofNat d) 0)

/-- A natural number with one more decimal digit at its end. -/
def appendDigit (n : Nat) (digit : Char) : Nat :=
  10 * n + (digit.toNat - '0'.toNat)

/-- The natural number spelled by decimal digits. -/
def natOfDigits (digits : List Char) : Nat :=
  digits.foldl appendDigit 0

/-- Splits off an optional sign; the flag tells whether it is a minus. -/
def splitSign : List Char → Bool × List Char
  | '-' :: rest => (true, rest)
  | '+' :: rest => (false, rest)
  | cs => (false, cs)

/-- Splits the text into its longest run of leading decimal digits and the rest. -/
def splitDigits (cs : List Char) : List Char × List Char :=
  (cs.takeWhile Char.isDigit, cs.dropWhile Char.isDigit)

/-- The digits and the rest make up the text. -/
theorem splitDigits_append (cs : List Char) : (splitDigits cs).1 ++ (splitDigits cs).2 = cs := by
  simp [splitDigits]

/-- The natural number of 64 bits that decimal digits spell, with a plus before them or without. -/
def word? (text : String) : Option Nat :=
  let digits :=
    match text.toList with
    | '+' :: rest => rest
    | cs => cs
  if digits ≠ [] ∧ digits.all Char.isDigit ∧ natOfDigits digits < UInt64.size then
    some (natOfDigits digits)
  else none

/-- The exponent at the end of a decimal: nothing, or `e`, an optional sign and digits. -/
def exponent? : List Char → Option Int
  | [] => some 0
  | c :: rest =>
    let (negative, digits) := splitSign rest
    if (c = 'e' ∨ c = 'E') ∧ digits ≠ [] ∧ digits.all Char.isDigit then
      some (if negative then -natOfDigits digits else natOfDigits digits)
    else none

/-- The digits after an optional point, and the rest. -/
def splitFraction : List Char → List Char × List Char
  | '.' :: rest => splitDigits rest
  | cs => ([], cs)

/-- A decimal: an optional sign, digits with an optional point before, among or after them, and an
optional exponent. -/
def decimal? (cs : List Char) : Option Float :=
  let (negative, body) := splitSign cs
  let (whole, rest) := splitDigits body
  let (fraction, rest) := splitFraction rest
  if whole = [] ∧ fraction = [] then none
  else
    (exponent? rest).map fun power =>
      let magnitude := Decimal.toFloat ⟨natOfDigits (whole ++ fraction), power - fraction.length⟩
      if negative then -magnitude else magnitude

/-- The number spelled by a text without blanks around it. -/
def spelled? : List Char → Option Float
  | [] => some 0
  | '0' :: c :: digits =>
    if c = 'x' ∨ c = 'X' then inRadix? 16 digits
    else if c = 'o' ∨ c = 'O' then inRadix? 8 digits
    else if c = 'b' ∨ c = 'B' then inRadix? 2 digits
    else decimal? ('0' :: c :: digits)
  | cs =>
    let (negative, body) := splitSign cs
    if body = "Infinity".toList then some (if negative then -infinity else infinity)
    else decimal? cs

/-- The numeric reading of a text, if it has one. -/
def read? (text : String) : Option Float :=
  spelled? (Text.trimBlanks text.toList)

/-- The numeric reading of a text, NaN where there is none. -/
def ofText (text : String) : Float :=
  (read? text).getD nan

/-! ## Writing -/

/-- Numbers are written plainly from a millionth up to a sextillion, whole ones without a point;
a zero has no sign. -/
def layout : Decimal.Layout where
  plainFrom := -6
  plainBelow := 21
  pointZero := false
  signedZero := false
  tie := .up

/-- The text of a number. -/
def text (x : Float) : String :=
  if x.isNaN then "NaN"
  else if x.isInf then (if 0 < x then "Infinity" else "-Infinity")
  else layout.render x

end Number

end Gamebook
