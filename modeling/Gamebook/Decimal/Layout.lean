import Gamebook.Decimal.Shortest

/-!
# Layout of decimals

How the selected digits of a finite number are written.  Both number formats of the library use the
same notations, plain digits with a point and a mantissa with a signed power of ten; a `Layout`
holds the decisions in which they differ.
-/

namespace Gamebook

namespace Decimal

/-- The decisions of a number format. -/
structure Layout where
  /-- The least power of ten of a leading digit that is written plainly. -/
  plainFrom : Int
  /-- From this power of ten of the leading digit on, numbers are written with an exponent. -/
  plainBelow : Int
  /-- Whole numbers in plain notation end in `.0`. -/
  pointZero : Bool
  /-- The sign of a negative zero is written. -/
  signedZero : Bool
  /-- Which of two equally short and equally close decimals is written. -/
  tie : Tie

namespace Layout

/-- The decimal digits of a natural number. -/
def digitChars (n : Nat) : List Char :=
  Nat.toDigits 10 n

/-- Digits with a point after the first `point` of them, padded with zeros where the point lies
outside them. -/
def plain (layout : Layout) (digits : List Char) (point : Int) : List Char :=
  if point ≤ 0 then
    '0' :: '.' :: (List.replicate (-point).toNat '0' ++ digits)
  else if (digits.length : Int) ≤ point then
    digits ++ List.replicate (point - digits.length).toNat '0' ++
      (if layout.pointZero then ['.', '0'] else [])
  else
    digits.take point.toNat ++ '.' :: digits.drop point.toNat

/-- One digit before the point, the others after it, and the power of ten with its sign. -/
def scientific (digits : List Char) (power : Int) : List Char :=
  let mantissa :=
    match digits with
    | first :: second :: rest => first :: '.' :: second :: rest
    | digits => digits
  mantissa ++ 'e' :: (if power < 0 then '-' else '+') :: digitChars power.natAbs

/-- The text of a positive decimal. -/
def decimal (layout : Layout) (d : Decimal) : List Char :=
  let digits := digitChars d.digits
  let power := d.exponent + digits.length - 1
  if layout.plainFrom ≤ power ∧ power < layout.plainBelow then
    layout.plain digits (power + 1)
  else
    scientific digits power

/-- The text of a finite number. -/
def render (layout : Layout) (x : Float) : String :=
  let bits := x.toBits
  let magnitude := Binary.ofBits bits
  let negative := bits >>> 63 = 1
  if magnitude.significand = 0 then
    let sign := if layout.signedZero && negative then ['-'] else []
    String.ofList (sign ++ (if layout.pointZero then ['0', '.', '0'] else ['0']))
  else
    let sign := if negative then ['-'] else []
    String.ofList (sign ++ layout.decimal (magnitude.shortest layout.tie))

end Layout

end Decimal

end Gamebook
