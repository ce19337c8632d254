/-!
# Shortest decimals

Every finite binary64 value stands for an interval of reals: those that round to it.  This module
decodes a value into its significand and power of two, describes that interval exactly over the
naturals, and selects from it the decimal with the fewest digits, the closest one where several have
as few.

- `Span.contains` is the specification: a decimal lies among the reals that round to the value.
- `Span.onGrid` is the closest such decimal with a given last place.
- `Binary.shortest` walks the grids from the coarsest to the finest and takes the first hit.
-/

namespace Gamebook

/-- The number `digits * 10 ^ exponent`. -/
structure Decimal where
  digits : Nat
  exponent : Int
  deriving Repr, DecidableEq

namespace Decimal

/-- Which of two equally close neighbours is taken. -/
inductive Tie where
  | even
  | up
  deriving Repr, DecidableEq

/-! ## Binary values -/

/-- The positive value `significand * 2 ^ exponent`. -/
structure Binary where
  significand : Nat
  exponent : Int
  /-- The gap to the next smaller value is half the gap to the next larger one. -/
  narrowBelow : Bool

/-- The magnitude of a finite value, read from its bits.  The bits of the infinities and of NaN name
no such value. -/
def Binary.ofBits (bits : UInt64) : Binary :=
  let scale := ((bits >>> 52) &&& 0x7FF).toNat
  let fraction := (bits &&& 0xFFFFFFFFFFFFF).toNat
  if scale = 0 then
    { significand := fraction, exponent := -1074, narrowBelow := false }
  else
    { significand := 0x10000000000000 + fraction
      exponent := scale - 1075
      narrowBelow := fraction = 0 && scale > 1 }

/-! ## The reals that round to a value -/

/-- An interval around a value, over one denominator: the value is `mid / den`, the ends are
`low / den` and `high / den`, and they belong to the interval when it is `closed`. -/
structure Span where
  low : Nat
  mid : Nat
  high : Nat
  den : Nat
  closed : Bool

/-- The reals that round to a value, halfway to its neighbours on both sides; the halfway points
round to the value with the even significand. -/
def Binary.span (x : Binary) : Span :=
  let scale := Nat.pow 2 x.exponent.toNat
  { low := (4 * x.significand - if x.narrowBelow then 1 else 2) * scale
    mid := 4 * x.significand * scale
    high := (4 * x.significand + 2) * scale
    den := 4 * Nat.pow 2 (-x.exponent).toNat
    closed := x.significand % 2 = 0 }

namespace Span

/-- The decimal lies in the interval. -/
def contains (s : Span) (d : Decimal) : Bool :=
  let here := d.digits * Nat.pow 10 d.exponent.toNat * s.den
  let scale := Nat.pow 10 (-d.exponent).toNat
  if s.closed then s.low * scale ≤ here && here ≤ s.high * scale
  else s.low * scale < here && here < s.high * scale

/-- The number of decimal digits of a natural number; zero has one. -/
def digitCount (n : Nat) : Nat :=
  (Nat.toDigits 10 n).length

/-- The least `k` with `mid / den < 10 ^ k`: the place just above the leading digit. -/
def leadingPlace (s : Span) : Int :=
  if s.den ≤ s.mid then digitCount (s.mid / s.den)
  else 1 - (digitCount ((s.den - 1) / s.mid) : Int)

/-- The value is closer to `d` than to the next decimal on the same grid; halfway, the tie rule
decides. -/
def nearerBelow (s : Span) (tie : Tie) (d : Decimal) : Bool :=
  let twice := 2 * s.mid * Nat.pow 10 (-d.exponent).toNat
  let halfway := (2 * d.digits + 1) * Nat.pow 10 d.exponent.toNat * s.den
  match compare twice halfway, tie with
  | .lt, _ => true
  | .gt, _ => false
  | .eq, .even => d.digits % 2 = 0
  | .eq, .up => false

/-- The closest decimal of the interval among the multiples of `10 ^ place`, if there is one. -/
def onGrid (s : Span) (tie : Tie) (place : Int) : Option Decimal :=
  let below : Decimal :=
    ⟨s.mid * Nat.pow 10 (-place).toNat / (s.den * Nat.pow 10 place.toNat), place⟩
  let above : Decimal := ⟨below.digits + 1, place⟩
  match s.contains below, s.contains above with
  | true, true => some (if s.nearerBelow tie below then below else above)
  | true, false => some below
  | false, true => some above
  | false, false => none

end Span

/-! ## Selection -/

/-- The same number without trailing zeros among its digits. -/
def stripZeros (d : Decimal) : Decimal :=
  if 0 < d.digits ∧ d.digits % 10 = 0 then
    stripZeros ⟨d.digits / 10, d.exponent + 1⟩
  else d
termination_by d.digits
decreasing_by exact Nat.div_lt_self (by omega) (by omega)

/-- The value itself: a power of two below one is a power of five over a power of ten. -/
def Binary.exact (x : Binary) : Decimal :=
  if 0 ≤ x.exponent then ⟨x.significand * Nat.pow 2 x.exponent.toNat, 0⟩
  else ⟨x.significand * Nat.pow 5 (-x.exponent).toNat, x.exponent⟩

/-- The decimal with the fewest digits among the reals that round to the value, the closest of
them.  Seventeen digits are always enough; past them the value itself is written. -/
def Binary.shortest (x : Binary) (tie : Tie) : Decimal :=
  let s := x.span
  let found := (List.range 17).findSome? fun (n : Nat) =>
    s.onGrid tie (s.leadingPlace - (n + 1))
  (found.getD x.exact).stripZeros

end Decimal

end Gamebook
