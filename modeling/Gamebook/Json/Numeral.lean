import Gamebook.Number
import Gamebook.Number.Finite

/-!
# Numerals of documents

The numbers of a JSON text.  Whole numbers of at most 64 bits are exact; all others are read as a
64-bit significand times a power of ten, one floating-point operation for the scaling.

- `Numeral.scan` splits a numeral off a text, following the grammar of JSON numbers.
- `Parts.value` is the value of its parts.
-/

namespace Gamebook

namespace Json

/-- The whole numbers that are exact: those of 64 bits, with a sign or without. -/
abbrev IsExact (n : Int) : Prop :=
  Int64.minValue.toInt ≤ n ∧ n < UInt64.size

/-- The value of a numeral. -/
inductive Numeral where
  /-- A whole number of 64 bits that is written without fraction and exponent. -/
  | whole (n : Int) (hn : IsExact n)
  /-- Any other number that is finite. -/
  | real (x : Float) (hx : x.isFinite = true)
  /-- A number beyond the finite ones. -/
  | tooLarge

namespace Numeral

/-! ## Parts -/

/-- The parts of a numeral as it is written. -/
structure Parts where
  negative : Bool
  integral : List Char
  fraction : Option (List Char)
  /-- The sign of the exponent, true for a minus, and its digits. -/
  power : Option (Bool × List Char)

/-- The integral part: a lone zero, or digits that do not start with a zero. -/
def scanIntegral (cs : List Char) : Option (List Char × List Char) :=
  match Number.splitDigits cs with
  | ([], _) => none
  | ('0' :: _ :: _, _) => none
  | split => some split

/-- The part after the point, at least one digit, if there is a point. -/
def scanFraction : List Char → Option (Option (List Char) × List Char)
  | '.' :: rest =>
    match Number.splitDigits rest with
    | ([], _) => none
    | (digits, rest) => some (some digits, rest)
  | cs => some (none, cs)

/-- The exponent, an optional sign and at least one digit, if there is one. -/
def scanPower : List Char → Option (Option (Bool × List Char) × List Char)
  | [] => some (none, [])
  | c :: rest =>
    if c = 'e' ∨ c = 'E' then
      let (negative, body) := Number.splitSign rest
      match Number.splitDigits body with
      | ([], _) => none
      | (digits, rest) => some (some (negative, digits), rest)
    else some (none, c :: rest)

/-- An optional minus at the front. -/
def scanMinus : List Char → Bool × List Char
  | '-' :: rest => (true, rest)
  | cs => (false, cs)

/-- Splits the parts of a numeral off the front of a text. -/
def scanParts (cs : List Char) : Option (Parts × List Char) := do
  let (negative, body) := scanMinus cs
  let (integral, rest) ← scanIntegral body
  let (fraction, rest) ← scanFraction rest
  let (power, rest) ← scanPower rest
  some ({ negative, integral, fraction, power }, rest)

/-! ## Value -/

/-- Appends digits to a significand while it stays below `2 ^ 64`; the digits from the first one
that does not fit are left over. -/
def extend (significand : Nat) : List Char → Nat × List Char
  | [] => (significand, [])
  | c :: rest =>
    let longer := Number.appendDigit significand c
    if longer < UInt64.size then extend longer rest else (significand, c :: rest)

/-- A significand stays below `2 ^ 64`. -/
theorem extend_lt {significand : Nat} (hsignificand : significand < UInt64.size)
    (digits : List Char) : (extend significand digits).1 < UInt64.size := by
  induction digits generalizing significand with
  | nil => exact hsignificand
  | cons c rest ih =>
    rw [extend]
    split
    · next hlonger => exact ih hlonger
    · exact hsignificand

/-- A power of ten as a number. -/
def tenTo (power : Nat) : Float :=
  Float.ofScientific 1 false power

/-- The greatest power of ten that is a finite number is at least two. -/
theorem atLeast_tenTo_greatest {power : Nat} (hpower : power = 308) :
    Finite.AtLeast 1 (tenTo power).toModel.unpack :=
  Finite.atLeast_tenTo_greatest (List.mem_singleton.2 hpower)

/-- Divides by a power of ten, by at most `10 ^ 308` at a time. -/
def shrink (x : Float) (power : Nat) : Float :=
  if power ≤ 308 then x / tenTo power
  else if x == 0 then x
  else shrink (x / tenTo 308) (power - 308)
termination_by power

/-- Dividing a number of 64 bits by powers of ten gives finite numbers. -/
theorem isFinite_shrink {x : Float} (hx : Finite.Fits 12 x.toModel.unpack) (power : Nat) :
    (shrink x power).isFinite = true := by
  fun_induction shrink x power with
  | case1 x power hpower =>
    have hfits := Finite.fits_div 12 hx (Finite.atLeast_tenTo hpower) (by decide) (by decide)
    exact (hfits.packed (by decide)).isFinite
  | case2 x power hpower hzero => exact hx.isFinite
  | case3 x power hpower hzero ih =>
    -- the divisor is at least two, so the quotient is no greater than what is divided
    have hfits := Finite.fits_div 11 hx (atLeast_tenTo_greatest rfl) (by decide) (by decide)
    exact ih (hfits.packed (by decide))

/-- A significand times a power of ten, if it is finite. -/
def scaled (significand : Nat) (power : Int) : Option { x : Float // x.isFinite = true } :=
  let x := significand.toUInt64.toFloat
  if significand = 0 then some ⟨x, Finite.isFinite_toFloat _⟩
  else if hneg : power < 0 then
    some ⟨shrink x power.natAbs, isFinite_shrink (Finite.fits_toFloat _) _⟩
  else if hpower : 308 < power then none
  else
    if hinf : (x * tenTo power.natAbs).isInf then none
    else
      some ⟨x * tenTo power.natAbs,
        Finite.isFinite_mul (Finite.isFinite_toFloat _)
          (Finite.AtLeast.isFinite (Finite.atLeast_tenTo (by omega))) (Bool.eq_false_iff.2 hinf)⟩

/-- The power of ten that an exponent stands for. -/
def powerOf (power : Option (Bool × List Char)) : Int :=
  match power with
  | none => 0
  | some (negative, digits) =>
    let magnitude := Number.natOfDigits digits
    if negative then -magnitude else magnitude

/-- The whole number of a significand with its sign. -/
def signed (negative : Bool) (significand : Nat) : Int :=
  if negative then -significand else significand

/-- A significand of 64 bits with its sign is exact, unless it is too far below zero. -/
theorem isExact_signed {negative : Bool} {significand : Nat} (hlt : significand < UInt64.size)
    (hleast : Int64.minValue.toInt ≤ signed negative significand) :
    IsExact (signed negative significand) := by
  refine ⟨hleast, ?_⟩
  have hsize : (significand : Int) < UInt64.size := Int.ofNat_lt.2 hlt
  rw [signed]
  split
  · omega
  · exact hsize

/-- The value of the parts of a numeral.  Digits of the integral part that do not fit the
significand count as powers of ten, such digits of the fraction are dropped. -/
def Parts.value (parts : Parts) : Numeral :=
  let integral := extend 0 parts.integral
  if hwhole : (parts.fraction = none ∧ parts.power = none ∧ integral.2 = [] ∧
      ¬(parts.negative ∧ integral.1 = 0)) ∧
      Int64.minValue.toInt ≤ signed parts.negative integral.1 then
    .whole (signed parts.negative integral.1)
      (isExact_signed (extend_lt (by decide) parts.integral) hwhole.2)
  else
    let fraction := parts.fraction.getD []
    let (significand, dropped) := extend integral.1 fraction
    let power := integral.2.length - (fraction.length - dropped.length : Int) + powerOf parts.power
    match scaled significand power with
    | none => .tooLarge
    | some x =>
      if parts.negative then .real (-x.1) (Finite.isFinite_neg x.2) else .real x.1 x.2

/-! ## Scanning -/

/-- Splits a numeral off the front of a text. -/
def scan (cs : List Char) : Option (Numeral × List Char) :=
  (scanParts cs).map fun (parts, rest) => (parts.value, rest)

theorem length_scanMinus_le (cs : List Char) : (scanMinus cs).2.length ≤ cs.length := by
  unfold scanMinus
  split <;> simp

theorem length_splitSign_le (cs : List Char) : (Number.splitSign cs).2.length ≤ cs.length := by
  unfold Number.splitSign
  split <;> simp

theorem length_splitDigits (cs : List Char) :
    (Number.splitDigits cs).1.length + (Number.splitDigits cs).2.length = cs.length := by
  rw [← List.length_append, Number.splitDigits_append]

theorem length_scanIntegral {cs digits rest : List Char}
    (h : scanIntegral cs = some (digits, rest)) : rest.length < cs.length := by
  have hlen := length_splitDigits cs
  unfold scanIntegral at h
  split at h
  · cases h
  · cases h
  · next hne _ =>
    have hsplit := Option.some.inj h
    have hpos : digits ≠ [] := fun hd => hne rest (by rw [hsplit, hd])
    have := List.length_pos_iff.2 hpos
    rw [hsplit] at hlen
    simp only at hlen
    omega

theorem length_scanFraction_le {cs rest : List Char} {fraction : Option (List Char)}
    (h : scanFraction cs = some (fraction, rest)) : rest.length ≤ cs.length := by
  unfold scanFraction at h
  split at h
  · next body =>
    have hlen := length_splitDigits body
    split at h
    · cases h
    · next hsplit =>
      cases h
      rw [hsplit] at hlen
      simp only [List.length_cons] at hlen ⊢
      omega
  · cases h
    exact Nat.le_refl _

theorem length_scanPower_le {cs rest : List Char} {power : Option (Bool × List Char)}
    (h : scanPower cs = some (power, rest)) : rest.length ≤ cs.length := by
  unfold scanPower at h
  split at h
  · cases h
    exact Nat.le_refl _
  · next c body =>
    split at h
    · have hsign := length_splitSign_le body
      have hlen := length_splitDigits (Number.splitSign body).2
      simp only at h
      split at h
      · cases h
      · next hsplit =>
        cases h
        rw [hsplit] at hlen
        simp only [List.length_cons] at hlen ⊢
        omega
    · cases h
      exact Nat.le_refl _

/-- A numeral has at least one character. -/
theorem length_scan {cs rest : List Char} {n : Numeral} (h : scan cs = some (n, rest)) :
    rest.length < cs.length := by
  have hminus := length_scanMinus_le cs
  simp only [scan, scanParts, Option.map_eq_some_iff, Option.bind_eq_bind,
    Option.bind_eq_some_iff] at h
  obtain ⟨_, ⟨_, hi, _, hf, _, hp, h⟩, h'⟩ := h
  cases h
  cases h'
  have hi := length_scanIntegral hi
  have hf := length_scanFraction_le hf
  have hp := length_scanPower_le hp
  simp only
  omega

end Numeral

end Json

end Gamebook
