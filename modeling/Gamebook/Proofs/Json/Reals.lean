import Gamebook.Proofs.Json.Scaling

/-!
# Numbers that come back from documents

The text of a finite number is read as a finite number.  It need not be the same one, since a reader
rounds what it scales, but it is never refused: the digits that are written are the shortest of
those that round to the number, and they stand for a number within the finite ones.

Main results:

- Definition `Numeral.Parts.Spells`: a numeral that spells a decimal.
- Theorem `Numeral.exists_spells`: the text of a decimal is such a numeral.
- Theorem `scan_numberText`: the text of a finite number is read as a finite number.
- Definition `reread`: what the text of a value is read as.
- Theorem `reread_eq_self`: a value whose numbers read back is read as itself.
-/

namespace Gamebook

namespace Json

namespace Numeral

/-! ## Digits -/

/-- Zeros behind digits are powers of ten. -/
theorem foldl_replicate_zero (n count : ℕ) :
    (List.replicate count '0').foldl Number.appendDigit n = n * 10 ^ count := by
  induction count generalizing n with
  | zero => exact (Nat.mul_one n).symm
  | succ count ih =>
    rw [List.replicate_succ, List.foldl_cons, ih]
    have hzero : Number.appendDigit n '0' = 10 * n := rfl
    rw [hzero, Nat.pow_succ']
    ring

/-- Zeros before digits do not count. -/
theorem natOfDigits_replicate_append (count : ℕ) (digits : List Char) :
    Number.natOfDigits (List.replicate count '0' ++ digits) = Number.natOfDigits digits := by
  rw [Number.natOfDigits, List.foldl_append, foldl_replicate_zero, Nat.zero_mul, Number.natOfDigits]

/-- Digits spell a number below the power of ten of their count. -/
theorem foldl_appendDigit_lt {digits : List Char} (hdigits : ∀ c ∈ digits, c.isDigit = true)
    (n : ℕ) : digits.foldl Number.appendDigit n < (n + 1) * 10 ^ digits.length := by
  induction digits generalizing n with
  | nil => exact Nat.lt_of_lt_of_eq (Nat.lt_succ_self n) (Nat.mul_one _).symm
  | cons c digits ih =>
    obtain ⟨hc, hrest⟩ := List.forall_mem_cons.1 hdigits
    have hdigit : c.toNat - '0'.toNat < 10 := by
      rw [Char.isDigit, Bool.and_eq_true, decide_eq_true_eq, decide_eq_true_eq] at hc
      have hle : c.toNat ≤ 57 := UInt32.le_iff_toNat_le.1 hc.2
      have hzero : '0'.toNat = 48 := rfl
      omega
    calc (c :: digits).foldl Number.appendDigit n
        < (Number.appendDigit n c + 1) * 10 ^ digits.length := ih hrest _
      _ ≤ (10 * (n + 1)) * 10 ^ digits.length := by
        apply Nat.mul_le_mul_right
        rw [Number.appendDigit]
        omega
      _ = (n + 1) * 10 ^ (digits.length + 1) := by ring

/-- The digits of a positive number start with no zero. -/
theorem toDigits_ne_zero_cons {n : ℕ} (hn : 0 < n) (rest : List Char) :
    Nat.toDigits 10 n ≠ '0' :: rest := by
  intro hzero
  have hnil := Number.eq_nil_of_toDigits_eq_zero_cons hzero
  have hread := Number.natOfDigits_toDigits n
  rw [hzero, hnil] at hread
  exact absurd hread (Nat.ne_of_lt hn)

theorem areDigits_toDigits (n : ℕ) : AreDigits (Nat.toDigits 10 n) :=
  ⟨Nat.toDigits_ne_nil, fun _ hc => Number.isDigit_of_mem_toDigits hc⟩

/-! ## Written decimals -/

/-- The parts of a number in plain notation. -/
def plainParts (negative : Bool) (digits : List Char) (point : ℤ) : Parts :=
  if point ≤ 0 then ⟨negative, ['0'], some (List.replicate (-point).toNat '0' ++ digits), none⟩
  else if (digits.length : ℤ) ≤ point then
    ⟨negative, digits ++ List.replicate (point - digits.length).toNat '0', some ['0'], none⟩
  else ⟨negative, digits.take point.toNat, some (digits.drop point.toNat), none⟩

/-- The parts of a number in scientific notation. -/
def scientificParts (negative : Bool) (digits : List Char) (power : ℤ) : Parts where
  negative := negative
  integral := digits.take 1
  fraction := if digits.drop 1 = [] then none else some (digits.drop 1)
  power := some (decide (power < 0), Decimal.Layout.digitChars power.natAbs)

section Plain

variable (negative : Bool) {digits : List Char} {point : ℤ}

/-- Plain notation is the text of its parts. -/
theorem text_plainParts (digits : List Char) (point : ℤ) :
    (plainParts negative digits point).text =
      (if negative then ['-'] else []) ++ Json.layout.plain digits point := by
  rw [plainParts, Decimal.Layout.plain]
  split
  · simp [Parts.text, Parts.fractionText, Parts.powerText]
  · split
    · simp [Parts.text, Parts.fractionText, Parts.powerText, Json.layout]
    · simp [Parts.text, Parts.fractionText, Parts.powerText]

/-- Plain notation has a fraction. -/
theorem fraction_plainParts (digits : List Char) (point : ℤ) :
    (plainParts negative digits point).fraction ≠ none := by
  rw [plainParts]
  split
  · exact Option.some_ne_none _
  · split <;> exact Option.some_ne_none _

/-- Zeros are digits. -/
theorem isDigit_of_mem_replicate {count : ℕ} {c : Char} (hc : c ∈ List.replicate count '0') :
    c.isDigit = true := by
  rw [(List.mem_replicate.1 hc).2]
  rfl

/-- Digits without a leading zero are written with none. -/
theorem isWritten_plainParts (hdigits : AreDigits digits) (hzero : ∀ rest, digits ≠ '0' :: rest) :
    (plainParts negative digits point).IsWritten := by
  have hlone : AreDigits ['0'] := ⟨List.cons_ne_nil _ _, List.forall_mem_singleton.2 rfl⟩
  rw [plainParts]
  split
  · refine ⟨hlone, fun rest hrest => (List.cons.inj hrest).2.symm, ?_, fun _ hp => nomatch hp⟩
    rintro _ ⟨⟩
    exact ⟨List.append_ne_nil_of_right_ne_nil _ hdigits.ne_nil, List.forall_mem_append.2
      ⟨fun _ hc => isDigit_of_mem_replicate hc, hdigits.isDigit⟩⟩
  obtain ⟨c, rest, rfl⟩ := List.exists_cons_of_ne_nil hdigits.ne_nil
  have hfirst : c ≠ '0' := fun hc => hzero rest (hc ▸ rfl)
  split
  · refine ⟨⟨List.cons_ne_nil _ _, List.forall_mem_append.2
      ⟨hdigits.isDigit, fun _ hc => isDigit_of_mem_replicate hc⟩⟩, ?_, ?_, fun _ hp => nomatch hp⟩
    · exact fun rest hrest => absurd (List.cons.inj hrest).1 hfirst
    · rintro _ ⟨⟩
      exact hlone
  · next hpos hless =>
    obtain ⟨count, hcount⟩ : ∃ count, point.toNat = count + 1 := ⟨point.toNat - 1, by omega⟩
    rw [hcount]
    refine ⟨⟨List.cons_ne_nil _ _, fun d hd => hdigits.isDigit d (List.mem_of_mem_take hd)⟩, ?_, ?_,
      fun _ hp => nomatch hp⟩
    · exact fun rest hrest => absurd (List.cons.inj hrest).1 hfirst
    · rintro _ ⟨⟩
      refine ⟨?_, fun d hd => hdigits.isDigit d (List.mem_of_mem_drop hd)⟩
      rw [Ne, List.drop_eq_nil_iff]
      omega

/-- Plain notation stands for the digits and the place of the point. -/
theorem magnitude_plainParts (digits : List Char) (point : ℤ) :
    (plainParts negative digits point).magnitude =
      Number.natOfDigits digits * 10 ^ (point - digits.length) := by
  rw [plainParts]
  split
  · have hread : Number.natOfDigits ('0' :: (List.replicate (-point).toNat '0' ++ digits)) =
        Number.natOfDigits digits :=
      natOfDigits_replicate_append _ digits
    have hplaces : powerOf none - ((List.replicate (-point).toNat '0' ++ digits).length : ℤ) =
        point - digits.length := by
      rw [powerOf, List.length_append, List.length_replicate]
      omega
    rw [Parts.magnitude, Parts.digits]
    simp only [Option.getD_some, List.singleton_append]
    rw [hread, hplaces]
  · split
    · next hle =>
      obtain ⟨count, hcount⟩ := Int.eq_ofNat_of_zero_le (Int.sub_nonneg.2 hle)
      have hread : Number.natOfDigits (digits ++ List.replicate count '0' ++ ['0']) =
          Number.natOfDigits digits * 10 ^ (count + 1) := by
        rw [List.append_assoc, ← List.replicate_succ', Number.natOfDigits, List.foldl_append,
          foldl_replicate_zero, Number.natOfDigits]
      rw [Parts.magnitude, Parts.digits]
      simp only [Option.getD_some, hcount, Int.toNat_natCast, hread, powerOf, List.length_singleton]
      rw [Nat.cast_mul, Nat.cast_pow, mul_assoc, zpow_natCast, pow_succ]
      congr 1
      norm_num [mul_assoc]
    · next hpos hless =>
      have hplaces : powerOf none - ((digits.drop point.toNat).length : ℤ) =
          point - digits.length := by
        rw [powerOf, List.length_drop]
        omega
      rw [Parts.magnitude, Parts.digits]
      simp only [Option.getD_some, List.take_append_drop]
      rw [hplaces]

/-- What stands before the point is less than the power of ten at its place. -/
theorem natOfDigits_integral_plainParts (hdigits : AreDigits digits) {places : ℕ}
    (hpoint : point ≤ places) :
    Number.natOfDigits (plainParts negative digits point).integral < 10 ^ places := by
  have hbound : ∀ {ds : List Char}, (∀ c ∈ ds, c.isDigit = true) → ds.length ≤ places →
      Number.natOfDigits ds < 10 ^ places := by
    intro ds hds hlength
    have hless := foldl_appendDigit_lt hds 0
    rw [Nat.zero_add, Nat.one_mul] at hless
    exact Nat.lt_of_lt_of_le hless (Nat.pow_le_pow_right (by decide) hlength)
  rw [plainParts]
  split
  · exact Nat.pow_pos (by decide)
  · split
    · apply hbound
      · exact List.forall_mem_append.2
          ⟨hdigits.isDigit, fun _ hc => isDigit_of_mem_replicate hc⟩
      · rw [List.length_append, List.length_replicate]
        omega
    · apply hbound fun c hc => hdigits.isDigit c (List.mem_of_mem_take hc)
      rw [List.length_take]
      omega

end Plain

section Scientific

variable (negative : Bool) {digits : List Char} {power : ℤ}

/-- Scientific notation is the text of its parts. -/
theorem text_scientificParts (digits : List Char) (power : ℤ) :
    (scientificParts negative digits power).text =
      (if negative then ['-'] else []) ++ Decimal.Layout.scientific digits power := by
  rcases digits with _ | ⟨first, _ | ⟨second, rest⟩⟩ <;>
    simp [Parts.text, Parts.fractionText, Parts.powerText, scientificParts,
      Decimal.Layout.scientific]

/-- Digits without a leading zero are written with none. -/
theorem isWritten_scientificParts (hdigits : AreDigits digits) :
    (scientificParts negative digits power).IsWritten := by
  obtain ⟨c, rest, rfl⟩ := List.exists_cons_of_ne_nil hdigits.ne_nil
  obtain ⟨hc, hrest⟩ := List.forall_mem_cons.1 hdigits.isDigit
  refine ⟨⟨List.cons_ne_nil _ _, List.forall_mem_singleton.2 hc⟩, ?_, ?_, ?_⟩
  · exact fun more hmore => (List.cons.inj hmore).2.symm
  · intro ds hds
    rw [scientificParts, Option.mem_def] at hds
    split at hds
    · cases hds
    · next hne =>
      cases hds
      exact ⟨hne, hrest⟩
  · rintro _ ⟨⟩
    exact areDigits_toDigits power.natAbs

/-- The fraction in scientific notation is all but the first digit. -/
theorem fraction_scientificParts (digits : List Char) (power : ℤ) :
    (scientificParts negative digits power).fraction.getD [] = digits.drop 1 := by
  rw [scientificParts]
  split
  · next hnil => exact hnil.symm
  · rfl

/-- Scientific notation has all digits in their order. -/
theorem digits_scientificParts (digits : List Char) (power : ℤ) :
    (scientificParts negative digits power).digits = digits := by
  rw [Parts.digits, fraction_scientificParts]
  exact List.take_append_drop 1 digits

/-- Scientific notation stands for the digits and the power of the first one. -/
theorem magnitude_scientificParts (digits : List Char) (power : ℤ) :
    (scientificParts negative digits power).magnitude =
      Number.natOfDigits digits * 10 ^ (power - ((digits.length - 1 : ℕ) : ℤ)) := by
  have hpower : powerOf (scientificParts negative digits power).power = power := by
    simp only [scientificParts, powerOf, Decimal.Layout.digitChars, Number.natOfDigits_toDigits,
      decide_eq_true_eq]
    omega
  rw [Parts.magnitude, digits_scientificParts, fraction_scientificParts, hpower, List.length_drop]

end Scientific

/-- A numeral with a fraction or a power of ten spells a decimal. -/
structure Parts.Spells (parts : Parts) (d : Decimal) : Prop where
  written : parts.IsWritten
  real : ¬(parts.fraction = none ∧ parts.power = none)
  integral_lt : Number.natOfDigits parts.integral < UInt64.size
  magnitude : parts.magnitude = d.value
  digits : Number.natOfDigits parts.digits = d.digits ∨ d.value ≤ 10 ^ 308

section Spells

variable (negative : Bool) {d : Decimal} {power : ℤ}
  (hpower : d.exponent + (Nat.toDigits 10 d.digits).length - 1 = power)

include hpower

/-- A decimal is spelled in plain notation unless it is too great. -/
theorem spells_plainParts (hd : 0 < d.digits) (hplain : power < 16) :
    (plainParts negative (Nat.toDigits 10 d.digits) (power + 1)).Spells d where
  written := isWritten_plainParts negative (areDigits_toDigits _) (toDigits_ne_zero_cons hd)
  real hnone := fraction_plainParts negative _ _ hnone.1
  integral_lt := by
    have hpoint : power + 1 ≤ (16 : ℕ) := hplain
    exact Nat.lt_trans (natOfDigits_integral_plainParts negative (areDigits_toDigits _) hpoint)
      (by decide)
  magnitude := by
    rw [magnitude_plainParts, Number.natOfDigits_toDigits, Decimal.value]
    congr 2
    omega
  digits := by
    have hless : (d.digits : ℚ) ≤ 10 ^ (Nat.toDigits 10 d.digits).length := by
      exact_mod_cast Nat.le_of_lt (Decimal.Span.lt_pow_digitCount d.digits)
    right
    calc d.value ≤ 10 ^ (Nat.toDigits 10 d.digits).length * 10 ^ d.exponent :=
          mul_le_mul_of_nonneg_right hless (by positivity)
      _ = 10 ^ (power + 1) := by
        rw [← zpow_natCast, ← zpow_add₀ (by norm_num)]
        congr 1
        omega
      _ ≤ 10 ^ (308 : ℤ) := zpow_le_zpow_right₀ (by norm_num) (by omega)
      _ = 10 ^ 308 := zpow_natCast 10 308

/-- Every decimal is spelled in scientific notation. -/
theorem spells_scientificParts :
    (scientificParts negative (Nat.toDigits 10 d.digits) power).Spells d where
  written := isWritten_scientificParts negative (areDigits_toDigits _)
  real hnone := nomatch hnone.2
  integral_lt := by
    have hfirst : ∀ c ∈ (Nat.toDigits 10 d.digits).take 1, c.isDigit = true :=
      fun c hc => Number.isDigit_of_mem_toDigits (List.mem_of_mem_take hc)
    have hless := foldl_appendDigit_lt hfirst 0
    have hlength : ((Nat.toDigits 10 d.digits).take 1).length ≤ 1 := List.length_take_le 1 _
    rw [Nat.zero_add, Nat.one_mul] at hless
    exact Nat.lt_of_lt_of_le hless
      (Nat.le_trans (Nat.pow_le_pow_right (by decide) hlength) (by decide))
  magnitude := by
    have hlength := List.length_pos_iff.2 (Nat.toDigits_ne_nil (b := 10) (n := d.digits))
    rw [magnitude_scientificParts, Number.natOfDigits_toDigits, Decimal.value]
    congr 2
    omega
  digits := Or.inl (by rw [digits_scientificParts, Number.natOfDigits_toDigits])

end Spells

/-- The text of a positive decimal is a numeral that spells it. -/
theorem exists_spells (negative : Bool) {d : Decimal} (hd : 0 < d.digits) :
    ∃ parts : Parts, parts.Spells d ∧
      parts.text = (if negative then ['-'] else []) ++ Json.layout.decimal d := by
  rw [Decimal.Layout.decimal]
  by_cases hplain : Json.layout.plainFrom ≤ d.exponent + (Nat.toDigits 10 d.digits).length - 1 ∧
      d.exponent + (Nat.toDigits 10 d.digits).length - 1 < Json.layout.plainBelow
  · refine ⟨_, spells_plainParts negative rfl hd hplain.2, ?_⟩
    rw [text_plainParts]
    exact congrArg _ (if_pos hplain).symm
  · refine ⟨_, spells_scientificParts negative rfl, ?_⟩
    rw [text_scientificParts]
    exact congrArg _ (if_neg hplain).symm

/-- A numeral that spells a selected decimal is read as a finite number. -/
theorem exists_scan_eq_real {parts : Parts} {b : Decimal.Binary} {tie : Decimal.Tie}
    (hb : b.IsFinite) (hparts : parts.Spells (b.shortest tie)) :
    ∃ x hx, scan parts.text = some (.real x hx, []) := by
  have hbound : parts.magnitude ≤ 10 ^ 308 ∨ Number.natOfDigits parts.digits ≤ 10 ^ 17 ∧
      parts.magnitude ≤ Finite.greatest := by
    rw [hparts.magnitude]
    rcases hparts.digits with hdigits | hvalue
    · rw [hdigits]
      exact Decimal.Binary.shortest_bounds hb tie
    · exact Or.inl hvalue
  obtain ⟨x, hx, hvalue⟩ := Parts.exists_value_eq_real hparts.real hparts.integral_lt hbound
  refine ⟨x, hx, ?_⟩
  rw [scan, scanParts_text hparts.written, Option.map_some]
  simp only [hvalue]

end Numeral

/-- The text of a finite number is read as a finite number. -/
theorem exists_scan_numberText {x : Float} (hx : x.isFinite = true) :
    ∃ y hy, Numeral.scan (numberText x).toList = some (.real y hy, []) := by
  have hvalid : ¬(x.isNaN || x.isInf) = true := by
    rw [Numeral.isInf_of_isFinite hx, Numeral.isNaN_of_isFinite hx]
    exact Bool.false_ne_true
  rw [numberText, if_neg hvalid, Decimal.Layout.render]
  dsimp only
  rw [apply_ite String.toList, String.toList_ofList, String.toList_ofList]
  split
  · by_cases hnegative : x.toBits >>> 63 = 1
    · simp only [hnegative, decide_true]
      exact ⟨-0, by decide +kernel, rfl⟩
    · simp only [hnegative, decide_false]
      exact ⟨0, by decide +kernel, rfl⟩
  · next hzero =>
    have hb := Decimal.Binary.isFinite_ofBits hx hzero
    have hpos : 0 < ((Decimal.Binary.ofBits x.toBits).shortest layout.tie).digits :=
      Decimal.Binary.digits_shortest_pos hb
    obtain ⟨parts, hparts, htext⟩ := Numeral.exists_spells (decide (x.toBits >>> 63 = 1)) hpos
    simp only [decide_eq_true_eq] at htext
    rw [← htext]
    exact Numeral.exists_scan_eq_real hb hparts

/-- The number that the text of a finite number is read as. -/
def rereadNumber (x : Float) (hx : x.isFinite = true) : { y : Float // y.isFinite = true } :=
  match Numeral.scan (numberText x).toList with
  | some (.real y hy, _) => ⟨y, hy⟩
  | _ => ⟨x, hx⟩

/-- The text of a finite number is read as a number, with nothing left over. -/
theorem scan_numberText {x : Float} (hx : x.isFinite = true) :
    Numeral.scan (numberText x).toList =
      some (.real (rereadNumber x hx).1 (rereadNumber x hx).2, []) := by
  obtain ⟨y, hy, hscan⟩ := exists_scan_numberText hx
  unfold rereadNumber
  simp only [hscan]

/-- A number that reads back is read as itself. -/
theorem ReadsBack.rereadNumber_eq {x : Float} (hx : x.isFinite = true) (hback : ReadsBack x) :
    rereadNumber x hx = ⟨x, hx⟩ := by
  obtain ⟨_, hscan⟩ := hback
  unfold rereadNumber
  simp only [hscan]

/-! ## Values -/

mutual

/-- The value that the text of a value is read as: all numbers that are not whole are replaced by
what their own texts are read as. -/
def reread : Json → Json
  | .null => .null
  | .bool b => .bool b
  | .integer n hn => .integer n hn
  | .real x hx => .real (rereadNumber x hx).1 (rereadNumber x hx).2
  | .text s => .text s
  | .array items => .array (rereadItems items)
  | .object members => .object (rereadMembers members)

/-- The items of an array as they are read. -/
def rereadItems : List Json → List Json
  | [] => []
  | item :: rest => reread item :: rereadItems rest

/-- The members of an object as they are read. -/
def rereadMembers : List (String × Json) → List (String × Json)
  | [] => []
  | (key, value) :: rest => (key, reread value) :: rereadMembers rest

end

/-- Items are read one by one. -/
theorem rereadItems_eq_map (items : List Json) : rereadItems items = items.map reread := by
  induction items with
  | nil => rfl
  | cons item rest ih => rw [rereadItems, ih, List.map_cons]

/-- Members are read one by one. -/
theorem rereadMembers_eq_map (members : List (String × Json)) :
    rereadMembers members = members.map fun (key, value) => (key, reread value) := by
  induction members with
  | nil => rfl
  | cons member rest ih => rw [rereadMembers, ih, List.map_cons]

mutual

/-- The numbers of a value that are not whole. -/
def reals : Json → List Float
  | .real x _ => [x]
  | .array items => realsOfItems items
  | .object members => realsOfMembers members
  | _ => []

/-- The numbers of the items that are not whole. -/
def realsOfItems : List Json → List Float
  | [] => []
  | item :: rest => reals item ++ realsOfItems rest

/-- The numbers of the members that are not whole. -/
def realsOfMembers : List (String × Json) → List Float
  | [] => []
  | (_, value) :: rest => reals value ++ realsOfMembers rest

end

mutual

/-- A value whose numbers read back is read as itself. -/
theorem reread_eq_self : ∀ value : Json, (∀ x ∈ value.reals, ReadsBack x) → value.reread = value
  | .null, _ => rfl
  | .bool _, _ => rfl
  | .integer _ _, _ => rfl
  | .real x hx, hreals => by
    have hback := (hreals x (List.mem_singleton_self x)).rereadNumber_eq hx
    simp only [reread, hback]
  | .text _, _ => rfl
  | .array items, hreals => congrArg array (rereadItems_eq_self items hreals)
  | .object members, hreals => congrArg object (rereadMembers_eq_self members hreals)

/-- Items whose numbers read back are read as themselves. -/
theorem rereadItems_eq_self : ∀ items : List Json, (∀ x ∈ realsOfItems items, ReadsBack x) →
    rereadItems items = items
  | [], _ => rfl
  | item :: items, hreals => by
    rw [rereadItems, reread_eq_self item fun x hx => hreals x (List.mem_append_left _ hx),
      rereadItems_eq_self items fun x hx => hreals x (List.mem_append_right _ hx)]

/-- Members whose numbers read back are read as themselves. -/
theorem rereadMembers_eq_self : ∀ members : List (String × Json),
    (∀ x ∈ realsOfMembers members, ReadsBack x) → rereadMembers members = members
  | [], _ => rfl
  | (key, value) :: members, hreals => by
    rw [rereadMembers, reread_eq_self value fun x hx => hreals x (List.mem_append_left _ hx),
      rereadMembers_eq_self members fun x hx => hreals x (List.mem_append_right _ hx)]

end

end Json

end Gamebook
