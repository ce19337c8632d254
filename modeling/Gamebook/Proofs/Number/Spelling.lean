import Gamebook.Proofs.Number.Digits
import Gamebook.Proofs.Result
import Mathlib.Data.List.Basic

/-!
# Spellings of numbers

Which texts have a numeric reading: the empty one, `Infinity`, whole numbers in three radices behind
a zero and a letter, and decimals.  The grammar is written down apart from the reader, which tries
one kind of spelling after the other and takes a text apart from its beginning.

Main results:

- Definition `Number.IsNumeral`: the grammar.
- Theorem `Number.isSome_inRadix?`: which digits are read in a radix.
- Theorem `Number.isSome_decimal?_iff`: which texts are read as decimals.
- Theorem `Number.isSome_spelled?_iff`: the reader accepts the grammar and nothing else.
- Theorem `Number.IsNumeral.subset`: the characters that stand in spellings.
-/

namespace Gamebook

namespace Number

/-! ## Grammar -/

/-- The decimal digits. -/
def decimalDigits : List Char :=
  "0123456789".toList

/-- The radices, apart from ten, in which whole numbers are spelled. -/
inductive Radix where
  | sixteen
  | eight
  | two
  deriving DecidableEq

namespace Radix

/-- The radix as a number. -/
def base : Radix → Nat
  | sixteen => 16
  | eight => 8
  | two => 2

/-- The letters that tell the radix behind a zero. -/
def marks : Radix → List Char
  | sixteen => ['x', 'X']
  | eight => ['o', 'O']
  | two => ['b', 'B']

/-- The digits of the radix. -/
def digits : Radix → List Char
  | sixteen => "0123456789abcdefABCDEF".toList
  | eight => "01234567".toList
  | two => "01".toList

end Radix

/-- Nothing, a plus or a minus. -/
inductive IsSign : List Char → Prop
  | none : IsSign []
  | plus : IsSign ['+']
  | minus : IsSign ['-']

/-- One or more of some digits. -/
structure AreDigits (digits cs : List Char) : Prop where
  ne_nil : cs ≠ []
  mem : ∀ c ∈ cs, c ∈ digits

/-- Decimal digits with an optional point and optional further digits, or a point and at least one
digit. -/
inductive IsMantissa : List Char → Prop
  | whole {ds : List Char} (hds : AreDigits decimalDigits ds) : IsMantissa ds
  | point {ds further : List Char} (hds : AreDigits decimalDigits ds)
    (hfurther : ∀ c ∈ further, c ∈ decimalDigits) : IsMantissa (ds ++ '.' :: further)
  | fraction {ds : List Char} (hds : AreDigits decimalDigits ds) : IsMantissa ('.' :: ds)

/-- Nothing, or an `e`, an optional sign and at least one digit. -/
inductive IsPower : List Char → Prop
  | none : IsPower []
  | power {e : Char} {sign ds : List Char} (he : e = 'e' ∨ e = 'E') (hsign : IsSign sign)
    (hds : AreDigits decimalDigits ds) : IsPower (e :: (sign ++ ds))

/-- A decimal: an optional sign, a mantissa and an optional power of ten. -/
inductive IsDecimal : List Char → Prop
  | parts {sign mantissa power : List Char} (hsign : IsSign sign) (hmantissa : IsMantissa mantissa)
    (hpower : IsPower power) : IsDecimal (sign ++ (mantissa ++ power))

/-- A spelling of a number. -/
inductive IsNumeral : List Char → Prop
  | empty : IsNumeral []
  | infinity {sign : List Char} (hsign : IsSign sign) : IsNumeral (sign ++ "Infinity".toList)
  | radix (r : Radix) {mark : Char} {ds : List Char} (hmark : mark ∈ r.marks)
    (hds : AreDigits r.digits ds) : IsNumeral ('0' :: mark :: ds)
  | decimal {cs : List Char} (hcs : IsDecimal cs) : IsNumeral cs

/-! ## Digits -/

/-- Two tests that only characters of ASCII pass are the same where they agree on these. -/
theorem eq_of_ascii {p q : Char → Bool} (hp : ∀ c, p c = true → c.toNat < 128)
    (hq : ∀ c, q c = true → c.toNat < 128)
    (hascii : ∀ n < 128, p (Char.ofNat n) = q (Char.ofNat n)) (c : Char) : p c = q c := by
  by_cases hc : c.toNat < 128
  · have hagree := hascii c.toNat hc
    rwa [Char.ofNat_toNat] at hagree
  · have hnot : ∀ {b : Bool}, (b = true → c.toNat < 128) → b = false := fun hb =>
      Bool.eq_false_iff.2 fun h => hc (hb h)
    rw [hnot (hp c), hnot (hq c)]

/-- The characters with a value in a radix are its digits. -/
theorem isSome_digitValue? (r : Radix) (c : Char) :
    (digitValue? r.base c).isSome = decide (c ∈ r.digits) := by
  refine eq_of_ascii (p := fun c => (digitValue? r.base c).isSome)
    (q := fun c => decide (c ∈ r.digits)) ?_ ?_ ?_ c
  · intro c hc
    by_contra hlarge
    have hle : ∀ d : Char, d.toNat < 128 → ¬c ≤ d := fun d hd hcd =>
      hlarge (Nat.lt_of_le_of_lt (UInt32.le_iff_toNat_le.1 hcd) hd)
    simp [digitValue?, hle] at hc
  · intro c hc
    have hall : r.digits.all (fun d => decide (d.toNat < 128)) = true := by cases r <;> decide
    exact of_decide_eq_true (List.all_eq_true.1 hall c (of_decide_eq_true hc))
  · cases r <;> decide +kernel

/-- The decimal digits are ten characters. -/
theorem isDigit_iff {c : Char} : c.isDigit = true ↔ c ∈ decimalDigits := by
  have heq : c.isDigit = decide (c ∈ decimalDigits) := by
    refine eq_of_ascii (q := fun c => decide (c ∈ decimalDigits)) ?_ ?_ ?_ c
    · intro c hc
      rw [Char.isDigit, Bool.and_eq_true] at hc
      have hle : c.toNat ≤ 57 := UInt32.le_iff_toNat_le.1 (of_decide_eq_true hc.2)
      omega
    · intro c hc
      have hall : decimalDigits.all (fun d => decide (d.toNat < 128)) = true := by decide
      exact of_decide_eq_true (List.all_eq_true.1 hall c (of_decide_eq_true hc))
    · decide +kernel
  rw [heq, decide_eq_true_eq]

/-- Some characters are digits exactly when there is one and all are decimal digits. -/
theorem areDigits_iff {cs : List Char} :
    AreDigits decimalDigits cs ↔ cs ≠ [] ∧ cs.all Char.isDigit = true := by
  rw [List.all_eq_true]
  simp only [isDigit_iff]
  exact ⟨fun h => ⟨h.ne_nil, h.mem⟩, fun h => ⟨h.1, h.2⟩⟩

/-- Digits of a radix, at least one, are read in it, and nothing else. -/
theorem isSome_inRadix? (r : Radix) (ds : List Char) :
    (inRadix? r.base ds).isSome = true ↔ AreDigits r.digits ds := by
  unfold inRadix?
  split
  · next hnil =>
    subst hnil
    exact iff_of_false Bool.false_ne_true fun hds => hds.ne_nil rfl
  · next hne =>
    simp only [Option.isSome_map, isSome_mapM, isSome_digitValue?, decide_eq_true_eq]
    exact ⟨fun hmem => ⟨hne, hmem⟩, fun hds => hds.mem⟩

/-! ## Parts of a decimal -/

/-- What is split off in front is a sign. -/
theorem exists_splitSign (cs : List Char) :
    ∃ sign, IsSign sign ∧ cs = sign ++ (splitSign cs).2 := by
  unfold splitSign
  split
  · exact ⟨['-'], .minus, rfl⟩
  · exact ⟨['+'], .plus, rfl⟩
  · exact ⟨[], .none, rfl⟩

/-- A sign is split off what begins with none. -/
theorem IsSign.splitSign_append {sign rest : List Char} (hsign : IsSign sign)
    (hrest : ∀ c ∈ rest.head?, c ≠ '-' ∧ c ≠ '+') : (splitSign (sign ++ rest)).2 = rest := by
  cases hsign with
  | plus => rfl
  | minus => rfl
  | none =>
    rw [List.nil_append]
    unfold splitSign
    split
    · exact absurd rfl (hrest '-' rfl).1
    · exact absurd rfl (hrest '+' rfl).2
    · rfl

/-- Decimal digits begin with no sign. -/
theorem ne_sign_of_mem {c : Char} (hc : c ∈ decimalDigits) : c ≠ '-' ∧ c ≠ '+' := by
  constructor <;> (rintro rfl; exact absurd hc (by decide))

/-- The readers of decimals take the powers of the grammar. -/
theorem isSome_exponent?_iff {cs : List Char} : (exponent? cs).isSome = true ↔ IsPower cs := by
  cases cs with
  | nil => exact iff_of_true rfl .none
  | cons c rest =>
    have hread : (exponent? (c :: rest)).isSome = true ↔
        (c = 'e' ∨ c = 'E') ∧ AreDigits decimalDigits (splitSign rest).2 := by
      rw [areDigits_iff]
      simp only [exponent?]
      split
      · next h => exact iff_of_true rfl h
      · next h => exact iff_of_false Bool.false_ne_true h
    rw [hread]
    constructor
    · rintro ⟨he, hds⟩
      rcases exists_splitSign rest with ⟨sign, hsign, hsplit⟩
      rw [hsplit]
      exact .power he hsign hds
    · intro hpower
      cases hpower with
      | @power _ sign ds he hsign hds =>
        refine ⟨he, ?_⟩
        rwa [hsign.splitSign_append]
        intro d hd
        exact ne_sign_of_mem (hds.mem d (List.mem_of_head? hd))

/-- A power of ten begins with no digit. -/
theorem IsPower.isDigit_head? {power : List Char} (hpower : IsPower power) :
    ∀ c ∈ power.head?, c.isDigit = false := by
  intro c hc
  cases hpower with
  | none => cases hc
  | power he _ _ =>
    cases hc
    rcases he with rfl | rfl <;> rfl

/-- No fraction is split off a power of ten. -/
theorem IsPower.splitFraction_eq {power : List Char} (hpower : IsPower power) :
    splitFraction power = ([], power) := by
  cases hpower with
  | none => rfl
  | power he _ _ => rcases he with rfl | rfl <;> rfl

/-- A mantissa begins with a digit or with a point. -/
theorem IsMantissa.exists_cons {mantissa : List Char} (hmantissa : IsMantissa mantissa) :
    ∃ c rest, mantissa = c :: rest ∧ (c ∈ decimalDigits ∨ c = '.') := by
  have hdigit : ∀ {ds : List Char}, AreDigits decimalDigits ds →
      ∃ c rest, ds = c :: rest ∧ c ∈ decimalDigits := by
    intro ds hds
    rcases List.exists_cons_of_ne_nil hds.ne_nil with ⟨c, rest, rfl⟩
    exact ⟨c, rest, rfl, hds.mem c List.mem_cons_self⟩
  cases hmantissa with
  | whole hds =>
    rcases hdigit hds with ⟨c, rest, rfl, hc⟩
    exact ⟨c, rest, rfl, Or.inl hc⟩
  | point hds _ =>
    rcases hdigit hds with ⟨c, rest, rfl, hc⟩
    exact ⟨c, _, List.cons_append, Or.inl hc⟩
  | fraction hds => exact ⟨'.', _, rfl, Or.inr rfl⟩

/-- The digits before a point, those behind it, and what follows. -/
def splitMantissa (cs : List Char) : List Char × List Char × List Char :=
  ((splitDigits cs).1, splitFraction (splitDigits cs).2)

/-- What is split off at the beginning are decimal digits. -/
theorem mem_splitDigits {cs : List Char} : ∀ c ∈ (splitDigits cs).1, c ∈ decimalDigits := by
  intro c hc
  exact isDigit_iff.1 (List.all_eq_true.1 List.all_takeWhile c hc)

/-- Where there are digits before or behind the point, a mantissa has been split off. -/
theorem exists_mantissa {cs whole fraction rest : List Char}
    (hsplit : splitMantissa cs = (whole, fraction, rest)) (hne : ¬(whole = [] ∧ fraction = [])) :
    ∃ mantissa, IsMantissa mantissa ∧ cs = mantissa ++ rest := by
  have hcs := splitDigits_append cs
  have hwhole : ∀ c ∈ (splitDigits cs).1, c ∈ decimalDigits := mem_splitDigits
  rw [splitMantissa, Prod.mk.injEq] at hsplit
  rcases hsplit with ⟨rfl, hfraction⟩
  generalize (splitDigits cs).1 = whole at *
  generalize (splitDigits cs).2 = behind at *
  subst hcs
  unfold splitFraction at hfraction
  split at hfraction
  · next more =>
    have hmore := splitDigits_append more
    have hfurther : ∀ c ∈ (splitDigits more).1, c ∈ decimalDigits := mem_splitDigits
    rw [hfraction] at hmore hfurther
    rw [← hmore]
    by_cases hnil : whole = []
    · subst hnil
      exact ⟨'.' :: fraction, .fraction ⟨fun h => hne ⟨rfl, h⟩, hfurther⟩, rfl⟩
    · refine ⟨whole ++ '.' :: fraction, .point ⟨hnil, hwhole⟩ hfurther, ?_⟩
      rw [List.append_assoc, List.cons_append]
  · cases hfraction
    exact ⟨whole, .whole ⟨fun h => hne ⟨h, rfl⟩, hwhole⟩, rfl⟩

/-- Digits are split off what begins with none. -/
theorem splitDigits_append_of_mem {ds rest : List Char} (hds : ∀ c ∈ ds, c ∈ decimalDigits)
    (hrest : ∀ c ∈ rest.head?, c.isDigit = false) : splitDigits (ds ++ rest) = (ds, rest) :=
  splitDigits_append_of_all (fun c hc => isDigit_iff.2 (hds c hc)) hrest

/-- A mantissa is split off a power of ten, with digits before or behind the point. -/
theorem IsMantissa.split {mantissa power : List Char} (hmantissa : IsMantissa mantissa)
    (hpower : IsPower power) :
    ∃ whole fraction, splitMantissa (mantissa ++ power) = (whole, fraction, power) ∧
      ¬(whole = [] ∧ fraction = []) := by
  have hdigits := hpower.isDigit_head?
  have hpoint : ∀ more : List Char, ∀ c ∈ ('.' :: more).head?, c.isDigit = false := by
    rintro more _ ⟨⟩
    rfl
  cases hmantissa with
  | whole hds =>
    refine ⟨mantissa, [], ?_, fun hnil => hds.ne_nil hnil.1⟩
    rw [splitMantissa, splitDigits_append_of_mem hds.mem hdigits]
    exact congrArg (Prod.mk mantissa) hpower.splitFraction_eq
  | @point ds further hds hfurther =>
    refine ⟨ds, further, ?_, fun hnil => hds.ne_nil hnil.1⟩
    rw [splitMantissa, List.append_assoc, List.cons_append,
      splitDigits_append_of_mem hds.mem (hpoint _), splitFraction,
      splitDigits_append_of_mem hfurther hdigits]
  | @fraction ds hds =>
    refine ⟨[], ds, ?_, fun hnil => hds.ne_nil hnil.2⟩
    have hnone : splitDigits ([] ++ '.' :: (ds ++ power)) = ([], '.' :: (ds ++ power)) :=
      splitDigits_append_of_mem (List.forall_mem_nil _) (hpoint _)
    rw [List.nil_append] at hnone
    rw [splitMantissa, List.cons_append, hnone, splitFraction,
      splitDigits_append_of_mem hds.mem hdigits]

/-- A decimal is read where a mantissa and a power of ten follow the sign. -/
theorem isSome_decimal? {cs whole fraction rest : List Char}
    (hsplit : splitMantissa (splitSign cs).2 = (whole, fraction, rest)) :
    (decimal? cs).isSome = true ↔ ¬(whole = [] ∧ fraction = []) ∧ IsPower rest := by
  rw [splitMantissa, Prod.mk.injEq] at hsplit
  rcases hsplit with ⟨rfl, hfraction⟩
  simp only [decimal?, hfraction]
  split
  · next hnil => exact iff_of_false Bool.false_ne_true fun h => h.1 hnil
  · next hne => rw [Option.isSome_map, isSome_exponent?_iff, and_iff_right hne]

/-- The texts that are read as decimals are the decimals of the grammar. -/
theorem isSome_decimal?_iff {cs : List Char} : (decimal? cs).isSome = true ↔ IsDecimal cs := by
  constructor
  · intro hread
    rcases hsplit : splitMantissa (splitSign cs).2 with ⟨whole, fraction, rest⟩
    rcases (isSome_decimal? hsplit).1 hread with ⟨hne, hpower⟩
    rcases exists_splitSign cs with ⟨sign, hsign, hcs⟩
    rcases exists_mantissa hsplit hne with ⟨mantissa, hmantissa, hbody⟩
    rw [hcs, hbody]
    exact .parts hsign hmantissa hpower
  · rintro ⟨hsign, hmantissa, hpower⟩
    rcases hmantissa.split hpower with ⟨whole, fraction, hsplit, hne⟩
    refine (isSome_decimal? ?_).2 ⟨hne, hpower⟩
    rw [hsign.splitSign_append, hsplit]
    rcases hmantissa.exists_cons with ⟨c, more, rfl, hc⟩
    rintro _ ⟨⟩
    rcases hc with hc | rfl
    · exact ne_sign_of_mem hc
    · decide

/-! ## Spellings -/

/-- A zero and the letter of a radix begin the text. -/
def IsMarked (cs : List Char) : Prop :=
  ∃ (r : Radix) (mark : Char) (ds : List Char), mark ∈ r.marks ∧ cs = '0' :: mark :: ds

/-- No decimal has a letter of a radix behind a zero. -/
theorem decimal?_of_mark {r : Radix} {mark : Char} (hmark : mark ∈ r.marks) (ds : List Char) :
    decimal? ('0' :: mark :: ds) = none := by
  have hletter : mark.isDigit = false ∧ mark ≠ '.' ∧ ¬(mark = 'e' ∨ mark = 'E') := by
    cases r <;> rcases List.mem_pair.1 hmark with rfl | rfl <;> decide
  have hsplit : splitMantissa (splitSign ('0' :: mark :: ds)).2 = (['0'], [], mark :: ds) := by
    change splitMantissa ('0' :: mark :: ds) = (['0'], [], mark :: ds)
    have hzero : splitDigits (['0'] ++ mark :: ds) = (['0'], mark :: ds) := by
      apply splitDigits_append_of_mem
      · exact List.forall_mem_singleton.2 (by decide)
      · rintro _ ⟨⟩
        exact hletter.1
    rw [List.singleton_append] at hzero
    rw [splitMantissa, hzero]
    unfold splitFraction
    split
    · next heq => exact absurd (List.cons.inj heq).1 hletter.2.1
    · rfl
  apply Option.not_isSome_iff_eq_none.1
  intro hread
  have hpower := ((isSome_decimal? hsplit).1 hread).2
  cases hpower with
  | power he _ _ => exact hletter.2.2 he

/-- A letter tells one radix. -/
theorem Radix.eq_of_mem_marks {r r' : Radix} {mark : Char} (hmark : mark ∈ r.marks)
    (hmark' : mark ∈ r'.marks) : r = r' := by
  cases r <;> rcases List.mem_pair.1 hmark with rfl | rfl <;> cases r' <;> revert hmark' <;>
    decide

/-- Behind a zero and the letter of a radix there are digits of the radix. -/
theorem isNumeral_of_mark {r : Radix} {mark : Char} (hmark : mark ∈ r.marks) {ds : List Char} :
    IsNumeral ('0' :: mark :: ds) ↔ AreDigits r.digits ds := by
  constructor
  · generalize hcs : '0' :: mark :: ds = cs
    intro hnumeral
    cases hnumeral with
    | empty => cases hcs
    | infinity hsign => cases hsign <;> cases hcs
    | radix r' hmark' hds =>
      cases hcs
      rwa [Radix.eq_of_mem_marks hmark hmark']
    | decimal hdecimal =>
      have hread := isSome_decimal?_iff.2 hdecimal
      rw [← hcs, decimal?_of_mark hmark] at hread
      cases hread
  · exact .radix r hmark

/-- Behind a zero and the letter of a radix, the reader takes the digits in that radix. -/
theorem spelled?_of_mark {r : Radix} {mark : Char} (hmark : mark ∈ r.marks) (ds : List Char) :
    spelled? ('0' :: mark :: ds) = inRadix? r.base ds := by
  cases r <;> rcases List.mem_pair.1 hmark with rfl | rfl <;> rfl

/-- A text that is not empty is read as `Infinity` or as a decimal where no zero with the letter of
a radix begins it. -/
theorem spelled?_of_not_isMarked {cs : List Char} (hne : cs ≠ []) (hmarked : ¬IsMarked cs) :
    spelled? cs =
      if (splitSign cs).2 = "Infinity".toList then
        some (if (splitSign cs).1 then -infinity else infinity)
      else decimal? cs := by
  unfold spelled?
  split
  · exact absurd rfl hne
  · next c ds =>
    have hletter : ∀ r : Radix, c ∉ r.marks := fun r hmem => hmarked ⟨r, c, ds, hmem, rfl⟩
    have hsixteen : ¬(c = 'x' ∨ c = 'X') := by simpa [Radix.marks] using hletter .sixteen
    have height : ¬(c = 'o' ∨ c = 'O') := by simpa [Radix.marks] using hletter .eight
    have htwo : ¬(c = 'b' ∨ c = 'B') := by simpa [Radix.marks] using hletter .two
    have hword : (splitSign ('0' :: c :: ds)).2 ≠ "Infinity".toList := fun h => by cases h
    rw [if_neg hsixteen, if_neg height, if_neg htwo, if_neg hword]
  · rfl

/-- The texts that the reader accepts are the spellings of numbers. -/
theorem isSome_spelled?_iff {cs : List Char} : (spelled? cs).isSome = true ↔ IsNumeral cs := by
  by_cases hempty : cs = []
  · subst hempty
    exact iff_of_true rfl .empty
  by_cases hmarked : IsMarked cs
  · rcases hmarked with ⟨r, mark, ds, hmark, rfl⟩
    rw [spelled?_of_mark hmark, isSome_inRadix?, isNumeral_of_mark hmark]
  rw [spelled?_of_not_isMarked hempty hmarked]
  rcases exists_splitSign cs with ⟨sign, hsign, hcs⟩
  constructor
  · intro hread
    by_cases hword : (splitSign cs).2 = "Infinity".toList
    · rw [hcs, hword]
      exact .infinity hsign
    · rw [if_neg hword] at hread
      exact .decimal (isSome_decimal?_iff.1 hread)
  · intro hnumeral
    cases hnumeral with
    | empty => exact absurd rfl hempty
    | radix r hmem _ => exact absurd ⟨r, _, _, hmem, rfl⟩ hmarked
    | infinity hsign =>
      rw [hsign.splitSign_append (by rintro _ ⟨⟩; decide), if_pos rfl]
      rfl
    | decimal hdecimal =>
      split
      · rfl
      · exact isSome_decimal?_iff.2 hdecimal

/-! ## Characters of spellings -/

/-- The characters that stand in decimals. -/
def decimalCharacters : List Char :=
  "0123456789.eE+-".toList

/-- The characters that stand in spellings. -/
def characters : List Char :=
  decimalCharacters ++ "Infinity".toList ++ "xXoObB".toList ++ "abcdefABCDEF".toList

/-- A sign is among the characters of decimals. -/
theorem IsSign.subset {sign : List Char} (hsign : IsSign sign) : sign ⊆ decimalCharacters := by
  cases hsign <;> decide

/-- The decimal digits are among the characters of decimals. -/
theorem decimalDigits_subset : decimalDigits ⊆ decimalCharacters := by
  decide

/-- Some decimal digits are characters of decimals. -/
theorem AreDigits.subset {ds : List Char} (hds : AreDigits decimalDigits ds) :
    ds ⊆ decimalCharacters :=
  fun _ hc => decimalDigits_subset (hds.mem _ hc)

/-- A mantissa has characters of decimals only. -/
theorem IsMantissa.subset {mantissa : List Char} (hmantissa : IsMantissa mantissa) :
    mantissa ⊆ decimalCharacters := by
  have hpoint : '.' ∈ decimalCharacters := by decide
  cases hmantissa with
  | whole hds => exact hds.subset
  | point hds hfurther =>
    rw [List.append_subset, List.cons_subset]
    exact ⟨hds.subset, hpoint, fun _ hc => decimalDigits_subset (hfurther _ hc)⟩
  | fraction hds =>
    rw [List.cons_subset]
    exact ⟨hpoint, hds.subset⟩

/-- A power of ten has characters of decimals only. -/
theorem IsPower.subset {power : List Char} (hpower : IsPower power) :
    power ⊆ decimalCharacters := by
  cases hpower with
  | none => exact List.nil_subset _
  | power he hsign hds =>
    rw [List.cons_subset, List.append_subset]
    refine ⟨?_, hsign.subset, hds.subset⟩
    rcases he with rfl | rfl <;> decide

/-- A decimal has characters of decimals only. -/
theorem IsDecimal.subset {cs : List Char} (hcs : IsDecimal cs) : cs ⊆ decimalCharacters := by
  rcases hcs with ⟨hsign, hmantissa, hpower⟩
  rw [List.append_subset, List.append_subset]
  exact ⟨hsign.subset, hmantissa.subset, hpower.subset⟩

/-- A spelling has no other characters than those of spellings. -/
theorem IsNumeral.subset {cs : List Char} (hcs : IsNumeral cs) : cs ⊆ characters := by
  have hdecimal : decimalCharacters ⊆ characters := by decide
  cases hcs with
  | empty => exact List.nil_subset _
  | infinity hsign =>
    rw [List.append_subset]
    exact ⟨List.Subset.trans hsign.subset hdecimal, by decide⟩
  | radix r hmark hds =>
    have hmarks : r.marks ⊆ characters := by cases r <;> decide
    have hdigits : r.digits ⊆ characters := by cases r <;> decide
    rw [List.cons_subset, List.cons_subset]
    exact ⟨by decide, hmarks hmark, fun _ hc => hdigits (hds.mem _ hc)⟩
  | decimal hdec => exact List.Subset.trans hdec.subset hdecimal

end Number

end Gamebook
