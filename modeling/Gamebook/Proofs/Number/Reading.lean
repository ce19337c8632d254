import Gamebook.Proofs.Number.Valid
import Gamebook.Proofs.Text.Stripping

/-!
# Reading numbers from the bytes of a text

A reader that works on bytes compares the whole text with the spellings of infinity, looks at its
first two bytes for a radix, and leaves what remains to a general reader of decimals.  Such a reader
may know more words, so it is asked only about texts of digits, points, signs and the letter of a
power.  Two bytes may end within a character; then there is no radix, and no text behind it is taken
either.

Main results:

- Theorem `Number.splitBytes?_eq_some_iff`: where a text is split behind some of its bytes.
- Theorem `Number.readByBytes?_decimal?`: the reader by bytes gives the same numbers as the reader
  by characters.
- Theorem `Number.exists_readByBytes?`: with any general reader it never splits a character, and it
  accepts the spellings of numbers and nothing else.
- Theorem `Number.rejects_iff`: which texts have no numeric reading.
-/

namespace Gamebook

namespace Number

/-! ## Bytes -/

/-- A text split behind some of its bytes in UTF-8, unless these end within a character or beyond
the text. -/
def splitBytes? : Nat → List Char → Option (List Char × List Char)
  | 0, cs => some ([], cs)
  | _ + 1, [] => none
  | n + 1, c :: cs =>
    if c.utf8Size ≤ n + 1 then
      (splitBytes? (n + 1 - c.utf8Size) cs).map fun parts => (c :: parts.1, parts.2)
    else none

/-- A character before a text adds its own bytes to it. -/
theorem utf8ByteSize_ofList_cons (c : Char) (cs : List Char) :
    (String.ofList (c :: cs)).utf8ByteSize = c.utf8Size + (String.ofList cs).utf8ByteSize := by
  rw [String.ofList_cons, String.utf8ByteSize_append, String.utf8ByteSize_singleton]

/-- A text is split behind some bytes where its beginning has as many. -/
theorem splitBytes?_eq_some_iff {n : Nat} {cs front rest : List Char} :
    splitBytes? n cs = some (front, rest) ↔
      cs = front ++ rest ∧ (String.ofList front).utf8ByteSize = n := by
  induction n, cs using splitBytes?.induct generalizing front with
  | case1 cs =>
    rw [splitBytes?, String.utf8ByteSize_eq_zero_iff, String.ofList_eq_empty_iff]
    constructor
    · rintro ⟨⟩
      exact ⟨rfl, rfl⟩
    · rintro ⟨rfl, rfl⟩
      rfl
  | case2 n =>
    refine iff_of_false nofun ?_
    rintro ⟨hcs, hsize⟩
    rcases List.append_eq_nil_iff.1 hcs.symm with ⟨rfl, rfl⟩
    cases hsize
  | case3 n c cs hfits ih =>
    rw [splitBytes?, if_pos hfits, Option.map_eq_some_iff]
    constructor
    · rintro ⟨⟨more, behind⟩, hsplit, heq⟩
      cases heq
      rcases ih.1 hsplit with ⟨rfl, hsize⟩
      refine ⟨rfl, ?_⟩
      rw [utf8ByteSize_ofList_cons, hsize]
      omega
    · rintro ⟨hcs, hsize⟩
      cases front with
      | nil => cases hsize
      | cons d more =>
        cases hcs
        rw [utf8ByteSize_ofList_cons] at hsize
        exact ⟨(more, rest), ih.2 ⟨rfl, by omega⟩, rfl⟩
  | case4 n c cs hlarge =>
    -- the bytes end within the first character, so a beginning has none of it or too many
    rw [splitBytes?, if_neg hlarge]
    refine iff_of_false nofun ?_
    rintro ⟨hcs, hsize⟩
    cases front with
    | nil => cases hsize
    | cons d more =>
      cases hcs
      rw [utf8ByteSize_ofList_cons] at hsize
      omega

/-! ## The reader by bytes -/

/-- The radix that the first two bytes of a text tell. -/
def radixOf? (front : List Char) : Option Radix :=
  if front = "0x".toList ∨ front = "0X".toList then some .sixteen
  else if front = "0o".toList ∨ front = "0O".toList then some .eight
  else if front = "0b".toList ∨ front = "0B".toList then some .two
  else none

/-- The number spelled by a text without blanks around it, as a reader by bytes finds it that leaves
decimals to a general reader; nothing where the reader would split a character. -/
def readByBytes? (general? : List Char → Option Float) (cs : List Char) : Option (Option Float) :=
  if cs = [] then some (some 0)
  else if cs = "Infinity".toList ∨ cs = "+Infinity".toList then some (some infinity)
  else if cs = "-Infinity".toList then some (some (-infinity))
  else
    match (splitBytes? 2 cs).bind fun parts => radixOf? parts.1 with
    | some r => (splitBytes? 2 cs).map fun parts => inRadix? r.base parts.2
    | none => some (if cs ⊆ decimalCharacters then general? cs else none)

/-- A radix is told by a zero and one of its letters. -/
theorem radixOf?_eq_some_iff {front : List Char} {r : Radix} :
    radixOf? front = some r ↔ ∃ mark ∈ r.marks, front = ['0', mark] := by
  constructor
  · intro hradix
    unfold radixOf? at hradix
    split at hradix
    · next h =>
      cases hradix
      rcases h with rfl | rfl
      · exact ⟨'x', by decide, rfl⟩
      · exact ⟨'X', by decide, rfl⟩
    split at hradix
    · next h =>
      cases hradix
      rcases h with rfl | rfl
      · exact ⟨'o', by decide, rfl⟩
      · exact ⟨'O', by decide, rfl⟩
    split at hradix
    · next h =>
      cases hradix
      rcases h with rfl | rfl
      · exact ⟨'b', by decide, rfl⟩
      · exact ⟨'B', by decide, rfl⟩
    · cases hradix
  · rintro ⟨mark, hmark, rfl⟩
    cases r <;> rcases List.mem_pair.1 hmark with rfl | rfl <;> decide

/-- A zero and the letter of a radix are two bytes. -/
theorem splitBytes?_of_mark {r : Radix} {mark : Char} (hmark : mark ∈ r.marks) (ds : List Char) :
    splitBytes? 2 ('0' :: mark :: ds) = some (['0', mark], ds) := by
  rw [splitBytes?_eq_some_iff]
  refine ⟨rfl, ?_⟩
  cases r <;> rcases List.mem_pair.1 hmark with rfl | rfl <;> decide

/-- Behind a zero and the letter of a radix, the reader by bytes takes the digits in that radix. -/
theorem readByBytes?_of_mark {r : Radix} {mark : Char} (hmark : mark ∈ r.marks) (ds : List Char)
    (general? : List Char → Option Float) :
    readByBytes? general? ('0' :: mark :: ds) = some (inRadix? r.base ds) := by
  have hradix : radixOf? ['0', mark] = some r := radixOf?_eq_some_iff.2 ⟨mark, hmark, rfl⟩
  rw [readByBytes?, if_neg (by simp), if_neg (by simp), if_neg (by simp),
    splitBytes?_of_mark hmark, Option.bind_some, hradix]
  rfl

/-- The spellings of infinity have nothing but a sign before the word. -/
theorem eq_infinity_iff (cs : List Char) :
    (cs = "Infinity".toList ∨ cs = "+Infinity".toList ↔
      (splitSign cs).2 = "Infinity".toList ∧ (splitSign cs).1 = false) ∧
    (cs = "-Infinity".toList ↔
      (splitSign cs).2 = "Infinity".toList ∧ (splitSign cs).1 = true) := by
  have hplus : "+Infinity".toList = '+' :: "Infinity".toList := rfl
  have hminus : "-Infinity".toList = '-' :: "Infinity".toList := rfl
  have hfirst : ∀ c rest, "Infinity".toList = c :: rest → c = 'I' := fun _ _ h =>
    (List.cons.inj h).1.symm
  rw [hplus, hminus]
  generalize "Infinity".toList = word at hfirst ⊢
  unfold splitSign
  split
  · next rest =>
    have hne : '-' :: rest ≠ word := fun h => absurd (hfirst _ _ h.symm) (by decide)
    simp [hne]
  · next rest =>
    have hne : '+' :: rest ≠ word := fun h => absurd (hfirst _ _ h.symm) (by decide)
    simp [hne]
  · next hnotMinus hnotPlus =>
    have hne : cs ≠ '-' :: word := hnotMinus word
    have hne' : cs ≠ '+' :: word := hnotPlus word
    simp [hne, hne']

/-- No radix is found in the first two bytes where no zero with the letter of a radix is. -/
theorem radixOf?_eq_none {cs : List Char} (hmarked : ¬IsMarked cs) :
    ((splitBytes? 2 cs).bind fun parts => radixOf? parts.1) = none := by
  rw [Option.bind_eq_none_iff]
  rintro ⟨front, rest⟩ hsplit
  rcases hradix : radixOf? front with _ | r
  · rfl
  · rcases radixOf?_eq_some_iff.1 hradix with ⟨mark, hmem, rfl⟩
    exact absurd ⟨r, mark, rest, hmem, (splitBytes?_eq_some_iff.1 hsplit).1⟩ hmarked

/-- A text that is not empty is `Infinity` to the reader by bytes, or left to the general reader,
where no zero with the letter of a radix begins it. -/
theorem readByBytes?_of_not_isMarked {cs : List Char} (hne : cs ≠ []) (hmarked : ¬IsMarked cs)
    (general? : List Char → Option Float) :
    readByBytes? general? cs =
      some (if (splitSign cs).2 = "Infinity".toList then
        some (if (splitSign cs).1 then -infinity else infinity)
      else if cs ⊆ decimalCharacters then general? cs else none) := by
  rcases eq_infinity_iff cs with ⟨hgreatest, hleast⟩
  rw [readByBytes?, if_neg hne, radixOf?_eq_none hmarked]
  by_cases hword : (splitSign cs).2 = "Infinity".toList
  · rw [if_pos hword]
    cases hminus : (splitSign cs).1 with
    | false =>
      rw [if_pos (hgreatest.2 ⟨hword, hminus⟩)]
      rfl
    | true =>
      have hnot : ¬(cs = "Infinity".toList ∨ cs = "+Infinity".toList) := fun h => by
        rw [hminus] at hgreatest
        cases (hgreatest.1 h).2
      rw [if_neg hnot, if_pos (hleast.2 ⟨hword, hminus⟩)]
      rfl
  · rw [if_neg fun h => hword (hgreatest.1 h).1, if_neg fun h => hword (hleast.1 h).1, if_neg hword]

/-- The general reader accepts, among the texts of characters of decimals, the decimals. -/
def ReadsDecimals (general? : List Char → Option Float) : Prop :=
  ∀ cs : List Char, cs ⊆ decimalCharacters →
    ((general? cs).isSome = true ↔ IsDecimal cs)

/-- Asked about texts of characters of decimals only, a general reader accepts the decimals. -/
theorem ReadsDecimals.isSome_iff {general? : List Char → Option Float}
    (hgeneral : ReadsDecimals general?) (cs : List Char) :
    (if cs ⊆ decimalCharacters then general? cs else none).isSome = true ↔
      IsDecimal cs := by
  split
  · next hall => exact hgeneral cs hall
  · next hnot =>
    exact iff_of_false Bool.false_ne_true fun hcs => hnot hcs.subset

/-- With any general reader the reader by bytes splits no character, and it accepts the spellings of
numbers and nothing else. -/
theorem exists_readByBytes? {general? : List Char → Option Float}
    (hgeneral : ReadsDecimals general?) (cs : List Char) :
    ∃ reading, readByBytes? general? cs = some reading ∧
      (reading.isSome = true ↔ IsNumeral cs) := by
  by_cases hempty : cs = []
  · subst hempty
    exact ⟨some 0, rfl, iff_of_true rfl .empty⟩
  by_cases hmarked : IsMarked cs
  · rcases hmarked with ⟨r, mark, ds, hmark, rfl⟩
    refine ⟨_, readByBytes?_of_mark hmark ds general?, ?_⟩
    rw [isSome_inRadix?, isNumeral_of_mark hmark]
  refine ⟨_, readByBytes?_of_not_isMarked hempty hmarked general?, ?_⟩
  rw [← isSome_spelled?_iff, spelled?_of_not_isMarked hempty hmarked]
  split
  · exact iff_of_true rfl rfl
  · rw [hgeneral.isSome_iff, isSome_decimal?_iff]

/-- The reader by bytes finds the same numbers as the reader by characters. -/
theorem readByBytes?_decimal? (cs : List Char) : readByBytes? decimal? cs = some (spelled? cs) := by
  by_cases hempty : cs = []
  · subst hempty
    rfl
  by_cases hmarked : IsMarked cs
  · rcases hmarked with ⟨r, mark, ds, hmark, rfl⟩
    rw [readByBytes?_of_mark hmark, spelled?_of_mark hmark]
  rw [readByBytes?_of_not_isMarked hempty hmarked, spelled?_of_not_isMarked hempty hmarked]
  by_cases hall : cs ⊆ decimalCharacters
  · rw [if_pos hall]
  · have hdecimal : decimal? cs = none := Option.not_isSome_iff_eq_none.1 fun hread =>
      hall (isSome_decimal?_iff.1 hread).subset
    rw [if_neg hall, hdecimal]

/-! ## Rejected texts -/

/-- A text is rejected exactly when what is left of it without the blanks at its ends is no spelling
of a number. -/
theorem read?_eq_none_iff {text : String} :
    read? text = none ↔ ¬IsNumeral (Text.trimBlanks text.toList) := by
  rw [← isSome_spelled?_iff, Option.not_isSome_iff_eq_none, read?]

/-- NaN is the reading of the rejected texts and of no others. -/
theorem isNaN_ofText_iff {text : String} : (ofText text).isNaN = true ↔ read? text = none := by
  rw [ofText]
  cases hread : read? text with
  | none => exact iff_of_true (by decide +kernel) rfl
  | some x =>
    have hvalid : x.isNaN = false := isNaN_of_spelled? hread
    rw [Option.getD_some, hvalid]
    exact iff_of_false Bool.false_ne_true nofun

/-- The texts without a numeric reading are those that are no spelling of a number once the blanks
at their ends are gone, among them all with other characters than those of spellings; and a reader
by bytes comes to the same with any general reader, never splitting a character. -/
theorem rejects_iff (text : String) :
    let s := Text.trimBlanks text.toList
    (∀ left, Text.Stripped text.toList left ↔ left = s) ∧
    (read? text = none ↔ ¬IsNumeral s) ∧
    ((ofText text).isNaN = true ↔ ¬IsNumeral s) ∧
    (∀ c ∈ s, c ∉ characters → read? text = none) ∧
    (∀ spelling ∈ ["inf", "nan", "1_000", "-0x10", "0x", ".", "1e"], read? spelling = none) ∧
    readByBytes? decimal? s = some (read? text) ∧
    ∀ general?, ReadsDecimals general? →
      ∃ reading, readByBytes? general? s = some reading ∧ (reading = none ↔ ¬IsNumeral s) := by
  have hother : ∀ c ∈ Text.trimBlanks text.toList, c ∉ characters → read? text = none := by
    intro c hc hnot
    exact read?_eq_none_iff.2 fun hnumeral => hnot (hnumeral.subset hc)
  have hspellings : ["inf", "nan", "1_000", "-0x10", "0x", ".", "1e"].all
      (fun spelling => (read? spelling).isNone) = true := by decide +kernel
  refine ⟨fun _ => Text.stripped_iff, read?_eq_none_iff, isNaN_ofText_iff.trans read?_eq_none_iff,
    hother, ?_, readByBytes?_decimal? _, ?_⟩
  · intro spelling hspelling
    exact Option.isNone_iff_eq_none.1 (List.all_eq_true.1 hspellings spelling hspelling)
  · intro general? hgeneral
    rcases exists_readByBytes? hgeneral (Text.trimBlanks text.toList) with ⟨reading, hread, hsome⟩
    refine ⟨reading, hread, ?_⟩
    rw [← hsome, Option.not_isSome_iff_eq_none]

/-- A general reader that knows a word for infinity. -/
def wordOrDecimal? (cs : List Char) : Option Float :=
  if cs = "inf".toList then some infinity else decimal? cs

/-- The word is rejected although the general reader knows it. -/
theorem rejects_word :
    ReadsDecimals wordOrDecimal? ∧ wordOrDecimal? "inf".toList = some infinity ∧
      readByBytes? wordOrDecimal? (Text.trimBlanks "inf".toList) = some none := by
  have hgeneral : ReadsDecimals wordOrDecimal? := by
    intro cs hcs
    have hne : cs ≠ "inf".toList := fun h => absurd (h ▸ hcs) (by decide)
    rw [wordOrDecimal?, if_neg hne, isSome_decimal?_iff]
  rcases rejects_iff "inf" with ⟨-, hrejects, -, -, hspellings, -, hbytes⟩
  rcases hbytes wordOrDecimal? hgeneral with ⟨reading, hread, hnone⟩
  have hnot : read? "inf" = none := hspellings "inf" List.mem_cons_self
  rw [hread, hnone.2 (hrejects.1 hnot)]
  exact ⟨hgeneral, rfl, rfl⟩

end Number

end Gamebook
