import Gamebook.Text.Emoji
import Gamebook.Text.Width.Character

/-!
# What follows a character

Some characters are shown together with those after them: the letters of a ligature in the columns
of one letter, the parts of an emoji in the columns of one picture.  A text is therefore measured
from its end, and a `Tail` tells what the characters after a place make of the one before them.

- `Tail.ofChar` is what a character starts at the end of a text.
- `Tail.pass?` tells which characters may stand between the parts of a ligature.
- `Tail.absorb?` joins a character with what follows and gives the columns that this adds.
-/

namespace Gamebook

namespace Text

/-- What the characters after a place make of the one before them. -/
inductive Tail where
  /-- Nothing. -/
  | plain
  /-- An Arabic alef, which is one letter with a lam before it. -/
  | alef
  /-- A Hebrew lamed, which is one letter with an alef where a joiner stands between them. -/
  | lamed (joined : Bool)
  /-- A Khmer letter that goes below the letter before it where a coeng stands between them. -/
  | khmer
  /-- A Buginese ya, which is one letter with an a, the vowel sign i and a joiner before it. -/
  | ya (joined : Bool)
  /-- A Buginese ya with the vowel sign i and a joiner before it. -/
  | vowelYa
  /-- A Tifinagh consonant, which is one letter with the consonant before it where a joiner stands
  between them. -/
  | tifinagh (joined : Bool)
  /-- A Tifinagh consonant with the consonant joiner of that script before it. -/
  | joinedTifinagh
  /-- A Lisu tone that is written in one column with a tone before it. -/
  | tone
  /-- An Old Turkic letter i, which is one letter with a letter ts where a joiner stands between
  them. -/
  | orkhon (joined : Bool)
  /-- The Kirat Rai vowel sign e, which is a part of the longer vowels. -/
  | vowelE
  /-- The Kirat Rai vowel sign ai, which is a part of the longest vowel. -/
  | vowelAi
  /-- A whole emoji. -/
  | emoji
  /-- A modifier of emoji. -/
  | modifier
  /-- A regional indicator. -/
  | regional
  /-- Two or more regional indicators. -/
  | regionals
  /-- A joiner before an emoji. -/
  | joinedEmoji
  /-- A keycap mark before a joined emoji. -/
  | joinedKeycap
  /-- A regional indicator before a joined emoji. -/
  | joinedRegional
  /-- Two or more regional indicators before a joined emoji. -/
  | joinedRegionals (even : Bool)
  /-- The end of a tag before a joined emoji, with some letters of the tag. -/
  | tagLetters (count : Nat)
  /-- The end of a tag before a joined emoji, with the digits at its start. -/
  | tagDigits (count : Nat)
  deriving Repr, DecidableEq

/-! ## Letters of ligatures -/

/-- The character joins those at its sides. -/
def isJoiner (c : Char) : Bool :=
  c.toNat = 0x200D

/-- The Arabic alefs. -/
def alefRanges : Ranges :=
  [(0x622, 0x623), (0x625, 0x625), (0x627, 0x627), (0x671, 0x673), (0x675, 0x675),
   (0x773, 0x774), (0x870, 0x882)]

/-- The Arabic lams. -/
def lamRanges : Ranges :=
  [(0x644, 0x644), (0x6B5, 0x6B8), (0x76A, 0x76A), (0x8A6, 0x8A6), (0x8C7, 0x8C7)]

/-- The Khmer letters that a coeng puts below the letter before it. -/
def khmerRanges : Ranges :=
  [(0x1780, 0x1782), (0x1784, 0x1787), (0x1789, 0x178C), (0x178E, 0x1793), (0x1795, 0x1798),
   (0x179B, 0x179D), (0x17A0, 0x17A0), (0x17A2, 0x17A2), (0x17A7, 0x17A7), (0x17AB, 0x17AC),
   (0x17AF, 0x17AF)]

/-- The Tifinagh consonants. -/
def tifinaghRanges : Ranges :=
  [(0x2D31, 0x2D65), (0x2D6F, 0x2D6F)]

/-- The Lisu tones that may be the first of two in one column. -/
def firstToneRanges : Ranges :=
  [(0xA4F8, 0xA4FB)]

/-- The Lisu tones that may be the second of two in one column. -/
def secondToneRanges : Ranges :=
  [(0xA4FC, 0xA4FD)]

/-- The code points without a column that keep Arabic letters apart. -/
def barrierRanges : Ranges :=
  [(0x605, 0x605), (0x890, 0x891), (0x8E2, 0x8E2), (0x9BE, 0x9BE), (0x9D7, 0x9D7), (0xB3E, 0xB3E),
   (0xB57, 0xB57), (0xBBE, 0xBBE), (0xBD7, 0xBD7), (0xCC0, 0xCC0), (0xCC2, 0xCC2), (0xCC7, 0xCC8),
   (0xCCA, 0xCCB), (0xCD5, 0xCD6), (0xD3E, 0xD3E), (0xD4E, 0xD4E), (0xD57, 0xD57), (0xDCF, 0xDCF),
   (0xDDF, 0xDDF), (0x1160, 0x11FF), (0x1715, 0x1715), (0x1734, 0x1734), (0x180E, 0x180E),
   (0x1B35, 0x1B35), (0x1B3B, 0x1B3B), (0x1B3D, 0x1B3D), (0x1B43, 0x1B44), (0x1BAA, 0x1BAA),
   (0x1BF2, 0x1BF3), (0x200C, 0x200D), (0x2065, 0x2069), (0x302E, 0x302F), (0x3164, 0x3164),
   (0xA8FA, 0xA8FA), (0xA953, 0xA953), (0xA9C0, 0xA9C0), (0xD7B0, 0xD7C6), (0xD7CB, 0xD7FB),
   (0xFFA0, 0xFFA0), (0xFFF0, 0xFFF8), (0x111C0, 0x111C0), (0x111C2, 0x111C3), (0x11235, 0x11235),
   (0x1133E, 0x1133E), (0x1134D, 0x1134D), (0x11357, 0x11357), (0x113B8, 0x113B8),
   (0x113C2, 0x113C2), (0x113C5, 0x113C5), (0x113C7, 0x113C9), (0x113CF, 0x113CF),
   (0x113D1, 0x113D1), (0x114B0, 0x114B0), (0x114BD, 0x114BD), (0x115AF, 0x115AF),
   (0x116B6, 0x116B6), (0x11930, 0x11930), (0x1193D, 0x1193D), (0x1193F, 0x1193F),
   (0x11941, 0x11941), (0x11A84, 0x11A89), (0x11D46, 0x11D46), (0x11F02, 0x11F02),
   (0x11F41, 0x11F41), (0x16FF0, 0x16FF1), (0x1D165, 0x1D166), (0x1D16D, 0x1D172),
   (0x1D250, 0x1D252), (0x1D25F, 0x1D25F), (0x1D280, 0x1D281), (0xE0000, 0xE0000),
   (0xE0002, 0xE001F), (0xE0080, 0xE00FF), (0xE01F0, 0xE0FFF)]

/-- The character takes no column and lets the Arabic letters at its sides join. -/
def isTransparent (c : Char) : Bool :=
  charWidth c = 0 && !barrierRanges.has c

/-- The marks that are never seen. -/
def hiddenMarkRanges : Ranges :=
  [(0x34F, 0x34F), (0x17B4, 0x17B5), (0x180B, 0x180D), (0x180F, 0x180F), (0xFE00, 0xFE0F),
   (0xE0100, 0xE01EF)]

namespace Tail

/-! ## Ends of texts -/

/-- What a character starts at the end of a text. -/
def ofChar (c : Char) : Tail :=
  let point := c.toNat
  if alefRanges.has c then alef
  else if khmerRanges.has c then khmer
  else if tifinaghRanges.has c then tifinagh false
  else if secondToneRanges.has c then tone
  else if point = 0x5DC then lamed false
  else if point = 0x1A10 then ya false
  else if point = 0x10C03 then orkhon false
  else if point = 0x16D67 then vowelE
  else if point = 0x16D68 then vowelAi
  else if isRegional c then regional
  else if isModifier c then modifier
  else if isPicture c then emoji
  else plain

/-- A letter of a ligature that other characters may stand in.  The vowel signs of Kirat Rai join
side by side only. -/
def isLigature : Tail → Bool
  | alef | lamed _ | khmer | ya _ | vowelYa | tifinagh _ | joinedTifinagh | tone | orkhon _ => true
  | _ => false

/-- A joiner before an emoji, alone or with a keycap mark before it. -/
def isJoined : Tail → Bool
  | joinedEmoji | joinedKeycap => true
  | _ => false

/-- A letter after a joiner. -/
def join : Tail → Tail
  | lamed _ => lamed true
  | ya _ => ya true
  | tifinagh _ => tifinagh true
  | orkhon _ => orkhon true
  | t => t

/-- Goes past a character that may stand between the parts of a ligature. -/
def pass? (t : Tail) (c : Char) : Option Tail :=
  if t = alef then if isTransparent c then some t else none
  else if !t.isLigature then none
  else if isJoiner c then some t.join
  else if hiddenMarkRanges.has c then some t
  else none

/-! ## Joining a character with what follows -/

/-- Joins a letter with the rest of its ligature. -/
def absorbLetter? (t : Tail) (c : Char) : Option (Int × Tail) :=
  let point := c.toNat
  match t with
  | alef => if lamRanges.has c then some (0, plain) else none
  | lamed true => if point = 0x5D0 then some (0, plain) else none
  | khmer => if point = 0x17D2 then some (-1, plain) else none
  | ya true => if point = 0x1A17 then some (0, vowelYa) else none
  | vowelYa => if point = 0x1A15 then some (0, plain) else none
  | tifinagh joined =>
    if point = 0x2D7F then some (1, joinedTifinagh)
    else if joined && tifinaghRanges.has c then some (0, plain)
    else none
  | joinedTifinagh => if tifinaghRanges.has c then some (-1, plain) else none
  | tone => if firstToneRanges.has c then some (0, plain) else none
  | orkhon true => if point = 0x10C32 then some (0, plain) else none
  | vowelE =>
    if point = 0x16D63 || point = 0x16D69 then some (0, plain)
    else if point = 0x16D67 then some (0, vowelAi)
    else if point = 0x16D68 then some (1, vowelE)
    else none
  | vowelAi => if point = 0x16D63 then some (0, plain) else none
  | _ => none

/-- Joins a part of an emoji with the rest of it.  Regional indicators count in pairs from the first
of them, so one more before a joined emoji changes what the others take. -/
def absorbEmoji? (t : Tail) (c : Char) : Option (Int × Tail) :=
  match t with
  | emoji => if isJoiner c then some (0, joinedEmoji) else none
  | modifier =>
    if isModifierBase c then some (0, emoji)
    else if isJoiner c then some (0, joinedEmoji)
    else none
  | regional => if isRegional c then some (1, regionals) else none
  | regionals =>
    if isRegional c then some (1, regionals)
    else if isJoiner c then some (0, joinedEmoji)
    else none
  | joinedEmoji =>
    if c.toNat = 0x20E3 then some (0, joinedKeycap)
    else if isRegional c then some (1, joinedRegional)
    else if isModifier c then some (0, modifier)
    else if c = tagEnd then some (0, tagLetters 0)
    else if isPicture c then some (0, emoji)
    else none
  | joinedRegional => if isRegional c then some (-1, joinedRegionals true) else none
  | joinedRegionals even =>
    if isRegional c then some (if even then 3 else -1, joinedRegionals !even)
    else if isJoiner c then some (0, joinedEmoji)
    else none
  | tagLetters count =>
    if isTagLetter c && count < 6 then some (0, tagLetters (count + 1))
    else if isTagDigit c && count ≤ 4 then some (0, tagDigits 1)
    else if c = blackFlag && 3 ≤ count then some (0, emoji)
    else none
  | tagDigits count =>
    if isTagDigit c && count < 3 then some (0, tagDigits (count + 1))
    else if c = blackFlag && count = 3 then some (0, emoji)
    else none
  | _ => none

/-- Joins a character with what follows, and gives the columns that this adds. -/
def absorb? (t : Tail) (c : Char) : Option (Int × Tail) :=
  match t.pass? c with
  | some t => some (0, t)
  | none => t.absorbLetter? c <|> t.absorbEmoji? c

end Tail

end Text

end Gamebook
