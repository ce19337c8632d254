import Gamebook.Text.Width.Tail

/-!
# Display width

The number of columns that a line of text takes in a terminal.  Most characters count by themselves;
ligatures and emoji take fewer columns than their parts, and a selector after a character may change
how wide it is.

- `Context.step` measures one character in front of what follows it.
- `width` adds the steps up, from the end of the text to its start.
-/

namespace Gamebook

namespace Text

/-- How a selector wants the character before it to be shown. -/
inductive Style where
  | emoji
  | text
  /-- As wide as an ideograph; only quotation marks have such a form. -/
  | wide
  deriving Repr, DecidableEq

namespace Style

/-- The style that a selector asks for. -/
def ofSelector? (c : Char) : Option Style :=
  if c.toNat = 0xFE0F then some emoji
  else if c.toNat = 0xFE0E then some text
  else if c.toNat = 0xFE01 then some wide
  else none

/-- The quotation marks that may be wide. -/
def quotationRanges : Ranges :=
  [(0x2018, 0x2019), (0x201C, 0x201D)]

end Style

/-- What follows a character: the styles that selectors ask of it, and what stands behind them. -/
structure Context where
  styles : List Style := []
  tail : Tail := .plain

namespace Context

/-- Puts a selector in front.  Before the letters of a ligature selectors gather; else the first of
them stands alone, but a joined emoji goes on through the selector of emoji style. -/
def select (x : Context) (style : Style) : Context :=
  if x.tail.isLigature then { x with styles := x.styles.insert style }
  else if style = .emoji && x.tail.isJoined then { x with styles := [style] }
  else { styles := [style] }

/-- The columns of a character that takes a style which selectors ask of it. -/
def styled? (x : Context) (style : Style) (c : Char) : Option (Int × Tail) :=
  if !x.styles.contains style then none
  else
    match style with
    | .emoji => if takesEmojiStyle c then some (if x.tail.isJoined then 0 else 2, .emoji) else none
    | .text => if takesTextStyle c then some (1, .plain) else none
    | .wide => if Style.quotationRanges.has c then some (2, .plain) else none

/-- What stays where a character does not take the emoji style. -/
def withoutEmoji (x : Context) : Context :=
  if !x.styles.contains .emoji then x
  else if x.tail.isLigature then { x with styles := x.styles.erase .emoji }
  else {}

/-- The character is of ASCII, or a control or a blank next to it, and never part of a ligature. -/
def isBasic (c : Char) : Bool :=
  c.toNat ≤ 0xA0

/-- Measures a character that does not become an emoji by a selector. -/
def stepPlain (x : Context) (c : Char) : Int × Context :=
  if isBasic c then (1, {})
  else
    match Style.ofSelector? c with
    | some style => (0, x.select style)
    | none =>
      match x.styled? .text c <|> x.styled? .wide c <|> x.tail.absorb? c with
      | some (columns, tail) => (columns, { tail })
      | none => (charWidth c, { tail := Tail.ofChar c })

/-- Measures a character in front of what follows it: the columns that it adds, and what follows the
character before it.  The emoji style comes first of all, the others after the selectors. -/
def step (x : Context) (c : Char) : Int × Context :=
  match x.styled? .emoji c with
  | some (columns, tail) => (columns, { tail })
  | none => x.withoutEmoji.stepPlain c

end Context

/-- The columns of some characters, and what they make of a character before them. -/
def measure : List Char → Int × Context
  | [] => (0, {})
  | c :: rest =>
    let (columns, x) := measure rest
    let (added, x) := x.step c
    (columns + added, x)

/-- The number of columns of a text. -/
def width (text : String) : Nat :=
  (measure text.toList).1.toNat

end Text

end Gamebook
