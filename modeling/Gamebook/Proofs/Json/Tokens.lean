import Gamebook.Proofs.Json.Reals

/-!
# Tokens of what is written

The text of a value is split into the tokens of that value, whatever blanks are written between
them; numbers that are not whole stand for what their own texts are read as.

Main results:

- Theorem `Token.scan_quote`: a string is read as it was quoted.
- Definition `tokensOf`: the tokens of a value.
- Theorem `tokens_write`: they are the tokens of its text.
-/

namespace Gamebook

namespace Json

namespace Token

/-! ## Strings -/

/-- A character that is escaped by its code is read by its code. -/
theorem codeUnit?_of_lt {n : Nat} (hn : n < 0x20) :
    codeUnit? ['0', '0', hexDigit (n / 16), hexDigit (n % 16)] = some n := by
  have hall : ∀ n < 0x20,
      codeUnit? ['0', '0', hexDigit (n / 16), hexDigit (n % 16)] = some n := by decide
  exact hall n hn

/-- A character that needs no escape is read as it is. -/
theorem scanString_cons {c : Char} (hquote : c ≠ '"') (hslash : c ≠ '\\') (hcode : ¬c.toNat < 0x20)
    (cs : List Char) :
    scanString (c :: cs) =
      (scanString cs).map fun (points, after) => (c.toNat :: points, after) := by
  rw [scanString.eq_def]
  split
  · next heq => cases heq
  · next heq => exact absurd (List.cons.inj heq).1 hquote
  · next heq => exact absurd (List.cons.inj heq).1 hslash
  · next heq => exact absurd (List.cons.inj heq).1 hslash
  · next heq =>
    cases heq
    rw [if_neg (not_or.2 ⟨hslash, hcode⟩)]

/-- A character that is escaped by a letter is read from that letter. -/
theorem scanString_letter {letter c : Char} (hletter : letter ≠ 'u')
    (hc : unescape? letter = some c) (cs : List Char) :
    scanString ('\\' :: letter :: cs) =
      (scanString cs).map fun (points, after) => (c.toNat :: points, after) := by
  rw [scanString.eq_def]
  split
  · next heq => cases heq
  · next heq => cases heq
  · next heq => exact absurd (List.cons.inj (List.cons.inj heq).2).1 hletter
  · next heq =>
    cases heq
    rw [hc]
    cases scanString cs <;> rfl
  · next hnot heq =>
    cases heq
    exact (hnot letter cs rfl rfl).elim

/-- A character that is escaped by its code is read from its digits. -/
theorem scanString_code {c : Char} (hc : c.toNat < 0x20) (cs : List Char) :
    scanString
        ('\\' :: 'u' :: '0' :: '0' :: hexDigit (c.toNat / 16) :: hexDigit (c.toNat % 16) :: cs) =
      (scanString cs).map fun (points, after) => (c.toNat :: points, after) := by
  rw [scanString, codeUnit?_of_lt hc]
  cases scanString cs <;> rfl

/-- A character of a string is read as it was escaped. -/
theorem scanString_escape (c : Char) (cs : List Char) :
    scanString (escape c ++ cs) =
      (scanString cs).map fun (points, after) => (c.toNat :: points, after) := by
  unfold escape
  split
  · exact scanString_letter (by decide) rfl cs
  · exact scanString_letter (by decide) rfl cs
  · exact scanString_letter (by decide) rfl cs
  · exact scanString_letter (by decide) rfl cs
  · exact scanString_letter (by decide) rfl cs
  · next hquote hslash _ _ _ =>
    split
    · next hbackspace =>
      rw [hbackspace]
      exact scanString_letter (by decide) rfl cs
    · split
      · next hfeed =>
        rw [hfeed]
        exact scanString_letter (by decide) rfl cs
      · split
        · next hcode => exact scanString_code hcode cs
        · next hcode => exact scanString_cons hquote hslash hcode cs

/-- The characters of a string are read as they were escaped, up to the closing quote. -/
theorem scanString_flatMap_escape (cs rest : List Char) :
    scanString (cs.flatMap escape ++ '"' :: rest) = some (cs.map Char.toNat, rest) := by
  induction cs with
  | nil => rfl
  | cons c cs ih =>
    rw [List.flatMap_cons, List.append_assoc, scanString_escape, ih]
    rfl

/-- No character is a half of a pair of surrogates. -/
theorem not_isSurrogate (c : Char) : isLeading c.toNat = false ∧ isTrailing c.toNat = false := by
  have hvalid : c.toNat < 0xD800 ∨ 0xDFFF < c.toNat ∧ c.toNat < 0x110000 := c.valid
  simp only [isLeading, isTrailing, Bool.and_eq_false_iff, decide_eq_false_iff_not]
  omega

/-- Characters are joined from their own code points. -/
theorem joinSurrogates?_map_toNat (cs : List Char) :
    joinSurrogates? (cs.map Char.toNat) = some cs := by
  induction cs with
  | nil => rfl
  | cons c cs ih =>
    rcases not_isSurrogate c with ⟨hleading, htrailing⟩
    cases cs with
    | nil =>
      rw [List.map_cons, List.map_nil, joinSurrogates?, hleading, htrailing]
      simp
    | cons d cs =>
      rw [List.map_cons] at ih
      rw [List.map_cons, List.map_cons, joinSurrogates?, hleading, htrailing, ih]
      simp

/-- A string is read as it was quoted. -/
theorem scan_quote (s : String) (rest : List Char) :
    scan (quote s ++ rest) = some (.text s, rest) := by
  have hpoints : ofPoints (s.toList.map Char.toNat) = .text s := by
    rw [ofPoints, joinSurrogates?_map_toNat]
    simp
  rw [quote, List.cons_append, List.append_assoc, List.singleton_append, scan,
    scanString_flatMap_escape, Option.map_some]
  simp only [hpoints]

/-! ## Numbers -/

/-- A text that starts a numeral starts nothing else. -/
theorem scan_of_numeral {cs rest : List Char} {n : Numeral}
    (hscan : Numeral.scan cs = some (n, rest)) : scan cs = some (.numeral n, rest) := by
  unfold scan
  split
  case h_11 => rw [hscan, Option.map_some]
  all_goals
    rw [Numeral.scan_eq_none (by decide) (by decide)] at hscan
    cases hscan

end Token

/-! ## Blanks -/

/-- The tokens of a text, without the proofs that it gets shorter. -/
theorem tokens_eq (cs : List Char) :
    tokens cs =
      match cs.dropWhile Token.isSpace with
      | [] => []
      | c :: rest =>
        match Token.scan (c :: rest) with
        | none => [.gap]
        | some (t, after) => t :: tokens after := by
  rw [tokens.eq_def]
  split
  · next hdrop => simp only [hdrop]
  · next c rest hdrop =>
    simp only [hdrop]
    split
    · next hscan => simp only [hscan]
    · next hscan => simp only [hscan]

/-- Blanks before a token do not count. -/
theorem tokens_append_of_spaces {spaces : List Char}
    (hspaces : ∀ c ∈ spaces, Token.isSpace c = true) (cs : List Char) :
    tokens (spaces ++ cs) = tokens cs := by
  rw [tokens_eq, List.dropWhile_append_of_pos hspaces, ← tokens_eq]

/-- The token at the front of a text is the first of its tokens. -/
theorem tokens_of_scan {c : Char} {cs rest : List Char} {t : Token}
    (hspace : Token.isSpace c = false) (hscan : Token.scan (c :: cs) = some (t, rest)) :
    tokens (c :: cs) = t :: tokens rest := by
  rw [tokens_eq, List.dropWhile_cons_of_neg (by rw [hspace]; exact Bool.false_ne_true)]
  simp only [hscan]

/-- A numeral at the front of a text is the first of its tokens. -/
theorem tokens_of_numeral {cs rest : List Char} {n : Numeral}
    (hscan : Numeral.scan cs = some (n, rest)) : tokens cs = .numeral n :: tokens rest := by
  cases cs with
  | nil =>
    have hless := Numeral.length_scan hscan
    cases hless
  | cons c cs =>
    refine tokens_of_scan ?_ (Token.scan_of_numeral hscan)
    apply Bool.eq_false_iff.2
    intro hspace
    have hnone : Numeral.scan (c :: cs) = none := by
      simp only [Token.isSpace, Bool.or_eq_true, decide_eq_true_eq] at hspace
      rcases hspace with ((rfl | rfl) | rfl) | rfl <;>
        exact Numeral.scan_eq_none (by decide) (by decide) cs
    rw [hnone] at hscan
    cases hscan

/-- The start of a line consists of blanks. -/
theorem isSpace_of_mem_newline {spacing : Spacing} {depth : Nat} {c : Char}
    (hc : c ∈ spacing.newline depth) : Token.isSpace c = true := by
  cases spacing with
  | compact => cases hc
  | indented =>
    rcases List.mem_cons.1 hc with rfl | hc
    · rfl
    · rw [(List.mem_replicate.1 hc).2]
      rfl

/-- A line starts with the token that stands first on it. -/
theorem tokens_newline_append (spacing : Spacing) (depth : Nat) (cs : List Char) :
    tokens (spacing.newline depth ++ cs) = tokens cs :=
  tokens_append_of_spaces (fun _ hc => isSpace_of_mem_newline hc) cs

/-- A colon is a token, whether a blank follows it or not. -/
theorem tokens_colon_append (spacing : Spacing) (cs : List Char) :
    tokens (spacing.colon ++ cs) = .colon :: tokens cs := by
  cases spacing with
  | compact => exact tokens_of_scan (c := ':') rfl rfl
  | indented =>
    have hcolon : tokens (':' :: ' ' :: cs) = .colon :: tokens (' ' :: cs) :=
      tokens_of_scan rfl rfl
    have hblank : tokens ([' '] ++ cs) = tokens cs :=
      tokens_append_of_spaces (List.forall_mem_singleton.2 rfl) cs
    exact hcolon.trans (congrArg _ hblank)

/-- A quoted string is a token. -/
theorem tokens_quote_append (s : String) (cs : List Char) :
    tokens (quote s ++ cs) = .text s :: tokens cs :=
  tokens_of_scan (c := '"') rfl (Token.scan_quote s cs)

/-! ## Values -/

mutual

/-- The tokens of a value. -/
def tokensOf : Json → List Token
  | .null => [.null]
  | .bool b => [.bool b]
  | .integer n hn => [.numeral (.whole n hn)]
  | .real x hx => [.numeral (.real x hx)]
  | .text s => [.text s]
  | .array [] => [.openArray, .closeArray]
  | .array (item :: rest) => .openArray :: (tokensOf item ++ tokensOfItems rest)
  | .object [] => [.openObject, .closeObject]
  | .object ((key, value) :: rest) =>
    .openObject :: .text key :: .colon :: (tokensOf value ++ tokensOfMembers rest)

/-- The tokens of the items after the first one, and of the end of their array. -/
def tokensOfItems : List Json → List Token
  | [] => [.closeArray]
  | item :: rest => .comma :: (tokensOf item ++ tokensOfItems rest)

/-- The tokens of the members after the first one, and of the end of their object. -/
def tokensOfMembers : List (String × Json) → List Token
  | [] => [.closeObject]
  | (key, value) :: rest =>
    .comma :: .text key :: .colon :: (tokensOf value ++ tokensOfMembers rest)

end

/-- What ends a container delimits what stands before it. -/
theorem delimited_newline_append (spacing : Spacing) (depth : Nat) {c : Char}
    (hc : c.isDigit = false ∧ c ≠ '.' ∧ c ≠ 'e' ∧ c ≠ 'E') (cs : List Char) :
    Numeral.Delimited (spacing.newline depth ++ [c] ++ cs) := by
  cases spacing with
  | compact =>
    rintro d ⟨⟩
    exact hc
  | indented =>
    rintro d ⟨⟩
    decide

/-- What follows an item delimits it. -/
theorem delimited_writeItems (spacing : Spacing) (depth : Nat) (items : List Json)
    (rest : List Char) : Numeral.Delimited (writeItems spacing depth items ++ rest) := by
  cases items with
  | nil => exact delimited_newline_append spacing depth (by decide) rest
  | cons item items =>
    rintro c ⟨⟩
    decide

/-- What follows a member delimits it. -/
theorem delimited_writeMembers (spacing : Spacing) (depth : Nat) (members : List (String × Json))
    (rest : List Char) : Numeral.Delimited (writeMembers spacing depth members ++ rest) := by
  cases members with
  | nil => exact delimited_newline_append spacing depth (by decide) rest
  | cons member members =>
    rintro c ⟨⟩
    decide

mutual

/-- The tokens of the text of a value are the tokens of the value as it is read. -/
theorem tokens_write (spacing : Spacing) (depth : Nat) :
    ∀ (value : Json) {rest : List Char}, Numeral.Delimited rest →
      tokens (write spacing depth value ++ rest) = tokensOf value.reread ++ tokens rest
  | .null, rest, _ => tokens_of_scan (c := 'n') rfl rfl
  | .bool false, rest, _ => tokens_of_scan (c := 'f') rfl rfl
  | .bool true, rest, _ => tokens_of_scan (c := 't') rfl rfl
  | .integer n hn, rest, hrest =>
    tokens_of_numeral (Numeral.scan_append hrest (Numeral.scan_toString hn))
  | .real x hx, rest, hrest =>
    tokens_of_numeral (Numeral.scan_append hrest (scan_numberText hx))
  | .text s, rest, _ => tokens_quote_append s rest
  | .array [], rest, _ => by
    have hclose : tokens (']' :: rest) = .closeArray :: tokens rest := tokens_of_scan rfl rfl
    exact (tokens_of_scan (c := '[') rfl rfl).trans (congrArg _ hclose)
  | .array (item :: items), rest, _ => by
    have hitem := tokens_write spacing (depth + 1) item
      (delimited_writeItems spacing depth items rest)
    have hitems := tokens_writeItems spacing depth items rest
    have hopen : ∀ cs, tokens ('[' :: cs) = .openArray :: tokens cs :=
      fun cs => tokens_of_scan rfl rfl
    rw [write, List.cons_append, hopen, List.append_assoc, List.append_assoc,
      tokens_newline_append, hitem, hitems, reread, rereadItems, tokensOf, List.cons_append,
      List.append_assoc]
  | .object [], rest, _ => by
    have hclose : tokens ('\x7d' :: rest) = .closeObject :: tokens rest := tokens_of_scan rfl rfl
    exact (tokens_of_scan (c := '\x7b') rfl rfl).trans (congrArg _ hclose)
  | .object ((key, value) :: members), rest, _ => by
    have hvalue := tokens_write spacing (depth + 1) value
      (delimited_writeMembers spacing depth members rest)
    have hmembers := tokens_writeMembers spacing depth members rest
    have hopen : ∀ cs, tokens ('\x7b' :: cs) = .openObject :: tokens cs :=
      fun cs => tokens_of_scan rfl rfl
    rw [write, List.cons_append, hopen]
    simp only [List.append_assoc]
    rw [tokens_newline_append, tokens_quote_append, tokens_colon_append, hvalue, hmembers, reread,
      rereadMembers, tokensOf]
    simp only [List.cons_append, List.append_assoc]

/-- The tokens of the text of the items that follow are theirs. -/
theorem tokens_writeItems (spacing : Spacing) (depth : Nat) :
    ∀ (items : List Json) (rest : List Char),
      tokens (writeItems spacing depth items ++ rest) =
        tokensOfItems (rereadItems items) ++ tokens rest
  | [], rest => by
    rw [writeItems, List.append_assoc, tokens_newline_append]
    exact tokens_of_scan (c := ']') rfl rfl
  | item :: items, rest => by
    have hitem := tokens_write spacing (depth + 1) item
      (delimited_writeItems spacing depth items rest)
    have hitems := tokens_writeItems spacing depth items rest
    have hcomma : ∀ cs, tokens (',' :: cs) = .comma :: tokens cs := fun cs => tokens_of_scan rfl rfl
    rw [writeItems, List.cons_append, hcomma, List.append_assoc, List.append_assoc,
      tokens_newline_append, hitem, hitems, rereadItems, tokensOfItems, List.cons_append,
      List.append_assoc]

/-- The tokens of the text of the members that follow are theirs. -/
theorem tokens_writeMembers (spacing : Spacing) (depth : Nat) :
    ∀ (members : List (String × Json)) (rest : List Char),
      tokens (writeMembers spacing depth members ++ rest) =
        tokensOfMembers (rereadMembers members) ++ tokens rest
  | [], rest => by
    rw [writeMembers, List.append_assoc, tokens_newline_append]
    exact tokens_of_scan (c := '\x7d') rfl rfl
  | (key, value) :: members, rest => by
    have hvalue := tokens_write spacing (depth + 1) value
      (delimited_writeMembers spacing depth members rest)
    have hmembers := tokens_writeMembers spacing depth members rest
    have hcomma : ∀ cs, tokens (',' :: cs) = .comma :: tokens cs := fun cs => tokens_of_scan rfl rfl
    rw [writeMembers, List.cons_append, hcomma]
    simp only [List.append_assoc]
    rw [tokens_newline_append, tokens_quote_append, tokens_colon_append, hvalue, hmembers,
      rereadMembers, tokensOfMembers]
    simp only [List.cons_append, List.append_assoc]

end

/-- Blanks delimit what stands before them. -/
theorem delimited_of_spaces {spaces : List Char}
    (hspaces : ∀ c ∈ spaces, Token.isSpace c = true) : Numeral.Delimited spaces := by
  intro c hc
  have hspace := hspaces c (List.mem_of_mem_head? hc)
  simp only [Token.isSpace, Bool.or_eq_true, decide_eq_true_eq] at hspace
  rcases hspace with ((rfl | rfl) | rfl) | rfl <;> decide

/-- The text of a document has the tokens of its value as it is read, whatever blanks follow it. -/
theorem tokens_pretty_append (value : Json) {blanks : String}
    (hblanks : ∀ c ∈ blanks.toList, Token.isSpace c = true) :
    tokens (value.pretty ++ blanks).toList = tokensOf value.reread := by
  have hwrite := tokens_write .indented 0 value (delimited_of_spaces hblanks)
  have hend : tokens blanks.toList = [] := by
    rw [← List.append_nil blanks.toList, tokens_append_of_spaces hblanks, tokens_eq]
    rfl
  rw [hend, List.append_nil] at hwrite
  rw [pretty, String.toList_append, String.toList_ofList, hwrite]

end Json

end Gamebook
