import Gamebook.Json.Numeral

/-!
# Tokens of a JSON text

A JSON text is a sequence of tokens with blanks between them.  Where the text can no longer be split
into tokens the sequence ends in a gap; what stands before the gap is kept, since a reader reports
the first problem that it meets.

- `Token.scan` splits one token off the front of a text.
- `tokens` lists all tokens of a text.
-/

namespace Gamebook

namespace Json

/-- A token of a JSON text. -/
inductive Token where
  | openArray
  | closeArray
  | openObject
  | closeObject
  | comma
  | colon
  | null
  | bool (b : Bool)
  | numeral (n : Numeral)
  | text (s : String)
  /-- A string with an escaped surrogate that has no partner. -/
  | unpaired
  /-- Characters that are no token. -/
  | gap

namespace Token

/-! ## Strings -/

/-- The code unit of four hexadecimal digits. -/
def codeUnit? (digits : List Char) : Option Nat :=
  (digits.mapM (Number.digitValue? 16)).map (List.foldl (fun n d => 16 * n + d) 0)

/-- The character that a letter stands for after a backslash. -/
def unescape? : Char → Option Char
  | '"' => some '"'
  | '\\' => some '\\'
  | '/' => some '/'
  | 'b' => some '\x08'
  | 'f' => some '\x0c'
  | 'n' => some '\n'
  | 'r' => some '\r'
  | 't' => some '\t'
  | _ => none

/-- Splits the rest of a string after its opening quote off a text: the code points that it holds,
in which escaped surrogates stand apart.  Control characters must be escaped. -/
def scanString : List Char → Option (List Nat × List Char)
  | [] => none
  | '"' :: rest => some ([], rest)
  | '\\' :: 'u' :: a :: b :: c :: d :: rest =>
    match codeUnit? [a, b, c, d], scanString rest with
    | some unit, some (points, after) => some (unit :: points, after)
    | _, _ => none
  | '\\' :: letter :: rest =>
    match unescape? letter, scanString rest with
    | some c, some (points, after) => some (c.toNat :: points, after)
    | _, _ => none
  | c :: rest =>
    if c = '\\' ∨ c.toNat < 0x20 then none
    else (scanString rest).map fun (points, after) => (c.toNat :: points, after)

theorem length_scanString {cs rest : List Char} {points : List Nat}
    (h : scanString cs = some (points, rest)) : rest.length < cs.length := by
  fun_induction scanString cs generalizing points with
  | case1 => cases h
  | case2 => cases h; simp
  | case3 a b c d body unit more after hs _ ih =>
    cases h
    have := ih hs
    simp only [List.length_cons]
    omega
  | case4 => cases h
  | case5 letter body c more after hl hs _ ih =>
    cases h
    have := ih hs
    simp only [List.length_cons]
    omega
  | case6 => cases h
  | case7 => cases h
  | case8 c body _ _ _ _ ih =>
    obtain ⟨⟨more, after⟩, hs, h⟩ := Option.map_eq_some_iff.1 h
    cases h
    have := ih hs
    simp only [List.length_cons]
    omega

/-- The code point is the first half of a pair of surrogates. -/
def isLeading (point : Nat) : Bool :=
  0xD800 ≤ point && point < 0xDC00

/-- The code point is the second half of a pair of surrogates. -/
def isTrailing (point : Nat) : Bool :=
  0xDC00 ≤ point && point < 0xE000

/-- The characters of a list of code points, in which neighbouring surrogates form one character. -/
def joinSurrogates? : List Nat → Option (List Char)
  | [] => some []
  | lead :: trail :: rest =>
    if isLeading lead then
      if isTrailing trail then
        (joinSurrogates? rest).map
          (Char.ofNat (0x10000 + (lead - 0xD800) * 0x400 + (trail - 0xDC00)) :: ·)
      else none
    else if isTrailing lead then none
    else (joinSurrogates? (trail :: rest)).map (Char.ofNat lead :: ·)
  | [point] =>
    if isLeading point || isTrailing point then none else some [Char.ofNat point]

/-- The token of a string. -/
def ofPoints (points : List Nat) : Token :=
  match joinSurrogates? points with
  | some cs => text (String.ofList cs)
  | none => unpaired

/-! ## Tokens -/

/-- The blanks of JSON. -/
def isSpace (c : Char) : Bool :=
  c = ' ' || c = '\n' || c = '\t' || c = '\r'

/-- Splits a token off the front of a text that starts with no blank. -/
def scan : List Char → Option (Token × List Char)
  | '[' :: rest => some (openArray, rest)
  | ']' :: rest => some (closeArray, rest)
  | '{' :: rest => some (openObject, rest)
  | '}' :: rest => some (closeObject, rest)
  | ',' :: rest => some (comma, rest)
  | ':' :: rest => some (colon, rest)
  | 'n' :: 'u' :: 'l' :: 'l' :: rest => some (null, rest)
  | 't' :: 'r' :: 'u' :: 'e' :: rest => some (bool true, rest)
  | 'f' :: 'a' :: 'l' :: 's' :: 'e' :: rest => some (bool false, rest)
  | '"' :: rest => (scanString rest).map fun (points, rest) => (ofPoints points, rest)
  | cs => (Numeral.scan cs).map fun (n, rest) => (numeral n, rest)

/-- A token has at least one character. -/
theorem length_scan {cs rest : List Char} {t : Token} (h : scan cs = some (t, rest)) :
    rest.length < cs.length := by
  unfold scan at h
  split at h
  case h_10 =>
    obtain ⟨⟨points, rest⟩, hp, h⟩ := Option.map_eq_some_iff.1 h
    cases h
    exact Nat.lt_succ_of_lt (length_scanString hp)
  case h_11 =>
    obtain ⟨⟨n, rest⟩, hn, h⟩ := Option.map_eq_some_iff.1 h
    cases h
    exact Numeral.length_scan hn
  all_goals
    cases h
    simp only [List.length_cons]
    omega

end Token

/-- The tokens of a text, up to the first gap. -/
def tokens (cs : List Char) : List Token :=
  match h : cs.dropWhile Token.isSpace with
  | [] => []
  | c :: rest =>
    match hscan : Token.scan (c :: rest) with
    | none => [.gap]
    | some (t, after) =>
      have : after.length < cs.length := by
        have hle := (List.dropWhile_sublist Token.isSpace (l := cs)).length_le
        have hlt := Token.length_scan hscan
        rw [h] at hle
        omega
      t :: tokens after
termination_by cs.length

end Json

end Gamebook
