import Gamebook.Proofs.Table
import Gamebook.Proofs.Text.Replacing
import Gamebook.Variables

/-!
# Templates

A text with tokens is filled in by one variable after the other, and each of them goes through the
whole text, through the values of those before it as well.  As long as no value holds a dollar and
no name a dollar or a brace, a dollar stands only where a token begins.  Then no replacement makes,
breaks or meets the token of another variable, and the variables in sequence come to the same as all
of them at once.

Main results:

- Theorem `Piece.replaceFrom_chars_append`: what replacing one token does to a piece of a template.
- Theorem `Template.replaceEach_chars`: what replacing tokens in sequence does to a template.
- Theorem `Template.substitute_at_once`: all variables, in any order, and once more.
-/

namespace Gamebook

/-! ## Tokens -/

/-- A name that can stand in a token without being taken for anything else. -/
def IsPlainName (name : String) : Prop :=
  '$' ∉ name.toList ∧ '{' ∉ name.toList ∧ '}' ∉ name.toList

instance (name : String) : Decidable (IsPlainName name) :=
  inferInstanceAs (Decidable (_ ∧ _))

namespace Variables

/-- What stands before the first closing brace is determined by the text. -/
theorem eq_of_append_brace {a b s t : List Char} (ha : '}' ∉ a) (hb : '}' ∉ b)
    (heq : a ++ '}' :: s = b ++ '}' :: t) : a = b := by
  have htake : ∀ {cs more : List Char}, '}' ∉ cs →
      (cs ++ '}' :: more).takeWhile (· ≠ '}') = cs := by
    intro cs more hcs
    rw [List.takeWhile_append_of_pos]
    · simp
    · intro c hc
      rw [decide_eq_true_eq]
      rintro rfl
      exact hcs hc
  rw [← htake ha, heq, htake hb]

/-- No text begins with the tokens of two names. -/
theorem eq_of_token_prefix {name other : String} (hname : IsPlainName name)
    (hother : IsPlainName other) {rest : List Char}
    (hbegins : (token name).isPrefixOf (token other ++ rest) = true) : name = other := by
  rcases List.isPrefixOf_iff_prefix.1 hbegins with ⟨more, hmore⟩
  apply String.toList_injective
  apply eq_of_append_brace (s := more) (t := rest) hname.2.2 hother.2.2
  simpa [token] using hmore

end Variables

/-! ## Pieces of a template -/

/-- A piece of a template. -/
inductive Piece where
  /-- Text that is shown as it stands. -/
  | literal (text : String)
  /-- The token of a name. -/
  | token (name : String)

/-- A template: literal text and tokens in sequence. -/
abbrev Template := List Piece

namespace Piece

/-- The characters of a piece. -/
def chars : Piece → List Char
  | literal text => text.toList
  | token name => Variables.token name

/-- A piece in which a dollar stands only where the token begins. -/
def IsPlain : Piece → Prop
  | literal text => '$' ∉ text.toList
  | token name => IsPlainName name

instance : DecidablePred IsPlain
  | literal text => inferInstanceAs (Decidable ('$' ∉ text.toList))
  | token name => inferInstanceAs (Decidable (IsPlainName name))

/-- The piece with the values of names in the place of their tokens; the token of a name without a
value stays. -/
def fill (value? : String → Option String) : Piece → Piece
  | literal text => literal text
  | token name =>
    match value? name with
    | some value => literal value
    | none => token name

/-- Filling in values without dollars keeps a piece plain. -/
theorem IsPlain.fill {value? : String → Option String} {p : Piece} (hp : p.IsPlain)
    (hvalues : ∀ name, ∀ value ∈ value? name, '$' ∉ value.toList) : (p.fill value?).IsPlain := by
  cases p with
  | literal text => exact hp
  | token name =>
    cases hvalue : value? name with
    | none => simpa [Piece.fill, hvalue] using hp
    | some value => simpa [Piece.fill, hvalue, IsPlain] using hvalues name value hvalue

/-- Filling in once and again fills in all values, of which the earlier ones count. -/
theorem fill_fill (first second : String → Option String) (p : Piece) :
    (p.fill first).fill second = p.fill fun name => (first name).or (second name) := by
  cases p with
  | literal text => rfl
  | token name => cases hfirst : first name <;> simp [fill, hfirst]

/-- Without values a piece stays as it is. -/
theorem fill_none (p : Piece) : p.fill (fun _ => none) = p := by
  cases p <;> rfl

/-- Replacing the token of one name fills in its value in a piece and goes on behind it. -/
theorem replaceFrom_chars_append {p : Piece} (hp : p.IsPlain) {name : String}
    (hname : IsPlainName name) (value : String) (rest : List Char) :
    Text.replaceFrom (Variables.token name) value.toList 0 (p.chars ++ rest) =
      (p.fill fun other => [(name, value)].lookup other).chars ++
        Text.replaceFrom (Variables.token name) value.toList 0 rest := by
  cases p with
  | literal text => exact Text.replaceFrom_append_of_notMem hp
  | token other =>
    by_cases heq : other = name
    · subst heq
      simp only [fill, List.lookup_cons_self]
      exact Text.replaceFrom_append_self
    · have hlookup : [(name, value)].lookup other = none := by
        simp [List.lookup_cons, beq_false_of_ne heq]
      have hnot : (Variables.token name).isPrefixOf (Variables.token other ++ rest) = false :=
        Bool.eq_false_iff.2 fun h => heq (Variables.eq_of_token_prefix hname hp h).symm
      -- the dollar stays, and behind it there is none up to the end of the token
      have hbehind : '$' ∉ '{' :: (other.toList ++ ['}']) := by
        simpa using hp.1
      have hsplit : Variables.token other ++ rest =
          '$' :: ('{' :: (other.toList ++ ['}']) ++ rest) := rfl
      simp only [fill, hlookup, chars]
      rw [hsplit] at hnot ⊢
      rw [Text.replaceFrom, hnot]
      exact congrArg ('$' :: ·) (Text.replaceFrom_append_of_notMem hbehind)

end Piece

/-! ## Templates -/

/-- A variable whose name holds no dollar and no brace, and whose value holds no dollar. -/
structure IsPlainEntry (e : String × String) : Prop where
  name : IsPlainName e.1
  value : '$' ∉ e.2.toList

instance (e : String × String) : Decidable (IsPlainEntry e) :=
  decidable_of_iff (IsPlainName e.1 ∧ '$' ∉ e.2.toList)
    ⟨fun h => ⟨h.1, h.2⟩, fun h => ⟨h.name, h.value⟩⟩

namespace Variables

/-- The text with the tokens of some names replaced by values, one after the other. -/
def replaceEach (order : List (String × String)) (cs : List Char) : List Char :=
  order.foldl (fun cs e => Text.replaceAll (token e.1) e.2.toList cs) cs

/-- Substitution goes through the variables in the order of their names. -/
theorem substitute_eq (vars : Variables) (text : String) :
    vars.substitute text = String.ofList (replaceEach vars.entries text.toList) :=
  rfl

end Variables

namespace Template

/-- The characters of a template. -/
def chars (t : Template) : List Char :=
  t.flatMap Piece.chars

/-- The text of a template. -/
def text (t : Template) : String :=
  String.ofList t.chars

/-- The template with values filled in. -/
def fill (value? : String → Option String) (t : Template) : Template :=
  t.map (Piece.fill value?)

/-- Replacing the token of one name fills in its value. -/
theorem replaceAll_chars {t : Template} (ht : ∀ p ∈ t, p.IsPlain) {name : String}
    (hname : IsPlainName name) (value : String) :
    Text.replaceAll (Variables.token name) value.toList t.chars =
      (t.fill fun other => [(name, value)].lookup other).chars := by
  have hne : Variables.token name ≠ [] := List.cons_ne_nil _ _
  rw [Text.replaceAll, if_neg hne]
  induction t with
  | nil => rfl
  | cons p t ih =>
    rcases List.forall_mem_cons.1 ht with ⟨hp, ht⟩
    simp only [chars, fill, List.map_cons, List.flatMap_cons] at ih ⊢
    rw [Piece.replaceFrom_chars_append hp hname, ih ht]

/-- Replacing the tokens of names one after the other fills in the values of all of them at once. -/
theorem replaceEach_chars {t : Template} (ht : ∀ p ∈ t, p.IsPlain)
    {order : List (String × String)} (horder : ∀ e ∈ order, IsPlainEntry e) :
    Variables.replaceEach order t.chars = (t.fill fun name => order.lookup name).chars := by
  induction order generalizing t with
  | nil =>
    have hsame : t.fill (fun _ => none) = t := by
      rw [fill, List.map_congr_left (g := id) fun p _ => p.fill_none, List.map_id]
    exact congrArg chars hsame.symm
  | cons e order ih =>
    rcases List.forall_mem_cons.1 horder with ⟨he, horder⟩
    have hvalues : ∀ name, ∀ value ∈ [e].lookup name, '$' ∉ value.toList := by
      intro name value hvalue
      rcases List.lookup_eq_some_iff.1 hvalue with ⟨before, after, hsplit, -⟩
      have hmem : (name, value) ∈ [e] := by
        rw [hsplit]
        exact List.mem_append_right before List.mem_cons_self
      rw [← List.mem_singleton.1 hmem] at he
      exact he.value
    have hplain : ∀ p ∈ t.fill fun name => [e].lookup name, p.IsPlain := by
      intro filled hfilled
      rcases List.mem_map.1 hfilled with ⟨p, hp, rfl⟩
      exact (ht p hp).fill hvalues
    calc
      Variables.replaceEach (e :: order) t.chars =
          Variables.replaceEach order (t.fill fun name => [e].lookup name).chars :=
        congrArg (Variables.replaceEach order) (replaceAll_chars ht he.name e.2)
      _ = ((t.fill fun name => [e].lookup name).fill fun name => order.lookup name).chars :=
        ih hplain horder
      _ = (t.fill fun name => (e :: order).lookup name).chars := by
        rw [fill, fill, List.map_map]
        congr 1
        apply List.map_congr_left
        intro p _
        rw [Function.comp_apply, Piece.fill_fill]
        congr 1
        funext name
        rw [← List.lookup_append, List.singleton_append]

/-- Where no name of a variable holds a dollar or a brace and no value holds a dollar, substitution
gives the template in which each token of a variable has become its value, also an empty one, and
all else stands as it did.  The order of the variables does not count, and a second substitution
changes nothing. -/
theorem substitute_at_once {vars : Variables} (hvars : ∀ e ∈ vars.entries, IsPlainEntry e)
    {t : Template} (ht : ∀ p ∈ t, p.IsPlain) :
    vars.substitute t.text = (t.fill vars.find?).text ∧
      (∀ order : List (String × String), order.Perm vars.entries →
        String.ofList (Variables.replaceEach order t.text.toList) = vars.substitute t.text) ∧
      vars.substitute (vars.substitute t.text) = vars.substitute t.text := by
  have hordered : ∀ {t : Template}, (∀ p ∈ t, p.IsPlain) →
      ∀ order : List (String × String), order.Perm vars.entries →
        String.ofList (Variables.replaceEach order t.text.toList) = (t.fill vars.find?).text := by
    intro t ht order horder
    have hlookup : (fun name => order.lookup name) = vars.find? :=
      funext fun name => Table.lookup_of_perm horder name
    have hentries : ∀ e ∈ order, IsPlainEntry e := fun e he => hvars e (horder.subset he)
    rw [text, String.toList_ofList, replaceEach_chars ht hentries, hlookup, text]
  have hsubstitute : ∀ {t : Template}, (∀ p ∈ t, p.IsPlain) →
      vars.substitute t.text = (t.fill vars.find?).text := by
    intro t ht
    rw [Variables.substitute_eq]
    exact hordered ht vars.entries (List.Perm.refl _)
  have honce := hsubstitute ht
  have hfilled : ∀ p ∈ t.fill vars.find?, p.IsPlain := by
    intro filled hfilled
    rcases List.mem_map.1 hfilled with ⟨p, hp, rfl⟩
    apply (ht p hp).fill
    intro name value hvalue
    rcases Table.exists_mem_of_find? hvalue with ⟨key, hentry, -⟩
    exact (hvars _ hentry).value
  have htwice : (t.fill vars.find?).fill vars.find? = t.fill vars.find? := by
    simp only [fill, List.map_map, Function.comp_def, Piece.fill_fill, Option.or_self]
  refine ⟨honce, ?_, ?_⟩
  · intro order horder
    rw [honce, hordered ht order horder]
  · rw [honce]
    exact (hsubstitute hfilled).trans (congrArg text htwice)

/-- The owner of a purse, what is in it, and a note that is empty. -/
def purse : Variables :=
  .ofList [("name", "Ada \x7bgold\x7d"), ("gold", "3"), ("note", "")]

/-- A sentence with tokens of the purse and one of another name. -/
def sentence : Template :=
  [.token "name", .literal " has ", .token "gold", .token "note", .literal ", not ",
    .token "silver", .literal "."]

/-- The tokens of the purse become their values, whichever is filled in first. -/
theorem substitute_sentence_at_once :
    sentence.text = "$\x7bname\x7d has $\x7bgold\x7d$\x7bnote\x7d, not $\x7bsilver\x7d." ∧
      purse.substitute sentence.text = "Ada \x7bgold\x7d has 3, not $\x7bsilver\x7d." ∧
      String.ofList (Variables.replaceEach purse.entries.reverse sentence.text.toList) =
        purse.substitute sentence.text ∧
      purse.substitute (purse.substitute sentence.text) = purse.substitute sentence.text := by
  have hpurse : ∀ e ∈ purse.entries, IsPlainEntry e := by decide +kernel
  have hsentence : ∀ p ∈ sentence, p.IsPlain := by decide +kernel
  rcases substitute_at_once hpurse hsentence with ⟨honce, horder, htwice⟩
  have hfilled : (sentence.fill purse.find?).text =
      "Ada \x7bgold\x7d has 3, not $\x7bsilver\x7d." := by
    decide +kernel
  exact ⟨by decide +kernel, honce.trans hfilled, horder _ (List.reverse_perm _), htwice⟩

end Template

end Gamebook
