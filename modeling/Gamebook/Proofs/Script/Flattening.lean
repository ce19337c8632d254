import Gamebook.Proofs.Result
import Gamebook.Proofs.Scalar
import Gamebook.Proofs.Script.Effects

/-!
# Actions that are written and read again

An action is written as one flat list of parameters, those of the actions that it chains to in line.
Nothing in the list marks where an action ends; the parser finds the end because it reads as many
parameters as the writer puts down.

Main results:

- Theorem `Action.parse_parameters_append`: the parameters of an action are read as this action,
  whatever follows them.
- Theorem `Action.parameters_of_parse`: an action that was read has the parameters that were read.
- Theorem `Action.flattening_inverts_parsing`: writing and reading are inverse to each other.
-/

namespace Gamebook

/-- The kind with a name is the one that has this name. -/
theorem ActionKind.ofName?_eq_some_iff {name : String} {kind : ActionKind} :
    ofName? name = some kind ↔ kind.name = name := by
  constructor
  · intro hkind
    simpa using List.find?_some hkind
  · rintro rfl
    exact ofName?_name kind

/-- The comparison with a token is the one that has this token. -/
theorem Comparison.ofToken?_eq_some_iff {text : String} {comparison : Comparison} :
    ofToken? text = some comparison ↔ comparison.token = text := by
  constructor
  · intro htoken
    simpa using List.find?_some htoken
  · rintro rfl
    exact ofToken?_token comparison

namespace Action

/-! ## Reading what was written -/

/-- The parameters of an action are read as this action, whatever follows them. -/
theorem parse_parameters_append (a : Action) (rest : List Scalar) :
    parse a.kind.name (a.parameters ++ rest) = .ok a := by
  induction a with
  | compareDo name comparison value next ih =>
    change parse ActionKind.compareDo.name (.text name :: .text comparison.token :: .text value ::
      .text next.kind.name :: (next.parameters ++ rest)) = _
    rw [parse, ActionKind.ofName?_name]
    simp only [Scalar.canonical, Comparison.ofToken?_token, ih]
    rfl
  | ifSetDo name next ih | ifNotSetDo name next ih =>
    rw [parse, ActionKind.ofName?_name]
    change _ <$> parse next.kind.name (next.parameters ++ rest) = _
    rw [ih]
    rfl
  | _ =>
    rw [parse, ActionKind.ofName?_name]
    rfl

/-! ## Writing what was read -/

/-- An action that was read has the name and the parameters that were read, and the parameters after
them do not matter. -/
theorem parameters_of_parse {name : String} {ps : List Scalar} {a : Action}
    (hparse : parse name ps = .ok a) :
    a.kind.name = name ∧ (a.parameters == ps.take a.parameters.length) = true ∧
      ∀ other, parse name (ps.take a.parameters.length ++ other) = .ok a := by
  fun_induction parse name ps generalizing a
  case case1 | case7 | case14 => cases hparse
  case case2 hkind | case3 hkind | case4 hkind | case5 hkind | case10 hkind | case11 hkind |
      case12 hkind | case13 hkind =>
    cases hparse
    refine ⟨ActionKind.ofName?_eq_some_iff.1 hkind, ?_, ?_⟩
    · simp [parameters, Scalar.beq_iff, Scalar.canonical]
    · intro other
      simp [parameters, parse, hkind]
  case case6 name token value next rest hcatalog comparison htoken hkind ih =>
    rcases exists_of_map_eq_ok hparse with ⟨a, hnext, rfl⟩
    rcases ih hnext with ⟨hname, hkept, hother⟩
    refine ⟨ActionKind.ofName?_eq_some_iff.1 hkind, ?_, ?_⟩
    · simp [parameters, Scalar.beq_iff, Scalar.canonical, hname, hkept,
        Comparison.ofToken?_eq_some_iff.1 htoken]
    · intro other
      simp only [parameters, List.length_cons, List.take_succ_cons, List.cons_append]
      rw [parse, hkind]
      simp only [htoken, hother]
      rfl
  case case8 name next rest hkind ih | case9 name next rest hkind ih =>
    rcases exists_of_map_eq_ok hparse with ⟨a, hnext, rfl⟩
    rcases ih hnext with ⟨hname, hkept, hother⟩
    refine ⟨ActionKind.ofName?_eq_some_iff.1 hkind, ?_, ?_⟩
    · simp [parameters, Scalar.beq_iff, Scalar.canonical, hname, hkept]
    · intro other
      simp only [parameters, List.length_cons, List.take_succ_cons, List.cons_append]
      rw [parse, hkind]
      simp only [hother]
      rfl

/-- Writing and reading actions are inverse to each other.  An action that is written is read back
as it is, its target in the flavour that it has.  An action that was read is written with the name
of the step and with the first of its parameters, and what follows those makes no difference; so
reading it once more gives the same action. -/
theorem flattening_inverts_parsing :
    (∀ a : Action, ofStep a.toStep = .ok a) ∧
      ∀ (e : Step) (a : Action), ofStep e = .ok a →
        a.toStep.action = e.action ∧
          (∃ kept rest, e.parameters = kept ++ rest ∧ (a.toStep.parameters == kept) = true ∧
            ∀ other, ofStep { e with parameters := kept ++ other } = .ok a) ∧
          ofStep a.toStep = .ok a := by
  have hwritten (a : Action) : ofStep a.toStep = .ok a := by
    simpa [ofStep, toStep] using a.parse_parameters_append []
  refine ⟨hwritten, ?_⟩
  intro e a hread
  rcases parameters_of_parse hread with ⟨hname, hkept, hother⟩
  have hsplit := (List.take_append_drop a.parameters.length e.parameters).symm
  exact ⟨hname, ⟨_, _, hsplit, hkept, hother⟩, hwritten a⟩

/-- The numbers of a step count by their texts, but for the target, which stays a number. -/
theorem flattening_inverts_parsing_of_chain :
    let e : Step := ⟨"IF_SET_DO", [.int 1, .text "ADD_CHOICE", .int 7, .int 2, .int 9]⟩
    let a := ifSetDo "1" (addChoice (.int 7) "2")
    ofStep e = .ok a ∧ ofStep a.toStep = .ok a :=
  have hread : ofStep ⟨"IF_SET_DO", [.int 1, .text "ADD_CHOICE", .int 7, .int 2, .int 9]⟩ =
      .ok (ifSetDo "1" (addChoice (.int 7) "2")) := by
    rfl
  ⟨hread, (flattening_inverts_parsing.2 _ _ hread).2.2⟩

end Action

end Gamebook
