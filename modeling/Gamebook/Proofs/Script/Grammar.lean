import Gamebook.Proofs.Script.Flattening

/-!
# The grammar of actions

The parameters that a step should have are declared by the catalog, those of chained actions in
line.  A step is read exactly when its parameters are as declared.  The parser and the list of
declared parameters go along the same chain in different ways, so both are related to its links.

Main results:

- Definition `Step.links`: the actions of a chain, each as a step with the parameters that are left.
- Definition `Step.violation?`: what is wrong with one link.
- Theorem `Step.link`: what the parser makes of a link, given what it makes of the next one.
- Theorem `Action.parser_accepts_grammar`: the parser accepts exactly what is declared, and blames
  the first link that violates it.
-/

namespace Gamebook

/-! ## Declarations -/

/-- The names in the catalog. -/
def ActionKind.names : List String :=
  all.map name

/-- A text is in the catalog exactly when it names a kind. -/
theorem ActionKind.mem_names_iff {text : String} :
    text ∈ names ↔ ∃ kind, ofName? text = some kind := by
  simp only [ofName?_eq_some_iff, names, List.mem_map]
  constructor
  · rintro ⟨kind, _, htext⟩
    exact ⟨kind, htext⟩
  · rintro ⟨kind, htext⟩
    exact ⟨kind, by cases kind <;> decide, htext⟩

/-- A text is a token exactly when it names a comparison. -/
theorem Comparison.mem_tokens_iff {text : String} :
    text ∈ tokens ↔ ∃ comparison, ofToken? text = some comparison := by
  simp only [ofToken?_eq_some_iff, tokens, List.mem_map]
  constructor
  · rintro ⟨comparison, _, htext⟩
    exact ⟨comparison, htext⟩
  · rintro ⟨comparison, htext⟩
    exact ⟨comparison, by cases comparison <;> decide, htext⟩

namespace ParameterKind

/-- The texts that a parameter of a kind may have. -/
def Admits : ParameterKind → String → Prop
  | action, text => text ∈ ActionKind.names
  | token, text => text ∈ Comparison.tokens
  | _, _ => True

/-- There is a parameter for each of the kinds, with a text that it may have. -/
def Fit : List ParameterKind → List Scalar → Prop
  | [], _ => True
  | kind :: kinds, p :: ps => kind.Admits p.canonical ∧ Fit kinds ps
  | _ :: _, [] => False

/-- Parameters fit when there are enough of them and each one has a text that it may have. -/
theorem fit_iff {kinds : List ParameterKind} {ps : List Scalar} :
    Fit kinds ps ↔
      kinds.length ≤ ps.length ∧
        ∀ (i : Nat) (kind : ParameterKind) (p : Scalar),
          kinds[i]? = some kind → ps[i]? = some p → kind.Admits p.canonical := by
  induction kinds generalizing ps with
  | nil => simp [Fit]
  | cons kind kinds ih =>
    cases ps with
    | nil => simp [Fit]
    | cons p ps =>
      rw [Fit, ih, List.length_cons, List.length_cons, Nat.add_le_add_iff_right]
      constructor
      · rintro ⟨hfirst, hlength, hrest⟩
        refine ⟨hlength, ?_⟩
        rintro (_ | i) k q hk hq
        · cases hk
          cases hq
          exact hfirst
        · exact hrest i k q hk hq
      · rintro ⟨hlength, hall⟩
        exact ⟨hall 0 kind p rfl rfl, hlength, fun i => hall (i + 1)⟩

/-- Parameters fit kinds that follow each other when the first fit the first and the others the
others. -/
theorem fit_append {kinds others : List ParameterKind} {ps : List Scalar} :
    Fit (kinds ++ others) ps ↔ Fit kinds ps ∧ Fit others (ps.drop kinds.length) := by
  induction kinds generalizing ps with
  | nil => simp [Fit]
  | cons kind kinds ih =>
    cases ps with
    | nil => simp [Fit]
    | cons p ps => simp only [List.cons_append, Fit, ih, and_assoc, List.length_cons,
        List.drop_succ_cons]

end ParameterKind

/-- A step is as declared: its name is in the catalog, there is a parameter at each declared
position, and a parameter that stands for an action or for a token has the text of one. -/
structure Step.AsDeclared (e : Step) : Prop where
  named : e.action ∈ ActionKind.names
  enough : (expectedTypes e).length ≤ e.parameters.length
  admitted (i : Nat) (kind : ParameterKind) (p : Scalar) :
    (expectedTypes e)[i]? = some kind → e.parameters[i]? = some p → kind.Admits p.canonical

/-- A step is as declared when its name is in the catalog and its parameters fit. -/
theorem Step.asDeclared_iff {e : Step} :
    e.AsDeclared ↔
      e.action ∈ ActionKind.names ∧ ParameterKind.Fit (expectedTypes e) e.parameters := by
  rw [ParameterKind.fit_iff]
  exact ⟨fun h => ⟨h.named, h.enough, h.admitted⟩, fun ⟨h, h', h''⟩ => ⟨h, h', h''⟩⟩

/-! ## Chains -/

namespace Step

/-- The parameters that the first action of a step declares. -/
def declared (e : Step) : List ParameterKind :=
  match ActionKind.ofName? e.action with
  | some kind => kind.parameters
  | none => []

/-- The action that the first action of a step chains to, as a step with what is left of the
parameters. -/
def next? (e : Step) : Option Step :=
  match ActionKind.ofName? e.action with
  | some kind =>
    if kind.chains then
      match e.parameters.drop (kind.parameters.length - 1) with
      | [] => none
      | next :: rest => some ⟨next.canonical, rest⟩
    else none
  | none => none

/-- The next action has fewer parameters left. -/
theorem length_parameters_of_next? {e next : Step} (hnext : e.next? = some next) :
    next.parameters.length < e.parameters.length := by
  unfold next? at hnext
  split at hnext
  · next kind _ =>
    split at hnext
    · split at hnext
      · cases hnext
      · next name rest hdrop =>
        cases hnext
        have hlength := congrArg List.length hdrop
        rw [List.length_drop, List.length_cons] at hlength
        change rest.length < e.parameters.length
        omega
    · cases hnext
  · cases hnext

/-- The actions of a chain, outermost first. -/
def links (e : Step) : List Step :=
  match h : e.next? with
  | some next =>
    have := length_parameters_of_next? h
    e :: next.links
  | none => [e]
termination_by e.parameters.length

/-- What is wrong with the first action of a step: its name, or else the number of its parameters,
or else the token among them. -/
def violation? (e : Step) : Option StepError :=
  match ActionKind.ofName? e.action with
  | some kind =>
    if e.parameters.length < kind.parameters.length then
      some (.tooFewParameters kind e.parameters.length)
    else
      (kind.parameters.zip e.parameters).findSome? fun (declared, p) =>
        if declared = .token ∧ p.canonical ∉ kind.tokens then some (.badToken kind p.canonical)
        else none
  | none => some (.unknownAction e.action)

/-- The parameters that a step should have are those of its first action and those of the next. -/
theorem expectedTypes_of_next? {e next : Step} (hnext : e.next? = some next) :
    expectedTypes e = e.declared ++ expectedTypes next := by
  unfold next? at hnext
  rw [expectedTypes, expectedParameters, declared]
  split at hnext
  · next kind hkind =>
    split at hnext
    · next hchains =>
      split at hnext
      · cases hnext
      · next name rest hdrop =>
        cases hnext
        simp only [hkind, if_pos hchains]
        split
        · next hnil => rw [hnil] at hdrop; cases hdrop
        · next hcons =>
          rw [hcons] at hdrop
          cases hdrop
          rfl
    · cases hnext
  · cases hnext

/-- At the end of a chain the parameters are those of the first action alone. -/
theorem expectedTypes_of_next?_eq_none {e : Step} (hnext : e.next? = none) :
    expectedTypes e = e.declared := by
  unfold next? at hnext
  rw [expectedTypes, expectedParameters, declared]
  split at hnext
  · next kind hkind =>
    simp only [hkind]
    split at hnext
    · next hchains =>
      rw [if_pos hchains]
      split at hnext
      · next hdrop =>
        split
        · rfl
        · next hcons => rw [hcons] at hdrop; cases hdrop
      · cases hnext
    · next hchains => rw [if_neg hchains]
  · next hkind => simp only [hkind]

end Step

/-! ## Links -/

/-- The parameters of an action are of these kinds: there are as many, and its target is written
exactly where the kinds have one. -/
structure Action.Fills (a : Action) (kinds : List ParameterKind) : Prop where
  length : a.parameters.length = kinds.length
  targets (f : SectionId → SectionId) : (a.mapTarget f).parameters =
    List.zipWith (fun kind p => if kind = .target then f p else p) kinds a.parameters

/-- How a target is written does not change the kind of an action. -/
@[simp]
theorem Action.kind_mapTarget (f : SectionId → SectionId) (a : Action) :
    (a.mapTarget f).kind = a.kind := by
  cases a <;> rfl

namespace Step

open Gamebook.Action ParameterKind

/-- What the parser makes of a link that is followed by a next one or by none. -/
inductive Link (e : Step) : Option Step → Prop where
  /-- It blames the link, which is not as declared. -/
  | blamed {next : Option Step} (error : StepError) (hviolation : e.violation? = some error)
    (hread : ofStep e = .error error)
    (hfit : e.action ∈ ActionKind.names → ¬Fit e.declared e.parameters) : Link e next
  /-- It reads the last link, which is as declared. -/
  | last (hviolation : e.violation? = .none) (a : Action) (hread : ofStep e = .ok a)
    (hfills : a.Fills e.declared) (hnamed : e.action ∈ ActionKind.names)
    (hfit : Fit e.declared e.parameters) : Link e .none
  /-- It goes on to the next link, which is as declared if its name is in the catalog. -/
  | chained (hviolation : e.violation? = .none) (next : Step) (wrap : Action → Action)
    (hread : ofStep e = wrap <$> ofStep next)
    (hfills : ∀ a kinds, a.Fills kinds → (wrap a).Fills (e.declared ++ kinds))
    (hnamed : e.action ∈ ActionKind.names)
    (hfit : Fit e.declared e.parameters ↔ next.action ∈ ActionKind.names)
    (hrest : e.parameters.drop e.declared.length = next.parameters) : Link e (some next)

/-- Every link is blamed, or else it is read, as the last one or together with the next one. -/
theorem link (e : Step) : e.Link e.next? := by
  rcases e with ⟨name, ps⟩
  have hread : ofStep ⟨name, ps⟩ = parse name ps := rfl
  revert hread
  fun_cases parse name ps
  all_goals intro hread
  case case1 hkind =>
    refine .blamed _ ?_ hread ?_
    · simp only [violation?, hkind]
    · simp [ActionKind.mem_names_iff, hkind]
  case case2 hkind | case3 hkind | case4 hkind | case5 hkind | case10 hkind | case11 hkind |
      case12 hkind | case13 hkind =>
    simp only [next?, hkind]
    refine .last ?_ _ hread ?_ (ActionKind.mem_names_iff.2 ⟨_, hkind⟩) ?_
    · simp [violation?, hkind, ActionKind.parameters]
    · simp only [declared, hkind]
      exact ⟨rfl, fun _ => rfl⟩
    · simp [declared, hkind, ActionKind.parameters, Fit, Admits]
  case case6 name token value next rest comparison htoken hkind =>
    have hmem := Comparison.mem_tokens_iff.2 ⟨comparison, htoken⟩
    simp only [next?, hkind]
    refine .chained ?_ ⟨next.canonical, rest⟩ _ hread ?_ (ActionKind.mem_names_iff.2 ⟨_, hkind⟩)
      ?_ ?_
    · simp [violation?, hkind, ActionKind.parameters, ActionKind.tokens, hmem]
    · intro a kinds hfills
      simp only [declared, hkind]
      refine ⟨?_, fun f => ?_⟩
      · simp [Action.parameters, ActionKind.parameters, hfills.length]
      · simp [Action.parameters, ActionKind.parameters, mapTarget, hfills.targets f]
    · simp [declared, hkind, ActionKind.parameters, Fit, Admits, hmem]
    · simp only [declared, hkind]
      rfl
  case case7 token _ _ _ htoken hkind =>
    have hmem : token.canonical ∉ Comparison.tokens := by
      simp [Comparison.mem_tokens_iff, htoken]
    refine .blamed _ ?_ hread ?_
    · simp [violation?, hkind, ActionKind.parameters, ActionKind.tokens, hmem]
    · simp [declared, hkind, ActionKind.parameters, Fit, Admits, hmem]
  case case8 name next rest hkind | case9 name next rest hkind =>
    simp only [next?, hkind]
    refine .chained ?_ ⟨next.canonical, rest⟩ _ hread ?_ (ActionKind.mem_names_iff.2 ⟨_, hkind⟩)
      ?_ ?_
    · simp [violation?, hkind, ActionKind.parameters]
    · intro a kinds hfills
      simp only [declared, hkind]
      refine ⟨?_, fun f => ?_⟩
      · simp [Action.parameters, ActionKind.parameters, hfills.length]
      · simp [Action.parameters, ActionKind.parameters, mapTarget, hfills.targets f]
    · simp [declared, hkind, ActionKind.parameters, Fit, Admits]
    · simp only [declared, hkind]
      rfl
  case case14 kind _ hkind _ _ _ _ _ _ _ _ _ _ =>
    -- the list is too short for every other branch
    have hshort : ps.length < kind.parameters.length := by
      cases kind <;> rcases ps with _ | ⟨p, _ | ⟨q, _ | ⟨r, _ | ⟨t, rest⟩⟩⟩⟩ <;>
        grind [ActionKind.parameters]
    refine .blamed _ ?_ hread fun _ hfit => ?_
    · simp only [violation?, hkind, if_pos hshort]
    · have hlength := (fit_iff.1 hfit).1
      simp only [declared, hkind] at hlength
      omega

/-! ## Whole chains -/

/-- The first action that something is wrong with. -/
def firstViolation? (e : Step) : Option StepError :=
  e.links.findSome? violation?

/-- A chain is blamed for the first link that something is wrong with, and is not as declared; or
else nothing is wrong, and it is read as declared. -/
theorem blamed_or_read (e : Step) :
    (∃ error, e.firstViolation? = some error ∧ ofStep e = .error error ∧ ¬e.AsDeclared) ∨
      e.firstViolation? = Option.none ∧ e.AsDeclared ∧
        ∃ a, ofStep e = .ok a ∧ a.Fills (expectedTypes e) := by
  unfold firstViolation?
  fun_induction links e with
  | case1 e next hnext _ ih =>
    have hkinds := expectedTypes_of_next? hnext
    have hlink := e.link
    rw [hnext] at hlink
    rw [List.findSome?_cons, asDeclared_iff, hkinds, fit_append]
    cases hlink with
    | blamed error hviolation hread hfit =>
      rw [hviolation]
      exact .inl ⟨error, rfl, hread, fun h => hfit h.1 h.2.1⟩
    | chained hviolation _ wrap hread hfills hnamed hfit hrest =>
      rw [hviolation, hread, hrest]
      have hdeclared : e.action ∈ ActionKind.names ∧ Fit e.declared e.parameters ∧
          Fit (expectedTypes next) next.parameters ↔ next.AsDeclared := by
        simp only [hnamed, hfit, asDeclared_iff, true_and]
      rw [hdeclared]
      rcases ih with ⟨error, hfirst, hnext, hnot⟩ | ⟨hfirst, has, a, hnext, ha⟩
      · exact .inl ⟨error, hfirst, by rw [hnext]; rfl, hnot⟩
      · exact .inr ⟨hfirst, has, wrap a, by rw [hnext]; rfl, hfills a _ ha⟩
  | case2 e hnext =>
    have hkinds := expectedTypes_of_next?_eq_none hnext
    have hlink := e.link
    rw [hnext] at hlink
    rw [List.findSome?_cons, asDeclared_iff, hkinds]
    cases hlink with
    | blamed error hviolation hread hfit =>
      rw [hviolation]
      exact .inl ⟨error, rfl, hread, fun h => hfit h.1 h.2⟩
    | last hviolation a hread hfills hnamed hfit =>
      rw [hviolation]
      exact .inr ⟨rfl, ⟨hnamed, hfit⟩, a, hread, hfills⟩

end Step

/-- The target of an action is its parameter at each position where the kinds have a target, and at
no other. -/
theorem Action.Fills.getElem?_mapTarget {a : Action} {kinds : List ParameterKind}
    (ha : a.Fills kinds) (f : SectionId → SectionId) (i : Nat) :
    (a.mapTarget f).parameters[i]? =
      a.parameters[i]?.map fun p => if kinds[i]? = some .target then f p else p := by
  rw [ha.targets f, List.getElem?_zipWith]
  cases hkind : kinds[i]? with
  | none =>
    have hbound : a.parameters.length ≤ i := ha.length ▸ List.getElem?_eq_none_iff.1 hkind
    rw [List.getElem?_eq_none hbound]
    rfl
  | some kind =>
    cases a.parameters[i]? with
    | none => rfl
    | some p => simp

/-- The parser accepts exactly the declared grammar.

A step is read exactly when it is as declared.  What was read has as many parameters as are
declared, and among them a target wherever one is declared, and nowhere else: a target that is
written in another way shows at these positions only.  A step that is not read is blamed for the
first action of its chain, outermost first, with a name that is not in the catalog, or else with too
few parameters left, or else with a token that is none. -/
theorem Action.parser_accepts_grammar (e : Step) :
    ((∃ a, ofStep e = .ok a) ↔ e.AsDeclared) ∧
      (∀ a, ofStep e = .ok a →
        a.parameters.length = (expectedTypes e).length ∧
          ∀ (f : SectionId → SectionId) (i : Nat), (a.mapTarget f).parameters[i]? =
            a.parameters[i]?.map fun p => if (expectedTypes e)[i]? = some .target then f p else p) ∧
      ∀ error, ofStep e = .error error ↔ e.firstViolation? = some error := by
  rcases e.blamed_or_read with ⟨error, hfirst, hread, hnot⟩ | ⟨hfirst, has, a, hread, hfills⟩
  · rw [hread, hfirst]
    refine ⟨?_, ?_, ?_⟩
    · simp [hnot]
    · nofun
    · simp
  · rw [hread, hfirst]
    refine ⟨?_, ?_, ?_⟩
    · simp [has]
    · rintro _ ⟨⟩
      exact ⟨hfills.length, hfills.getElem?_mapTarget⟩
    · simp

/-- A choice that is added under a condition leads to the third of the parameters. -/
theorem Action.parser_accepts_grammar_of_added_choice :
    let e : Step := ⟨"IF_SET_DO", [.text "gold", .text "ADD_CHOICE", .int 7, .text "Buy"]⟩
    let a := ifSetDo "gold" (addChoice (.int 7) "Buy")
    ofStep e = .ok a ∧ e.AsDeclared ∧ a.parameters.length = (expectedTypes e).length ∧
      (expectedTypes e)[2]? = some .target :=
  have hread : ofStep ⟨"IF_SET_DO", [.text "gold", .text "ADD_CHOICE", .int 7, .text "Buy"]⟩ =
      .ok (ifSetDo "gold" (addChoice (.int 7) "Buy")) := rfl
  have hgrammar := parser_accepts_grammar _
  ⟨hread, hgrammar.1.1 ⟨_, hread⟩, (hgrammar.2.1 _ hread).1, by cbv⟩

example :
    let e : Step := ⟨"IF_SET_DO", [.text "gold", .text "COMPARE_DO", .text "gold", .text "=="]⟩
    e.firstViolation? = some (.tooFewParameters .compareDo 2) := by
  cbv

end Gamebook
