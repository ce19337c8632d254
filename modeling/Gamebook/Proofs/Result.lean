/-!
# Results of steps that may fail

What comes of a result is read off the result that it comes from.
-/

namespace Gamebook

/-- What comes of two steps comes of the second, from what the first gives. -/
theorem exists_of_bind_eq_ok {ε α β : Type} {x : Except ε α} {f : α → Except ε β} {b : β}
    (hbind : x >>= f = .ok b) : ∃ a, x = .ok a ∧ f a = .ok b := by
  cases x with
  | error e => cases hbind
  | ok a => exact ⟨a, rfl, hbind⟩

/-- What comes of two steps is what comes of the second, from what the first gives. -/
theorem bind_eq_ok_iff {ε α β : Type} {x : Except ε α} {f : α → Except ε β} {b : β} :
    x >>= f = .ok b ↔ ∃ a, x = .ok a ∧ f a = .ok b := by
  constructor
  · exact exists_of_bind_eq_ok
  · rintro ⟨a, hx, hf⟩
    rw [hx]
    exact hf

/-- What is made of a result is made of some result. -/
theorem exists_of_map_eq_ok {ε α β : Type} {x : Except ε α} {f : α → β} {b : β}
    (hmap : f <$> x = .ok b) : ∃ a, x = .ok a ∧ f a = b := by
  cases x with
  | error e => cases hmap
  | ok a => exact ⟨a, rfl, Except.ok.inj hmap⟩

/-- What is made of a result fails only where there is no result. -/
theorem eq_error_of_map_eq_error {ε α β : Type} {x : Except ε α} {f : α → β} {e : ε}
    (hmap : f <$> x = .error e) : x = .error e := by
  cases x with
  | error e => exact congrArg Except.error (Except.error.inj hmap)
  | ok a => cases hmap

/-! ## Lists -/

/-- Values are found for all elements of a list exactly when one is found for each. -/
theorem isSome_mapM {α β : Type} (f : α → Option β) (xs : List α) :
    (xs.mapM f).isSome = true ↔ ∀ x ∈ xs, (f x).isSome = true := by
  induction xs with
  | nil => simp
  | cons x xs ih =>
    rw [List.forall_mem_cons, ← ih, List.mapM_cons]
    cases f x <;> cases xs.mapM f <;> simp

/-- Values that are found for the elements of a list have the properties of all that are found. -/
theorem forall_of_mapM_eq_some {α β : Type} {f : α → Option β} {p : β → Prop}
    (hf : ∀ a b, f a = some b → p b) {as : List α} {bs : List β} (hmap : as.mapM f = some bs) :
    ∀ b ∈ bs, p b := by
  induction as generalizing bs with
  | nil =>
    cases hmap
    exact fun _ hb => nomatch hb
  | cons a rest ih =>
    rw [List.mapM_cons] at hmap
    obtain ⟨b, hb, hmap⟩ := Option.bind_eq_some_iff.1 hmap
    obtain ⟨bs', hbs, hmap⟩ := Option.bind_eq_some_iff.1 hmap
    cases hmap
    exact List.forall_mem_cons.2 ⟨hf a b hb, ih hbs⟩

/-! ## Sameness -/

section

variable {ε α : Type} [BEq ε] [BEq α]

/-- Results are the same when what they give is, or else why they fail. -/
instance instBEqResult : BEq (Except ε α) where
  beq
    | .ok a, .ok b => a == b
    | .error e, .error e' => e == e'
    | _, _ => false

@[simp]
theorem ok_beq_ok (a b : α) : ((.ok a : Except ε α) == .ok b) = (a == b) :=
  rfl

@[simp]
theorem error_beq_error (e e' : ε) : ((.error e : Except ε α) == .error e') = (e == e') :=
  rfl

@[simp]
theorem ok_beq_error (a : α) (e : ε) : ((.ok a : Except ε α) == .error e) = false :=
  rfl

@[simp]
theorem error_beq_ok (e : ε) (a : α) : ((.error e : Except ε α) == .ok a) = false :=
  rfl

end

end Gamebook
