import Gamebook.Play.Session
import Gamebook.Proofs.Result
import Gamebook.Proofs.Script.Variables
import Gamebook.Story.Graph
import Mathlib.Data.List.InsertIdx

/-!
# Values in one spelling

Two values are the same when they differ only in how their scalars are written.  Spelling out writes
every scalar as its canonical text, so that values which are the same become equal; what follows for
equal values then follows for values that are the same.

Main results:

- Class `SpellOut`: values in which scalars can be spelled out.
- Class `LawfulSpellOut`: values are the same exactly when they are equal once they are spelled out.
- Theorem `Story.beq_iff`: stories are the same exactly when their metadata are and they are equal
  once they are spelled out.
-/

namespace Gamebook

/-- Values in which scalars can be written as their texts. -/
class SpellOut (α : Type) where
  spellOut : α → α

export SpellOut (spellOut)

/-- Values are the same exactly when they are equal with all scalars spelled out. -/
class LawfulSpellOut (α : Type) [BEq α] [SpellOut α] : Prop where
  beq_iff {a b : α} : (a == b) = true ↔ spellOut a = spellOut b

/-! ## Scalars -/

namespace Scalar

instance : SpellOut Scalar := ⟨spelledOut⟩

@[simp]
theorem canonical_spellOut (a : Scalar) : (spellOut a).canonical = a.canonical :=
  rfl

instance : LawfulSpellOut Scalar where
  beq_iff := ⟨spelledOut_congr, fun h => beq_iff.2 (Scalar.text.inj h)⟩

/-- A scalar is the same as its text. -/
theorem spellOut_beq (a : Scalar) : (spellOut a == a) = true :=
  beq_iff.2 rfl

@[simp]
theorem toInt?_spellOut (a : Scalar) : (spellOut a).toInt? = a.toInt? := by
  rw [toInt?_eq, toInt?_eq, canonical_spellOut]

@[simp]
theorem compare_spellOut_left (a b : Scalar) : compare (spellOut a) b = compare a b :=
  compare_congr a.spellOut_beq b

@[simp]
theorem compare_spellOut_right (a b : Scalar) : compare a (spellOut b) = compare a b := by
  rw [Std.OrientedOrd.eq_swap, compare_spellOut_left, ← Std.OrientedOrd.eq_swap]

@[simp]
theorem spellOut_beq_left (a b : Scalar) : (spellOut a == b) = (a == b) :=
  BEq.congr_left a.spellOut_beq

@[simp]
theorem spellOut_beq_right (a b : Scalar) : (a == spellOut b) = (a == b) :=
  BEq.congr_right b.spellOut_beq

/-- Two scalars are the same in every spelling of both. -/
theorem spellOut_beq_spellOut (a b : Scalar) : (spellOut a == spellOut b) = (a == b) := by
  rw [spellOut_beq_left, spellOut_beq_right]

end Scalar

/-! ## Containers -/

section

variable {α β ε : Type} [SpellOut α] [SpellOut β] [SpellOut ε]

instance : SpellOut (Option α) := ⟨Option.map spellOut⟩

instance : SpellOut (List α) := ⟨List.map spellOut⟩

instance : SpellOut (α × β) := ⟨Prod.map spellOut spellOut⟩

instance : SpellOut (Except ε α) where
  spellOut
    | .ok a => .ok (spellOut a)
    | .error e => .error (spellOut e)

theorem spellOut_option (a : Option α) : spellOut a = a.map spellOut :=
  rfl

theorem spellOut_list (as : List α) : spellOut as = as.map spellOut :=
  rfl

theorem spellOut_pair (a : α) (b : β) : spellOut (a, b) = (spellOut a, spellOut b) :=
  rfl

@[simp]
theorem spellOut_ok (a : α) : spellOut (.ok a : Except ε α) = .ok (spellOut a) :=
  rfl

@[simp]
theorem spellOut_error (e : ε) : spellOut (.error e : Except ε α) = .error (spellOut e) :=
  rfl

variable [BEq α] [BEq β] [BEq ε] [LawfulSpellOut α] [LawfulSpellOut β] [LawfulSpellOut ε]

instance : LawfulSpellOut (Option α) where
  beq_iff {a b} := by
    cases a <;> cases b <;> simp [spellOut_option, LawfulSpellOut.beq_iff]

instance : LawfulSpellOut (List α) where
  beq_iff {as bs} := by
    induction as generalizing bs with
    | nil => cases bs <;> simp [spellOut_list]
    | cons a as ih =>
      cases bs with
      | nil => simp [spellOut_list]
      | cons b bs =>
        rw [List.cons_beq_cons, Bool.and_eq_true, LawfulSpellOut.beq_iff, ih]
        simp [spellOut_list]

instance : LawfulSpellOut (α × β) where
  beq_iff {a b} := by
    change (a.1 == b.1 && a.2 == b.2) = true ↔
      (spellOut a.1, spellOut a.2) = (spellOut b.1, spellOut b.2)
    rw [Bool.and_eq_true, LawfulSpellOut.beq_iff, LawfulSpellOut.beq_iff, Prod.mk.injEq]

instance : LawfulSpellOut (Except ε α) where
  beq_iff {a b} := by
    cases a <;> cases b <;> simp [LawfulSpellOut.beq_iff]

end

/-! ## Sections -/

/-- Values without scalars stay as they are. -/
instance : SpellOut Nat := ⟨id⟩

instance : LawfulSpellOut Nat where
  beq_iff := beq_iff_eq

/-- Media hold no scalars. -/
instance : SpellOut Media := ⟨id⟩

instance : LawfulBEq Media where
  eq_of_beq {a b} h := by
    cases a
    cases b
    simpa [BEq.beq, instBEqMedia.beq] using h
  rfl {a} := by simp [BEq.beq, instBEqMedia.beq]

instance : LawfulSpellOut Media where
  beq_iff := beq_iff_eq

instance : SpellOut Choice where
  spellOut c := { c with target := spellOut c.target }

/-- A choice leads to a section in every spelling of both names. -/
theorem Choice.target_beq_spellOut (c : Choice) (id : SectionId) :
    ((spellOut c).target == spellOut id) = (c.target == id) :=
  Scalar.spellOut_beq_spellOut c.target id

instance : LawfulSpellOut Choice where
  beq_iff {a b} := by
    rcases a with ⟨text, target⟩
    rcases b with ⟨text', target'⟩
    change (text == text' && target == target') = true ↔
      (⟨text, spellOut target⟩ : Choice) = ⟨text', spellOut target'⟩
    rw [Bool.and_eq_true, beq_iff_eq, LawfulSpellOut.beq_iff, Choice.mk.injEq]

instance : SpellOut Step where
  spellOut e := { e with parameters := spellOut e.parameters }

instance : LawfulSpellOut Step where
  beq_iff {a b} := by
    rcases a with ⟨action, parameters⟩
    rcases b with ⟨action', parameters'⟩
    change (action == action' && parameters == parameters') = true ↔
      (⟨action, spellOut parameters⟩ : Step) = ⟨action', spellOut parameters'⟩
    rw [Bool.and_eq_true, beq_iff_eq, LawfulSpellOut.beq_iff, Step.mk.injEq]

instance : SpellOut Section where
  spellOut s := { s with next := spellOut s.next, script := spellOut s.script }

instance : LawfulSpellOut Section where
  beq_iff {a b} := by
    rcases a with ⟨text, lines, media, next, script⟩
    rcases b with ⟨text', lines', media', next', script'⟩
    change (text == text' && (lines == lines' && (media == media' && (next == next' &&
      script == script')))) = true ↔
      (⟨text, lines, media, spellOut next, spellOut script⟩ : Section) =
        ⟨text', lines', media', spellOut next', spellOut script'⟩
    rw [Bool.and_eq_true, Bool.and_eq_true, Bool.and_eq_true, Bool.and_eq_true, beq_iff_eq,
      beq_iff_eq, beq_iff_eq, LawfulSpellOut.beq_iff, LawfulSpellOut.beq_iff, Section.mk.injEq]

namespace Section

variable (s : Section)

@[simp]
theorem choices_spellOut : (spellOut s).choices = s.choices.map spellOut := by
  rcases s with ⟨_, _, _, next, _⟩
  cases next <;> rfl

@[simp]
theorem steps_spellOut : (spellOut s).steps = s.steps.map spellOut := by
  rcases s with ⟨_, _, _, _, script⟩
  cases script <;> rfl

@[simp]
theorem isLeaf_spellOut : (spellOut s).isLeaf = s.isLeaf := by
  simp [isLeaf]

/-- Spelling out commutes with a new choice. -/
theorem addChoice_spellOut (c : Choice) :
    (spellOut s).addChoice (spellOut c) = spellOut (s.addChoice c) := by
  rw [addChoice, choices_spellOut, ← List.map_singleton, ← List.map_append]
  rfl

/-- Spelling out commutes with leaving choices out. -/
theorem keepChoices_spellOut {f g : Choice → Bool} (hf : ∀ c, f (spellOut c) = g c) :
    (spellOut s).keepChoices f = spellOut (s.keepChoices g) := by
  have hkept (choices : List Choice) :
      (choices.map spellOut).filter f = (choices.filter g).map spellOut := by
    rw [List.filter_map, funext (f := f ∘ spellOut) hf]
  rcases s with ⟨_, _, _, next, _⟩
  cases next with
  | none => rfl
  | some choices =>
    exact congrArg (fun next => (⟨_, _, _, some next, _⟩ : Section)) (hkept choices)

/-- Spelling out commutes with leaving out the choice at a position. -/
theorem eraseChoice_spellOut (position : Nat) :
    { spellOut s with next := some ((spellOut s).choices.eraseIdx position) } =
      spellOut { s with next := some (s.choices.eraseIdx position) } := by
  rw [choices_spellOut, List.eraseIdx_map]
  rfl

end Section

/-! ## Tables of names -/

namespace Table

/-- A table is looked up under a name in any spelling. -/
@[simp]
theorem find?_spellOut_key {ν : Type} (t : Table SectionId ν) (key : SectionId) :
    t.find? (spellOut key) = t.find? key := by
  simp [find?]

@[simp]
theorem contains_spellOut_key {ν : Type} (t : Table SectionId ν) (key : SectionId) :
    t.contains (spellOut key) = t.contains key := by
  simp [contains]

variable {ν μ : Type} [SpellOut ν] [SpellOut μ]

instance : SpellOut (Table SectionId ν) where
  spellOut t :=
    { entries := t.entries.map fun e => (spellOut e.1, spellOut e.2)
      ascending := by
        rw [List.pairwise_map]
        simpa using t.ascending }

instance [BEq ν] [LawfulSpellOut ν] : LawfulSpellOut (Table SectionId ν) where
  beq_iff {s t} := by
    change (s.entries == t.entries) = true ↔ _
    rw [LawfulSpellOut.beq_iff]
    exact ⟨fun h => eq_of_entries_eq h, fun h => congrArg entries h⟩

variable (t : Table SectionId ν)

theorem entries_spellOut :
    (spellOut t).entries = t.entries.map fun e => (spellOut e.1, spellOut e.2) :=
  rfl

@[simp]
theorem keys_spellOut : (spellOut t).keys = t.keys.map spellOut := by
  simp [keys, entries_spellOut]

@[simp]
theorem values_spellOut : (spellOut t).values = t.values.map spellOut := by
  simp [values, entries_spellOut]

@[simp]
theorem find?_spellOut (key : SectionId) :
    (spellOut t).find? key = (t.find? key).map spellOut := by
  simp [find?, entries_spellOut, List.find?_map, Function.comp_def]

@[simp]
theorem contains_spellOut (key : SectionId) : (spellOut t).contains key = t.contains key := by
  simp [contains]

/-- Spelling out commutes with an insertion. -/
theorem insert_spellOut (key : SectionId) (value : ν) :
    (spellOut t).insert (spellOut key) (spellOut value) = spellOut (t.insert key value) := by
  apply eq_of_entries_eq
  simp only [insert, entries_spellOut]
  induction t.entries with
  | nil => rfl
  | cons e rest ih =>
    simp only [List.map_cons, insertEntry, Scalar.compare_spellOut_left,
      Scalar.compare_spellOut_right]
    cases compare key e.1 with
    | lt => rfl
    | eq => rfl
    | gt => exact congrArg (List.cons _) ih

/-- Spelling out commutes with filling a table. -/
theorem ofList_spellOut (entries : List (SectionId × ν)) :
    ofList (entries.map spellOut) = spellOut (ofList entries) := by
  have hfill (done : Table SectionId ν) :
      (entries.map spellOut).foldl (fun t e => t.insert e.1 e.2) (spellOut done) =
        spellOut (entries.foldl (fun t e => t.insert e.1 e.2) done) := by
    induction entries generalizing done with
    | nil => rfl
    | cons e rest ih =>
      rw [List.map_cons, List.foldl_cons, List.foldl_cons, ← ih, ← insert_spellOut]
      rfl
  exact hfill empty

/-- Spelling out commutes with taking an entry away. -/
theorem erase_spellOut (key : SectionId) :
    (spellOut t).erase (spellOut key) = spellOut (t.erase key) := by
  apply eq_of_entries_eq
  simp [erase, entries_spellOut, List.filter_map, Function.comp_def]

/-- Spelling out commutes with computing all values anew. -/
theorem mapEntries_spellOut {f g : SectionId → ν → μ}
    (hf : ∀ key value, f (spellOut key) (spellOut value) = spellOut (g key value)) :
    (spellOut t).mapEntries f = spellOut (t.mapEntries g) := by
  apply eq_of_entries_eq
  simp [mapEntries, entries_spellOut, hf]

/-- Spelling out commutes with changing one value. -/
theorem adjust_spellOut (key : SectionId) {f g : ν → ν}
    (hf : ∀ value, f (spellOut value) = spellOut (g value)) :
    (spellOut t).adjust (spellOut key) f = spellOut (t.adjust key g) := by
  apply mapEntries_spellOut
  intro k value
  simp only [Scalar.compare_spellOut_left, Scalar.compare_spellOut_right]
  split
  · exact hf value
  · rfl

end Table

/-! ## Stories -/

instance : SpellOut Progress where
  spellOut p := { p with current := spellOut p.current, history := spellOut p.history }

instance : LawfulSpellOut Progress where
  beq_iff {a b} := by
    rcases a with ⟨current, history, vars⟩
    rcases b with ⟨current', history', vars'⟩
    change (current == current' && (history == history' && vars == vars')) = true ↔
      (⟨spellOut current, spellOut history, vars⟩ : Progress) =
        ⟨spellOut current', spellOut history', vars'⟩
    rw [Bool.and_eq_true, Bool.and_eq_true, LawfulSpellOut.beq_iff, LawfulSpellOut.beq_iff,
      beq_iff_eq, Progress.mk.injEq]

instance : SpellOut SavedGame where
  spellOut game := { info := { title := game.info.title }, state := spellOut game.state }

/-- Metadata hold no scalars.  They are left out but for the title, the only part that is looked
at. -/
instance : SpellOut Story where
  spellOut s :=
    { info := { title := s.info.title }
      sections := spellOut s.sections
      state := spellOut s.state }

/-- Metadata that are the same have the same title. -/
theorem StoryInfo.title_eq_of_beq {a b : StoryInfo} (hab : (a == b) = true) :
    a.title = b.title := by
  rcases a with ⟨title, extra⟩
  rcases b with ⟨title', extra'⟩
  change (title == title' && extra == extra') = true at hab
  exact eq_of_beq (Bool.and_eq_true_iff.1 hab).1

/-- Saved games are the same when their metadata are and they are equal once they are spelled
out. -/
theorem SavedGame.beq_iff {a b : SavedGame} :
    (a == b) = true ↔ (a.info == b.info) = true ∧ spellOut a = spellOut b := by
  rcases a with ⟨info, state⟩
  rcases b with ⟨info', state'⟩
  change (info == info' && state == state') = true ↔ (info == info') = true ∧
    (⟨⟨info.title, _⟩, spellOut state⟩ : SavedGame) = ⟨⟨info'.title, _⟩, spellOut state'⟩
  rw [Bool.and_eq_true, LawfulSpellOut.beq_iff (a := state)]
  apply and_congr_right
  intro hinfo
  rw [StoryInfo.title_eq_of_beq hinfo]
  simp

/-- Stories are the same when their metadata are and they are equal once they are spelled out. -/
theorem Story.beq_iff {s t : Story} :
    (s == t) = true ↔ (s.info == t.info) = true ∧ spellOut s = spellOut t := by
  rcases s with ⟨info, sections, state⟩
  rcases t with ⟨info', sections', state'⟩
  change (info == info' && (sections == sections' && state == state')) = true ↔
    (info == info') = true ∧ (⟨⟨info.title, _⟩, spellOut sections, spellOut state⟩ : Story) =
      ⟨⟨info'.title, _⟩, spellOut sections', spellOut state'⟩
  rw [Bool.and_eq_true, Bool.and_eq_true, LawfulSpellOut.beq_iff (a := sections),
    LawfulSpellOut.beq_iff (a := state)]
  apply and_congr_right
  intro hinfo
  rw [StoryInfo.title_eq_of_beq hinfo]
  simp

namespace Story

variable (s : Story)

theorem sections_spellOut : (spellOut s).sections = spellOut s.sections :=
  rfl

@[simp]
theorem title_spellOut : (spellOut s).title = s.title :=
  rfl

@[simp]
theorem section?_spellOut (id : SectionId) :
    (spellOut s).section? id = (s.section? id).map spellOut :=
  s.sections.find?_spellOut id

@[simp]
theorem section?_spellOut_id (id : SectionId) : s.section? (spellOut id) = s.section? id :=
  s.sections.find?_spellOut_key id

@[simp]
theorem hasSection_spellOut (id : SectionId) : (spellOut s).hasSection id = s.hasSection id :=
  s.sections.contains_spellOut id

@[simp]
theorem hasSection_spellOut_id (id : SectionId) : s.hasSection (spellOut id) = s.hasSection id :=
  s.sections.contains_spellOut_key id

@[simp]
theorem ids_spellOut : (spellOut s).ids = s.ids.map spellOut :=
  s.sections.keys_spellOut

@[simp]
theorem firstId_spellOut : (spellOut s).firstId = s.firstId.map spellOut := by
  simp [firstId]

@[simp]
theorem progress_spellOut : (spellOut s).progress = spellOut s.progress := by
  rcases s with ⟨_, _, state⟩
  cases state <;> rfl

@[simp]
theorem vars_spellOut : (spellOut s).vars = s.vars := by
  rw [vars, progress_spellOut]
  rfl

@[simp]
theorem currentId_spellOut : (spellOut s).currentId = s.currentId.map spellOut := by
  rcases s with ⟨_, _, state⟩
  cases state <;> rfl

@[simp]
theorem substitute_spellOut (text : String) : (spellOut s).substitute text = s.substitute text := by
  simp [substitute]

/-- Spelling out commutes with a change of the progress. -/
theorem adjustProgress_spellOut (f g : Progress → Progress)
    (hf : f (spellOut s.progress) = spellOut (g s.progress)) :
    (spellOut s).adjustProgress f = spellOut (s.adjustProgress g) := by
  rw [adjustProgress, progress_spellOut, hf]
  rfl

/-- Spelling out commutes with giving a variable a value. -/
@[simp]
theorem setVariable_spellOut (name value : String) :
    (spellOut s).setVariable name value = spellOut (s.setVariable name value) :=
  s.adjustProgress_spellOut (fun p => { p with vars := p.vars.insert name value })
    (fun p => { p with vars := p.vars.insert name value }) rfl

/-- Spelling out commutes with a change of a section. -/
theorem adjustSection_spellOut (id : SectionId) (f g : Section → Section)
    (hf : ∀ sec, f (spellOut sec) = spellOut (g sec)) :
    (spellOut s).adjustSection (spellOut id) f = spellOut (s.adjustSection id g) := by
  rw [adjustSection, adjustSection]
  exact congrArg (fun sections => (⟨_, sections, _⟩ : Story)) (s.sections.adjust_spellOut id hf)

end Story

end Gamebook
