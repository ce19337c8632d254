import Gamebook.Proofs.Result
import Gamebook.Proofs.Scalar
import Gamebook.Proofs.Table
import Gamebook.Story.Authoring

/-!
# Adding sections

A new section is named by the least positive integer above all integers that name sections.  Names
are the same when their texts are, and a name with the text of an integer spells that integer, so
the new name is no name of another section, whichever way that one is written.

Main results:

- Definition `Story.IsNext`: the integer that comes next.
- Theorem `Story.IsNext.not_beq`: no section is named by the integer that comes next.
- Definition `Story.Gains`: what a story is with one more section.
- Theorem `Story.addSection_cases`: when a section is added, and what it is named by.
- Theorem `Story.ids_addSections`: what sections in a row are named by.
- Theorem `Story.addSection_allocates`: all of this, and what calls in a row are given.
-/

namespace Gamebook

/-! ## Integers -/

/-- The greater of two integers is at least each of them, and it is one of them. -/
theorem max_int64_cases (m n : Int64) :
    (max m n = m ∧ n ≤ m) ∨ (max m n = n ∧ m ≤ n) := by
  have hmax : max m n = if m ≤ n then n else m := rfl
  rw [hmax]
  split
  · next hle => exact Or.inr ⟨rfl, hle⟩
  · next hle => exact Or.inl ⟨rfl, Int64.le_of_lt (Int64.not_le.1 hle)⟩

/-- The greatest of some integers is at least each of them. -/
theorem le_foldl_max_int64 (ns : List Int64) (start : Int64) :
    start ≤ ns.foldl max start ∧ ∀ n ∈ ns, n ≤ ns.foldl max start := by
  induction ns generalizing start with
  | nil => exact ⟨Int64.le_refl start, List.forall_mem_nil _⟩
  | cons n rest ih =>
    rcases ih (max start n) with ⟨hgreatest, hrest⟩
    rw [List.foldl_cons, List.forall_mem_cons]
    rcases max_int64_cases start n with ⟨hmax, hle⟩ | ⟨hmax, hle⟩
    · rw [hmax] at hgreatest hrest ⊢
      exact ⟨hgreatest, Int64.le_trans hle hgreatest, hrest⟩
    · rw [hmax] at hgreatest hrest ⊢
      exact ⟨Int64.le_trans hle hgreatest, hgreatest, hrest⟩

/-- The greatest of some integers is one of them, where it is not the one to begin with. -/
theorem foldl_max_int64_cases (ns : List Int64) (start : Int64) :
    ns.foldl max start = start ∨ ns.foldl max start ∈ ns := by
  induction ns generalizing start with
  | nil => exact Or.inl rfl
  | cons n rest ih =>
    rw [List.foldl_cons, List.mem_cons]
    rcases ih (max start n) with hmax | hrest
    · rw [hmax]
      rcases max_int64_cases start n with ⟨hmax, -⟩ | ⟨hmax, -⟩
      · exact Or.inl hmax
      · exact Or.inr (Or.inl hmax)
    · exact Or.inr (Or.inr hrest)

/-- An integer that is not the greatest of all has one after it. -/
theorem toInt_add_one_int64 {n : Int64} (hn : n ≠ Int64.maxValue) :
    (n + 1).toInt = n.toInt + 1 := by
  have hbounds : n.toInt < 2 ^ 63 ∧ -2 ^ 63 ≤ n.toInt := ⟨n.toInt_lt, n.le_toInt⟩
  have htop : n.toInt ≠ 2 ^ 63 - 1 := fun heq => hn (Int64.toInt_inj.1 heq)
  rw [Int64.toInt_add]
  simp only [Int64.toInt_one, Int.bmod]
  omega

/-! ## Integers as names -/

/-- Consecutive integers are different names. -/
theorem Scalar.pairwise_map_int {count : Nat} {next : Int} {ns : List Int64}
    (hns : ns.map Int64.toInt = (List.range count).map fun k : Nat => next + k) :
    (ns.map Scalar.int).Pairwise fun a b => (a == b) = false := by
  have hdiffer : (ns.map Int64.toInt).Pairwise (· ≠ ·) := by
    rw [hns, List.pairwise_map]
    exact List.nodup_range.imp fun hne heq => hne (Int.ofNat.inj (Int.add_left_cancel heq))
  rw [List.pairwise_map] at hdiffer ⊢
  refine hdiffer.imp fun {m n} hne => ?_
  have hints : (m == n) = false := beq_false_of_ne fun heq => hne (congrArg Int64.toInt heq)
  exact hints

namespace Story

/-! ## The integer that comes next -/

/-- The least positive integer above all integers that name sections. -/
structure IsNext (s : Story) (next : Int) : Prop where
  pos : 1 ≤ next
  above : ∀ id ∈ s.ids, ∀ n, id.toInt? = some n → n.toInt < next
  least : next = 1 ∨ ∃ id ∈ s.ids, ∃ n, id.toInt? = some n ∧ next = n.toInt + 1

variable {s s' : Story} {next : Int}

/-- There is one integer that comes next. -/
theorem IsNext.unique {other : Int} (hnext : s.IsNext next) (hother : s.IsNext other) :
    next = other := by
  have hle : ∀ {m n : Int}, s.IsNext m → s.IsNext n → m ≤ n := by
    intro m n hm hn
    rcases hm.least with heq | ⟨id, hid, k, hk, heq⟩
    · rw [heq]
      exact hn.pos
    · rw [heq]
      exact hn.above id hid k hk
  exact Int.le_antisymm (hle hnext hother) (hle hother hnext)

/-- The greatest integer that names a section, or zero. -/
def greatestId (s : Story) : Int64 :=
  (s.ids.filterMap Scalar.toInt?).foldl max 0

/-- After the greatest integer comes the next. -/
theorem isNext_greatestId (s : Story) : s.IsNext (s.greatestId.toInt + 1) := by
  rcases le_foldl_max_int64 (s.ids.filterMap Scalar.toInt?) 0 with ⟨hzero, hall⟩
  refine ⟨?_, ?_, ?_⟩
  · have hpos := Int64.le_iff_toInt_le.1 hzero
    rw [Int64.toInt_zero] at hpos
    exact Int.add_le_add_right hpos 1
  · intro id hid n hn
    have hle := hall n (List.mem_filterMap.2 ⟨id, hid, hn⟩)
    exact Int.lt_add_one_of_le (Int64.le_iff_toInt_le.1 hle)
  · rcases foldl_max_int64_cases (s.ids.filterMap Scalar.toInt?) 0 with heq | hmem
    · left
      rw [greatestId, heq]
      rfl
    · rcases List.mem_filterMap.1 hmem with ⟨id, hid, hn⟩
      exact Or.inr ⟨id, hid, _, hn, rfl⟩

/-- No section is named by the integer that comes next: its name would have the text of the integer,
and so would spell it. -/
theorem IsNext.not_beq {n : Int64} (hnext : s.IsNext n.toInt) {id : SectionId} (hid : id ∈ s.ids) :
    (id == .int n) = false := by
  apply Bool.eq_false_iff.2
  intro hsame
  have hspelled : id.toInt? = some n := by
    rw [Scalar.toInt?_eq, Scalar.beq_iff.1 hsame]
    exact spelledInt?_toString n
  exact Int.lt_irrefl _ (hnext.above id hid n hspelled)

/-- The integer that comes next names no section. -/
theorem IsNext.hasSection_eq_false {n : Int64} (hnext : s.IsNext n.toInt) :
    s.hasSection (.int n) = false := by
  apply Bool.eq_false_iff.2
  intro hhas
  rcases Table.contains_eq_true_iff.1 hhas with ⟨key, hkey, hcompare⟩
  have hsame := Std.LawfulBEqOrd.compare_eq_iff_beq.1 hcompare
  rw [BEq.comm, hnext.not_beq hkey] at hsame
  cases hsame

/-- The greatest integer of all comes before the next exactly where it names a section. -/
theorem greatestId_eq_maxValue_iff :
    s.greatestId = Int64.maxValue ↔ ∃ id ∈ s.ids, id.toInt? = some Int64.maxValue := by
  constructor
  · intro htop
    rcases foldl_max_int64_cases (s.ids.filterMap Scalar.toInt?) 0 with heq | hmem
    · rw [greatestId, heq] at htop
      cases htop
    · rcases List.mem_filterMap.1 hmem with ⟨id, hid, hn⟩
      exact ⟨id, hid, by rw [hn, ← htop, greatestId]⟩
  · rintro ⟨id, hid, hn⟩
    have hle := (isNext_greatestId s).above id hid _ hn
    have hbound := s.greatestId.toInt_lt
    apply Int64.toInt_inj.1
    have htop : Int64.maxValue.toInt = 2 ^ 63 - 1 := rfl
    omega

/-! ## One more section -/

/-- A story with one more section: the section stands among the others, and nothing else differs. -/
structure Gains (id : SectionId) (sec : Section) (s s' : Story) : Prop where
  info_eq : s'.info = s.info
  state_eq : s'.state = s.state
  entries_eq : ∃ before after, s.sections.entries = before ++ after ∧
    s'.sections.entries = before ++ (id, sec) :: after

/-- A section that is put under a name of no section comes beside the others. -/
theorem gains_insert {id : SectionId} (hid : s.hasSection id = false) (sec : Section) :
    Gains id sec s { s with sections := s.sections.insert id sec } :=
  ⟨rfl, rfl, Table.exists_split_insert hid sec⟩

/-- The names of a story with one more section are the others and the name of the section. -/
theorem Gains.mem_ids_iff {id other : SectionId} {sec : Section} (hgains : Gains id sec s s') :
    other ∈ s'.ids ↔ other = id ∨ other ∈ s.ids := by
  rcases hgains.entries_eq with ⟨before, after, hentries, hentries'⟩
  simp only [ids, Table.keys, hentries, hentries', List.map_append, List.map_cons, List.mem_append,
    List.mem_cons]
  exact or_left_comm

/-- When the integer that comes next names a section, the one after it comes next. -/
theorem Gains.isNext {n : Int64} {sec : Section} (hgains : Gains (.int n) sec s s')
    (hnext : s.IsNext n.toInt) : s'.IsNext (n.toInt + 1) := by
  have hmem := hgains.mem_ids_iff.2 (Or.inl rfl)
  refine ⟨Int.le_add_one hnext.pos, ?_, Or.inr ⟨.int n, hmem, n, rfl, rfl⟩⟩
  intro id hid k hk
  rcases hgains.mem_ids_iff.1 hid with rfl | hold
  · cases hk
    exact Int.lt_succ _
  · exact Int.lt_add_one_of_le (Int.le_of_lt (hnext.above id hold k hk))

/-- The name of a new section is the integer that comes next, where that is one of 64 bits. -/
theorem freshId?_eq (s : Story) :
    s.freshId? = if s.greatestId = Int64.maxValue then none else some (.int (s.greatestId + 1)) :=
  rfl

/-- A fresh name is the integer that comes next. -/
theorem isNext_of_freshId? {id : SectionId} (hfresh : s.freshId? = some id) :
    ∃ n, id = .int n ∧ s.IsNext n.toInt := by
  rw [freshId?_eq, Option.ite_none_left_eq_some] at hfresh
  rcases hfresh with ⟨htop, hid⟩
  refine ⟨s.greatestId + 1, (Option.some.inj hid).symm, ?_⟩
  rw [toInt_add_one_int64 htop]
  exact isNext_greatestId s

/-- There is no fresh name exactly where the greatest integer of all names a section. -/
theorem freshId?_eq_none_iff :
    s.freshId? = none ↔ ∃ id ∈ s.ids, id.toInt? = some Int64.maxValue := by
  rw [← greatestId_eq_maxValue_iff, freshId?_eq]
  split
  · next htop => exact iff_of_true rfl htop
  · next htop => exact iff_of_false (Option.some_ne_none _) htop

/-- Adding a section fails where the greatest integer of all names one, and otherwise the story
gains a section with one empty line, named by the integer that comes next. -/
theorem addSection_cases (s : Story) :
    ((∃ id ∈ s.ids, id.toInt? = some Int64.maxValue) ∧ s.addSection = .error .idsExhausted) ∨
      ((∀ id ∈ s.ids, id.toInt? ≠ some Int64.maxValue) ∧
        ∃ n s', s.addSection = .ok (.int n, s') ∧ s.IsNext n.toInt ∧
          Gains (.int n) (Section.ofLines [""]) s s') := by
  rw [addSection]
  cases hfresh : s.freshId? with
  | none => exact Or.inl ⟨freshId?_eq_none_iff.1 hfresh, rfl⟩
  | some id =>
    rcases isNext_of_freshId? hfresh with ⟨n, rfl, hnext⟩
    refine Or.inr ⟨?_, n, _, rfl, hnext, gains_insert hnext.hasSection_eq_false _⟩
    intro id hid htop
    rw [freshId?_eq_none_iff.2 ⟨id, hid, htop⟩] at hfresh
    cases hfresh

/-! ## Sections in a row -/

/-- Some sections added one after the other: their names, and the story with all of them. -/
def addSections : Story → Nat → Except EditError (List SectionId × Story)
  | s, 0 => .ok ([], s)
  | s, count + 1 => do
    let (id, s') ← s.addSection
    let (ids, s'') ← addSections s' count
    .ok (id :: ids, s'')

/-- Sections that are added in a row are named by the integers from the one that comes next. -/
theorem ids_addSections {count : Nat} {ids : List SectionId} (hnext : s.IsNext next)
    (hadd : s.addSections count = .ok (ids, s')) :
    ∃ ns : List Int64, ids = ns.map .int ∧
      ns.map Int64.toInt = (List.range count).map fun k : Nat => next + k := by
  induction count generalizing s next ids with
  | zero =>
    cases hadd
    exact ⟨[], rfl, rfl⟩
  | succ count ih =>
    rcases exists_of_bind_eq_ok hadd with ⟨⟨id, between⟩, hfirst, hadd⟩
    rcases exists_of_bind_eq_ok hadd with ⟨⟨rest, last⟩, hrest, hadd⟩
    cases hadd
    rcases addSection_cases s with ⟨-, hfailed⟩ | ⟨-, n, _, hok, hn, hgains⟩
    · rw [hfailed] at hfirst
      cases hfirst
    · rw [hok] at hfirst
      cases hfirst
      rcases ih (hgains.isNext hn) hrest with ⟨ns, rfl, hns⟩
      refine ⟨n :: ns, rfl, ?_⟩
      rw [List.map_cons, hns, hn.unique hnext, List.range_succ_eq_map, List.map_cons, List.map_map]
      refine List.cons_eq_cons.2 ⟨(Int.add_zero next).symm, List.map_congr_left fun k _ => ?_⟩
      rw [Function.comp_apply, Int.natCast_succ, Int.add_assoc, Int.add_comm 1]

/-- A section can be added unless the greatest integer of all names one.  It has one empty line, and
the other sections, the metadata and the progress stay as they are.  It is named by the least
positive integer above all integers that name sections, and this is the name of no other section,
whichever way that one is written.  Sections that are added in a row are named by integers in a
row. -/
theorem addSection_allocates (s : Story) :
    ∃ next, s.IsNext next ∧
      (s.addSection = .error .idsExhausted ↔
        ∃ id ∈ s.ids, id.toInt? = some Int64.maxValue) ∧
      ((∀ id ∈ s.ids, id.toInt? ≠ some Int64.maxValue) →
        ∃ n sec s', s.addSection = .ok (.int n, s') ∧
          n.toInt = next ∧ (∀ id ∈ s.ids, (id == .int n) = false) ∧
          sec = { textLines := some [""] } ∧ sec.rawText = "" ∧ sec.choices = [] ∧
          Gains (.int n) sec s s') ∧
      ∀ count ids s', s.addSections count = .ok (ids, s') →
        ∃ ns : List Int64, ids = ns.map .int ∧
          (ns.map Int64.toInt = (List.range count).map fun k : Nat => next + k) ∧
          ids.Pairwise fun a b => (a == b) = false := by
  refine ⟨_, isNext_greatestId s, ?_, ?_, ?_⟩
  · rcases addSection_cases s with ⟨htop, hfailed⟩ | ⟨hroom, n, s', hok, -⟩
    · exact iff_of_true hfailed htop
    · refine iff_of_false (fun hfailed => ?_) fun ⟨id, hid, htop⟩ => hroom id hid htop
      rw [hok] at hfailed
      cases hfailed
  · intro hroom
    rcases addSection_cases s with ⟨⟨id, hid, htop⟩, -⟩ | ⟨-, n, s', hok, hn, hgains⟩
    · exact absurd htop (hroom id hid)
    · exact ⟨n, Section.ofLines [""], s', hok, hn.unique (isNext_greatestId s),
        fun id hid => hn.not_beq hid, rfl, rfl, rfl, hgains⟩
  · intro count ids s' hadd
    rcases ids_addSections (isNext_greatestId s) hadd with ⟨ns, rfl, hns⟩
    exact ⟨ns, rfl, hns, Scalar.pairwise_map_int hns⟩

/-- Sections that are named by integers, by texts of integers and by other texts. -/
def mixedNames : Story where
  sections := .ofList
    [(.text "-3", {}), (.int 4, {}), (.text "7", {}), (.text "012", {}), (.text "cave", {})]

/-- A section that is named by the greatest integer of all. -/
def lastName : Story where
  sections := .ofList [(.text "9223372036854775807", {})]

/-- After seven come eight, nine and ten, whatever else is spelled with digits; after the greatest
integer comes nothing. -/
theorem mixedNames_allocates :
    (∃ sec s', mixedNames.addSection = .ok (.int 8, s') ∧ Gains (.int 8) sec mixedNames s') ∧
      (∃ s', mixedNames.addSections 3 = .ok ([.int 8, .int 9, .int 10], s')) ∧
      (([.int 8, .int 9, .int 10] : List Scalar).Pairwise fun a b => (a == b) = false) ∧
      lastName.addSection = .error .idsExhausted := by
  rcases addSection_allocates mixedNames with ⟨next, hnext, -, hroom, hrow⟩
  have hseven : mixedNames.greatestId = 7 := by decide +kernel
  have height : next = 8 := by
    rw [hnext.unique (isNext_greatestId mixedNames), hseven]
    rfl
  have hbelow : ∀ id ∈ mixedNames.ids, id.toInt? ≠ some Int64.maxValue := by decide +kernel
  refine ⟨?_, ⟨_, rfl⟩, (hrow 3 _ _ rfl).choose_spec.2.2, ?_⟩
  · rcases hroom hbelow with ⟨n, sec, s', hadd, hn, -, -, -, -, hgains⟩
    have hname : n = 8 := Int64.toInt_inj.1 (hn.trans height)
    rw [hname] at hadd hgains
    exact ⟨sec, s', hadd, hgains⟩
  · rcases addSection_allocates lastName with ⟨-, -, hfull, -⟩
    exact hfull.2 ⟨_, List.mem_cons_self, by decide +kernel⟩

end Story

end Gamebook
