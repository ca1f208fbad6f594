import EntityGraph.Proofs.Query.Parameters
import EntityGraph.Proofs.Render.Grammar

/-!
# Filter builders

The builders of `Filter` keep a filter in the grammar and give it a meaning made from the
meanings of their arguments. A filter is built (`Filter.Built`) from the empty filter by
comparisons and null checks (`compare`, of which `is`, `isSlot`, `isNot`, `isNull`, `notNull`,
`like`, `lessThan`, `lessThanEqual`, `greaterThan` and `greaterThanEqual` are instances), ranges
(`between`), `and`, `or` and `invert`. The meaning of a filter is its left-to-right reading
`Filter.read`, `none` for the empty filter.

A comparison appended to a filter is joined with `AND` to what the filter means
(`read_compare`), even when the filter ends in `OR`, because the reading is strictly left to
right; `and`, `or` and `invert` apply their connective to whole meanings, the nested filter
keeping its side together (`read_connect`, `read_invert`).

Main statement: `Filter.built_filters_compose`. A built filter is empty or a filter of the grammar,
sends one parameter per comparison that carries one, and obeys the laws of `Filter.Composes`.
-/

namespace EntityGraph

/-- A condition joined with `AND` to a meaning: the condition alone after the empty filter. -/
def Cond.andAfter {α : Type} : Option (Cond α) → Cond α → Cond α
  | none, c => c
  | some a, c => .and a c

namespace Filter

/-- The comparisons a filter makes, in token order; none for a filter that does not read. -/
def comparisons (f : Filter) : List Comparison := (f.read.map Cond.atoms).getD []

/-- Filters built from the empty filter by the builders. -/
inductive Built : Filter → Prop
  | empty : Built .empty
  | compare {f : Filter} {column : String} {o : Operator} {p : Param} : Built f →
      o.takesParameter = true ∨ o.isNullCheck = true → Built (f.compare column o p)
  | between {f : Filter} {column : String} {low high : Value} : Built f →
      Built (f.between column low high)
  | and {f g : Filter} : Built f → Built g → Built (f.and g)
  | or {f g : Filter} : Built f → Built g → Built (f.or g)
  | invert {f : Filter} : Built f → Built f.invert

/-- The laws of the builders at the filters `f` and `g`: the grammar and the parameters of `f`,
empty sides, the connectives and negation on non-empty filters, and what appending a comparison
or a range to `f` means. -/
structure Composes (f g : Filter) : Prop where
  grammar : f.tokens = [] ∨ Derives .filter f.tokens
  parameters : f.parameterCount = f.comparisons.countP (·.param.isSome)
  empty_left : f.isEmpty = true → f.and g = g ∧ f.or g = g ∧ f.invert = f
  empty_right : g.isEmpty = true → f.and g = f ∧ f.or g = f
  connect : f.isEmpty = false → g.isEmpty = false → ∃ a b, f.read = some a ∧ g.read = some b ∧
    (f.and g).read = some (.and a b) ∧ (f.or g).read = some (.or a b)
  invert : f.isEmpty = false → ∃ a, f.read = some a ∧ f.invert.read = some (.not a)
  compare : ∀ column o p, o.takesParameter = true ∨ o.isNullCheck = true →
    (f.compare column o p).read =
      some (Cond.andAfter f.read (.atom ⟨column, o, if o.takesParameter then some p else none⟩))
  between : ∀ column low high, (f.between column low high).read =
    some (Cond.andAfter f.read
      (.and (.atom ⟨column, .gtEq, some (.value low)⟩) (.atom ⟨column, .lt, some (.value high)⟩)))

/-! ## Reading what the builders append -/

/-- Tokens that complete the term `u` wherever a term is awaited. -/
def TermTokens (t : List FilterToken) (u : Cond Comparison) : Prop :=
  ∀ j, readTokens t (.term j 0) = some (.complete (Reading.closed j 0 u))

theorem termTokens_compare (column : String) {o : Operator} (p : Param)
    (ho : o.takesParameter = true ∨ o.isNullCheck = true) :
    TermTokens ([.column column, .op o] ++ if o.takesParameter then [.param p] else [])
      (.atom ⟨column, o, if o.takesParameter then some p else none⟩) := by
  intro j
  by_cases ht : o.takesParameter = true
  · simp [readToken, ht]
  · have hn : o.isNullCheck = true := ho.resolve_left ht
    simp [readToken, ht, hn]

theorem termTokens_nested {ts : List FilterToken} {u : Cond Comparison}
    (h : readTokens ts .start = some (.complete u)) : TermTokens [.nested ts] u := by
  intro j
  simp [readToken, h]

theorem read_of_wellFormed_of_ne {f : Filter} (hf : f.WellFormed) (he : f.isEmpty = false) :
    ∃ a, f.read = some a := by
  rcases hf with hf | hf
  · rw [hf] at he
    cases he
  · exact hf

/-- Tokens of a term appended with `AND` to a well-formed filter mean the term joined with `AND`
to what the filter means. -/
theorem read_joinWithAnd {f : Filter} {t : List FilterToken} {u : Cond Comparison}
    (hf : f.WellFormed) (ht : TermTokens t u) :
    ({ tokens := f.joinWithAnd.tokens ++ t } : Filter).read = some (Cond.andAfter f.read u) := by
  cases he : f.isEmpty with
  | true =>
    have hread : f.read = none := Filter.read_of_isEmpty he
    simp only [joinWithAnd, he, if_true, Filter.tokens_eq_nil he, List.nil_append, hread,
      Cond.andAfter]
    exact Filter.read_eq_some_iff.mpr (ht none)
  | false =>
    obtain ⟨a, ha⟩ := read_of_wellFormed_of_ne hf he
    have hta := ht (some (a, .and))
    rw [ha, Filter.read_eq_some_iff]
    simp only [joinWithAnd, he, Bool.false_eq_true, if_false, push, List.append_assoc,
      List.singleton_append, readTokens_append, Filter.read_eq_some_iff.mp ha, Option.bind_some,
      readTokens_cons, readToken_connective (show Operator.and.isConnective = true from rfl), hta]
    rfl

theorem compare_tokens (f : Filter) (column : String) (o : Operator) (p : Param) :
    (f.compare column o p).tokens =
      f.joinWithAnd.tokens ++ ([.column column, .op o] ++ if o.takesParameter then [.param p] else []) := by
  unfold compare
  split <;> simp [push]

theorem read_compare {f : Filter} (hf : f.WellFormed) (column : String) {o : Operator} (p : Param)
    (ho : o.takesParameter = true ∨ o.isNullCheck = true) :
    (f.compare column o p).read =
      some (Cond.andAfter f.read (.atom ⟨column, o, if o.takesParameter then some p else none⟩)) := by
  have h := read_joinWithAnd hf (termTokens_compare column p ho)
  rwa [← compare_tokens] at h

/-- A range is the conjunction of its two bounds. -/
theorem read_range (column : String) (low high : Value) :
    ((empty.greaterThanEqual column low).lessThan column high).read =
      some (.and (.atom ⟨column, .gtEq, some (.value low)⟩) (.atom ⟨column, .lt, some (.value high)⟩)) := by
  have hlow := read_compare (f := empty) (.inl rfl) column (o := .gtEq) (.value low) (.inl rfl)
  have hhigh := read_compare (.inr ⟨_, hlow⟩) column (o := .lt) (.value high) (.inl rfl)
  have hempty : (empty : Filter).read = none := Filter.read_of_isEmpty rfl
  simpa [lessThan, greaterThanEqual, hlow, hempty, Cond.andAfter, Operator.takesParameter]
    using hhigh

theorem read_between {f : Filter} (hf : f.WellFormed) (column : String) (low high : Value) :
    (f.between column low high).read = some (Cond.andAfter f.read
      (.and (.atom ⟨column, .gtEq, some (.value low)⟩) (.atom ⟨column, .lt, some (.value high)⟩))) := by
  have h := read_joinWithAnd hf
    (termTokens_nested (Filter.read_eq_some_iff.mp (read_range column low high)))
  simpa [between, push] using h

/-- A filter that reads as a condition is not empty. -/
theorem isEmpty_eq_false_of_read {f : Filter} {a : Cond Comparison} (h : f.read = some a) :
    f.isEmpty = false := by
  cases he : f.isEmpty
  · rfl
  · rw [Filter.read_of_isEmpty he] at h
    cases h

/-- Joining two filters that read applies the connective to their meanings. -/
theorem read_connect {f g : Filter} {a b : Cond Comparison} {o : Operator} (ho : o.isConnective = true)
    (hf : f.read = some a) (hg : g.read = some b) :
    (f.connect o g).read = some (Cond.connect o a b) := by
  have hfe := isEmpty_eq_false_of_read hf
  have hge := isEmpty_eq_false_of_read hg
  rw [Filter.read_eq_some_iff]
  simp only [connect, hfe, hge, Bool.false_eq_true, if_false, push, List.append_assoc,
    List.singleton_append, readTokens_append, Filter.read_eq_some_iff.mp hf, Option.bind_some,
    readTokens_cons, readToken_connective ho, readToken_nested_term (Filter.read_eq_some_iff.mp hg),
    readTokens_nil]
  rfl

theorem read_invert {f : Filter} {a : Cond Comparison} (hf : f.read = some a) :
    f.invert.read = some (.not a) := by
  have hfe := isEmpty_eq_false_of_read hf
  have hs : readTokens f.tokens (.term none 0) = some (.complete a) := Filter.read_eq_some_iff.mp hf
  rw [Filter.read_eq_some_iff]
  simp only [invert, hfe, Bool.false_eq_true, if_false, readTokens_cons, Reading.start,
    readToken_not_term, Option.bind_some, readToken_nested_term hs, readTokens_nil]
  rfl

/-! ## Well-formed filters -/

theorem connect_of_isEmpty_left {f : Filter} (g : Filter) (o : Operator) (he : f.isEmpty = true) :
    f.connect o g = g := by
  simp [connect, he]

theorem connect_of_isEmpty_right (f : Filter) {g : Filter} (o : Operator) (he : g.isEmpty = true) :
    f.connect o g = f := by
  obtain ⟨ft⟩ := f
  obtain ⟨gt⟩ := g
  have hg : gt = [] := List.isEmpty_iff.mp he
  subst hg
  by_cases hf : ft = [] <;> simp [connect, isEmpty, hf]

theorem invert_of_isEmpty {f : Filter} (he : f.isEmpty = true) : f.invert = f := by
  simp [invert, he]

theorem WellFormed.connect {f g : Filter} {o : Operator} (ho : o.isConnective = true)
    (hf : f.WellFormed) (hg : g.WellFormed) : (f.connect o g).WellFormed := by
  cases hfe : f.isEmpty
  · cases hge : g.isEmpty
    · obtain ⟨a, ha⟩ := read_of_wellFormed_of_ne hf hfe
      obtain ⟨b, hb⟩ := read_of_wellFormed_of_ne hg hge
      exact .inr ⟨_, read_connect ho ha hb⟩
    · rwa [connect_of_isEmpty_right f o hge]
  · rwa [connect_of_isEmpty_left g o hfe]

/-- Built filters are empty or read as a condition. -/
theorem Built.wellFormed {f : Filter} (h : f.Built) : f.WellFormed := by
  induction h with
  | empty => exact .inl rfl
  | compare _ ho ih => exact .inr ⟨_, read_compare ih _ _ ho⟩
  | between _ ih => exact .inr ⟨_, read_between ih _ _ _⟩
  | and _ _ ihf ihg => exact ihf.connect rfl ihg
  | or _ _ ihf ihg => exact ihf.connect rfl ihg
  | @invert f _ ih =>
    cases he : f.isEmpty
    · obtain ⟨a, ha⟩ := read_of_wellFormed_of_ne ih he
      exact .inr ⟨_, read_invert ha⟩
    · rwa [invert_of_isEmpty he]

theorem WellFormed.grammar {f : Filter} (hf : f.WellFormed) :
    f.tokens = [] ∨ Derives .filter f.tokens :=
  hf.imp Filter.tokens_eq_nil Filter.read_isSome_iff.mp

/-- A well-formed filter sends one parameter per comparison that carries one. -/
theorem WellFormed.parameterCount_eq {f : Filter} (hf : f.WellFormed) :
    f.parameterCount = f.comparisons.countP (·.param.isSome) := by
  rcases hf with he | ⟨c, hc⟩
  · simp [parameterCount, comparisons, Filter.read_of_isEmpty he, Filter.tokens_eq_nil he,
      FilterToken.listParameterCount]
  · -- the reading meets the parameter tokens as the parameters of its comparisons
    have hp := readTokens_params f.tokens (Filter.read_eq_some_iff.mp hc)
    simp only [Reading.params, Reading.done, Reading.start, Reading.joined, List.filterMap_nil,
      List.nil_append] at hp
    rw [parameterCount, listParameterCount_eq, ← hp, List.length_filterMap_eq_countP, comparisons,
      hc]
    rfl

/-- Well-formed filters obey the laws of the builders. -/
theorem WellFormed.composes {f g : Filter} (hf : f.WellFormed) (hg : g.WellFormed) :
    f.Composes g where
  grammar := hf.grammar
  parameters := hf.parameterCount_eq
  empty_left he :=
    ⟨connect_of_isEmpty_left g _ he, connect_of_isEmpty_left g _ he, invert_of_isEmpty he⟩
  empty_right he := ⟨connect_of_isEmpty_right f _ he, connect_of_isEmpty_right f _ he⟩
  connect hfe hge := by
    obtain ⟨a, ha⟩ := read_of_wellFormed_of_ne hf hfe
    obtain ⟨b, hb⟩ := read_of_wellFormed_of_ne hg hge
    exact ⟨a, b, ha, hb, read_connect rfl ha hb, read_connect rfl ha hb⟩
  invert hfe := by
    obtain ⟨a, ha⟩ := read_of_wellFormed_of_ne hf hfe
    exact ⟨a, ha, read_invert ha⟩
  compare column _ p ho := read_compare hf column p ho
  between := read_between hf

/-- **The builders stay in the grammar and compose.** Every filter built from the empty filter
by comparisons, null checks, ranges, `and`, `or` and `invert` is empty or a filter of the
grammar, sends one parameter per comparison that carries one, and with any other built filter
obeys the laws of `Composes`: an empty side gives the other side, `and`, `or` and `invert` apply
their connective to the meanings of non-empty filters, and a comparison or a range appended to
it is joined with `AND` to what it means. -/
theorem built_filters_compose {f g : Filter} (hf : f.Built) (hg : g.Built) : f.Composes g :=
  hf.wellFormed.composes hg.wellFormed

/-- A range on ages and a null check on names are built filters, and compose. -/
theorem age_range_and_unnamed_compose :
    (Filter.empty.between "age" (.int 10) (.int 20)).Built ∧ (Filter.empty.isNull "name").Built ∧
      (Filter.empty.between "age" (.int 10) (.int 20)).Composes (Filter.empty.isNull "name") :=
  have hf : (Filter.empty.between "age" (.int 10) (.int 20)).Built := .between .empty
  have hg : (Filter.empty.isNull "name").Built := .compare .empty (.inr rfl)
  ⟨hf, hg, built_filters_compose hf hg⟩

end Filter

end EntityGraph
