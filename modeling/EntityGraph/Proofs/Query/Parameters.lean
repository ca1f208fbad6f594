import EntityGraph.Proofs.Query.Where
import EntityGraph.Proofs.Render.Placeholders

/-!
# The parameters of a compiled query

A compiled statement carries its parameters in a list and shows them in its text as placeholders:
`?` for each, or `$1`, `$2`, ... in order. The two agree when the statement writes the
placeholder of every parameter it adds, in the order it adds them, and no other text reads as a
placeholder.

`Adds options ps text ps' L` says this of one stage of compiling: from the parameters `ps`, the
stage added the parameters `L` and its text shows exactly their placeholders. Every stage that
renders a filter has it (`Compiler.Named.filterOf_adds`), the stages around them write only names
and keywords, and so the whole statement has it (`Compiler.Named.statement_adds`): its parameters
are those of the filters it renders, in the order it renders them (`Compiler.renderedFilters`).
Names have no placeholder character; the schema prefix, which nothing checks, is assumed to have
none.
-/

namespace EntityGraph

open Sql

namespace Sql

theorem Avoids.unmarked {s : String} (h : Avoids isMarkChar s) : Unmarked s := by
  intro c hc
  have := h c hc
  simp only [isMarkChar, Bool.or_eq_false_iff, beq_eq_false_iff_ne] at this
  exact this

theorem Unmarked.avoids {s : String} (h : Unmarked s) : Avoids isMarkChar s := by
  intro c hc
  simp [isMarkChar, (h c hc).1, (h c hc).2]

/-- Text without special characters has no placeholder character. -/
theorem Avoids.unmarked_of_special {s : String} (h : Avoids isSpecial s) : Unmarked s :=
  (h.mono isMarkChar_special).unmarked

/-- The placeholders of text between two texts without placeholder characters, the second not
starting with a digit that could continue one. -/
theorem marks_between {pre t post : String} (hpre : Avoids isMarkChar pre)
    (hpost : Avoids isMarkChar post) (hnd : NoLeadingDigit post) : marks (pre ++ t ++ post) = marks t := by
  rw [marks_append hnd, hpost.unmarked.marks, List.append_nil, marks_unmarked_append hpre.unmarked]

theorem avoids_intercalate {bad : Char → Bool} {sep : String} (hsep : Avoids bad sep) :
    ∀ {l : List String}, (∀ s ∈ l, Avoids bad s) → Avoids bad (sep.intercalate l)
  | [], _ => avoids_empty
  | [a], h => by simpa using h
  | a :: b :: rest, h => by
    rw [String.intercalate_cons_cons, avoids_append, avoids_append]
    exact ⟨⟨h a List.mem_cons_self, hsep⟩,
      avoids_intercalate hsep fun s hs => h s (List.mem_cons_of_mem a hs)⟩

theorem noLeadingDigit_join :
    ∀ {l : List String}, (∀ s ∈ l, NoLeadingDigit s) → NoLeadingDigit (String.join l)
  | [], _ => by decide
  | s :: l, h => by
    rw [String.join_cons]
    exact (h s List.mem_cons_self).append (noLeadingDigit_join fun t ht => h t (List.mem_cons_of_mem s ht))

theorem marks_grouped (x : String × Bool) : marks (grouped x) = marks x.1 := by
  unfold grouped
  split
  · exact marks_wrap x.1
  · rfl

/-- The placeholders of a `WHERE` clause are those of its clauses in order. -/
theorem marks_whereClause : ∀ cl : List (String × Bool),
    marks (Compiler.whereClause cl) = cl.flatMap fun x => marks x.1
  | [] => rfl
  | [x] => by
    simp [Compiler.whereClause, marks_unmarked_append (show Unmarked " WHERE " by decide)]
  | x :: y :: cl => by
    rw [whereClause_several, marks_unmarked_append (by decide), marks_intercalate (by decide) rfl rfl,
      List.map_map, List.flatMap_def]
    congr 1
    exact List.map_congr_left fun z _ => marks_grouped z

end Sql

/-! ## Stages that add parameters -/

/-- From the parameters `ps`, a stage returned the parameters `ps'` and text whose placeholders
are `m`: it added the parameters `L`, and `m` are their placeholders in order. -/
def Adds (options : CompileOptions) (ps : Array CompiledParam) (m : List String)
    (ps' : Array CompiledParam) (L : List CompiledParam) : Prop :=
  ps'.toList = ps.toList ++ L ∧ m = Statement.placeholders options (ps.size + 1) L.length

namespace Adds

variable {options : CompileOptions} {ps ps₁ ps₂ ps' : Array CompiledParam} {m m₁ m₂ : List String}
  {L L₁ L₂ : List CompiledParam}

theorem size_eq (h : Adds options ps m ps' L) : ps'.size = ps.size + L.length := by
  rw [← Array.length_toList, h.1, List.length_append, Array.length_toList]

/-- A stage that adds nothing and writes no placeholder. -/
theorem nil (ps : Array CompiledParam) : Adds options ps [] ps [] :=
  ⟨by simp, rfl⟩

/-- Two stages one after the other. -/
theorem seq (h₁ : Adds options ps m₁ ps₁ L₁) (h₂ : Adds options ps₁ m₂ ps₂ L₂) :
    Adds options ps (m₁ ++ m₂) ps₂ (L₁ ++ L₂) := by
  have hsize := h₁.size_eq
  refine ⟨by rw [h₂.1, h₁.1, List.append_assoc], ?_⟩
  rw [h₁.2, h₂.2, hsize, List.length_append, Statement.placeholders_add, Nat.add_right_comm]

end Adds

/-! ## The parameters of a filter

The parameters a filter sends are its parameter tokens, nested filters included, in token order:
reading the filter left to right meets them in that order. -/

mutual
/-- The parameter tokens of a token list, nested filters included, left to right. -/
def tokensParams : List FilterToken → List Param
  | [] => []
  | t :: ts => tokenParams t ++ tokensParams ts

/-- The parameter tokens of a token. -/
def tokenParams : FilterToken → List Param
  | .param p => [p]
  | .nested ts => tokensParams ts
  | _ => []
end

@[simp] theorem tokensParams_nil : tokensParams [] = [] := by
  simp [tokensParams]

@[simp] theorem tokensParams_cons (t : FilterToken) (ts : List FilterToken) :
    tokensParams (t :: ts) = tokenParams t ++ tokensParams ts := by
  simp [tokensParams]

mutual
theorem listParameterCount_eq : ∀ ts : List FilterToken,
    FilterToken.listParameterCount ts = (tokensParams ts).length
  | [] => by simp [FilterToken.listParameterCount]
  | t :: ts => by
    simp [FilterToken.listParameterCount, parameterCount_eq t, listParameterCount_eq ts]

theorem parameterCount_eq : ∀ t : FilterToken, FilterToken.parameterCount t = (tokenParams t).length
  | .param _ => by simp [FilterToken.parameterCount, tokenParams]
  | .nested ts => by simp [FilterToken.parameterCount, tokenParams, listParameterCount_eq ts]
  | .column _ => by simp [FilterToken.parameterCount, tokenParams]
  | .op _ => by simp [FilterToken.parameterCount, tokenParams]
end

mutual
/-- The slots of a token list are below a bound exactly when those of its parameters are. -/
theorem listSlotCount_le_iff (n : Nat) : ∀ ts : List FilterToken,
    FilterToken.listSlotCount ts ≤ n ↔ ∀ p ∈ tokensParams ts, (FilterToken.param p).slotCount ≤ n
  | [] => by simp [FilterToken.listSlotCount]
  | t :: ts => by
    simp only [FilterToken.listSlotCount, Nat.max_le, slotCount_le_iff n t, listSlotCount_le_iff n ts,
      tokensParams_cons, List.forall_mem_append]

theorem slotCount_le_iff (n : Nat) : ∀ t : FilterToken,
    t.slotCount ≤ n ↔ ∀ p ∈ tokenParams t, (FilterToken.param p).slotCount ≤ n
  | .param _ => by simp only [tokenParams, List.mem_singleton, forall_eq]
  | .nested ts => listSlotCount_le_iff n ts
  | .column _ => ⟨fun _ _ hp => (by cases hp), fun _ => Nat.zero_le n⟩
  | .op _ => ⟨fun _ _ hp => (by cases hp), fun _ => Nat.zero_le n⟩
end

/-- The parameters of the comparisons of a reading. -/
def Reading.params (r : Reading) : List Param := r.done.filterMap Comparison.param

mutual
/-- Reading tokens adds their parameter tokens to the comparisons read, in token order. -/
theorem readTokens_params : ∀ (ts : List FilterToken) {r r' : Reading},
    readTokens ts r = some r' → r'.params = r.params ++ tokensParams ts
  | [], _, _, h => by
    simp only [readTokens_nil, Option.some.injEq] at h
    subst h
    simp
  | t :: ts, _, _, h => by
    obtain ⟨r₁, h₁, h₂⟩ := Option.bind_eq_some_iff.mp ((readTokens_cons t ts _).symm.trans h)
    rw [readTokens_params ts h₂, readToken_params t h₁, tokensParams_cons, List.append_assoc]

theorem readToken_params : ∀ (t : FilterToken) {r r' : Reading},
    readToken t r = some r' → r'.params = r.params ++ tokenParams t
  | .nested ts, .term j n, _, h => by
    simp only [readToken] at h
    split at h
    · next u hu =>
      simp only [Option.some.injEq] at h
      subst h
      have hin := readTokens_params ts hu
      simp only [Reading.params, Reading.done, Reading.start, Reading.joined, List.filterMap_nil,
        List.nil_append] at hin
      simp [Reading.params, Reading.done, tokenParams, hin]
    · cases h
  | .column c, .term j n, _, h => by
    simp only [readToken, Option.some.injEq] at h
    subst h
    simp [Reading.params, Reading.done, tokenParams]
  | .op o, .term j n, _, h => by
    simp only [readToken] at h
    split at h
    · simp only [Option.some.injEq] at h
      subst h
      simp [Reading.params, Reading.done, tokenParams]
    · cases h
  | .op o, .operator j n c, _, h => by
    simp only [readToken] at h
    split at h
    · simp only [Option.some.injEq] at h
      subst h
      simp [Reading.params, Reading.done, tokenParams]
    · split at h
      · simp only [Option.some.injEq] at h
        subst h
        simp [Reading.params, Reading.done, tokenParams, Cond.atoms]
      · cases h
  | .param p, .parameter j n c o, _, h => by
    simp only [readToken, Option.some.injEq] at h
    subst h
    simp [Reading.params, Reading.done, tokenParams, Cond.atoms]
  | .op o, .complete acc, _, h => by
    simp only [readToken] at h
    split at h
    · simp only [Option.some.injEq] at h
      subst h
      simp [Reading.params, Reading.done, Reading.joined, tokenParams]
    · cases h
  | .nested _, .operator .., _, h | .nested _, .parameter .., _, h | .nested _, .complete _, _, h
  | .column _, .operator .., _, h | .column _, .parameter .., _, h | .column _, .complete _, _, h
  | .op _, .parameter .., _, h | .param _, .term .., _, h | .param _, .operator .., _, h
  | .param _, .complete _, _, h => by simp [readToken] at h
end

/-- One more than the slot of a statement parameter, `0` for a value. -/
def CompiledParam.slotCount : CompiledParam → Nat
  | .slot i _ => i + 1
  | .value _ => 0

/-- Encoding keeps the slot of a parameter. -/
theorem Param.slotCount_compile (ty : ColumnType) (p : Param) :
    (p.compile ty).slotCount = (FilterToken.param p).slotCount := by
  cases p <;> rfl

/-- The parameters comparisons send keep the slots of the parameters they compare with. -/
theorem compiledParams_slots (ctx : RenderContext) : ∀ l : List Comparison,
    (l.filterMap ctx.compiledParam).map CompiledParam.slotCount =
      (l.filterMap Comparison.param).map fun p => (FilterToken.param p).slotCount
  | [] => rfl
  | a :: l => by
    cases hp : a.param with
    | none => simp [RenderContext.compiledParam, hp, compiledParams_slots ctx l]
    | some p =>
      simp [RenderContext.compiledParam, hp, compiledParams_slots ctx l, Param.slotCount_compile]

theorem Filter.tokens_eq_nil {f : Filter} (h : f.isEmpty = true) : f.tokens = [] :=
  List.isEmpty_iff.mp h

/-- A filter that is empty or reads as a condition: the filters a statement renders. -/
def Filter.WellFormed (f : Filter) : Prop := f.isEmpty = true ∨ ∃ c, f.read = some c

/-- A well-formed filter sends one parameter for each parameter token, in token order, with the
slot of the token. -/
theorem Filter.WellFormed.slots {f : Filter} (hf : f.WellFormed) (ctx : RenderContext) :
    (f.compiledParams ctx).map CompiledParam.slotCount =
      (tokensParams f.tokens).map fun p => (FilterToken.param p).slotCount := by
  rcases hf with he | ⟨c, hc⟩
  · obtain ⟨_ | ⟨t, ts⟩⟩ := f
    · simp [Filter.compiledParams, Filter.read_of_isEmpty he]
    · cases he
  · have hparams := readTokens_params f.tokens (Filter.read_eq_some_iff.mp hc)
    simp only [Reading.params, Reading.done, Reading.start, Reading.joined, List.filterMap_nil,
      List.nil_append] at hparams
    simp only [Filter.compiledParams, hc, Option.map_some, Option.getD_some, compiledParams_slots,
      hparams]

theorem Filter.WellFormed.length {f : Filter} (hf : f.WellFormed) (ctx : RenderContext) :
    (f.compiledParams ctx).length = f.parameterCount := by
  rw [← List.length_map (f := CompiledParam.slotCount), hf.slots, List.length_map, Filter.parameterCount,
    listParameterCount_eq]

theorem Filter.WellFormed.slotCount_le_iff {f : Filter} (hf : f.WellFormed) (ctx : RenderContext)
    (n : Nat) : f.slotCount ≤ n ↔ ∀ p ∈ f.compiledParams ctx, p.slotCount ≤ n := by
  have hs := hf.slots ctx
  rw [Filter.slotCount, listSlotCount_le_iff]
  constructor
  · intro h p hp
    obtain ⟨q, hq, e⟩ : ∃ q ∈ tokensParams f.tokens, (FilterToken.param q).slotCount = p.slotCount := by
      have : p.slotCount ∈ (f.compiledParams ctx).map CompiledParam.slotCount := List.mem_map_of_mem hp
      rw [hs, List.mem_map] at this
      exact this
    exact e ▸ h q hq
  · intro h q hq
    obtain ⟨p, hp, e⟩ : ∃ p ∈ f.compiledParams ctx, p.slotCount = (FilterToken.param q).slotCount := by
      have : (FilterToken.param q).slotCount ∈ (tokensParams f.tokens).map
          fun p => (FilterToken.param p).slotCount := List.mem_map_of_mem (f := fun p => (FilterToken.param p).slotCount) hq
      rw [← hs, List.mem_map] at this
      exact this
    exact e ▸ h p hp

/-- An invariant of every step holds at the end of a fold. -/
theorem foldl_invariant {α β : Type} {f : β → α → β} {I : β → Prop} :
    ∀ (l : List α), (∀ b a, a ∈ l → I b → I (f b a)) → ∀ init, I init → I (l.foldl f init)
  | [], _, _, hi => hi
  | x :: l, hf, init, hi =>
    foldl_invariant l (fun b a ha => hf b a (List.mem_cons_of_mem x ha)) _
      (hf init x List.mem_cons_self hi)

namespace Compiler

variable {c : Compiler}

/-! ## The filters a statement renders -/

/-- The parameters the filter of node `i` sends. -/
def filterParams (c : Compiler) (i : Nat) : List CompiledParam :=
  (c.node i).filter.compiledParams (c.context i)

/-- The nodes whose filters a statement renders, in the order it renders them: under either kind
of paging the primary filter, in the subquery that picks the page, then every filter the outer
`WHERE` applies. -/
def renderedFilters (c : Compiler) (page : Paging) : List Nat :=
  (if page = .none then [] else [0]) ++ (List.range c.nodes.size).filter (c.appliesFilter page)

theorem filterParams_of_isEmpty {i : Nat} (h : (c.node i).filter.isEmpty = true) :
    c.filterParams i = [] := by
  simp [filterParams, Filter.compiledParams, Filter.read_of_isEmpty h]

/-- In a named compiler no field is written with a placeholder character. -/
theorem Named.unmarked (hc : c.Named) (i : Nat) : (c.context i).Unmarked :=
  fun _ _ h => (hc.resolveSql h).unmarked_of_special

/-! ## Texts without placeholders -/

theorem Named.orderTerms (hc : c.Named) {i : Nat} {terms : List String}
    (h : c.orderTerms i = .ok terms) : ∀ t ∈ terms, Avoids isSpecial t := by
  unfold Compiler.orderTerms at h
  obtain ⟨resolved, hr, h⟩ := except_bind_ok h
  cases h
  have hres : ∀ x ∈ resolved, Avoids isSpecial x.1 := by
    intro x hx
    obtain ⟨o, -, ho⟩ := mapM_ok_mem hr x hx
    obtain ⟨r, hr', ho⟩ := except_bind_ok ho
    cases ho
    have hdir : Avoids isSpecial o.direction.sql := by cases o.direction <;> decide
    simp +decide only [avoids_append, hc.resolveSql hr', hdir, and_true]
  have hkey := hc.primaryKeyOf_avoids (hc.node i)
  have hterms : ∀ t ∈ resolved.map (·.1), Avoids isSpecial t := by
    simp only [List.mem_map]
    rintro _ ⟨x, hx, rfl⟩
    exact hres x hx
  split
  · exact hterms
  · exact List.forall_mem_append.mpr ⟨hterms, List.forall_mem_singleton.mpr hkey⟩

theorem Named.orderBy (hc : c.Named) :
    ∀ (is : List Nat) {terms : List String}, c.orderBy is = .ok terms → ∀ t ∈ terms, Avoids isSpecial t
  | [], _, h => by cases h; simp
  | i :: is, _, h => by
    unfold Compiler.orderBy at h
    obtain ⟨terms, ht, h⟩ := except_bind_ok h
    obtain ⟨rest, hr, h⟩ := except_bind_ok h
    cases h
    exact List.forall_mem_append.mpr ⟨hc.orderTerms ht, Named.orderBy hc is hr⟩

/-- Every projected column is an alias, a dot and a column name. -/
theorem Named.projection (hc : c.Named) : ∀ col ∈ c.projection.1, Avoids isSpecial col := by
  unfold Compiler.projection
  refine foldl_invariant (I := fun acc : List String × List CompiledNode =>
    ∀ col ∈ acc.1, Avoids isSpecial col) _ ?_ _ (by simp)
  rintro ⟨columns, compiled⟩ n hn hcols
  -- the columns of every table of the node are added after those so far
  refine foldl_invariant (I := fun acc : List String × List ProjectionBlock =>
    ∀ col ∈ acc.1, Avoids isSpecial col) _ ?_ _ hcols
  rintro ⟨columns', blocks⟩ ⟨table, a⟩ ht hcols'
  have ha := IsAlias.name ((hc.nodes n (Array.mem_toList_iff.mp hn)).tables _ ht)
  refine List.forall_mem_append.mpr ⟨hcols', ?_⟩
  simp only [List.mem_map]
  rintro _ ⟨i, -, rfl⟩
  simp +decide only [avoids_append, ha.avoids, (hc.columnName table i).avoids, and_true]

/-! ## Texts that start with a blank

The joins and the `WHERE` clause follow text that may end in a placeholder; each starts with a
blank, or is empty, so none of them continues a placeholder's number. -/

theorem levelJoins_noLeadingDigit (n : PlannedNode) (primary : Bool) :
    NoLeadingDigit (c.levelJoins n primary) := by
  unfold Compiler.levelJoins
  refine NoLeadingDigit.append (noLeadingDigit_join ?_) (noLeadingDigit_join ?_)
  · simp only [List.mem_map]
    rintro _ ⟨⟨t, a⟩, -, rfl⟩
    simp only [String.append_assoc]
    exact noLeadingDigit_of_head rfl rfl _
  · simp only [List.mem_map]
    rintro _ ⟨⟨impl, t, a⟩, -, rfl⟩
    simp only [String.append_assoc]
    exact noLeadingDigit_of_head rfl rfl _

theorem relationJoin_noLeadingDigit (n : PlannedNode) : NoLeadingDigit (c.relationJoin n) := by
  unfold Compiler.relationJoin
  split
  · split <;> simp only [String.append_assoc] <;> exact noLeadingDigit_of_head rfl rfl _
  · decide

theorem joins_noLeadingDigit : NoLeadingDigit c.joins := by
  unfold Compiler.joins
  refine noLeadingDigit_join ?_
  simp only [List.mem_map]
  rintro _ ⟨n, -, rfl⟩
  exact (relationJoin_noLeadingDigit n).append (levelJoins_noLeadingDigit n false)

theorem whereClause_noLeadingDigit (cl : List (String × Bool)) : NoLeadingDigit (whereClause cl) := by
  unfold whereClause
  split
  · decide
  · exact noLeadingDigit_of_head rfl rfl _

/-! ## The stages of a statement -/

/-- The stages of a statement: the page mode, the source, the clauses of the outer `WHERE` and the
ordering, and the text that joins them. -/
theorem statement_ok {limit offset : Option Nat} {ps ps' : Array CompiledParam} {text : String}
    (h : (c.statement limit offset).run ps = .ok (text, ps')) :
    ∃ page source cl order ps₁, c.pageMode limit offset = .ok page ∧
      (c.source page limit offset).run ps = .ok (source, ps₁) ∧
      (c.clauses page limit offset).run ps₁ = .ok (cl, ps') ∧
      c.orderBy (List.range c.nodes.size) = .ok order ∧
      text = "SELECT " ++ ", ".intercalate c.projection.1 ++ " FROM " ++ source ++ c.joins ++
        whereClause cl ++ " ORDER BY " ++ ", ".intercalate order ++
        (if page == .none then c.paging limit offset else "") := by
  unfold Compiler.statement at h
  obtain ⟨page, ps₁, hpage, h₁⟩ := run_bind_ok h
  obtain ⟨source, ps₂, hsrc, h₂⟩ := run_bind_ok h₁
  obtain ⟨cl, ps₃, hcl, h₃⟩ := run_bind_ok h₂
  obtain ⟨order, ps₄, hord, h₄⟩ := run_bind_ok h₃
  obtain ⟨hmode, rfl⟩ := run_lift_ok hpage
  obtain ⟨horder, rfl⟩ := run_lift_ok hord
  obtain ⟨rfl, rfl⟩ := run_pure_ok h₄
  exact ⟨page, source, cl, order, ps₂, hmode, hsrc, hcl, horder, rfl⟩

/-- Paging needs a joined node. -/
theorem pageMode_size {limit offset : Option Nat} {page : Paging}
    (h : c.pageMode limit offset = .ok page) (hp : page ≠ .none) : 1 < c.nodes.size := by
  unfold Compiler.pageMode at h
  split at h
  · next hjoin =>
    simp only [Bool.and_eq_true, decide_eq_true_eq, Array.length_toList] at hjoin
    exact hjoin.1
  · cases h
    exact absurd rfl hp

/-! ## Every filter of a compiled statement is well formed -/

section WellFormed

variable (hc : c.Named) {ps ps' : Array CompiledParam}
include hc

theorem Named.rootWhere_wellFormed {w : String} (h : c.rootWhere.run ps = .ok (w, ps')) :
    (c.node 0).filter.WellFormed := by
  unfold Compiler.rootWhere at h
  split at h
  · next he => exact .inl he
  · obtain ⟨text, ps₁, ht, -⟩ := run_bind_ok h
    exact .inr (read_of_renderFilter (hc.plain 0) ht).1

theorem Named.filterClauses_wellFormed (page : Paging) : ∀ (is : List Nat)
    {ps ps' : Array CompiledParam} {cl : List (String × Bool)},
    (c.filterClauses page is).run ps = .ok (cl, ps') →
    ∀ i ∈ is, c.appliesFilter page i = true → (c.node i).filter.WellFormed
  | [], _, _, _, _, i, hi, _ => by cases hi
  | j :: is, _, _, _, h, i, hi, happ => by
    rw [filterClauses_cons] at h
    split at h
    · obtain ⟨text, ps₁, ht, h₁⟩ := run_bind_ok h
      obtain ⟨rest, ps₂, hr, -⟩ := run_bind_ok h₁
      rcases List.mem_cons.mp hi with rfl | hi
      · exact .inr (read_of_renderFilter (hc.plain i) ht).1
      · exact Named.filterClauses_wellFormed page is hr i hi happ
    · next hskip =>
      rcases List.mem_cons.mp hi with rfl | hi
      · exact absurd happ hskip
      · exact Named.filterClauses_wellFormed page is h i hi happ

/-- A statement renders every filter that is not empty, so all of them are well formed. -/
theorem Named.statement_wellFormed {limit offset : Option Nat} {text : String}
    (h : (c.statement limit offset).run ps = .ok (text, ps')) {i : Nat} (hi : i < c.nodes.size) :
    (c.node i).filter.WellFormed := by
  obtain ⟨page, source, cl, order, ps₁, -, hsrc, hcl, -, -⟩ := statement_ok h
  obtain ⟨keys, filters, ps₂, hf, -, -⟩ := clauses_ok hcl
  by_cases happ : c.appliesFilter page i = true
  · exact hc.filterClauses_wellFormed page _ hf i (List.mem_range.mpr hi) happ
  by_cases he : (c.node i).filter.isEmpty = true
  · exact .inl he
  -- a filter the outer `WHERE` skips and that is not empty is the primary one, which the page
  -- subquery renders
  obtain ⟨rfl, rfl⟩ : page = .subquery ∧ i = 0 := by
    have hskip : (page == .subquery && i == 0) = true := by simpa [appliesFilter, he] using happ
    simpa using hskip
  unfold Compiler.source at hsrc
  rw [if_pos (beq_self_eq_true _)] at hsrc
  obtain ⟨sub, ps₃, hsub, -⟩ := run_bind_ok hsrc
  unfold Compiler.pageSubquery at hsub
  obtain ⟨w, ps₄, hw, -⟩ := run_bind_ok hsub
  exact hc.rootWhere_wellFormed hw

end WellFormed

/-! ## The parameters of each stage -/

section Stages

variable {ps ps' : Array CompiledParam} {limit offset : Option Nat}

theorem Named.filterOf_adds (hc : c.Named) {i : Nat} {text : String}
    (h : (c.filterOf i).run ps = .ok (text, ps')) :
    Adds c.options ps (marks text) ps' (c.filterParams i) :=
  renderFilter_placeholders (hc.plain i) (hc.unmarked i) h

theorem Named.rootWhere_adds (hc : c.Named) {w : String} (h : c.rootWhere.run ps = .ok (w, ps')) :
    Adds c.options ps (marks w) ps' (c.filterParams 0) := by
  unfold Compiler.rootWhere at h
  split at h
  · next he =>
    obtain ⟨rfl, rfl⟩ := run_pure_ok h
    rw [filterParams_of_isEmpty he]
    exact Adds.nil _
  · obtain ⟨text, ps₁, ht, hw⟩ := run_bind_ok h
    obtain ⟨rfl, rfl⟩ := run_pure_ok hw
    rw [marks_unmarked_append (by decide)]
    exact hc.filterOf_adds ht

/-- The filter clauses add the parameters of the filters the outer `WHERE` applies, in node
order. -/
theorem Named.filterClauses_adds (hc : c.Named) (page : Paging) : ∀ (is : List Nat)
    {ps ps' : Array CompiledParam} {cl : List (String × Bool)},
    (c.filterClauses page is).run ps = .ok (cl, ps') →
    Adds c.options ps (cl.flatMap fun x => marks x.1) ps'
      ((is.filter (c.appliesFilter page)).flatMap c.filterParams)
  | [], _, _, _, h => by
    obtain ⟨rfl, rfl⟩ := run_pure_ok h
    exact Adds.nil _
  | i :: is, _, _, _, h => by
    rw [filterClauses_cons] at h
    split at h
    · next happ =>
      obtain ⟨text, ps₁, ht, h₁⟩ := run_bind_ok h
      obtain ⟨rest, ps₂, hr, h₂⟩ := run_bind_ok h₁
      obtain ⟨rfl, rfl⟩ := run_pure_ok h₂
      rw [List.filter_cons_of_pos happ, List.flatMap_cons, List.flatMap_cons]
      exact (hc.filterOf_adds ht).seq (Named.filterClauses_adds hc page is hr)
    · next hskip =>
      rw [List.filter_cons_of_neg hskip]
      exact Named.filterClauses_adds hc page is h

variable (hs : Avoids isMarkChar (c.options.schema.getD ""))
include hs

theorem Named.pageSubquery_adds (hc : c.Named) {text : String}
    (h : (c.pageSubquery limit offset).run ps = .ok (text, ps')) :
    Adds c.options ps (marks text) ps' (c.filterParams 0) := by
  unfold Compiler.pageSubquery at h
  obtain ⟨w, ps₁, hw, h⟩ := run_bind_ok h
  obtain ⟨order, ps₂, ho, h⟩ := run_bind_ok h
  obtain ⟨rfl, rfl⟩ := run_pure_ok h
  obtain ⟨hterms, rfl⟩ := run_lift_ok ho
  have hpre : Avoids isMarkChar ("SELECT " ++ (c.node 0).ownAlias ++ ".* FROM " ++ c.rootSource) := by
    simp +decide only [avoids_append, ((hc.node 0).ownAlias.avoids.mono isMarkChar_special),
      hc.rootSource isMarkChar_special hs, and_true]
  have hpost : Avoids isMarkChar (" ORDER BY " ++ (", ".intercalate order ++ c.paging limit offset)) := by
    simp +decide only [avoids_append, (paging_avoids limit offset).mono isMarkChar_special,
      avoids_intercalate (show Avoids isMarkChar ", " by decide)
        fun t ht => (hc.orderTerms hterms t ht).mono isMarkChar_special, and_true]
  have e : "SELECT " ++ (c.node 0).ownAlias ++ ".* FROM " ++ c.rootSource ++ w ++ " ORDER BY " ++
      ", ".intercalate order ++ c.paging limit offset =
      ("SELECT " ++ (c.node 0).ownAlias ++ ".* FROM " ++ c.rootSource) ++ w ++
        (" ORDER BY " ++ (", ".intercalate order ++ c.paging limit offset)) := by
    simp only [String.append_assoc]
  rw [e, marks_between hpre hpost (noLeadingDigit_of_head rfl rfl _)]
  exact hc.rootWhere_adds hw

theorem Named.keySubquery_adds (hc : c.Named) {text : String}
    (h : (c.keySubquery limit offset).run ps = .ok (text, ps')) :
    Adds c.options ps (marks text) ps' (c.filterParams 0) := by
  unfold Compiler.keySubquery at h
  obtain ⟨w, ps₁, hw, h⟩ := run_bind_ok h
  obtain ⟨⟨group, order⟩, ps₂, hpo, h⟩ := run_bind_ok h
  obtain ⟨rfl, rfl⟩ := run_pure_ok h
  obtain ⟨hpage, rfl⟩ := run_lift_ok hpo
  obtain ⟨hg, ho⟩ := hc.pageOrder hpage
  have hsep : Avoids isMarkChar ", " := by decide
  have hpre : Avoids isMarkChar ("SELECT " ++ c.primaryKeyOf (c.node 0) ++ " FROM " ++ c.rootSource ++
      c.joins) := by
    simp +decide only [avoids_append, (hc.primaryKeyOf_avoids (hc.node 0)).mono isMarkChar_special,
      hc.rootSource isMarkChar_special hs, hc.joins isMarkChar_special hs, and_true]
  have hpost : Avoids isMarkChar (" GROUP BY " ++ (", ".intercalate group ++ " ORDER BY " ++
      ", ".intercalate order ++ c.paging limit offset)) := by
    simp +decide only [avoids_append, (paging_avoids limit offset).mono isMarkChar_special,
      avoids_intercalate hsep fun g hg' => (hg g hg').mono isMarkChar_special,
      avoids_intercalate hsep fun t ht => (ho t ht).2, and_true]
  have e : "SELECT " ++ c.primaryKeyOf (c.node 0) ++ " FROM " ++ c.rootSource ++ c.joins ++ w ++
      " GROUP BY " ++ ", ".intercalate group ++ " ORDER BY " ++ ", ".intercalate order ++
      c.paging limit offset =
      ("SELECT " ++ c.primaryKeyOf (c.node 0) ++ " FROM " ++ c.rootSource ++ c.joins) ++ w ++
        (" GROUP BY " ++ (", ".intercalate group ++ " ORDER BY " ++ ", ".intercalate order ++
          c.paging limit offset)) := by
    simp only [String.append_assoc]
  rw [e, marks_between hpre hpost (noLeadingDigit_of_head rfl rfl _)]
  exact hc.rootWhere_adds hw

theorem Named.keyClause_adds (hc : c.Named) {text : String}
    (h : (c.keyClause limit offset).run ps = .ok (text, ps')) :
    Adds c.options ps (marks text) ps' (c.filterParams 0) := by
  unfold Compiler.keyClause at h
  obtain ⟨inner, ps₁, hk, h⟩ := run_bind_ok h
  obtain ⟨rfl, rfl⟩ := run_pure_ok h
  have hpre : Avoids isMarkChar (c.primaryKeyOf (c.node 0) ++ " IN (") := by
    simp +decide only [avoids_append, (hc.primaryKeyOf_avoids (hc.node 0)).mono isMarkChar_special,
      and_true]
  rw [marks_between hpre (by decide) (by decide)]
  exact hc.keySubquery_adds hs hk

/-- The clauses of the outer `WHERE` add the primary filter's parameters under key paging, in the
key subquery, then those of every filter the outer `WHERE` applies. -/
theorem Named.clauses_adds (hc : c.Named) {page : Paging} {cl : List (String × Bool)}
    (h : (c.clauses page limit offset).run ps = .ok (cl, ps')) :
    Adds c.options ps (marks (whereClause cl)) ps'
      ((if page = .keys then c.filterParams 0 else []) ++
        ((List.range c.nodes.size).filter (c.appliesFilter page)).flatMap c.filterParams) := by
  obtain ⟨keys, filters, ps₁, hf, rfl, hkeys⟩ := clauses_ok h
  have hfilters := hc.filterClauses_adds page _ hf
  rw [marks_whereClause, List.flatMap_append]
  rcases hkeys with ⟨hp, text, ht, rfl⟩ | ⟨hp, rfl, rfl⟩
  · rw [if_pos hp, List.flatMap_cons, List.flatMap_nil, List.append_nil]
    exact (hc.keyClause_adds hs ht).seq hfilters
  · rw [if_neg hp, List.flatMap_nil, List.nil_append, List.nil_append]
    exact hfilters

/-- The source adds the primary filter's parameters under subquery paging, in the page
subquery, and none otherwise. -/
theorem Named.source_adds (hc : c.Named) {page : Paging} {text : String}
    (h : (c.source page limit offset).run ps = .ok (text, ps')) :
    Adds c.options ps (marks text) ps' (if page = .subquery then c.filterParams 0 else []) := by
  unfold Compiler.source at h
  split at h
  · next hp =>
    obtain ⟨sub, ps₁, hsub, h₁⟩ := run_bind_ok h
    obtain ⟨rfl, rfl⟩ := run_pure_ok h₁
    have hpost : Avoids isMarkChar (") " ++ ((c.node 0).ownAlias ++ c.levelJoins (c.node 0) true)) := by
      simp +decide only [avoids_append, (hc.node 0).ownAlias.avoids.mono isMarkChar_special,
        hc.levelJoins isMarkChar_special hs (hc.node 0), and_true]
    have e : "(" ++ sub ++ ") " ++ (c.node 0).ownAlias ++ c.levelJoins (c.node 0) true =
        "(" ++ sub ++ (") " ++ ((c.node 0).ownAlias ++ c.levelJoins (c.node 0) true)) := by
      simp only [String.append_assoc]
    rw [if_pos (beq_iff_eq.mp hp), e, marks_between (by decide) hpost (noLeadingDigit_of_head rfl rfl _)]
    exact hc.pageSubquery_adds hs hsub
  · next hp =>
    obtain ⟨rfl, rfl⟩ := run_pure_ok h
    rw [if_neg (fun e => hp (beq_iff_eq.mpr e)), (hc.rootSource isMarkChar_special hs).unmarked.marks]
    exact Adds.nil _

/-- A statement adds the parameters of the filters it renders, in the order it renders them, and
its text shows exactly their placeholders. -/
theorem Named.statement_adds (hc : c.Named) {text : String}
    (h : (c.statement limit offset).run ps = .ok (text, ps')) :
    ∃ page, c.pageMode limit offset = .ok page ∧
      Adds c.options ps (marks text) ps' ((c.renderedFilters page).flatMap c.filterParams) := by
  obtain ⟨page, source, cl, order, ps₁, hmode, hsrc, hcl, horder, rfl⟩ := statement_ok h
  refine ⟨page, hmode, ?_⟩
  have hsep : Avoids isMarkChar ", " := by decide
  have hcols : Unmarked (", ".intercalate c.projection.1) :=
    (avoids_intercalate hsep fun col hcol => (hc.projection col hcol).mono isMarkChar_special).unmarked
  have hpost : Unmarked (" ORDER BY " ++ (", ".intercalate order ++
      (if (page == .none) = true then c.paging limit offset else ""))) := by
    have hpaging : Avoids isMarkChar (if (page == .none) = true then c.paging limit offset else "") := by
      split
      · exact (paging_avoids limit offset).mono isMarkChar_special
      · exact avoids_empty
    refine Avoids.unmarked ?_
    simp +decide only [avoids_append, hpaging, and_true,
      avoids_intercalate hsep fun t ht => (hc.orderBy _ horder t ht).mono isMarkChar_special]
  -- the placeholders are those of the source, then those of the `WHERE` clause
  simp only [String.append_assoc]
  rw [marks_unmarked_append (by decide), marks_unmarked_append hcols, marks_unmarked_append (by decide),
    marks_append (joins_noLeadingDigit.append
      ((whereClause_noLeadingDigit cl).append (noLeadingDigit_of_head rfl rfl _))),
    marks_unmarked_append (hc.joins isMarkChar_special hs).unmarked,
    marks_append (noLeadingDigit_of_head rfl rfl _), hpost.marks, List.append_nil]
  -- under either kind of paging the primary filter's parameters come first
  have hL : (if page = .subquery then c.filterParams 0 else []) ++
      ((if page = .keys then c.filterParams 0 else []) ++
        ((List.range c.nodes.size).filter (c.appliesFilter page)).flatMap c.filterParams) =
      (c.renderedFilters page).flatMap c.filterParams := by
    cases page <;> simp [renderedFilters]
  rw [← hL]
  exact (hc.source_adds hs hsrc).seq (hc.clauses_adds hs hcl)

end Stages

/-! ## Counting the parameters -/

theorem range_map_node (c : Compiler) : (List.range c.nodes.size).map c.node = c.nodes.toList := by
  apply List.ext_getElem
  · simp
  · intro i h₁ h₂
    simp only [List.getElem_map, List.getElem_range, Compiler.node, Array.getElem_toList]
    rw [Array.getElem?_eq_getElem (by simpa using h₂), Option.getD_some]

/-- Filters that are skipped count nothing. -/
theorem foldr_add_filter {l : List Nat} {p : Nat → Bool} {f : Nat → Nat}
    (hz : ∀ x ∈ l, p x = false → f x = 0) :
    ((l.filter p).map f).foldr (· + ·) 0 = (l.map f).foldr (· + ·) 0 := by
  induction l with
  | nil => rfl
  | cons x l ih =>
    have ih := ih fun y hy => hz y (List.mem_cons_of_mem x hy)
    cases hp : p x with
    | true => simp [hp, ih]
    | false => simp [hp, ih, hz x List.mem_cons_self hp]

/-- The filters a statement renders are filters of its nodes. -/
theorem lt_of_mem_renderedFilters {page : Paging} (hn : page ≠ .none → 1 < c.nodes.size) {i : Nat}
    (hi : i ∈ c.renderedFilters page) : i < c.nodes.size := by
  rcases List.mem_append.mp hi with h₀ | hf
  · split at h₀
    · cases h₀
    · next hp => rw [List.mem_singleton.mp h₀]; exact Nat.lt_of_succ_lt (hn hp)
  · exact List.mem_range.mp (List.mem_filter.mp hf).1

/-- A statement renders every filter that is not empty. -/
theorem mem_renderedFilters (page : Paging) {i : Nat} (hi : i < c.nodes.size)
    (he : (c.node i).filter.isEmpty = false) : i ∈ c.renderedFilters page := by
  by_cases happ : c.appliesFilter page i = true
  · exact List.mem_append_right _ (List.mem_filter.mpr ⟨List.mem_range.mpr hi, happ⟩)
  · obtain ⟨rfl, rfl⟩ : page = .subquery ∧ i = 0 := by
      have hskip : (page == .subquery && i == 0) = true := by simpa [appliesFilter, he] using happ
      simpa using hskip
    exact List.mem_append_left _ (by simp)

/-- Over the filters a statement renders, each node filter counts once and the primary one once
more under key paging. -/
theorem renderedFilters_sum {page : Paging} (hn : page ≠ .none → 1 < c.nodes.size) (f : Nat → Nat)
    (hf : ∀ i, (c.node i).filter.isEmpty = true → f i = 0) :
    ((c.renderedFilters page).map f).foldr (· + ·) 0 =
      ((List.range c.nodes.size).map f).foldr (· + ·) 0 + (if page = .keys then f 0 else 0) := by
  have skipped : ∀ {page : Paging} x, c.appliesFilter page x = false →
      (c.node x).filter.isEmpty = true ∨ (page = .subquery ∧ x = 0) := by
    intro page x hx
    by_cases he : (c.node x).filter.isEmpty = true
    · exact .inl he
    · have hskip : (page == .subquery && x == 0) = true := by simpa [appliesFilter, he] using hx
      exact .inr (by simpa using hskip)
  cases page with
  | none =>
    simp only [renderedFilters, if_pos, List.nil_append, reduceCtorEq, if_false, Nat.add_zero]
    refine foldr_add_filter fun x _ hx => ?_
    rcases skipped x hx with he | ⟨h, -⟩
    · exact hf x he
    · cases h
  | keys =>
    simp only [renderedFilters, reduceCtorEq, if_false, if_true, List.singleton_append,
      List.map_cons, List.foldr_cons]
    rw [foldr_add_filter fun x _ hx => ?_, Nat.add_comm]
    rcases skipped x hx with he | ⟨h, -⟩
    · exact hf x he
    · cases h
  | subquery =>
    -- the primary filter is rendered in the page subquery, and skipped by the outer `WHERE`
    obtain ⟨m, hm⟩ : ∃ m, c.nodes.size = m + 1 :=
      ⟨c.nodes.size - 1, by have := hn (by decide); omega⟩
    simp only [renderedFilters, reduceCtorEq, if_false, List.singleton_append, List.map_cons,
      List.foldr_cons, Nat.add_zero, hm, List.range_succ_eq_map]
    have h₀ : c.appliesFilter .subquery 0 = false := by simp [appliesFilter]
    rw [List.filter_cons_of_neg (by simp [h₀]), foldr_add_filter fun x hx hskip => ?_]
    obtain ⟨y, -, rfl⟩ := List.mem_map.mp hx
    rcases skipped _ hskip with he | ⟨-, h⟩
    · exact hf _ he
    · cases h

section Counts

variable (hc : c.Named) {ps ps' : Array CompiledParam} {limit offset : Option Nat} {text : String}
  (h : (c.statement limit offset).run ps = .ok (text, ps')) {page : Paging}
  (hmode : c.pageMode limit offset = .ok page)
include hc h hmode

/-- A statement sends as many parameters as its node filters have parameter tokens, those of the
primary filter twice under key paging. -/
theorem Named.statement_params_length :
    ((c.renderedFilters page).flatMap c.filterParams).length =
      (c.nodes.toList.map fun n => n.filter.parameterCount).foldr (· + ·) 0 +
        (if page = .keys then (c.node 0).filter.parameterCount else 0) := by
  have hn := pageMode_size hmode
  have hlen : ∀ i ∈ c.renderedFilters page, (c.filterParams i).length = (c.node i).filter.parameterCount :=
    fun i hi => (hc.statement_wellFormed h (lt_of_mem_renderedFilters hn hi)).length _
  have hempty : ∀ i, (c.node i).filter.isEmpty = true → (c.node i).filter.parameterCount = 0 :=
    fun i he => by rw [Filter.parameterCount, Filter.tokens_eq_nil he]; rfl
  rw [List.length_flatMap, List.sum_eq_foldr, List.map_congr_left hlen,
    renderedFilters_sum hn _ hempty, ← range_map_node c, List.map_map]
  rfl

/-- The slots of a statement's parameters are below a bound exactly when those of its node
filters are. -/
theorem Named.statement_slots (n : Nat) :
    (∀ p ∈ (c.renderedFilters page).flatMap c.filterParams, p.slotCount ≤ n) ↔
      ∀ node ∈ c.nodes.toList, node.filter.slotCount ≤ n := by
  have hn := pageMode_size hmode
  rw [← range_map_node c]
  simp only [List.mem_flatMap, List.mem_map, List.mem_range]
  constructor
  · rintro hp _ ⟨i, hi, rfl⟩
    cases he : (c.node i).filter.isEmpty with
    | true =>
      rw [Filter.slotCount, Filter.tokens_eq_nil he]
      exact Nat.zero_le n
    | false =>
      exact ((hc.statement_wellFormed h hi).slotCount_le_iff _ n).mpr
        fun p hp' => hp p ⟨i, mem_renderedFilters page hi he, hp'⟩
  · rintro hs p ⟨i, hi, hp⟩
    have hlt := lt_of_mem_renderedFilters hn hi
    exact ((hc.statement_wellFormed h hlt).slotCount_le_iff _ n).mp (hs _ ⟨i, hlt, rfl⟩) p hp

end Counts

end Compiler

/-! ## Compiled queries -/

/-- A query compiles to the statement of the compiler over its plan, run from no parameters. -/
theorem Query.compile_ok {reg : Registry} {options : CompileOptions} {q : Query}
    {cq : CompiledQuery} (h : q.compile reg options = .ok cq) :
    ∃ nodes ps, q.entity.index < reg.size ∧ q.plan reg = .ok nodes ∧
      (Compiler.statement { reg, options, nodes } q.limit q.offset).run #[] = .ok (cq.sql, ps) ∧
      cq.params = ps.toList := by
  unfold Query.compile at h
  dsimp only at h
  split at h
  · obtain ⟨u, hu, -⟩ := except_bind_ok h
    cases hu
  · next hlt =>
    obtain ⟨nodes, hplan, h₁⟩ := except_bind_ok h
    obtain ⟨⟨sql, ps⟩, hrun, h₂⟩ := except_bind_ok h₁
    cases h₂
    exact ⟨nodes, ps, Nat.lt_of_not_le hlt, hplan, hrun, rfl⟩

/-- A query whose entity is registered, that plans, and whose statement runs, compiles. -/
theorem Query.compile_of_ok {reg : Registry} {options : CompileOptions} {q : Query}
    {nodes : Array PlannedNode} {sql : String} {ps : Array CompiledParam}
    (hlt : q.entity.index < reg.size) (hplan : q.plan reg = .ok nodes)
    (hrun : (Compiler.statement { reg, options, nodes } q.limit q.offset).run #[] = .ok (sql, ps)) :
    ∃ cq, q.compile reg options = .ok cq ∧ cq.sql = sql ∧ cq.params = ps.toList := by
  unfold Query.compile
  dsimp only
  rw [if_neg (Nat.not_le_of_lt hlt)]
  simp only [bind, Except.bind, hplan, hrun, pure, Except.pure]
  exact ⟨_, rfl, rfl, rfl⟩

end EntityGraph
