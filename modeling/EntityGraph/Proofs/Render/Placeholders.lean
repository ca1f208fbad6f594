import EntityGraph.Proofs.Render.Grouping
import EntityGraph.Session.Statement

/-!
# Placeholders

The placeholders of a text, read left to right, are every `?` and every `$` with the digits after
it (`Sql.marks`). A rendered filter writes the placeholder of each parameter it adds, in the order
it adds them, and nothing else that reads as one: every other part of its text is a column, an
operator, a keyword or a parenthesis (`renderFilter_placeholders`). The parameters it adds are the
parameters of its comparisons read left to right, each encoded for the type of its column.
-/

namespace EntityGraph

namespace Sql

/-- The scan outside a placeholder: `?` is one, `$` starts one. -/
def scanOut (c : Char) : List String × Option String :=
  if c = '?' then (["?"], none) else if c = '$' then ([], some "$") else ([], none)

/-- One character of the scan, from outside a placeholder or inside a `$` one: a digit continues
it, anything else ends it. -/
def scanChar : Option String → Char → List String × Option String
  | none, c => scanOut c
  | some m, c => if c.isDigit then ([], some (m.push c)) else (m :: (scanOut c).1, (scanOut c).2)

/-- The placeholders of characters, from a scan state. -/
def marksFrom : Option String → List Char → List String
  | none, [] => []
  | some m, [] => [m]
  | st, c :: cs => (scanChar st c).1 ++ marksFrom (scanChar st c).2 cs

/-- The placeholders of a text, left to right. -/
def marks (s : String) : List String := marksFrom none s.toList

example : marks "t0.a = $1 AND (t1.b < $12 OR t1.c = ?)" = ["$1", "$12", "?"] := by decide

/-- Text with no placeholder character. -/
def Unmarked (s : String) : Prop := ∀ c ∈ s.toList, c ≠ '?' ∧ c ≠ '$'

instance (s : String) : Decidable (Unmarked s) :=
  decidable_of_iff (s.toList.all fun c => c != '?' && c != '$') (by simp [Unmarked])

/-- Text that does not start with a digit, so it cannot continue a `$` placeholder. -/
def NoLeadingDigit (s : String) : Prop := ∀ c ∈ s.toList.head?, c.isDigit = false

instance (s : String) : Decidable (NoLeadingDigit s) :=
  decidable_of_iff (s.toList.head?.all fun c => !c.isDigit)
    (by unfold NoLeadingDigit; cases s.toList.head? <;> simp)

theorem noLeadingDigit_of_head {a : String} {c : Char} (h : a.toList.head? = some c)
    (hc : c.isDigit = false) (b : String) : NoLeadingDigit (a ++ b) := by
  intro x hx
  cases ha : a.toList with
  | nil => rw [ha] at h; cases h
  | cons y l =>
    rw [ha] at h
    rw [String.toList_append, ha, List.cons_append, List.head?_cons] at hx
    cases h
    cases hx
    exact hc

theorem marksFrom_unmarked : ∀ (a b : List Char), (∀ c ∈ a, c ≠ '?' ∧ c ≠ '$') →
    marksFrom none (a ++ b) = marksFrom none b
  | [], _, _ => rfl
  | c :: a, b, h => by
    have hc := h c List.mem_cons_self
    simp only [List.cons_append, marksFrom, scanChar, scanOut, hc.1, hc.2, if_false,
      List.nil_append]
    exact marksFrom_unmarked a b fun x hx => h x (List.mem_cons_of_mem c hx)

theorem marksFrom_append : ∀ (st : Option String) (a b : List Char),
    (∀ c ∈ b.head?, c.isDigit = false) →
    marksFrom st (a ++ b) = marksFrom st a ++ marksFrom none b
  | none, [], b, _ => rfl
  | some m, [], [], _ => rfl
  | some m, [], c :: b, h => by
    have hc : c.isDigit = false := h c rfl
    simp [marksFrom, scanChar, hc]
  | st, c :: a, b, h => by
    simp only [List.cons_append, marksFrom, List.append_assoc]
    rw [marksFrom_append _ a b h]

theorem marks_append {a b : String} (hb : NoLeadingDigit b) : marks (a ++ b) = marks a ++ marks b := by
  simp only [marks, String.toList_append]
  exact marksFrom_append none _ _ hb

theorem marks_unmarked_append {a : String} (ha : Unmarked a) (b : String) : marks (a ++ b) = marks b := by
  simp only [marks, String.toList_append]
  exact marksFrom_unmarked _ _ ha

theorem Unmarked.marks {s : String} (h : Unmarked s) : marks s = [] := by
  have e := marks_unmarked_append h ""
  rw [String.append_empty] at e
  exact e

theorem Unmarked.append {a b : String} (ha : Unmarked a) (hb : Unmarked b) : Unmarked (a ++ b) := by
  intro c hc
  rw [String.toList_append, List.mem_append] at hc
  exact hc.elim (ha c) (hb c)

theorem NoLeadingDigit.append {a b : String} (ha : NoLeadingDigit a) (hb : NoLeadingDigit b) :
    NoLeadingDigit (a ++ b) := by
  intro c hc
  rw [String.toList_append] at hc
  cases h : a.toList with
  | nil => rw [h, List.nil_append] at hc; exact hb c hc
  | cons x l => rw [h, List.cons_append] at hc; exact ha c (by rw [h]; exact hc)

theorem marksFrom_digits : ∀ (m : String) (ds : List Char), (∀ c ∈ ds, c.isDigit = true) →
    marksFrom (some m) ds = [m ++ String.ofList ds]
  | m, [], _ => by simp [marksFrom]
  | m, c :: ds, h => by
    have hc := h c List.mem_cons_self
    simp only [marksFrom, scanChar, hc, if_true, List.nil_append]
    rw [marksFrom_digits _ ds fun x hx => h x (List.mem_cons_of_mem c hx)]
    congr 1
    simp only [← String.toList_inj, String.toList_append, String.toList_push, String.toList_ofList,
      List.append_assoc, List.singleton_append]

/-- A placeholder reads as itself. -/
theorem marks_placeholder (d : Dialect) (i : Nat) : marks (d.placeholder i) = [d.placeholder i] := by
  cases d with
  | question =>
    show marks "?" = ["?"]
    decide
  | numbered =>
    have hd : ∀ c ∈ (toString i).toList, c.isDigit = true := by
      intro c hc
      rw [Nat.toString_eq_repr, Nat.toList_repr] at hc
      exact Nat.isDigit_of_mem_toDigits (by decide) (by decide) hc
    simp only [Dialect.placeholder, marks, String.toList_append]
    rw [show "$".toList = ['$'] from rfl, List.cons_append, List.nil_append]
    simp only [marksFrom, scanChar, scanOut, if_true]
    rw [if_neg (show '$' ≠ '?' by decide), List.nil_append, marksFrom_digits _ _ hd,
      String.ofList_toList]

/-- The placeholders of parts joined by a separator that has none of its own and starts with a
character other than a digit. -/
theorem marks_intercalate {sep : String} {c : Char} (hsep : Unmarked sep)
    (hc : sep.toList.head? = some c) (hd : c.isDigit = false) :
    ∀ parts : List String, marks (sep.intercalate parts) = (parts.map marks).flatten
  | [] => rfl
  | [a] => by simp
  | a :: b :: rest => by
    rw [String.intercalate_cons_cons, String.append_assoc,
      marks_append (noLeadingDigit_of_head hc hd _), marks_unmarked_append hsep,
      marks_intercalate hsep hc hd (b :: rest)]
    simp

theorem marks_wrap (s : String) : marks ("(" ++ s ++ ")") = marks s := by
  rw [marks_append (by decide), marks_unmarked_append (by decide),
    (show Unmarked ")" by decide).marks, List.append_nil]

end Sql

open Sql

/-! ## The parameters of a filter -/

/-- A parameter token as a statement sends it for a column of type `ty`: a value encoded for the
type, a slot with the type for binding. -/
def Param.compile (ty : ColumnType) : Param → CompiledParam
  | .value v => .value (ty.encode v)
  | .slot i => .slot i ty

/-- The comparisons of a condition, left to right. -/
def Cond.atoms {α : Type} : Cond α → List α
  | .atom a => [a]
  | .not c => c.atoms
  | .and l r => l.atoms ++ r.atoms
  | .or l r => l.atoms ++ r.atoms

@[simp] theorem Cond.atoms_negate {α : Type} (n : Nat) (c : Cond α) : (Cond.negate n c).atoms = c.atoms := by
  induction n with
  | zero => rfl
  | succ n ih => simp [Cond.negate, Cond.atoms, ih]

@[simp] theorem Cond.atoms_connect {α : Type} (o : Operator) (l r : Cond α) :
    (Cond.connect o l r).atoms = l.atoms ++ r.atoms := by
  cases o <;> rfl

/-- The comparisons read before the pending term. -/
def Reading.joined : JoinTo → List Comparison
  | none => []
  | some (acc, _) => acc.atoms

/-- The comparisons a reading has completed, left to right. -/
def Reading.done : Reading → List Comparison
  | .term j _ => Reading.joined j
  | .operator j _ _ => Reading.joined j
  | .parameter j _ _ _ => Reading.joined j
  | .complete acc => acc.atoms

@[simp] theorem Reading.atoms_closed (j : JoinTo) (n : Nat) (t : Cond Comparison) :
    (Reading.closed j n t).atoms = Reading.joined j ++ t.atoms := by
  cases j with
  | none => simp [Reading.closed, Reading.joined]
  | some p => obtain ⟨acc, o⟩ := p; simp [Reading.closed, Reading.joined]

namespace RenderContext

/-- The type of the column a field names, the default type when it does not resolve. -/
def columnType (ctx : RenderContext) (name : String) : ColumnType :=
  match resolveField ctx.reg ctx.nodes ctx.owner name with
  | .ok r => r.type
  | .error _ => default

/-- The parameter a comparison sends: its parameter encoded for the type of its column. -/
def compiledParam (ctx : RenderContext) (a : Comparison) : Option CompiledParam :=
  a.param.map (Param.compile (ctx.columnType a.column))

/-- Every field that resolves is written without placeholder characters. -/
def Unmarked (ctx : RenderContext) : Prop :=
  ∀ name r, resolveField ctx.reg ctx.nodes ctx.owner name = .ok r → Sql.Unmarked r.sql

end RenderContext

/-- The parameters a filter sends from the node of a context: the parameter of each comparison
read left to right, encoded for the type of its column. -/
def Filter.compiledParams (ctx : RenderContext) (f : Filter) : List CompiledParam :=
  ((f.read.map Cond.atoms).getD []).filterMap ctx.compiledParam

/-- The placeholders of the parts written so far. -/
def RenderState.marks (st : RenderState) : List String := (st.parts.toList.map Sql.marks).flatten

theorem RenderState.marks_push {st st' : RenderState} {part : String}
    (h : st'.parts = st.parts.push part) : st'.marks = st.marks ++ Sql.marks part := by
  simp [RenderState.marks, h]

theorem RenderState.marks_text (st : RenderState) :
    Sql.marks (" ".intercalate st.parts.toList) = st.marks :=
  marks_intercalate (by decide) rfl rfl _

theorem Statement.placeholders_add (options : CompileOptions) (start a b : Nat) :
    Statement.placeholders options start (a + b) =
      Statement.placeholders options start a ++ Statement.placeholders options (start + a) b := by
  simp [Statement.placeholders, List.range_add, Nat.add_assoc]

/-- How a render state and the statement's parameters stand for a reading, from the parameters
`ps₀` the filter started with: the parameters added are those of the comparisons read, and the
parts written show their placeholders in order and nothing else. -/
def Tracks (ctx : RenderContext) (ps₀ : Array CompiledParam) (st : RenderState)
    (ps : Array CompiledParam) (r : Reading) : Prop :=
  ps.toList = ps₀.toList ++ r.done.filterMap ctx.compiledParam ∧
    st.marks = Statement.placeholders ctx.options (ps₀.size + 1) (r.done.filterMap ctx.compiledParam).length

theorem tracks_start (ctx : RenderContext) (ps : Array CompiledParam) : Tracks ctx ps {} ps .start :=
  ⟨by simp [Reading.start, Reading.done, Reading.joined], rfl⟩

theorem Operator.sql_unmarked (o : Operator) : Sql.Unmarked o.sql := by
  cases o <;> decide

/-! ## Parameters kept by each token -/

namespace Tracks

variable {ctx : RenderContext} {ps₀ ps : Array CompiledParam} {st st' : RenderState}

theorem size_eq {r : Reading} (ht : Tracks ctx ps₀ st ps r) :
    ps.size = ps₀.size + (r.done.filterMap ctx.compiledParam).length := by
  rw [← Array.length_toList, ht.1, List.length_append, Array.length_toList]

/-- A part without placeholder characters, and no new parameter. -/
theorem push_unmarked {r r' : Reading} (ht : Tracks ctx ps₀ st ps r)
    (hd : r'.done.filterMap ctx.compiledParam = r.done.filterMap ctx.compiledParam) {part : String}
    (hp : st'.parts = st.parts.push part) (hu : Sql.Unmarked part) : Tracks ctx ps₀ st' ps r' := by
  obtain ⟨h1, h2⟩ := ht
  refine ⟨hd ▸ h1, ?_⟩
  rw [RenderState.marks_push hp, hu.marks, List.append_nil, h2, hd]

/-- A null check completes a comparison without a parameter. -/
theorem nullCheck_done (j : JoinTo) (n : Nat) (c : String) (o : Operator) :
    (Reading.done (.complete (Reading.closed j n (.atom ⟨c, o, none⟩)))).filterMap ctx.compiledParam =
      (Reading.done (.operator j n c)).filterMap ctx.compiledParam := by
  simp [Reading.done, Cond.atoms, RenderContext.compiledParam]

/-- A parameter is added, encoded for the type of the column before it, and its placeholder is
written. -/
theorem param {j : JoinTo} {n : Nat} {c : String} {o : Operator} {p : Param} {cp : CompiledParam}
    (ht : Tracks ctx ps₀ st ps (.parameter j n c o)) (hcp : cp = Param.compile (ctx.columnType c) p)
    (hp : st'.parts = st.parts.push (ctx.options.dialect.placeholder (ps.size + 1))) :
    Tracks ctx ps₀ st' (ps.push cp) (.complete (Reading.closed j n (.atom ⟨c, o, some p⟩))) := by
  have hsize := ht.size_eq
  obtain ⟨h1, h2⟩ := ht
  have hdone : (Reading.done (.complete (Reading.closed j n (.atom ⟨c, o, some p⟩)))).filterMap
      ctx.compiledParam = (Reading.done (.parameter j n c o)).filterMap ctx.compiledParam ++ [cp] := by
    simp [Reading.done, Cond.atoms, RenderContext.compiledParam, hcp]
  refine ⟨?_, ?_⟩
  · rw [hdone, Array.toList_push, h1, List.append_assoc]
  · rw [RenderState.marks_push hp, h2, marks_placeholder, hdone, List.length_append,
      Statement.placeholders_add, hsize]
    simp [Statement.placeholders, Nat.add_assoc, Nat.add_comm 1]

/-- A connective after a complete condition: the parts are regrouped without changing their
placeholders. -/
theorem connective {acc : Cond Comparison} {o : Operator} (ht : Tracks ctx ps₀ st ps (.complete acc))
    {parts : Array String} (hm : (parts.toList.map Sql.marks).flatten = st.marks)
    (hp : st'.parts = parts.push o.sql) : Tracks ctx ps₀ st' ps (.term (some (acc, o)) 0) := by
  obtain ⟨h1, h2⟩ := ht
  have hpush : st'.marks = st.marks ++ Sql.marks o.sql := by
    rw [← hm]
    simp [RenderState.marks, hp]
  refine ⟨by simpa [Reading.done, Reading.joined] using h1, ?_⟩
  rw [hpush, h2, (Operator.sql_unmarked o).marks, List.append_nil]
  simp [Reading.done, Reading.joined]

/-- A nested filter adds the parameters of its comparisons and writes their placeholders. -/
theorem nested {j : JoinTo} {n : Nat} {inner : RenderState} {u : Cond Comparison}
    {ps' : Array CompiledParam} (ht : Tracks ctx ps₀ st ps (.term j n))
    (hi : Tracks ctx ps inner ps' (.complete u)) {part : String} (hpart : Sql.marks part = inner.marks)
    (hp : st'.parts = st.parts.push part) :
    Tracks ctx ps₀ st' ps' (.complete (Reading.closed j n u)) := by
  have hsize := ht.size_eq
  obtain ⟨h1, h2⟩ := ht
  obtain ⟨i1, i2⟩ := hi
  have hdone : (Reading.done (.complete (Reading.closed j n u))).filterMap ctx.compiledParam =
      (Reading.done (.term j n)).filterMap ctx.compiledParam ++
        (Reading.done (.complete u)).filterMap ctx.compiledParam := by
    simp [Reading.done]
  refine ⟨?_, ?_⟩
  · rw [hdone, i1, h1, List.append_assoc]
  · rw [RenderState.marks_push hp, hpart, h2, i2, hdone, List.length_append,
      Statement.placeholders_add, hsize, Nat.add_right_comm]

end Tracks

/-! ## Whole filters -/

variable {ctx : RenderContext}

mutual
/-- Tokens that render from a state agreeing with a reading and tracking its parameters end
tracking the parameters of the reading after them. -/
theorem renderTokens_tracks (hp : ctx.Plain) (hm : ctx.Unmarked) : ∀ (ts : List FilterToken)
    {r r' : Reading} {st st' : RenderState} {ps₀ ps ps' : Array CompiledParam},
    readTokens ts r = some r' → Agrees ctx st r → Tracks ctx ps₀ st ps r →
    (renderTokens ctx ts st).run ps = .ok (st', ps') → Tracks ctx ps₀ st' ps' r'
  | [], _, _, _, _, _, _, _, h, _, ht, hrun => by
    simp only [readTokens_nil, Option.some.injEq] at h
    subst h
    cases hrun
    exact ht
  | t :: ts, _, _, st, _, _, ps, _, h, ha, ht, hrun => by
    obtain ⟨r₁, h₁, h₂⟩ := Option.bind_eq_some_iff.mp ((readTokens_cons t ts _).symm.trans h)
    cases e₁ : (renderToken ctx t st).run ps with
    | error e => simp [renderTokens, StateT.run_bind, e₁] at hrun
    | ok q =>
      obtain ⟨st₁, ps₁⟩ := q
      rw [renderTokens_cons_of_ok ctx st ps e₁] at hrun
      -- the state after the first token agrees with the reading after it
      obtain ⟨-, hres₁⟩ := renderToken_reads hp t ha e₁
      obtain ⟨st₁', ps₁', e₁', a₁, -⟩ := renderToken_agrees hp t ps h₁ hres₁ ha
      rw [e₁] at e₁'
      cases e₁'
      exact renderTokens_tracks hp hm ts h₂ a₁ (renderToken_tracks hp hm t h₁ ha ht e₁) hrun

/-- One token that renders from a state agreeing with a reading and tracking its parameters. -/
theorem renderToken_tracks (hp : ctx.Plain) (hm : ctx.Unmarked) : ∀ (t : FilterToken)
    {r r' : Reading} {st st' : RenderState} {ps₀ ps ps' : Array CompiledParam},
    readToken t r = some r' → Agrees ctx st r → Tracks ctx ps₀ st ps r →
    (renderToken ctx t st).run ps = .ok (st', ps') → Tracks ctx ps₀ st' ps' r'
  | .nested ts, .term j n, _, st, _, _, ps, _, h, ha, ht, hrun => by
    simp only [readToken] at h
    split at h
    · next u hu =>
      simp only [Option.some.injEq] at h
      subst h
      obtain ⟨-, hne, inner, ps'', hin, hc⟩ := renderToken_nested_inv ctx st ps hrun
      have hti := renderTokens_tracks hp hm ts hu (agrees_start ctx) (tracks_start ctx ps) hin
      rw [renderToken_nested ctx st ps ha.1 hne hin hc] at hrun
      cases hrun
      refine ht.nested hti ?_ rfl
      split
      · rw [marks_wrap, RenderState.marks_text]
      · exact RenderState.marks_text inner
    · cases h
  | .column c, .term j n, _, st, _, _, ps, _, h, ha, ht, hrun => by
    simp only [readToken, Option.some.injEq] at h
    subst h
    obtain ⟨-, hres⟩ := renderToken_reads hp (.column c) ha hrun
    obtain ⟨r, hr⟩ := hres c (by simp [tokenColumns])
    rw [renderToken_column ctx st ps ha.1 hr] at hrun
    cases hrun
    exact ht.push_unmarked rfl rfl (hm c r hr)
  | .op o, .term j n, _, st, _, _, ps, _, h, ha, ht, hrun => by
    simp only [readToken] at h
    split at h
    · next ho =>
      simp only [Option.some.injEq] at h
      subst h ho
      rw [renderToken_not ctx st ps ha.1] at hrun
      cases hrun
      exact ht.push_unmarked rfl rfl (by decide)
    · cases h
  | .op o, .operator j n c, _, st, _, _, ps, _, h, ha, ht, hrun => by
    simp only [readToken] at h
    split at h
    · next ho =>
      simp only [Option.some.injEq] at h
      subst h
      rw [renderToken_comparison ctx st ps ha.1 ho] at hrun
      cases hrun
      exact ht.push_unmarked rfl rfl (Operator.sql_unmarked o)
    · next ho =>
      split at h
      · next hn =>
        simp only [Option.some.injEq] at h
        subst h
        rw [renderToken_nullCheck ctx st ps ha.1 (by simpa using ho) hn] at hrun
        cases hrun
        exact ht.push_unmarked (Tracks.nullCheck_done j n c o) rfl (Operator.sql_unmarked o)
      · cases h
  | .param p, .parameter j n c o, _, st, _, _, ps, _, h, ha, ht, hrun => by
    simp only [readToken, Option.some.injEq] at h
    subst h
    obtain ⟨r, hr, hty⟩ : ∃ r, resolveField ctx.reg ctx.nodes ctx.owner c = .ok r ∧
        st.columnType = some r.type := by
      obtain ⟨-, -, L, r, hr, hty, -⟩ := ha
      exact ⟨r, hr, hty⟩
    rw [renderToken_param ctx st ps ha.1 hty] at hrun
    cases hrun
    have hcol : ctx.columnType c = r.type := by simp [RenderContext.columnType, hr]
    exact ht.param (by cases p <;> simp [Param.compile, hcol]) rfl
  | .op o, .complete acc, _, st, _, _, ps, _, h, ha, ht, hrun => by
    simp only [readToken] at h
    split at h
    · next ho =>
      simp only [Option.some.injEq] at h
      subst h
      rw [renderToken_connective ctx st ps ha.1 ho] at hrun
      cases hrun
      refine ht.connective ?_ rfl
      -- regrouping the parts in parentheses keeps their placeholders
      split
      · split
        · simp [marks_wrap, RenderState.marks_text]
        · rfl
      · rfl
    · cases h
  | .nested _, .operator .., _, _, _, _, _, _, h, _, _, _
  | .nested _, .parameter .., _, _, _, _, _, _, h, _, _, _
  | .nested _, .complete _, _, _, _, _, _, _, h, _, _, _
  | .column _, .operator .., _, _, _, _, _, _, h, _, _, _
  | .column _, .parameter .., _, _, _, _, _, _, h, _, _, _
  | .column _, .complete _, _, _, _, _, _, _, h, _, _, _
  | .op _, .parameter .., _, _, _, _, _, _, h, _, _, _
  | .param _, .term .., _, _, _, _, _, _, h, _, _, _
  | .param _, .operator .., _, _, _, _, _, _, h, _, _, _
  | .param _, .complete _, _, _, _, _, _, _, h, _, _, _ => by simp [readToken] at h
end

/-- A filter that renders adds the parameters of its comparisons read left to right, each encoded
for the type of its column, and its text shows their placeholders in order and nothing else. -/
theorem renderFilter_placeholders (hp : ctx.Plain) (hm : ctx.Unmarked) {f : Filter}
    {ps ps' : Array CompiledParam} {text : String} (h : (renderFilter ctx f).run ps = .ok (text, ps')) :
    ps'.toList = ps.toList ++ f.compiledParams ctx ∧
      Sql.marks text = Statement.placeholders ctx.options (ps.size + 1) (f.compiledParams ctx).length := by
  obtain ⟨⟨c, hc⟩, -⟩ := read_of_renderFilter hp h
  have hr := Filter.read_eq_some_iff.mp hc
  have hparams : f.compiledParams ctx = (Reading.done (.complete c)).filterMap ctx.compiledParam := by
    simp [Filter.compiledParams, hc, Reading.done]
  unfold renderFilter at h
  obtain ⟨st, ps₁, hst, h⟩ := run_bind_ok h
  split at h
  · cases h
  · obtain ⟨rfl, rfl⟩ := run_pure_ok h
    obtain ⟨h1, h2⟩ := renderTokens_tracks hp hm f.tokens hr (agrees_start ctx) (tracks_start ctx ps) hst
    rw [hparams]
    exact ⟨h1, (RenderState.marks_text st).trans h2⟩

end EntityGraph
