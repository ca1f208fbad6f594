import EntityGraph.Proofs.Render.Reading
import EntityGraph.Query.Render

/-!
# Rendered filters group left to right

`renderFilter` writes the tokens of a filter in order and leaves the grouping to parentheses:
when the connective changes, everything written so far is put in parentheses, and a nested
filter is parenthesized when it is negated or has a connective of its own. Read by SQL
precedence (`Sql.Expr`), the text is the filter read left to right (`Filter.read`), comparison
for comparison: `renderFilter_groups_left_to_right`.

The proof is a simulation. `Agrees ctx st r` says how a render state stands for a reading:
before a term the text is the condition read so far, at the precedence level of its connective
(`Pending`), then that connective and the negations read since; after a complete condition the
text derives the condition at that level. Each token the reading accepts is rendered from an
agreeing state into an agreeing state (`renderToken_agrees`), and so is each token list
(`renderTokens_agrees`); the two are proved together, a nested filter being rendered from the
empty state.
-/

namespace EntityGraph

open Sql

namespace Sql

/-- Text that stands for a column: one word, and not a keyword. -/
def IsColumnWord (s : String) : Prop :=
  s ≠ "" ∧ (∀ c ∈ s.toList, isBreak c = false) ∧ s ∉ reserved

/-- The level of a chain of terms joined by one connective: one term is a negation-level
condition, a chain of `AND`s a conjunction and a chain of `OR`s a disjunction. -/
def chainLevel : Option Operator → Level
  | none => .negation
  | some .or => .disjunction
  | some _ => .conjunction

/-- `n` negations. -/
def nots (n : Nat) : List Lexeme := List.replicate n (.word "NOT")

theorem IsColumnWord.lex {s : String} (h : IsColumnWord s) : lex s = [.word s] :=
  lex_word h.1 h.2.1

/-- The digits of a number break no word. -/
theorem digits_not_break (n : Nat) : ∀ c ∈ (toString n).toList, isBreak c = false := by
  intro c hc
  rw [Nat.toString_eq_repr, Nat.toList_repr] at hc
  have hd : c.isDigit = true := Nat.isDigit_of_mem_toDigits (by decide) (by decide) hc
  cases h : isBreak c with
  | false => rfl
  | true =>
    have hb : c = ' ' ∨ c = '(' ∨ c = ')' := by simpa [isBreak, or_assoc] using h
    rcases hb with rfl | rfl | rfl <;> exact absurd hd (by decide)

/-- A placeholder is one word. -/
theorem lex_placeholder (d : Dialect) (i : Nat) :
    lex (d.placeholder i) = [.word (d.placeholder i)] ∧ IsPlaceholder (d.placeholder i) := by
  cases d with
  | question => exact ⟨show lex "?" = [.word "?"] by decide, .inl rfl⟩
  | numbered =>
    refine ⟨lex_word (by simp [Dialect.placeholder]) ?_, .inr ⟨i, rfl⟩⟩
    intro c hc
    simp only [Dialect.placeholder, String.toList_append, List.mem_append] at hc
    rcases hc with hc | hc
    · simp at hc; subst hc; decide
    · exact digits_not_break i c hc

theorem nots_succ (n : Nat) : nots (n + 1) = nots n ++ [.word "NOT"] :=
  List.replicate_succ' ..

end Sql

namespace RenderContext

/-- The text a field is written as, when it resolves. -/
def columnSql (ctx : RenderContext) (name : String) : String :=
  match resolveField ctx.reg ctx.nodes ctx.owner name with
  | .ok r => r.sql
  | .error _ => ""

/-- The atom a comparison of the filter becomes in the text. -/
def atomOf (ctx : RenderContext) (a : Comparison) : Atom := .compare (ctx.columnSql a.column) a.op

/-- Every field that resolves is written as a column word. -/
def Plain (ctx : RenderContext) : Prop :=
  ∀ name r, resolveField ctx.reg ctx.nodes ctx.owner name = .ok r → IsColumnWord r.sql

/-- The given fields resolve. -/
def Resolves (ctx : RenderContext) (names : List String) : Prop :=
  ∀ name ∈ names, ∃ r, resolveField ctx.reg ctx.nodes ctx.owner name = .ok r

theorem atomOf_of_resolve {ctx : RenderContext} {name : String} {r : Resolved}
    (h : resolveField ctx.reg ctx.nodes ctx.owner name = .ok r) (o : Operator) (p : Option Param) :
    ctx.atomOf ⟨name, o, p⟩ = .compare r.sql o := by
  simp [atomOf, columnSql, h]

end RenderContext

/-- The lexemes of the parts written so far. -/
def RenderState.lexemes (st : RenderState) : List Lexeme := (st.parts.toList.map lex).flatten

/-- Writing a part adds its lexemes. -/
theorem RenderState.lexemes_push {st st' : RenderState} {part : String}
    (h : st'.parts = st.parts.push part) : st'.lexemes = st.lexemes ++ lex part := by
  simp [RenderState.lexemes, h]

/-- The text of the parts is their lexemes. -/
theorem RenderState.lex_text (st : RenderState) :
    lex (" ".intercalate st.parts.toList) = st.lexemes := lex_intercalate _

/-- The lexemes before a term: nothing at the start; else the condition read so far, at the
level of its connective, and the connective. -/
inductive Pending (f : Comparison → Atom) : JoinTo → Option Operator → List Lexeme → Prop
  | start : Pending f none none []
  | joined {acc : Cond Comparison} {o : Operator} {L : List Lexeme} : o.isConnective = true →
      Expr (chainLevel (some o)) L (acc.map f) → Pending f (some (acc, o)) (some o) (L ++ [.word o.sql])

/-- A finished term closes the pending condition: the term under its negations, joined to what
was read before. -/
theorem Pending.close {f : Comparison → Atom} {j : JoinTo} {k : Option Operator} {L M : List Lexeme}
    {u : Cond Comparison} (hp : Pending f j k L) (hm : Expr .negation M (u.map f)) (n : Nat) :
    Expr (chainLevel k) (L ++ (nots n ++ M)) ((Reading.closed j n u).map f) := by
  have hn : Expr .negation (nots n ++ M) ((Cond.negate n u).map f) := by
    rw [Cond.map_negate]
    exact hm.nots n
  cases hp with
  | start => simpa [Reading.closed, chainLevel] using hn
  | @joined acc o L ho hL =>
    cases o <;> simp only [Operator.isConnective, Bool.false_eq_true] at ho
    · -- `AND`: a conjunction continued by a negation-level term
      simpa [Reading.closed, Cond.connect, chainLevel, Operator.sql, Cond.map] using Expr.and hL hn
    · -- `OR`: a disjunction continued by a conjunction of one
      simpa [Reading.closed, Cond.connect, chainLevel, Operator.sql, Cond.map] using Expr.or hL (.ofNegation hn)

/-- How a render state stands for a reading of the same tokens. -/
def Agrees (ctx : RenderContext) (st : RenderState) : Reading → Prop
  | .term j n => st.expect = .term ∧
      ∃ L, Pending ctx.atomOf j st.connective L ∧ st.lexemes = L ++ nots n
  | .operator j n c => st.expect = .operator ∧
      ∃ L r, resolveField ctx.reg ctx.nodes ctx.owner c = .ok r ∧ st.columnType = some r.type ∧
        Pending ctx.atomOf j st.connective L ∧ st.lexemes = L ++ (nots n ++ [.word r.sql])
  | .parameter j n c o => st.expect = .parameter ∧ o.takesParameter = true ∧
      ∃ L r, resolveField ctx.reg ctx.nodes ctx.owner c = .ok r ∧ st.columnType = some r.type ∧
        Pending ctx.atomOf j st.connective L ∧
          st.lexemes = L ++ (nots n ++ [.word r.sql, .word o.sql])
  | .complete acc => st.expect = .connective ∧
      Expr (chainLevel st.connective) st.lexemes (acc.map ctx.atomOf)

/-- The empty state stands for the reading before any token. -/
theorem agrees_start (ctx : RenderContext) : Agrees ctx {} .start :=
  ⟨rfl, [], .start, by simp [RenderState.lexemes, nots]⟩

/-! ## One token at a time -/

@[simp] theorem renderM_run_throw {α : Type} (e : Error) (ps : Array CompiledParam) :
    (throw e : RenderM α).run ps = .error e := rfl

@[simp] theorem except_ok_bind {ε α β : Type} (a : α) (f : α → Except ε β) :
    (Except.ok a >>= f) = f a := rfl

@[simp] theorem except_error_bind {ε α β : Type} (e : ε) (f : α → Except ε β) :
    (Except.error e >>= f) = Except.error e := rfl

@[simp] theorem except_map_throw {ε α β : Type} (f : α → β) (e : ε) :
    (f <$> (throw e : Except ε α)) = Except.error e := rfl

/-! ## Runs that succeed -/

section Runs

variable {σ ε α β : Type}

/-- A sequence that succeeds ran both its parts successfully. -/
theorem run_bind_ok {x : StateT σ (Except ε) α} {f : α → StateT σ (Except ε) β} {s s' : σ}
    {b : β} (h : (x >>= f).run s = .ok (b, s')) :
    ∃ a s₁, x.run s = .ok (a, s₁) ∧ (f a).run s₁ = .ok (b, s') := by
  rw [StateT.run_bind] at h
  cases hx : x.run s with
  | error e => rw [hx, except_error_bind] at h; cases h
  | ok p => rw [hx, except_ok_bind] at h; exact ⟨p.1, p.2, rfl, h⟩

theorem except_bind_ok {x : Except ε α} {f : α → Except ε β} {b : β} (h : (x >>= f) = .ok b) :
    ∃ a, x = .ok a ∧ f a = .ok b := by
  cases x with
  | error e => cases h
  | ok a => exact ⟨a, rfl, h⟩

theorem run_pure_ok {a b : α} {s s' : σ} (h : (pure a : StateT σ (Except ε) α).run s = .ok (b, s')) :
    b = a ∧ s' = s := by
  cases h
  exact ⟨rfl, rfl⟩

theorem run_lift_ok {x : Except ε α} {s s' : σ} {a : α}
    (h : (liftM x : StateT σ (Except ε) α).run s = .ok (a, s')) : x = .ok a ∧ s' = s := by
  cases x with
  | error e => cases h
  | ok b => cases h; exact ⟨rfl, rfl⟩

end Runs

section Steps

variable (ctx : RenderContext) (st : RenderState) (ps : Array CompiledParam)

theorem renderToken_column {name : String} {r : Resolved} (he : st.expect = .term)
    (hr : resolveField ctx.reg ctx.nodes ctx.owner name = .ok r) :
    (renderToken ctx (.column name) st).run ps =
      .ok ({ st with parts := st.parts.push r.sql, columnType := some r.type, negated := false,
                     expect := .operator }, ps) := by
  simp only [renderToken, he, hr]
  rfl

theorem renderToken_not (he : st.expect = .term) :
    (renderToken ctx (.op .not) st).run ps =
      .ok ({ st with parts := st.parts.push "NOT", negated := true, expect := .term }, ps) := by
  simp only [renderToken, he]
  rfl

/-- `NOT` at the start of a filter is written and leaves the renderer waiting for a term. -/
example : (renderToken ctx (.op .not) {}).run ps =
    .ok ({ parts := #["NOT"], negated := true, expect := .term }, ps) := by
  simp only [renderToken]
  rfl

theorem renderToken_comparison {o : Operator} (he : st.expect = .operator)
    (ho : o.takesParameter = true) :
    (renderToken ctx (.op o) st).run ps =
      .ok ({ st with parts := st.parts.push o.sql, expect := .parameter }, ps) := by
  simp only [renderToken, he, ho, if_true]
  rfl

theorem renderToken_nullCheck {o : Operator} (he : st.expect = .operator)
    (ho : o.takesParameter = false) (hn : o.isNullCheck = true) :
    (renderToken ctx (.op o) st).run ps =
      .ok ({ st with parts := st.parts.push o.sql, expect := .connective }, ps) := by
  simp only [renderToken, he, ho, hn, if_true, Bool.false_eq_true, if_false]
  rfl

theorem renderToken_param {p : Param} {ty : ColumnType} (he : st.expect = .parameter)
    (ht : st.columnType = some ty) :
    (renderToken ctx (.param p) st).run ps =
      .ok ({ st with parts := st.parts.push (ctx.options.dialect.placeholder (ps.size + 1)),
                     expect := .connective },
        ps.push (match p with
          | .value v => .value (ty.encode v)
          | .slot i => .slot i ty)) := by
  simp only [renderToken, he, ht, StateT.run_bind, StateT.run_modify, StateT.run_get,
    StateT.run_pure, pure_bind, Array.size_push]
  rfl

theorem renderToken_connective {o : Operator} (he : st.expect = .connective)
    (ho : o.isConnective = true) :
    (renderToken ctx (.op o) st).run ps =
      .ok ({ st with
        parts := (match st.connective with
          | some previous =>
            if previous != o then #["(" ++ " ".intercalate st.parts.toList ++ ")"] else st.parts
          | none => st.parts).push o.sql,
        connective := some o, expect := .term }, ps) := by
  simp only [renderToken, he, ho, if_true]
  rfl

theorem renderToken_nested {ts : List FilterToken} {inner : RenderState}
    {ps' : Array CompiledParam} (he : st.expect = .term) (hne : ts ≠ [])
    (hin : (renderTokens ctx ts {}).run ps = .ok (inner, ps')) (hc : inner.expect = .connective) :
    (renderToken ctx (.nested ts) st).run ps =
      .ok ({ st with
        parts := st.parts.push (if st.negated || ts.any FilterToken.isConnective
          then "(" ++ " ".intercalate inner.parts.toList ++ ")"
          else " ".intercalate inner.parts.toList),
        negated := false, expect := .connective }, ps') := by
  have hne' : ts.isEmpty = false := by simpa using hne
  simp only [renderToken, he, hne', bne_iff_ne, ne_eq, beq_self_eq_true, if_true,
    Bool.false_eq_true, if_false]
  rw [StateT.run_bind, hin]
  simp only [bind, Except.bind, hc]
  -- the connective test written out in `renderToken` is `FilterToken.isConnective`
  rfl

theorem renderTokens_cons_of_ok {t : FilterToken} {ts : List FilterToken} {st₁ : RenderState}
    {ps₁ : Array CompiledParam} (h : (renderToken ctx t st).run ps = .ok (st₁, ps₁)) :
    (renderTokens ctx (t :: ts) st).run ps = (renderTokens ctx ts st₁).run ps₁ := by
  simp only [renderTokens, StateT.run_bind, h]
  rfl

/-- A nested filter renders only in place of a term, when it is not empty and its own tokens
render to a complete condition. -/
theorem renderToken_nested_inv {ts : List FilterToken} {st' : RenderState}
    {ps' : Array CompiledParam} (h : (renderToken ctx (.nested ts) st).run ps = .ok (st', ps')) :
    st.expect = .term ∧ ts ≠ [] ∧
      ∃ inner ps'', (renderTokens ctx ts {}).run ps = .ok (inner, ps'') ∧
        inner.expect = .connective := by
  by_cases he : st.expect = .term
  · refine ⟨he, ?_⟩
    simp only [renderToken, he, beq_self_eq_true, if_true] at h
    by_cases hne : ts = []
    · subst hne
      simp at h
    refine ⟨hne, ?_⟩
    have hne' : ts.isEmpty = false := by simpa using hne
    simp only [hne', Bool.false_eq_true, if_false, StateT.run_bind] at h
    cases hin : (renderTokens ctx ts {}).run ps with
    | error e => rw [hin] at h; cases h
    | ok q =>
      obtain ⟨inner, ps''⟩ := q
      refine ⟨inner, ps'', rfl, ?_⟩
      rw [hin, except_ok_bind] at h
      cases hc : inner.expect with
      | connective => rfl
      | _ => rw [hc] at h; cases h
  · simp [renderToken, he] at h

end Steps

/-! ## Agreement kept by each token -/

namespace Agrees

variable {ctx : RenderContext} {st : RenderState} {j : JoinTo} {n : Nat}

theorem column {c : String} {r : Resolved} (hp : ctx.Plain) (ha : Agrees ctx st (.term j n))
    (hr : resolveField ctx.reg ctx.nodes ctx.owner c = .ok r) :
    Agrees ctx { st with parts := st.parts.push r.sql, columnType := some r.type, negated := false,
                         expect := .operator } (.operator j n c) := by
  obtain ⟨-, L, hP, hL⟩ := ha
  refine ⟨rfl, L, r, hr, rfl, hP, ?_⟩
  rw [RenderState.lexemes_push rfl, hL, (hp c r hr).lex]
  simp

theorem not (ha : Agrees ctx st (.term j n)) :
    Agrees ctx { st with parts := st.parts.push "NOT", negated := true, expect := .term }
      (.term j (n + 1)) := by
  obtain ⟨-, L, hP, hL⟩ := ha
  refine ⟨rfl, L, hP, ?_⟩
  rw [RenderState.lexemes_push rfl, hL, nots_succ]
  simp [show lex "NOT" = [.word "NOT"] by decide]

theorem comparison {c : String} {o : Operator} (ha : Agrees ctx st (.operator j n c))
    (ho : o.takesParameter = true) :
    Agrees ctx { st with parts := st.parts.push o.sql, expect := .parameter }
      (.parameter j n c o) := by
  obtain ⟨-, L, r, hr, ht, hP, hL⟩ := ha
  have hw : lex o.sql = [.word o.sql] := by
    cases o <;> simp only [Operator.takesParameter, Bool.false_eq_true] at ho <;> decide
  refine ⟨rfl, ho, L, r, hr, ht, hP, ?_⟩
  rw [RenderState.lexemes_push rfl, hL, hw]
  simp

/-- A null check completes an atom, which closes the pending condition. -/
theorem nullCheck {c : String} {o : Operator} (hp : ctx.Plain)
    (ha : Agrees ctx st (.operator j n c)) (hn : o.isNullCheck = true) :
    Agrees ctx { st with parts := st.parts.push o.sql, expect := .connective }
      (.complete (Reading.closed j n (.atom ⟨c, o, none⟩))) := by
  obtain ⟨-, L, r, hr, -, hP, hL⟩ := ha
  have hc := (hp c r hr).2.2
  have hatom : IsAtom (.word r.sql :: lex o.sql) (.compare r.sql o) := by
    cases o <;> simp only [Operator.isNullCheck, Bool.false_eq_true] at hn
    · exact (show lex "IS NULL" = [.word "IS", .word "NULL"] by decide) ▸ IsAtom.isNull hc
    · exact (show lex "IS NOT NULL" = [.word "IS", .word "NOT", .word "NULL"] by decide) ▸
        IsAtom.notNull hc
  have hm : Expr .negation (.word r.sql :: lex o.sql) ((Cond.atom ⟨c, o, none⟩).map ctx.atomOf) := by
    simpa [Cond.map, RenderContext.atomOf_of_resolve hr] using Expr.atom hatom
  refine ⟨rfl, ?_⟩
  rw [RenderState.lexemes_push rfl, hL]
  simpa using hP.close hm n

/-- A parameter completes a comparison, which closes the pending condition. -/
theorem param {c : String} {o : Operator} {p : Param} (hp : ctx.Plain)
    (ha : Agrees ctx st (.parameter j n c o)) (i : Nat) :
    Agrees ctx { st with parts := st.parts.push (ctx.options.dialect.placeholder i),
                         expect := .connective }
      (.complete (Reading.closed j n (.atom ⟨c, o, some p⟩))) := by
  obtain ⟨-, ho, L, r, hr, -, hP, hL⟩ := ha
  obtain ⟨hw, hph⟩ := lex_placeholder ctx.options.dialect i
  have hatom : IsAtom [.word r.sql, .word o.sql, .word (ctx.options.dialect.placeholder i)]
      (.compare r.sql o) := IsAtom.compare (hp c r hr).2.2 ho hph
  have hm : Expr .negation [.word r.sql, .word o.sql, .word (ctx.options.dialect.placeholder i)]
      ((Cond.atom ⟨c, o, some p⟩).map ctx.atomOf) := by
    simpa [Cond.map, RenderContext.atomOf_of_resolve hr] using Expr.atom hatom
  refine ⟨rfl, ?_⟩
  rw [RenderState.lexemes_push rfl, hL, hw]
  simpa using hP.close hm n

/-- A connective after a complete condition: the condition so far, put in parentheses when the
connective changes, stands at the level of the new connective. -/
theorem connective {acc : Cond Comparison} {o : Operator} (ha : Agrees ctx st (.complete acc))
    (ho : o.isConnective = true) :
    Agrees ctx { st with
      parts := (match st.connective with
        | some previous =>
          if previous != o then #["(" ++ " ".intercalate st.parts.toList ++ ")"] else st.parts
        | none => st.parts).push o.sql,
      connective := some o, expect := .term } (.term (some (acc, o)) 0) := by
  obtain ⟨-, he⟩ := ha
  have hw : lex o.sql = [.word o.sql] := by
    cases o <;> simp only [Operator.isConnective, Bool.false_eq_true] at ho <;> decide
  -- the parts before the connective, by the connective that joined them
  have hL : Expr (chainLevel (some o)) (((match st.connective with
        | some previous =>
          if previous != o then #["(" ++ " ".intercalate st.parts.toList ++ ")"] else st.parts
        | none => st.parts).toList.map lex).flatten) (acc.map ctx.atomOf) := by
    cases hk : st.connective with
    | none =>
      rw [hk] at he
      exact Expr.ofNegationAt he _
    | some previous =>
      rw [hk] at he
      by_cases hpo : previous = o
      · subst hpo
        simpa [RenderState.lexemes] using he
      · simp only [bne_iff_ne, ne_eq, hpo, not_false_eq_true, if_true, List.map_cons,
          List.map_nil, List.flatten_cons, List.flatten_nil, List.append_nil, lex_wrap,
          RenderState.lex_text, List.toList_toArray]
        exact Expr.ofNegationAt (.paren he.toDisjunction) _
  refine ⟨rfl, _, .joined ho hL, ?_⟩
  simp [RenderState.lexemes, hw, nots]

/-- A nested filter read as a complete condition completes a term: in parentheses, or bare when
it is not negated and has no connective, the inner text then being a negation-level condition. -/
theorem nested {ts : List FilterToken} {inner : RenderState} {u : Cond Comparison}
    (ha : Agrees ctx st (.term j n)) (hi : Agrees ctx inner (.complete u))
    (hk : ts.any FilterToken.isConnective = false → inner.connective = none) :
    Agrees ctx { st with
      parts := st.parts.push (if st.negated || ts.any FilterToken.isConnective
        then "(" ++ " ".intercalate inner.parts.toList ++ ")"
        else " ".intercalate inner.parts.toList),
      negated := false, expect := .connective } (.complete (Reading.closed j n u)) := by
  obtain ⟨-, L, hP, hL⟩ := ha
  obtain ⟨-, hu⟩ := hi
  have hm : Expr .negation (lex (if st.negated || ts.any FilterToken.isConnective
      then "(" ++ " ".intercalate inner.parts.toList ++ ")"
      else " ".intercalate inner.parts.toList)) (u.map ctx.atomOf) := by
    split
    · rw [lex_wrap, RenderState.lex_text]
      exact .paren hu.toDisjunction
    · next hbare =>
      simp only [Bool.or_eq_true, not_or, Bool.not_eq_true] at hbare
      rw [RenderState.lex_text]
      simpa [hk hbare.2, chainLevel] using hu
  refine ⟨rfl, ?_⟩
  rw [RenderState.lexemes_push rfl, hL]
  simpa using hP.close hm n

end Agrees

/-! ## Whole filters -/

theorem RenderContext.Resolves.left {ctx : RenderContext} {a b : List String}
    (h : ctx.Resolves (a ++ b)) : ctx.Resolves a := fun n hn => h n (List.mem_append_left b hn)

theorem RenderContext.Resolves.right {ctx : RenderContext} {a b : List String}
    (h : ctx.Resolves (a ++ b)) : ctx.Resolves b := fun n hn => h n (List.mem_append_right a hn)

variable {ctx : RenderContext}

mutual
/-- Rendering tokens that the reading accepts, from a state agreeing with the reading, succeeds
and agrees with where the reading ends; without a connective among the tokens the state's
connective is kept. -/
theorem renderTokens_agrees (hp : ctx.Plain) : ∀ (ts : List FilterToken) {r r' : Reading}
    {st : RenderState} (ps : Array CompiledParam),
    readTokens ts r = some r' → ctx.Resolves (tokensColumns ts) → Agrees ctx st r →
    ∃ st' ps', (renderTokens ctx ts st).run ps = .ok (st', ps') ∧ Agrees ctx st' r' ∧
      (ts.any FilterToken.isConnective = false → st'.connective = st.connective)
  | [], _, _, st, ps, h, _, ha => by
    simp only [readTokens_nil, Option.some.injEq] at h
    subst h
    exact ⟨st, ps, rfl, ha, fun _ => rfl⟩
  | t :: ts, _, _, _, ps, h, hres, ha => by
    obtain ⟨r₁, h₁, h₂⟩ := Option.bind_eq_some_iff.mp ((readTokens_cons t ts _).symm.trans h)
    rw [tokensColumns_cons] at hres
    obtain ⟨st₁, ps₁, e₁, a₁, k₁⟩ := renderToken_agrees hp t ps h₁ hres.left ha
    obtain ⟨st₂, ps₂, e₂, a₂, k₂⟩ := renderTokens_agrees hp ts ps₁ h₂ hres.right a₁
    refine ⟨st₂, ps₂, by rw [renderTokens_cons_of_ok ctx _ ps e₁, e₂], a₂, fun hc => ?_⟩
    simp only [List.any_cons, Bool.or_eq_false_iff] at hc
    rw [k₂ hc.2, k₁ hc.1]

/-- One token that the reading accepts, rendered from an agreeing state. -/
theorem renderToken_agrees (hp : ctx.Plain) : ∀ (t : FilterToken) {r r' : Reading}
    {st : RenderState} (ps : Array CompiledParam),
    readToken t r = some r' → ctx.Resolves (tokenColumns t) → Agrees ctx st r →
    ∃ st' ps', (renderToken ctx t st).run ps = .ok (st', ps') ∧ Agrees ctx st' r' ∧
      (t.isConnective = false → st'.connective = st.connective)
  | .nested ts, .term j n, r', st, ps, h, hres, ha => by
    simp only [readToken] at h
    split at h
    · next u hu =>
      simp only [Option.some.injEq] at h
      subst h
      obtain ⟨inner, ps', e, hi, hk⟩ :=
        renderTokens_agrees hp ts ps hu (by simpa [tokenColumns] using hres) (agrees_start ctx)
      have hk' : ts.any FilterToken.isConnective = false → inner.connective = none := hk
      exact ⟨_, _, renderToken_nested ctx st ps ha.1 (readTokens_start_ne_nil hu) e hi.1,
        ha.nested hi hk', fun _ => rfl⟩
    · cases h
  | .column c, .term j n, r', st, ps, h, hres, ha => by
    simp only [readToken, Option.some.injEq] at h
    subst h
    obtain ⟨r, hr⟩ := hres c (by simp [tokenColumns])
    exact ⟨_, _, renderToken_column ctx st ps ha.1 hr, ha.column hp hr, fun _ => rfl⟩
  | .op o, .term j n, r', st, ps, h, _, ha => by
    simp only [readToken] at h
    split at h
    · next ho =>
      simp only [Option.some.injEq] at h
      subst h ho
      exact ⟨_, _, renderToken_not ctx st ps ha.1, ha.not, fun _ => rfl⟩
    · cases h
  | .op o, .operator j n c, r', st, ps, h, _, ha => by
    simp only [readToken] at h
    split at h
    · next ho =>
      simp only [Option.some.injEq] at h
      subst h
      exact ⟨_, _, renderToken_comparison ctx st ps ha.1 ho, ha.comparison ho, fun _ => rfl⟩
    · next ho =>
      split at h
      · next hn =>
        simp only [Option.some.injEq] at h
        subst h
        exact ⟨_, _, renderToken_nullCheck ctx st ps ha.1 (by simpa using ho) hn,
          ha.nullCheck hp hn, fun _ => rfl⟩
      · cases h
  | .param p, .parameter j n c o, r', st, ps, h, _, ha => by
    simp only [readToken, Option.some.injEq] at h
    subst h
    obtain ⟨r, hr, ht⟩ : ∃ r, resolveField ctx.reg ctx.nodes ctx.owner c = .ok r ∧
        st.columnType = some r.type := by
      obtain ⟨-, -, L, r, hr, ht, -⟩ := ha
      exact ⟨r, hr, ht⟩
    exact ⟨_, _, renderToken_param ctx st ps ha.1 ht, ha.param hp (ps.size + 1), fun _ => rfl⟩
  | .op o, .complete acc, r', st, ps, h, _, ha => by
    simp only [readToken] at h
    split at h
    · next ho =>
      simp only [Option.some.injEq] at h
      subst h
      exact ⟨_, _, renderToken_connective ctx st ps ha.1 ho, ha.connective ho,
        fun hc => absurd ho (by simpa [FilterToken.isConnective] using hc)⟩
    · cases h
  | .nested _, .operator .., _, _, _, h, _, _ => by simp [readToken] at h
  | .nested _, .parameter .., _, _, _, h, _, _ => by simp [readToken] at h
  | .nested _, .complete _, _, _, _, h, _, _ => by simp [readToken] at h
  | .column _, .operator .., _, _, _, h, _, _ => by simp [readToken] at h
  | .column _, .parameter .., _, _, _, h, _, _ => by simp [readToken] at h
  | .column _, .complete _, _, _, _, h, _, _ => by simp [readToken] at h
  | .op _, .parameter .., _, _, _, h, _, _ => by simp [readToken] at h
  | .param _, .term .., _, _, _, h, _, _ => by simp [readToken] at h
  | .param _, .operator .., _, _, _, h, _, _ => by simp [readToken] at h
  | .param _, .complete _, _, _, _, h, _, _ => by simp [readToken] at h
end

/-- A state agreeing with a reading after which a connective is expected stands for a complete
condition. -/
theorem Agrees.complete_of_connective {st : RenderState} {r : Reading} (ha : Agrees ctx st r)
    (he : st.expect = .connective) : ∃ u, r = .complete u := by
  cases r with
  | complete u => exact ⟨u, rfl⟩
  | term => exact absurd (he.symm.trans ha.1) (by decide)
  | operator => exact absurd (he.symm.trans ha.1) (by decide)
  | parameter => exact absurd (he.symm.trans ha.1) (by decide)

mutual
/-- Conversely, tokens that render from a state agreeing with a reading are accepted by the
reading, and their fields resolve. -/
theorem renderTokens_reads (hp : ctx.Plain) : ∀ (ts : List FilterToken) {r : Reading}
    {st st' : RenderState} {ps ps' : Array CompiledParam},
    Agrees ctx st r → (renderTokens ctx ts st).run ps = .ok (st', ps') →
    (∃ r', readTokens ts r = some r') ∧ ctx.Resolves (tokensColumns ts)
  | [], r, _, _, _, _, _, _ => ⟨⟨r, rfl⟩, fun _ h => by simp [tokensColumns] at h⟩
  | t :: ts, _, st, _, ps, _, ha, h => by
    cases h₁ : (renderToken ctx t st).run ps with
    | error e => simp [renderTokens, StateT.run_bind, h₁] at h
    | ok q =>
      obtain ⟨st₁, ps₁⟩ := q
      rw [renderTokens_cons_of_ok ctx st ps h₁] at h
      obtain ⟨⟨r₁, hr₁⟩, hres₁⟩ := renderToken_reads hp t ha h₁
      -- the state after the first token agrees with the reading after it
      obtain ⟨st₁', ps₁', e₁, a₁, -⟩ := renderToken_agrees hp t ps hr₁ hres₁ ha
      rw [h₁] at e₁
      cases e₁
      obtain ⟨⟨r', hr'⟩, hres⟩ := renderTokens_reads hp ts a₁ h
      refine ⟨⟨r', by simp [hr₁, hr']⟩, fun n hn => ?_⟩
      rw [tokensColumns_cons, List.mem_append] at hn
      exact hn.elim (hres₁ n) (hres n)

/-- One token that renders from a state agreeing with a reading is accepted by the reading. -/
theorem renderToken_reads (hp : ctx.Plain) : ∀ (t : FilterToken) {r : Reading}
    {st st' : RenderState} {ps ps' : Array CompiledParam},
    Agrees ctx st r → (renderToken ctx t st).run ps = .ok (st', ps') →
    (∃ r', readToken t r = some r') ∧ ctx.Resolves (tokenColumns t)
  | .nested ts, .term j n, st, _, ps, _, _, h => by
    obtain ⟨-, -, inner, ps'', hin, hc⟩ := renderToken_nested_inv ctx st ps h
    obtain ⟨⟨ri, hri⟩, hres⟩ := renderTokens_reads hp ts (agrees_start ctx) hin
    obtain ⟨inner', _, e, hi, -⟩ := renderTokens_agrees hp ts ps hri hres (agrees_start ctx)
    rw [hin] at e
    cases e
    obtain ⟨u, rfl⟩ := hi.complete_of_connective hc
    exact ⟨⟨.complete (Reading.closed j n u), by simp [readToken, hri]⟩,
      by simpa [tokenColumns] using hres⟩
  | .nested ts, .operator .., st, _, ps, _, ha, h
  | .nested ts, .parameter .., st, _, ps, _, ha, h
  | .nested ts, .complete _, st, _, ps, _, ha, h => by
    obtain ⟨he, -⟩ := renderToken_nested_inv ctx st ps h
    exact absurd (he.symm.trans ha.1) (by decide)
  | .column c, .term j n, st, _, ps, _, ha, h => by
    cases hr : resolveField ctx.reg ctx.nodes ctx.owner c with
    | error e =>
      simp only [renderToken, ha.1, hr] at h
      cases h
    | ok r => exact ⟨⟨_, rfl⟩, fun n hn => ⟨r, by simp [tokenColumns] at hn; rw [hn, hr]⟩⟩
  | .op o, .term j n, _, _, _, _, ha, h => by
    cases o <;> first
      | exact ⟨⟨_, rfl⟩, fun _ h => by simp [tokenColumns] at h⟩
      | simp [renderToken, ha.1] at h
  | .op o, .operator j n c, _, _, _, _, ha, h => by
    cases o <;> first
      | exact ⟨⟨_, rfl⟩, fun _ h => by simp [tokenColumns] at h⟩
      | simp [renderToken, ha.1, Operator.takesParameter, Operator.isNullCheck] at h
  | .op o, .complete acc, _, _, _, _, ha, h => by
    cases o <;> first
      | exact ⟨⟨_, rfl⟩, fun _ h => by simp [tokenColumns] at h⟩
      | simp [renderToken, ha.1, Operator.isConnective] at h
  | .param p, .parameter .., _, _, _, _, _, _ => ⟨⟨_, rfl⟩, fun _ h => by simp [tokenColumns] at h⟩
  | .column _, .operator .., _, _, _, _, ha, h
  | .column _, .parameter .., _, _, _, _, ha, h
  | .column _, .complete _, _, _, _, _, ha, h
  | .op _, .parameter .., _, _, _, _, ha, h
  | .param _, .term .., _, _, _, _, ha, h
  | .param _, .operator .., _, _, _, _, ha, h
  | .param _, .complete _, _, _, _, _, ha, h => by simp [renderToken, ha.1] at h
end

/-- A well-formed filter whose fields resolve renders, and its text read by SQL precedence is
the filter read left to right; without a connective of its own it is a negation-level
condition. -/
theorem renderFilter_reads (hp : ctx.Plain) {f : Filter} {c : Cond Comparison}
    (hread : f.read = some c) (hres : ctx.Resolves (tokensColumns f.tokens))
    (ps : Array CompiledParam) :
    ∃ text ps', (renderFilter ctx f).run ps = .ok (text, ps') ∧
      Expr .disjunction (lex text) (c.map ctx.atomOf) ∧
      (f.hasConnective = false → Expr .negation (lex text) (c.map ctx.atomOf)) := by
  obtain ⟨st, ps', e, ⟨he, hx⟩, hk⟩ :=
    renderTokens_agrees hp f.tokens ps (Filter.read_eq_some_iff.mp hread) hres (agrees_start ctx)
  have hrun : (renderFilter ctx f).run ps = .ok (" ".intercalate st.parts.toList, ps') := by
    simp only [renderFilter, StateT.run_bind, e]
    simp [bind, Except.bind, he]
    rfl
  refine ⟨_, ps', hrun, ?_, fun hc => ?_⟩
  · rw [RenderState.lex_text]
    exact hx.toDisjunction
  · have hc' : f.tokens.any FilterToken.isConnective = false := by
      rw [← hc, Filter.hasConnective]
      congr
    rw [RenderState.lex_text]
    simpa [hk hc', chainLevel] using hx

/-- A filter that renders is well formed and its fields resolve. -/
theorem read_of_renderFilter (hp : ctx.Plain) {f : Filter} {ps ps' : Array CompiledParam}
    {text : String} (h : (renderFilter ctx f).run ps = .ok (text, ps')) :
    (∃ c, f.read = some c) ∧ ctx.Resolves (tokensColumns f.tokens) := by
  simp only [renderFilter, StateT.run_bind] at h
  cases hrun : (renderTokens ctx f.tokens {}).run ps with
  | error e => rw [hrun] at h; cases h
  | ok q =>
    obtain ⟨st, ps₁⟩ := q
    rw [hrun] at h
    have he : st.expect = .connective := by
      cases hc : st.expect with
      | connective => rfl
      | _ => rw [except_ok_bind, hc] at h; cases h
    obtain ⟨⟨r, hr⟩, hres⟩ := renderTokens_reads hp f.tokens (agrees_start ctx) hrun
    obtain ⟨st', _, e, ha, -⟩ := renderTokens_agrees hp f.tokens ps hr hres (agrees_start ctx)
    rw [hrun] at e
    cases e
    obtain ⟨c, rfl⟩ := ha.complete_of_connective he
    exact ⟨⟨c, Filter.read_eq_some_iff.mpr hr⟩, hres⟩

/-- Whatever a filter renders to, read by SQL precedence, is the filter read left to right, and
nothing else. -/
theorem renderFilter_text (hp : ctx.Plain) {f : Filter} {ps ps' : Array CompiledParam}
    {text : String} (h : (renderFilter ctx f).run ps = .ok (text, ps')) :
    ∃ c, f.read = some c ∧ ∀ u, Expr .disjunction (lex text) u ↔ u = c.map ctx.atomOf := by
  obtain ⟨⟨c, hc⟩, hres⟩ := read_of_renderFilter hp h
  obtain ⟨text', ps'', e, hx, -⟩ := renderFilter_reads hp hc hres ps
  rw [h] at e
  cases e
  exact ⟨c, hc, hx.iff_eq⟩

end EntityGraph
