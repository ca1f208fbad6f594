import EntityGraph.Proofs.Render.Grammar
import EntityGraph.Proofs.Render.Grouping

/-!
# The renderer accepts exactly the grammar

`renderFilter` checks the grammar of a filter with a machine of four states (`Expect`) while it
writes the text. Token by token it follows the left-to-right reading (`RenderState.Follows`),
and rendering from a state that follows a reading ends in one of three ways
(`RenderContext.Outcome`): the reading goes on and the fields read resolve; the reading fails
and the error is a malformed filter naming the violation; or a field spelled before the first
violation does not resolve, and its error is the error of the render.

Main statement: `renderFilter_accepts_grammar`. A filter renders exactly when it is a filter of
the grammar and its fields resolve; a filter outside the grammar whose fields before the first
violation resolve fails as a malformed filter; and the error for a parameter without a column is
never given, since a parameter is only awaited after a column.
-/

namespace EntityGraph

/-- The grammar violations the renderer reports. -/
inductive Violation where
  | emptyNested
  | incomplete
  | unexpected (t : FilterToken)

/-- The text of the malformed-filter error for a violation. -/
def Violation.message : Violation → String
  | .emptyNested => "empty nested filter"
  | .incomplete => "filter ends before its last term is complete"
  | .unexpected t => "unexpected token " ++ t.describe

theorem Violation.message_ne (v : Violation) : v.message ≠ "parameter without a column" := by
  cases v with
  | emptyNested =>
    change "empty nested filter" ≠ _
    simp
  | incomplete =>
    change "filter ends before its last term is complete" ≠ _
    simp
  | unexpected t =>
    change "unexpected token " ++ t.describe ≠ _
    intro h
    -- the two texts differ in their first character
    have := congrArg (fun s : String => s.toList.head?) h
    simp at this

theorem RenderContext.malformed_inj {ctx : RenderContext} {m m' : String}
    (h : ctx.malformed m = ctx.malformed m') : m = m' := by
  simp only [RenderContext.malformed, Error.build.injEq] at h
  exact h.2.2.2

/-- A field that does not resolve is unknown, or names a relation that is not joined. -/
theorem resolveField_error {reg : Registry} {nodes : Array PlannedNode} {owner : Nat} {c : String}
    {e : Error} (h : resolveField reg nodes owner c = .error e) :
    ∃ ent col m, e = .build .unknownColumn ent col m ∨ e = .build .unknownRelation ent col m := by
  unfold resolveField at h
  split at h
  · split at h
    · split at h
      · cases h
      · cases h; exact ⟨_, _, _, .inl rfl⟩
    · cases h; exact ⟨_, _, _, .inr rfl⟩
  · simp only at h
    split at h
    · cases h
    · cases h; exact ⟨_, _, _, .inl rfl⟩

theorem resolveField_error_ne {ctx : RenderContext} {c : String} {e : Error}
    (h : resolveField ctx.reg ctx.nodes ctx.owner c = .error e) (m : String) :
    e ≠ ctx.malformed m := by
  obtain ⟨ent, col, msg, rfl | rfl⟩ := resolveField_error h <;> simp [RenderContext.malformed]

/-! ## Following the reading -/

/-- What the renderer expects where a reading stands. -/
def Reading.expect : Reading → Expect
  | .term _ _ => .term
  | .operator _ _ _ => .operator
  | .parameter _ _ _ _ => .parameter
  | .complete _ => .connective

/-- A render state follows a reading: it expects what the reading waits for, and while an
operator or a parameter is awaited it holds the type of the column read. -/
structure RenderState.Follows (st : RenderState) (r : Reading) : Prop where
  expect : st.expect = r.expect
  typed : r.expect = .operator ∨ r.expect = .parameter → st.columnType.isSome

theorem follows_start : ({} : RenderState).Follows .start :=
  ⟨rfl, by simp [Reading.start, Reading.expect]⟩

/-- A state expecting a term or a connective follows any reading that waits for the same. -/
theorem RenderState.Follows.of_expect {st : RenderState} {r : Reading} (he : st.expect = r.expect)
    (hr : r.expect = .term ∨ r.expect = .connective) : st.Follows r :=
  ⟨he, fun h => by rcases hr with hr | hr <;> rcases h with h | h <;> simp [hr] at h⟩

namespace RenderContext

variable {ctx : RenderContext}

/-- A field spelled in a viable prefix of `L` that does not resolve, failing with `e`. -/
def FailsBefore (ctx : RenderContext) (L : List Symbol) (e : Error) : Prop :=
  ∃ q c, q <+: L ∧ Viable q ∧ Symbol.column c ∈ q ∧
    resolveField ctx.reg ctx.nodes ctx.owner c = .error e

/-- Every field spelled before the first violation in `L` resolves. -/
def ResolvesBefore (ctx : RenderContext) (L : List Symbol) : Prop :=
  ∀ q, q <+: L → Viable q → ∀ c, Symbol.column c ∈ q →
    ∃ r, resolveField ctx.reg ctx.nodes ctx.owner c = .ok r

/-- How rendering from a state that follows a reading ends, for tokens spelled up to `L`, that
the reading takes to `read`, with fields `cols`. -/
def Outcome (ctx : RenderContext) (L : List Symbol) (read : Option Reading) (cols : List String) :
    Except Error (RenderState × Array CompiledParam) → Prop
  | .ok (st, _) => (∃ r, read = some r ∧ st.Follows r) ∧ ctx.Resolves cols
  | .error e => (read = none ∧ ∃ v : Violation, e = ctx.malformed v.message) ∨ ctx.FailsBefore L e

theorem FailsBefore.mono {L L' : List Symbol} {e : Error} (h : ctx.FailsBefore L e)
    (hp : L <+: L') : ctx.FailsBefore L' e := by
  obtain ⟨q, c, hq, hv, hc, hr⟩ := h
  exact ⟨q, c, hq.trans hp, hv, hc, hr⟩

theorem Outcome.mono {L L' : List Symbol} {read : Option Reading} {cols : List String}
    {x : Except Error (RenderState × Array CompiledParam)} (h : ctx.Outcome L read cols x)
    (hp : L <+: L') : ctx.Outcome L' read cols x := by
  rcases x with e | ⟨st, ps⟩
  · exact h.imp id (·.mono hp)
  · exact h

theorem Outcome.resolves_append {L : List Symbol} {read : Option Reading} {a b : List String}
    {x : Except Error (RenderState × Array CompiledParam)} (ha : ctx.Resolves a)
    (h : ctx.Outcome L read b x) : ctx.Outcome L read (a ++ b) x := by
  rcases x with e | ⟨st, ps⟩
  · exact h
  · exact ⟨h.1, fun n hn => (List.mem_append.mp hn).elim (ha n) (h.2 n)⟩

theorem Outcome.unexpected {L : List Symbol} {cols : List String} (t : FilterToken) :
    ctx.Outcome L none cols (.error (ctx.malformed ("unexpected token " ++ t.describe))) :=
  .inl ⟨rfl, .unexpected t, rfl⟩

/-- A field read where the reading can go on is spelled in a viable prefix. -/
theorem Outcome.fails {q : List Symbol} {c : String} {r : Reading} {read : Option Reading}
    {cols : List String} {e : Error} (hl : Live (q ++ spellToken (.column c)) r)
    (hr : resolveField ctx.reg ctx.nodes ctx.owner c = .error e) :
    ctx.Outcome (q ++ spellToken (.column c)) read cols (.error e) :=
  .inr ⟨_, c, List.prefix_refl _, hl.viable, by simp [spellToken], hr⟩

end RenderContext

/-! ## Refusals of the renderer -/

section Refusals

variable (ctx : RenderContext) (st : RenderState) (ps : Array CompiledParam)

theorem renderToken_column_error {name : String} {e : Error} (he : st.expect = .term)
    (hr : resolveField ctx.reg ctx.nodes ctx.owner name = .error e) :
    (renderToken ctx (.column name) st).run ps = .error e := by
  simp only [renderToken, he, hr]
  rfl

/-- A token the reading refuses where it stands is refused by the renderer as unexpected, unless
it is a nested filter in place of a term. -/
theorem renderToken_unexpected {t : FilterToken} {r : Reading} (hf : st.Follows r)
    (hn : readToken t r = none) (hnt : ∀ ts, t = .nested ts → r.expect ≠ .term) :
    (renderToken ctx t st).run ps = .error (ctx.malformed ("unexpected token " ++ t.describe)) := by
  have he := hf.expect
  cases t with
  | nested ts =>
    have hne : st.expect ≠ .term := he ▸ hnt ts rfl
    simp [renderToken, hne]
  | column name => cases r <;> simp_all [readToken, renderToken, Reading.expect]
  | param p => cases r <;> simp_all [readToken, renderToken, Reading.expect]
  | op o =>
    cases r <;> cases o <;>
      simp_all [readToken, renderToken, Reading.expect, Operator.takesParameter,
        Operator.isNullCheck, Operator.isConnective]

/-- A token refused by the reading and by the renderer alike. -/
theorem renderToken_refused_outcome {t : FilterToken} {r : Reading} {L : List Symbol}
    {cols : List String} (hf : st.Follows r) (hn : readToken t r = none)
    (hnt : ∀ ts, t = .nested ts → r.expect ≠ .term) :
    ctx.Outcome L (readToken t r) cols ((renderToken ctx t st).run ps) := by
  rw [renderToken_unexpected ctx st ps hf hn hnt, hn]
  exact .unexpected t

theorem renderToken_nested_empty (he : st.expect = .term) :
    (renderToken ctx (.nested []) st).run ps = .error (ctx.malformed "empty nested filter") := by
  simp [renderToken, he]

theorem renderToken_nested_error {ts : List FilterToken} {e : Error} (he : st.expect = .term)
    (hne : ts ≠ []) (hin : (renderTokens ctx ts {}).run ps = .error e) :
    (renderToken ctx (.nested ts) st).run ps = .error e := by
  have hne' : ts.isEmpty = false := by simpa using hne
  simp only [renderToken, he, hne', beq_self_eq_true, if_true, Bool.false_eq_true, if_false]
  rw [StateT.run_bind, hin]
  rfl

theorem renderToken_nested_incomplete {ts : List FilterToken} {inner : RenderState}
    {ps' : Array CompiledParam} (he : st.expect = .term) (hne : ts ≠ [])
    (hin : (renderTokens ctx ts {}).run ps = .ok (inner, ps')) (hc : inner.expect ≠ .connective) :
    (renderToken ctx (.nested ts) st).run ps =
      .error (ctx.malformed "filter ends before its last term is complete") := by
  have hne' : ts.isEmpty = false := by simpa using hne
  simp only [renderToken, he, hne', beq_self_eq_true, if_true, Bool.false_eq_true, if_false]
  have hc' : (inner.expect != .connective) = true := by simpa using hc
  rw [StateT.run_bind, hin, except_ok_bind]
  simp only [hc', if_true]
  rfl

theorem renderTokens_cons_of_error {t : FilterToken} {ts : List FilterToken} {e : Error}
    (h : (renderToken ctx t st).run ps = .error e) :
    (renderTokens ctx (t :: ts) st).run ps = .error e := by
  simp only [renderTokens, StateT.run_bind, h]
  rfl

theorem renderFilter_of_error {f : Filter} {e : Error}
    (h : (renderTokens ctx f.tokens {}).run ps = .error e) :
    (renderFilter ctx f).run ps = .error e := by
  simp only [renderFilter, StateT.run_bind, h]
  rfl

theorem renderFilter_of_ok {f : Filter} {st : RenderState} {ps' : Array CompiledParam}
    (h : (renderTokens ctx f.tokens {}).run ps = .ok (st, ps')) :
    (renderFilter ctx f).run ps = if st.expect = .connective
      then .ok (" ".intercalate st.parts.toList, ps')
      else .error (ctx.malformed "filter ends before its last term is complete") := by
  simp only [renderFilter, StateT.run_bind, h, except_ok_bind]
  by_cases hc : st.expect = .connective
  · simp only [hc, bne_self_eq_false, Bool.false_eq_true, if_false, if_true]
    rfl
  · have hc' : (st.expect != .connective) = true := by simpa using hc
    simp only [hc', hc, if_true, if_false]
    rfl

end Refusals

/-! ## One token at a time -/

section Steps

variable {ctx : RenderContext} {q : List Symbol} {r : Reading} {st : RenderState}

theorem renderToken_column_outcome {c : String} (ps : Array CompiledParam) (hl : Live q r)
    (hf : st.Follows r) :
    ctx.Outcome (q ++ spellToken (.column c)) (readToken (.column c) r) (tokenColumns (.column c))
      ((renderToken ctx (.column c) st).run ps) := by
  cases r with
  | term j n =>
    cases hr : resolveField ctx.reg ctx.nodes ctx.owner c with
    | ok res =>
      rw [renderToken_column ctx st ps hf.expect hr]
      refine ⟨⟨_, rfl, ⟨rfl, fun _ => rfl⟩⟩, fun n hn => ⟨res, ?_⟩⟩
      simp only [tokenColumns, List.mem_singleton] at hn
      rw [hn, hr]
    | error e =>
      rw [renderToken_column_error ctx st ps hf.expect hr]
      exact .fails (hl.step (show readToken (.column c) (.term j n) = some (.operator j n c)
        from rfl)) hr
  | operator _ _ _ | parameter _ _ _ _ | complete _ =>
    exact renderToken_refused_outcome ctx st ps hf rfl (by simp)

theorem renderToken_op_outcome {o : Operator} (ps : Array CompiledParam) (hl : Live q r)
    (hf : st.Follows r) :
    ctx.Outcome (q ++ spellToken (.op o)) (readToken (.op o) r) (tokenColumns (.op o))
      ((renderToken ctx (.op o) st).run ps) := by
  -- an operator names no field
  have hres : ctx.Resolves (tokenColumns (.op o)) := fun _ h => by simp [tokenColumns] at h
  have hnt : ∀ ts, FilterToken.op o = .nested ts → r.expect ≠ .term := by simp
  cases r with
  | term j n =>
    by_cases ho : o = .not
    · subst ho
      rw [renderToken_not ctx st ps hf.expect]
      exact ⟨⟨_, rfl, .of_expect rfl (.inl rfl)⟩, hres⟩
    · exact renderToken_refused_outcome ctx st ps hf (by simp [readToken, ho]) hnt
  | operator j n c =>
    by_cases ht : o.takesParameter = true
    · rw [renderToken_comparison ctx st ps hf.expect ht]
      exact ⟨⟨.parameter j n c o, by simp [readToken, ht], ⟨rfl, fun _ => hf.typed (.inl rfl)⟩⟩,
        hres⟩
    · by_cases hn : o.isNullCheck = true
      · rw [renderToken_nullCheck ctx st ps hf.expect (by simpa using ht) hn]
        exact ⟨⟨.complete (Reading.closed j n (.atom ⟨c, o, none⟩)), by simp [readToken, ht, hn],
          .of_expect rfl (.inr rfl)⟩, hres⟩
      · exact renderToken_refused_outcome ctx st ps hf (by simp [readToken, ht, hn]) hnt
  | parameter _ _ _ _ => exact renderToken_refused_outcome ctx st ps hf (by simp [readToken]) hnt
  | complete acc =>
    by_cases hc : o.isConnective = true
    · rw [renderToken_connective ctx st ps hf.expect hc]
      exact ⟨⟨.term (some (acc, o)) 0, by simp [readToken, hc], .of_expect rfl (.inl rfl)⟩, hres⟩
    · exact renderToken_refused_outcome ctx st ps hf (by simp [readToken, hc]) hnt

/-- A parameter is awaited only after a column, so its column type is at hand. -/
theorem renderToken_param_outcome {p : Param} (ps : Array CompiledParam) (hf : st.Follows r) :
    ctx.Outcome (q ++ spellToken (.param p)) (readToken (.param p) r) (tokenColumns (.param p))
      ((renderToken ctx (.param p) st).run ps) := by
  have hres : ctx.Resolves (tokenColumns (.param p)) := fun _ h => by simp [tokenColumns] at h
  have hnt : ∀ ts, FilterToken.param p = .nested ts → r.expect ≠ .term := by simp
  cases r with
  | parameter j n c o =>
    obtain ⟨ty, hty⟩ := Option.isSome_iff_exists.mp (hf.typed (.inr rfl))
    rw [renderToken_param ctx st ps hf.expect hty]
    exact ⟨⟨_, rfl, .of_expect rfl (.inr rfl)⟩, hres⟩
  | term _ _ | operator _ _ _ | complete _ =>
    exact renderToken_refused_outcome ctx st ps hf (by simp [readToken]) hnt

/-- A nested filter in place of a term is rendered from the empty state; it must not be empty,
and its reading must end complete. -/
theorem renderToken_nested_outcome {ts : List FilterToken}
    (hin : ∀ (q : List Symbol) (ps : Array CompiledParam), Live q .start →
      ctx.Outcome (q ++ spell ts) (readTokens ts .start) (tokensColumns ts)
        ((renderTokens ctx ts {}).run ps))
    (ps : Array CompiledParam) (hl : Live q r) (hf : st.Follows r) :
    ctx.Outcome (q ++ spellToken (.nested ts)) (readToken (.nested ts) r)
      (tokenColumns (.nested ts)) ((renderToken ctx (.nested ts) st).run ps) := by
  cases r with
  | term j n =>
    by_cases hne : ts = []
    · subst hne
      rw [renderToken_nested_empty ctx st ps hf.expect]
      exact .inl ⟨by simp [readToken, Reading.start], .emptyNested, rfl⟩
    have h := hin (q ++ [.openNested]) ps hl.nested
    -- the symbols read inside end before the closing bracket
    have hp : q ++ [.openNested] ++ spell ts <+: q ++ spellToken (.nested ts) :=
      ⟨[.closeNested], by simp [spellToken]⟩
    cases e : (renderTokens ctx ts {}).run ps with
    | error err =>
      rw [e] at h
      rw [renderToken_nested_error ctx st ps hf.expect hne e]
      rcases h with ⟨hn, v, rfl⟩ | hfail
      · exact .inl ⟨by simp [readToken, hn], v, rfl⟩
      · exact .inr (hfail.mono hp)
    | ok res =>
      obtain ⟨inner, ps'⟩ := res
      rw [e] at h
      obtain ⟨⟨r', hr', hf'⟩, hres⟩ := h
      cases r' with
      | complete u =>
        rw [renderToken_nested ctx st ps hf.expect hne e hf'.expect]
        exact ⟨⟨.complete (Reading.closed j n u), by simp [readToken, hr'], .of_expect rfl (.inr rfl)⟩,
          by simpa [tokenColumns] using hres⟩
      | term _ _ | operator _ _ _ | parameter _ _ _ _ =>
        rw [renderToken_nested_incomplete ctx st ps hf.expect hne e
          (by rw [hf'.expect]; simp [Reading.expect])]
        exact .inl ⟨by simp [readToken, hr'], .incomplete, rfl⟩
  | operator _ _ _ | parameter _ _ _ _ | complete _ =>
    exact renderToken_refused_outcome ctx st ps hf (by simp [readToken])
      (fun _ _ => by simp [Reading.expect])

end Steps

section Runs

variable {ctx : RenderContext}

mutual
/-- Rendering tokens from a state that follows a reading, after symbols that stand before it,
ends in one of the three ways of `Outcome`. -/
theorem renderTokens_outcome : ∀ (ts : List FilterToken) {q : List Symbol} {r : Reading}
    {st : RenderState} (ps : Array CompiledParam), Live q r → st.Follows r →
    ctx.Outcome (q ++ spell ts) (readTokens ts r) (tokensColumns ts) ((renderTokens ctx ts st).run ps)
  | [], _, r, st, ps, _, hf => by
    have hrun : (renderTokens ctx [] st).run ps = .ok (st, ps) := by
      simp only [renderTokens]
      rfl
    rw [hrun]
    exact ⟨⟨r, rfl, hf⟩, fun _ h => by simp [tokensColumns] at h⟩
  | t :: ts, q, r, st, ps, hl, hf => by
    have h₁ := renderToken_outcome t ps hl hf
    cases e₁ : (renderToken ctx t st).run ps with
    | error e =>
      rw [e₁] at h₁
      rw [renderTokens_cons_of_error ctx st ps e₁]
      rcases h₁ with ⟨hn, v, rfl⟩ | hfail
      · exact .inl ⟨by simp [hn], v, rfl⟩
      · exact .inr (hfail.mono (by simp))
    | ok res =>
      obtain ⟨st₁, ps₁⟩ := res
      rw [e₁] at h₁
      obtain ⟨⟨r₁, hr₁, hf₁⟩, hres₁⟩ := h₁
      -- the rest is rendered after the first token, from where it leads
      have h₂ := renderTokens_outcome ts ps₁ (hl.step hr₁) hf₁
      rw [renderTokens_cons_of_ok ctx st ps e₁, readTokens_cons, hr₁, Option.bind_some,
        tokensColumns_cons, spell_cons, ← List.append_assoc]
      exact h₂.resolves_append hres₁

/-- Rendering one token from a state that follows a reading. -/
theorem renderToken_outcome : ∀ (t : FilterToken) {q : List Symbol} {r : Reading}
    {st : RenderState} (ps : Array CompiledParam), Live q r → st.Follows r →
    ctx.Outcome (q ++ spellToken t) (readToken t r) (tokenColumns t) ((renderToken ctx t st).run ps)
  | .column _, _, _, _, ps, hl, hf => renderToken_column_outcome ps hl hf
  | .op _, _, _, _, ps, hl, hf => renderToken_op_outcome ps hl hf
  | .param _, _, _, _, ps, _, hf => renderToken_param_outcome ps hf
  | .nested ts, _, _, _, ps, hl, hf =>
    renderToken_nested_outcome (fun _ ps hl => renderTokens_outcome ts ps hl follows_start) ps hl hf
end

/-- A whole filter renders when it reads as a condition and its fields resolve; otherwise the
error names a violation of the grammar where the reading fails, or is the error of a field
spelled before the first violation. -/
theorem renderFilter_outcome (f : Filter) (ps : Array CompiledParam) :
    (∃ c text ps', f.read = some c ∧ (renderFilter ctx f).run ps = .ok (text, ps') ∧
        ctx.Resolves (tokensColumns f.tokens)) ∨
      (f.read = none ∧ ∃ v : Violation, (renderFilter ctx f).run ps = .error (ctx.malformed v.message)) ∨
      (∃ e, ctx.FailsBefore (spell f.tokens) e ∧ (renderFilter ctx f).run ps = .error e) := by
  have h := @renderTokens_outcome ctx f.tokens [] .start {} ps live_start follows_start
  rw [List.nil_append] at h
  cases e : (renderTokens ctx f.tokens {}).run ps with
  | error err =>
    rw [e] at h
    rw [renderFilter_of_error ctx ps e]
    rcases h with ⟨hn, v, rfl⟩ | hfail
    · exact .inr (.inl ⟨by simp [Filter.read, hn], v, rfl⟩)
    · exact .inr (.inr ⟨err, hfail, rfl⟩)
  | ok res =>
    obtain ⟨st, ps'⟩ := res
    rw [e] at h
    obtain ⟨⟨r, hr, hf⟩, hres⟩ := h
    rw [renderFilter_of_ok ctx ps e, hf.expect]
    cases r with
    | complete c =>
      exact .inl ⟨c, " ".intercalate st.parts.toList, ps', by simp [Filter.read, hr],
        by simp [Reading.expect], hres⟩
    | term _ _ | operator _ _ _ | parameter _ _ _ _ =>
      exact .inr (.inl ⟨by simp [Filter.read, hr], .incomplete,
        by rw [if_neg (by simp [Reading.expect])]; rfl⟩)

end Runs

/-- **The renderer accepts exactly the filter grammar.** A filter renders exactly when its tokens
are a filter of the grammar and every field it names resolves. A filter outside the grammar
whose fields spelled before the first violation resolve fails with a malformed-filter error
naming a violation. No filter fails with the error for a parameter without a column. -/
theorem renderFilter_accepts_grammar (ctx : RenderContext) (f : Filter) (ps : Array CompiledParam) :
    ((∃ text ps', (renderFilter ctx f).run ps = .ok (text, ps')) ↔
        Derives .filter f.tokens ∧ ctx.Resolves (tokensColumns f.tokens)) ∧
      (¬ Derives .filter f.tokens → ctx.ResolvesBefore (spell f.tokens) →
        ∃ v : Violation, (renderFilter ctx f).run ps = .error (ctx.malformed v.message)) ∧
      (renderFilter ctx f).run ps ≠ .error (ctx.malformed "parameter without a column") := by
  rcases renderFilter_outcome f ps with ⟨c, text, ps', hc, hrun, hres⟩ | ⟨hn, v, hrun⟩ |
      ⟨e, ⟨q, col, hq, hv, hmem, hr⟩, hrun⟩
  · -- the filter renders
    have hd : Derives .filter f.tokens := Filter.read_isSome_iff.mp ⟨c, hc⟩
    exact ⟨iff_of_true ⟨text, ps', hrun⟩ ⟨hd, hres⟩, fun hnd => absurd hd hnd, by simp [hrun]⟩
  · -- the reading fails, and the error names the violation
    have hd : ¬ Derives .filter f.tokens := fun hd => by
      obtain ⟨c, hc⟩ := Filter.read_isSome_iff.mpr hd
      simp [hn] at hc
    refine ⟨iff_of_false (by simp [hrun]) (fun h => hd h.1), fun _ _ => ⟨v, hrun⟩, ?_⟩
    rw [hrun]
    intro h
    exact v.message_ne (RenderContext.malformed_inj (Except.error.inj h))
  · -- a field spelled before the first violation does not resolve
    refine ⟨iff_of_false (by simp [hrun]) (fun h => ?_), fun _ hb => ?_, ?_⟩
    · obtain ⟨res, hres⟩ := h.2 col (mem_tokensColumns_of_spell _ (hq.subset hmem))
      rw [hr] at hres
      cases hres
    · obtain ⟨res, hres⟩ := hb q hq hv col hmem
      rw [hr] at hres
      cases hres
    · rw [hrun]
      exact fun h => resolveField_error_ne hr _ (Except.error.inj h)

end EntityGraph
