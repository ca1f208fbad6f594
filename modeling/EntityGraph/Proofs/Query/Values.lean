import EntityGraph.Proofs.Query.Parameters

/-!
# The text of a compiled query does not depend on values

A filter compares columns with parameters; a value parameter is sent with the statement and only
its placeholder is written. So two queries that differ only in their values compile alike: one
compiles exactly when the other does, to the same text and as many parameters.

`Query.shape` forgets the values of a query: every value parameter becomes null. Queries with the
same shape plan to nodes with the same shape (`Query.plan_alike`), compilers over such nodes run
every stage alike (`Compiler.Alike`), and so the queries compile alike
(`Query.compile_alike`).
-/

namespace EntityGraph

/-! ## Forgetting values -/

/-- A parameter with its value forgotten: a value parameter holds null, a slot stays. -/
def Param.shape : Param → Param
  | .value _ => .value .null
  | .slot i => .slot i

mutual
/-- A token with the values of its parameters forgotten. -/
def FilterToken.shape : FilterToken → FilterToken
  | .param p => .param p.shape
  | .nested ts => .nested (FilterToken.shapes ts)
  | .column c => .column c
  | .op o => .op o

/-- Tokens with the values of their parameters forgotten. -/
def FilterToken.shapes : List FilterToken → List FilterToken
  | [] => []
  | t :: ts => t.shape :: FilterToken.shapes ts
end

/-- A filter with its values forgotten. -/
def Filter.shape (f : Filter) : Filter := ⟨FilterToken.shapes f.tokens⟩

mutual
/-- A join with the values of its filters forgotten. -/
def Join.shape : Join → Join
  | ⟨relation, filter, order, joins⟩ => ⟨relation, filter.shape, order, Join.shapes joins⟩

/-- Joins with the values of their filters forgotten. -/
def Join.shapes : List Join → List Join
  | [] => []
  | j :: js => j.shape :: Join.shapes js
end

/-- A query with the values of its filters forgotten. -/
def Query.shape (q : Query) : Query :=
  { q with filter := q.filter.shape, joins := Join.shapes q.joins }

/-- A planned node with the values of its filter forgotten. -/
def PlannedNode.shape (n : PlannedNode) : PlannedNode := { n with filter := n.filter.shape }

/-- Forgetting values keeps a join's relation and the columns and operators of its filter, and
nulls the value the filter compares with. -/
example : Join.shapes [{ relation := "kids", filter := ⟨[.column "a", .op .eq, .param (.value (.int 1))]⟩ }] =
    [{ relation := "kids", filter := ⟨[.column "a", .op .eq, .param (.value .null)]⟩ }] := by
  simp [Join.shapes, Join.shape, Filter.shape, FilterToken.shapes, FilterToken.shape, Param.shape]

@[simp] theorem FilterToken.shapes_nil : FilterToken.shapes [] = [] := by
  simp [FilterToken.shapes]

@[simp] theorem FilterToken.shapes_cons (t : FilterToken) (ts : List FilterToken) :
    FilterToken.shapes (t :: ts) = t.shape :: FilterToken.shapes ts := by
  simp [FilterToken.shapes]

theorem Join.shape_eq {j j' : Join} (h : j'.shape = j.shape) :
    j'.relation = j.relation ∧ j'.filter.shape = j.filter.shape ∧ j'.order = j.order ∧
      Join.shapes j'.joins = Join.shapes j.joins := by
  obtain ⟨r, f, o, js⟩ := j
  obtain ⟨r', f', o', js'⟩ := j'
  simp only [Join.shape, Join.mk.injEq] at h
  exact h

theorem Join.shapes_eq_cons {js' : List Join} {j : Join} {js : List Join}
    (h : Join.shapes js' = Join.shapes (j :: js)) :
    ∃ j₁ js₁, js' = j₁ :: js₁ ∧ j₁.shape = j.shape ∧ Join.shapes js₁ = Join.shapes js := by
  cases js' with
  | nil => simp [Join.shapes] at h
  | cons j₁ js₁ =>
    simp only [Join.shapes, List.cons.injEq] at h
    exact ⟨j₁, js₁, rfl, h⟩

theorem Query.shape_eq {q q' : Query} (h : q'.shape = q.shape) :
    q'.entity = q.entity ∧ q'.filter.shape = q.filter.shape ∧ q'.order = q.order ∧
      Join.shapes q'.joins = Join.shapes q.joins ∧ q'.limit = q.limit ∧ q'.offset = q.offset := by
  obtain ⟨e, f, o, js, l, off⟩ := q
  obtain ⟨e', f', o', js', l', off'⟩ := q'
  simp only [Query.shape, Query.mk.injEq] at h
  exact h

theorem FilterToken.shape_column {t : FilterToken} {c : String} (h : t.shape = .column c) :
    t = .column c := by
  cases t <;> simp_all [FilterToken.shape]

theorem FilterToken.shape_op {t : FilterToken} {o : Operator} (h : t.shape = .op o) : t = .op o := by
  cases t <;> simp_all [FilterToken.shape]

theorem FilterToken.shape_param {t : FilterToken} {q : Param} (h : t.shape = .param q) :
    ∃ p, t = .param p ∧ p.shape = q := by
  cases t <;> simp_all [FilterToken.shape]

theorem FilterToken.shape_nested {t : FilterToken} {us : List FilterToken} (h : t.shape = .nested us) :
    ∃ ts, t = .nested ts ∧ FilterToken.shapes ts = us := by
  cases t <;> simp_all [FilterToken.shape]

theorem FilterToken.shapes_eq_cons {ts' : List FilterToken} {t : FilterToken} {ts : List FilterToken}
    (h : FilterToken.shapes ts' = FilterToken.shapes (t :: ts)) :
    ∃ t₁ ts₁, ts' = t₁ :: ts₁ ∧ t₁.shape = t.shape ∧ FilterToken.shapes ts₁ = FilterToken.shapes ts := by
  cases ts' with
  | nil => simp at h
  | cons t₁ ts₁ =>
    simp only [FilterToken.shapes_cons, List.cons.injEq] at h
    exact ⟨t₁, ts₁, rfl, h⟩

theorem FilterToken.shapes_eq_nil {ts : List FilterToken} : FilterToken.shapes ts = [] ↔ ts = [] := by
  cases ts <;> simp

/-- Forgetting values keeps the connectives. -/
theorem FilterToken.any_isConnective_shapes (ts : List FilterToken) :
    (FilterToken.shapes ts).any FilterToken.isConnective = ts.any FilterToken.isConnective := by
  induction ts with
  | nil => rfl
  | cons t ts ih =>
    have ht : t.shape.isConnective = t.isConnective := by cases t <;> rfl
    simp [ht, ih]

theorem Filter.isEmpty_shape (f : Filter) : f.shape.isEmpty = f.isEmpty := by
  obtain ⟨_ | ⟨t, ts⟩⟩ := f <;> rfl

theorem Filter.hasConnective_shape (f : Filter) : f.shape.hasConnective = f.hasConnective :=
  FilterToken.any_isConnective_shapes f.tokens

/-! ## Plans of queries alike -/

/-- Plan states alike but for the values in their nodes' filters. -/
def PlanAlike (s s' : Nat × Array PlannedNode) : Prop :=
  s'.1 = s.1 ∧ s'.2.map PlannedNode.shape = s.2.map PlannedNode.shape

theorem PlanAlike.size_eq {s s' : Nat × Array PlannedNode} (h : PlanAlike s s') :
    s'.2.size = s.2.size := by
  simpa using congrArg Array.size h.2

/-- Two planning steps run alike: from alike states, when the first returns, the second returns a
related value and the states stay alike. -/
def Mirrors {α β : Type} (x : PlanM α) (x' : PlanM β) (Q : α → β → Prop) : Prop :=
  ∀ s s' a t, PlanAlike s s' → x.run s = .ok (a, t) →
    ∃ a' t', x'.run s' = .ok (a', t') ∧ Q a a' ∧ PlanAlike t t'

namespace Mirrors

variable {α β γ δ : Type} {Q : α → β → Prop} {R : γ → δ → Prop}

protected theorem pure {a : α} {b : β} (h : Q a b) : Mirrors (pure a) (pure b) Q := by
  intro s s' a' t hs e
  cases e
  exact ⟨b, s', rfl, h, hs⟩

protected theorem bind {x : PlanM α} {x' : PlanM β} {f : α → PlanM γ} {f' : β → PlanM δ}
    (hx : Mirrors x x' Q) (hf : ∀ a b, Q a b → Mirrors (f a) (f' b) R) :
    Mirrors (x >>= f) (x' >>= f') R := by
  intro s s' c t hs e
  obtain ⟨a, s₁, hrun, e⟩ := run_bind_ok e
  obtain ⟨b, s₁', hrun', hq, hs₁⟩ := hx s s' a s₁ hs hrun
  obtain ⟨d, t', hrun'', hr, ht⟩ := hf a b hq s₁ s₁' c t hs₁ e
  refine ⟨d, t', ?_, hr, ht⟩
  rw [StateT.run_bind, hrun']
  exact hrun''

/-- A step of `Except` lifted into planning leaves the plan as it is. -/
protected theorem lift {x : Except Error α} : Mirrors (liftM x : PlanM α) (liftM x) Eq := by
  intro s s' a t hs e
  obtain ⟨hx, rfl⟩ := run_lift_ok e
  exact ⟨a, s', by subst hx; rfl, rfl, hs⟩

protected theorem mapM {f : γ → PlanM α} (hf : ∀ c, Mirrors (f c) (f c) Eq) :
    ∀ l : List γ, Mirrors (l.mapM f) (l.mapM f) Eq
  | [] => Mirrors.pure rfl
  | c :: l => by
    rw [List.mapM_cons]
    exact (hf c).bind fun a _ ha => ha ▸ (Mirrors.mapM hf l).bind fun bs _ hbs =>
      hbs ▸ Mirrors.pure rfl

end Mirrors

theorem freshAlias_mirrors : Mirrors freshAlias freshAlias Eq := by
  rintro ⟨n, nodes⟩ ⟨n', nodes'⟩ a t ⟨hn, hnodes⟩ e
  cases e
  refine ⟨_, _, rfl, ?_, ?_, hnodes⟩
  · simp only at hn
    rw [hn]
  · simp only at hn ⊢
    rw [hn]

theorem linkAliasFor_mirrors (relation : Option Relation) :
    Mirrors (linkAliasFor relation) (linkAliasFor relation) Eq := by
  unfold linkAliasFor
  split
  · intro s s' a t hs e
    rw [StateT.run_map] at e
    cases hx : freshAlias.run s with
    | error err => rw [hx] at e; cases e
    | ok q =>
      rw [hx] at e
      cases e
      obtain ⟨a', t', hx', rfl, ht⟩ := freshAlias_mirrors s s' q.1 q.2 hs hx
      exact ⟨_, _, by rw [StateT.run_map, hx']; rfl, rfl, ht⟩
  · exact Mirrors.pure rfl

theorem get_mirrors : Mirrors (get : PlanM (Nat × Array PlannedNode)) get PlanAlike := by
  intro s s' a t hs e
  cases e
  exact ⟨s', s', rfl, hs, hs⟩

/-- Adding nodes alike. -/
theorem push_mirrors {node node' : PlannedNode} (h : node'.shape = node.shape) :
    Mirrors (modify fun (x : Nat × Array PlannedNode) => match x with
        | (n, nodes) => (n, nodes.push node))
      (modify fun (x : Nat × Array PlannedNode) => match x with
        | (n, nodes) => (n, nodes.push node')) (fun _ _ => True) := by
  rintro ⟨n, nodes⟩ ⟨n', nodes'⟩ a t ⟨hn, hnodes⟩ e
  cases e
  refine ⟨(), _, rfl, trivial, hn, ?_⟩
  simp only [Array.map_push] at hnodes ⊢
  rw [hnodes, h]

section Planning

variable {reg : Registry}

mutual
/-- Planning joins alike plans alike. -/
theorem planNode_mirrors : ∀ (entity : EntityId) (parent : Option Nat) (relation : Option Relation)
    (j j' : Join), j'.shape = j.shape →
    Mirrors (planNode reg entity parent relation j) (planNode reg entity parent relation j')
      (fun _ _ => True)
  | entity, parent, relation, ⟨r, filter, order, joins⟩, ⟨r', filter', order', joins'⟩, h => by
    obtain ⟨-, hfilter, rfl, hjoins⟩ := Join.shape_eq h
    rw [planNode, planNode]
    refine (linkAliasFor_mirrors relation).bind fun linkAlias _ hl => ?_
    subst hl
    refine freshAlias_mirrors.bind fun own _ ho => ?_
    subst ho
    refine (Mirrors.mapM (fun l => freshAlias_mirrors.bind fun a _ ha =>
      ha ▸ Mirrors.pure (Q := Eq) (rfl : (l, a) = (l, a))) _).bind fun levels _ hl => ?_
    subst hl
    refine (Mirrors.mapM (fun (i : Implementation) => freshAlias_mirrors.bind fun a _ ha =>
      ha ▸ Mirrors.pure (Q := Eq) (rfl : (i.entity, a) = (i.entity, a))) _).bind
      fun impls _ hi => ?_
    subst hi
    refine get_mirrors.bind fun st st' hst => ?_
    rw [show st'.2.size = st.2.size from hst.size_eq]
    exact (push_mirrors (by simp [PlannedNode.shape, hfilter])).bind fun _ _ _ =>
      planJoins_mirrors entity _ joins joins' hjoins

/-- Planning lists of joins alike plans alike. -/
theorem planJoins_mirrors : ∀ (owner : EntityId) (index : Nat) (js js' : List Join),
    Join.shapes js' = Join.shapes js →
    Mirrors (planJoins reg owner index js) (planJoins reg owner index js') (fun _ _ => True)
  | _, _, [], js', h => by
    cases js' with
    | nil => exact Mirrors.pure trivial
    | cons j js => simp [Join.shapes] at h
  | owner, index, j :: rest, js', h => by
    obtain ⟨j', rest', rfl, hj, hrest⟩ := Join.shapes_eq_cons h
    rw [planJoins, planJoins, (Join.shape_eq hj).1]
    exact Mirrors.lift.bind fun rel _ hrel => hrel ▸
      (planNode_mirrors rel.target _ _ j j' hj).bind fun _ _ _ =>
        planJoins_mirrors owner index rest rest' hrest
end

/-- Queries alike but for their values plan to nodes alike but for their values. -/
theorem Query.plan_alike {q q' : Query} (h : q'.shape = q.shape) {nodes : Array PlannedNode}
    (hp : q.plan reg = .ok nodes) :
    ∃ nodes', q'.plan reg = .ok nodes' ∧ nodes'.map PlannedNode.shape = nodes.map PlannedNode.shape := by
  obtain ⟨he, hfilter, horder, hjoins, -⟩ := Query.shape_eq h
  unfold Query.plan at hp ⊢
  obtain ⟨⟨⟨⟩, k, ns⟩, hrun, hp⟩ := except_bind_ok hp
  cases hp
  have hroot : Join.shape { relation := "", filter := q'.filter, order := q'.order, joins := q'.joins } =
      Join.shape { relation := "", filter := q.filter, order := q.order, joins := q.joins } := by
    simp only [Join.shape, hfilter, horder, hjoins]
  obtain ⟨_, ⟨k', ns'⟩, hrun', -, -, hns⟩ :=
    planNode_mirrors q.entity none none _ _ hroot (0, #[]) (0, #[]) () _ ⟨rfl, rfl⟩ hrun
  refine ⟨ns', ?_, hns⟩
  dsimp only
  rw [he, hrun']
  rfl

end Planning

/-! ## Filters alike render alike -/

theorem resolveIn_shape (reg : Registry) (nodes : Array PlannedNode) (i : Nat) (field : String) :
    resolveIn reg (nodes.map PlannedNode.shape) i field = resolveIn reg nodes i field := by
  unfold resolveIn
  rw [Array.getElem?_map]
  cases nodes[i]? <;> rfl

/-- Resolving a field reads no filter. -/
theorem resolveField_shape (reg : Registry) (nodes : Array PlannedNode) (owner : Nat)
    (column : String) :
    resolveField reg (nodes.map PlannedNode.shape) owner column = resolveField reg nodes owner column := by
  unfold resolveField
  simp only [Array.getElem?_map, Option.map_map, Array.findIdx?_map, Array.size_map, resolveIn_shape]
  rfl

/-- A rendering context with the values of its nodes' filters forgotten. -/
def RenderContext.shape (ctx : RenderContext) : RenderContext :=
  { ctx with nodes := ctx.nodes.map PlannedNode.shape }

theorem RenderContext.malformed_shape (ctx : RenderContext) : ctx.shape.malformed = ctx.malformed := by
  funext message
  simp only [RenderContext.malformed, RenderContext.shape, Array.getElem?_map, Option.map_map]
  rfl

section Contexts

variable (ctx : RenderContext)

mutual
/-- Rendering reads no filter of the plan. -/
theorem renderTokens_shape : ∀ (ts : List FilterToken) (st : RenderState),
    renderTokens ctx.shape ts st = renderTokens ctx ts st
  | [], st => by simp only [renderTokens]
  | t :: ts, st => by
    simp only [renderTokens, renderToken_shape t st, renderTokens_shape ts]

theorem renderToken_shape : ∀ (t : FilterToken) (st : RenderState),
    renderToken ctx.shape t st = renderToken ctx t st
  | .nested ts, st => by
    simp only [renderToken, renderTokens_shape ts, RenderContext.malformed_shape]
  | .column _, st | .op _, st | .param _, st => by
    simp only [renderToken, RenderContext.malformed_shape]
    simp only [RenderContext.shape, resolveField_shape]
end

theorem renderFilter_shape (f : Filter) : renderFilter ctx.shape f = renderFilter ctx f := by
  simp only [renderFilter, renderTokens_shape, RenderContext.malformed_shape]

end Contexts

/-- Two renderings run alike: from parameter lists of one size, when the first returns, the second
returns the same value with a parameter list of the same size. -/
def Echoes {α : Type} (x x' : RenderM α) : Prop :=
  ∀ ps ps' a ps₁, ps'.size = ps.size → x.run ps = .ok (a, ps₁) →
    ∃ ps₁', x'.run ps' = .ok (a, ps₁') ∧ ps₁'.size = ps₁.size

namespace Echoes

variable {α β : Type}

protected theorem pure (a : α) : Echoes (pure a) (pure a) := by
  intro ps ps' b ps₁ hs h
  obtain ⟨rfl, rfl⟩ := run_pure_ok h
  exact ⟨ps', rfl, hs⟩

protected theorem bind {x x' : RenderM α} {f f' : α → RenderM β} (hx : Echoes x x')
    (hf : ∀ a, Echoes (f a) (f' a)) : Echoes (x >>= f) (x' >>= f') := by
  intro ps ps' b ps₂ hs h
  obtain ⟨a, ps₁, hrun, h₁⟩ := run_bind_ok h
  obtain ⟨ps₁', hrun', hs₁⟩ := hx ps ps' a ps₁ hs hrun
  obtain ⟨ps₂', hrun'', hs₂⟩ := hf a ps₁ ps₁' b ps₂ hs₁ h₁
  exact ⟨ps₂', by rw [StateT.run_bind, hrun']; exact hrun'', hs₂⟩

protected theorem lift (x : Except Error α) : Echoes (liftM x : RenderM α) (liftM x) := by
  intro ps ps' a ps₁ hs h
  obtain ⟨hx, rfl⟩ := run_lift_ok h
  exact ⟨ps', by subst hx; rfl, hs⟩

/-- A rendering that returns the same value from any parameters, adding none. -/
theorem of_const {x : RenderM α} {a : α} (hx : ∀ ps, x.run ps = .ok (a, ps)) : Echoes x x := by
  intro ps ps' b ps₁ hs h
  rw [hx ps] at h
  cases h
  exact ⟨ps', hx ps', hs⟩

end Echoes

section Tokens

variable (ctx : RenderContext)

mutual
/-- Tokens alike but for their values render alike. -/
theorem renderTokens_echoes : ∀ (ts ts' : List FilterToken) (st : RenderState),
    FilterToken.shapes ts' = FilterToken.shapes ts →
    Echoes (renderTokens ctx ts st) (renderTokens ctx ts' st)
  | [], ts', st, h => by
    rw [FilterToken.shapes_nil, FilterToken.shapes_eq_nil] at h
    subst h
    exact Echoes.pure st
  | t :: ts, ts', st, h => by
    obtain ⟨t', ts'', rfl, ht, hts⟩ := FilterToken.shapes_eq_cons h
    simp only [renderTokens]
    exact (renderToken_echoes t t' st ht).bind fun st₁ => renderTokens_echoes ts ts'' st₁ hts

theorem renderToken_echoes : ∀ (t t' : FilterToken) (st : RenderState), t'.shape = t.shape →
    Echoes (renderToken ctx t st) (renderToken ctx t' st)
  | .column c, t', st, h => by
    rw [FilterToken.shape_column h]
    cases he : st.expect with
    | term =>
      cases hr : resolveField ctx.reg ctx.nodes ctx.owner c with
      | error e =>
        intro ps ps' a ps₁ _ hrun
        have hfail : (renderToken ctx (.column c) st).run ps = .error e := by
          simp only [renderToken, he, hr]
          rfl
        rw [hfail] at hrun
        cases hrun
      | ok r => exact Echoes.of_const fun ps => renderToken_column ctx st ps he hr
    | operator | parameter | connective =>
      intro ps ps' a ps₁ _ hrun
      simp [renderToken, he] at hrun
  | .op o, t', st, h => by
    rw [FilterToken.shape_op h]
    cases he : st.expect with
    | term =>
      by_cases hn : o = .not
      · subst hn
        exact Echoes.of_const fun ps => renderToken_not ctx st ps he
      · intro ps ps' a ps₁ _ hrun
        simp [renderToken, he, hn] at hrun
    | operator =>
      cases hp : o.takesParameter with
      | true => exact Echoes.of_const fun ps => renderToken_comparison ctx st ps he hp
      | false =>
        cases hn : o.isNullCheck with
        | true => exact Echoes.of_const fun ps => renderToken_nullCheck ctx st ps he hp hn
        | false =>
          intro ps ps' a ps₁ _ hrun
          simp [renderToken, he, hp, hn] at hrun
    | parameter =>
      intro ps ps' a ps₁ _ hrun
      simp [renderToken, he] at hrun
    | connective =>
      cases hc : o.isConnective with
      | true => exact Echoes.of_const fun ps => renderToken_connective ctx st ps he hc
      | false =>
        intro ps ps' a ps₁ _ hrun
        simp [renderToken, he, hc] at hrun
  | .param p, t', st, h => by
    -- a parameter adds one parameter and writes the placeholder of its position
    obtain ⟨p', rfl, -⟩ := FilterToken.shape_param h
    intro ps ps' a ps₁ hs hrun
    cases he : st.expect with
    | parameter =>
      cases hty : st.columnType with
      | none => simp [renderToken, he, hty] at hrun
      | some ty =>
        rw [renderToken_param ctx st ps he hty] at hrun
        cases hrun
        have hrun' := renderToken_param ctx st ps' (p := p') he hty
        rw [hs] at hrun'
        exact ⟨_, hrun', by simp [hs]⟩
    | term | operator | connective => simp [renderToken, he] at hrun
  | .nested ts, t', st, h => by
    obtain ⟨ts', rfl, hts⟩ := FilterToken.shape_nested h
    intro ps ps' a ps₁ hs hrun
    obtain ⟨he, hne, inner, ps₂, hin, hc⟩ := renderToken_nested_inv ctx st ps hrun
    obtain ⟨ps₂', hin', hs₂⟩ := renderTokens_echoes ts ts' {} hts ps ps' inner ps₂ hs hin
    rw [renderToken_nested ctx st ps he hne hin hc] at hrun
    cases hrun
    have hne' : ts' ≠ [] := fun e => hne (FilterToken.shapes_eq_nil.mp (by rw [← hts, e]; rfl))
    refine ⟨ps₂', ?_, hs₂⟩
    rw [renderToken_nested ctx st ps' he hne' hin' hc, ← FilterToken.any_isConnective_shapes ts',
      hts, FilterToken.any_isConnective_shapes]
end

/-- Filters alike but for their values render alike. -/
theorem renderFilter_echoes {f f' : Filter} (h : f'.shape = f.shape) :
    Echoes (renderFilter ctx f) (renderFilter ctx f') := by
  have hts : FilterToken.shapes f'.tokens = FilterToken.shapes f.tokens := congrArg Filter.tokens h
  unfold renderFilter
  refine (renderTokens_echoes ctx _ _ {} hts).bind fun st => ?_
  split
  · intro ps ps' a ps₁ _ hrun
    cases hrun
  · exact Echoes.pure _

end Tokens

/-! ## Compilers alike -/

/-- A compiler with the values of its nodes' filters forgotten. -/
def Compiler.shape (c : Compiler) : Compiler := { c with nodes := c.nodes.map PlannedNode.shape }

namespace Compiler

variable (c : Compiler)

theorem shape_node (i : Nat) : c.shape.node i = (c.node i).shape := by
  unfold Compiler.node Compiler.shape
  rw [Array.getElem?_map]
  cases c.nodes[i]? <;> rfl

theorem shape_resolve : c.shape.resolve = c.resolve := by
  funext i name
  exact resolveField_shape c.reg c.nodes i name

theorem shape_orderTerms (i : Nat) : c.shape.orderTerms i = c.orderTerms i := by
  unfold Compiler.orderTerms
  rw [shape_node, shape_resolve]
  rfl

theorem shape_pageOrder : c.shape.pageOrder = c.pageOrder := by
  unfold Compiler.pageOrder
  rw [shape_node, shape_resolve]
  rfl

theorem shape_orderBy : ∀ is : List Nat, c.shape.orderBy is = c.orderBy is
  | [] => rfl
  | i :: is => by
    simp only [Compiler.orderBy, shape_orderTerms, shape_orderBy is]

theorem shape_relationJoin (n : PlannedNode) : c.shape.relationJoin n = c.relationJoin n := by
  unfold Compiler.relationJoin
  simp only [shape_node]
  rfl

theorem shape_rootSource : c.shape.rootSource = c.rootSource := by
  unfold Compiler.rootSource
  rw [shape_node]
  rfl

theorem shape_joins : c.shape.joins = c.joins := by
  unfold Compiler.joins
  simp only [shape_relationJoin]
  simp only [Compiler.shape, Array.toList_map, ← List.map_drop, List.map_map]
  rfl

theorem shape_projection : c.shape.projection = c.projection := by
  unfold Compiler.projection
  simp only [Compiler.shape, Array.toList_map, List.foldl_map]
  rfl

mutual
theorem shape_tokensReachJoins : ∀ ts : List FilterToken,
    c.shape.tokensReachJoins (FilterToken.shapes ts) = c.tokensReachJoins ts
  | [] => by simp [tokensReachJoins]
  | t :: ts => by
    simp only [FilterToken.shapes_cons, tokensReachJoins, shape_tokenReachesJoins t,
      shape_tokensReachJoins ts]

theorem shape_tokenReachesJoins : ∀ t : FilterToken,
    c.shape.tokenReachesJoins t.shape = c.tokenReachesJoins t
  | .column name => by simp only [FilterToken.shape, tokenReachesJoins, shape_resolve]
  | .nested ts => by simp only [FilterToken.shape, tokenReachesJoins, shape_tokensReachJoins ts]
  | .op o => by simp only [FilterToken.shape, tokenReachesJoins]
  | .param p => by simp only [FilterToken.shape, tokenReachesJoins]
end

theorem shape_pageMode (limit offset : Option Nat) :
    c.shape.pageMode limit offset = c.pageMode limit offset := by
  unfold Compiler.pageMode Compiler.primaryReachesJoins
  dsimp only
  rw [shape_node, shape_resolve,
    show (c.node 0).shape.filter.tokens = FilterToken.shapes (c.node 0).filter.tokens from rfl,
    shape_tokensReachJoins]
  simp only [Compiler.shape, Array.toList_map, List.length_map]
  rfl

/-! ## Every stage of compilers alike runs alike -/

/-- Compilers alike but for the values in their nodes' filters. -/
def Alike (c c' : Compiler) : Prop := c'.shape = c.shape

namespace Alike

variable {c c' : Compiler} (hc : Alike c c')
include hc

theorem reg : c'.reg = c.reg := by
  have h : c'.shape.reg = c.shape.reg := congrArg Compiler.reg hc
  exact h

theorem options : c'.options = c.options := by
  have h : c'.shape.options = c.shape.options := congrArg Compiler.options hc
  exact h

theorem size : c'.nodes.size = c.nodes.size := by
  simpa [Compiler.shape] using congrArg (fun c => c.nodes.size) hc

theorem node (i : Nat) : (c'.node i).shape = (c.node i).shape := by
  rw [← shape_node, ← shape_node, hc]

theorem filter (i : Nat) : (c'.node i).filter.shape = (c.node i).filter.shape :=
  congrArg PlannedNode.filter (hc.node i)

theorem isEmpty (i : Nat) : (c'.node i).filter.isEmpty = (c.node i).filter.isEmpty := by
  rw [← Filter.isEmpty_shape, hc.filter i, Filter.isEmpty_shape]

theorem appliesFilter (page : Paging) (i : Nat) : c'.appliesFilter page i = c.appliesFilter page i := by
  simp only [Compiler.appliesFilter, hc.isEmpty i]

-- The stages that read no filter value are equal: each is the stage of the shared shape.

theorem orderTerms (i : Nat) : c'.orderTerms i = c.orderTerms i := by
  rw [← shape_orderTerms, hc, shape_orderTerms]

theorem pageOrder : c'.pageOrder = c.pageOrder := by
  rw [← shape_pageOrder, hc, shape_pageOrder]

theorem orderBy (is : List Nat) : c'.orderBy is = c.orderBy is := by
  rw [← shape_orderBy, hc, shape_orderBy]

theorem rootSource : c'.rootSource = c.rootSource := by
  rw [← shape_rootSource, hc, shape_rootSource]

theorem joins : c'.joins = c.joins := by
  rw [← shape_joins, hc, shape_joins]

theorem projection : c'.projection = c.projection := by
  rw [← shape_projection, hc, shape_projection]

theorem pageMode (limit offset : Option Nat) : c'.pageMode limit offset = c.pageMode limit offset := by
  rw [← shape_pageMode, hc, shape_pageMode]

theorem paging (limit offset : Option Nat) : c'.paging limit offset = c.paging limit offset := by
  unfold Compiler.paging
  rw [hc.options]

theorem primaryKey : c'.primaryKeyOf (c'.node 0) = c.primaryKeyOf (c.node 0) := by
  show c'.shape.primaryKeyOf (c'.node 0).shape = c.shape.primaryKeyOf (c.node 0).shape
  rw [hc, hc.node 0]

theorem ownAlias : (c'.node 0).ownAlias = (c.node 0).ownAlias := by
  show (c'.node 0).shape.ownAlias = (c.node 0).shape.ownAlias
  rw [hc.node 0]

theorem rootLevels : c'.levelJoins (c'.node 0) true = c.levelJoins (c.node 0) true := by
  show c'.shape.levelJoins (c'.node 0).shape true = c.shape.levelJoins (c.node 0).shape true
  rw [hc, hc.node 0]

theorem renderFilter (i : Nat) : EntityGraph.renderFilter (c'.context i) =
    EntityGraph.renderFilter (c.context i) := by
  funext f
  rw [← renderFilter_shape (c'.context i), ← renderFilter_shape (c.context i)]
  show EntityGraph.renderFilter (c'.shape.context i) f = EntityGraph.renderFilter (c.shape.context i) f
  rw [hc]

/-! The stages that render filters run alike. -/

theorem filterOf (i : Nat) : Echoes (c.filterOf i) (c'.filterOf i) := by
  unfold Compiler.filterOf
  rw [hc.renderFilter i]
  exact renderFilter_echoes _ (hc.filter i)

theorem rootWhere : Echoes c.rootWhere c'.rootWhere := by
  unfold Compiler.rootWhere
  rw [hc.isEmpty 0]
  split
  · exact Echoes.pure _
  · exact (hc.filterOf 0).bind fun text => Echoes.pure _

theorem pageSubquery (limit offset : Option Nat) :
    Echoes (c.pageSubquery limit offset) (c'.pageSubquery limit offset) := by
  unfold Compiler.pageSubquery
  rw [hc.orderTerms 0, hc.ownAlias, hc.rootSource, hc.paging]
  exact hc.rootWhere.bind fun w => (Echoes.lift _).bind fun order => Echoes.pure _

theorem keySubquery (limit offset : Option Nat) :
    Echoes (c.keySubquery limit offset) (c'.keySubquery limit offset) := by
  unfold Compiler.keySubquery
  rw [hc.primaryKey, hc.pageOrder, hc.rootSource, hc.joins, hc.paging]
  exact hc.rootWhere.bind fun w => (Echoes.lift _).bind fun ⟨group, order⟩ => Echoes.pure _

theorem keyClause (limit offset : Option Nat) :
    Echoes (c.keyClause limit offset) (c'.keyClause limit offset) := by
  unfold Compiler.keyClause
  rw [hc.primaryKey]
  exact (hc.keySubquery limit offset).bind fun inner => Echoes.pure _

theorem filterClauses (page : Paging) :
    ∀ is : List Nat, Echoes (c.filterClauses page is) (c'.filterClauses page is)
  | [] => Echoes.pure _
  | i :: is => by
    rw [filterClauses_cons, filterClauses_cons, hc.appliesFilter]
    split
    · have hconn : (c'.node i).filter.hasConnective = (c.node i).filter.hasConnective := by
        rw [← Filter.hasConnective_shape, hc.filter i, Filter.hasConnective_shape]
      rw [hconn]
      exact (hc.filterOf i).bind fun text => (filterClauses page is).bind fun rest => Echoes.pure _
    · exact filterClauses page is

theorem clauses (page : Paging) (limit offset : Option Nat) :
    Echoes (c.clauses page limit offset) (c'.clauses page limit offset) := by
  unfold Compiler.clauses
  rw [hc.size]
  dsimp only
  split
  · exact (hc.keyClause limit offset).bind fun text => (Echoes.pure _).bind fun keys =>
      (hc.filterClauses page _).bind fun filters => Echoes.pure _
  · exact (Echoes.pure _).bind fun keys => (hc.filterClauses page _).bind fun filters => Echoes.pure _

theorem source (page : Paging) (limit offset : Option Nat) :
    Echoes (c.source page limit offset) (c'.source page limit offset) := by
  unfold Compiler.source
  rw [hc.ownAlias, hc.rootLevels, hc.rootSource]
  split
  · exact (hc.pageSubquery limit offset).bind fun sub => Echoes.pure _
  · exact Echoes.pure _

theorem statement (limit offset : Option Nat) :
    Echoes (c.statement limit offset) (c'.statement limit offset) := by
  unfold Compiler.statement
  rw [hc.pageMode, hc.size, hc.orderBy, hc.projection, hc.joins, hc.paging]
  exact (Echoes.lift _).bind fun page => (hc.source page limit offset).bind fun source =>
    (hc.clauses page limit offset).bind fun cl => (Echoes.lift _).bind fun order => Echoes.pure _

end Alike

end Compiler

/-! ## Queries alike compile alike -/

/-- Queries alike but for their values compile alike: when one compiles, so does the other, to
the same text and as many parameters. -/
theorem Query.compile_alike {reg : Registry} {options : CompileOptions} {q q' : Query}
    (h : q'.shape = q.shape) {cq : CompiledQuery} (hq : q.compile reg options = .ok cq) :
    ∃ cq', q'.compile reg options = .ok cq' ∧ cq'.sql = cq.sql ∧
      cq'.params.length = cq.params.length := by
  obtain ⟨he, -, -, -, hlimit, hoffset⟩ := Query.shape_eq h
  obtain ⟨nodes, ps, hlt, hplan, hrun, hparams⟩ := Query.compile_ok hq
  obtain ⟨nodes', hplan', hnodes⟩ := Query.plan_alike h hplan
  -- the two compilers differ only in their nodes, and those only in their values
  have hc : Compiler.Alike { reg, options, nodes } { reg, options, nodes := nodes' } := by
    simp only [Compiler.Alike, Compiler.shape, hnodes]
  obtain ⟨ps', hrun', hsize⟩ := hc.statement q.limit q.offset #[] #[] _ ps rfl hrun
  rw [← hlimit, ← hoffset] at hrun'
  obtain ⟨cq', hcompile, hsql, hparams'⟩ := Query.compile_of_ok (he ▸ hlt) hplan' hrun'
  refine ⟨cq', hcompile, hsql, ?_⟩
  rw [hparams, hparams', Array.length_toList, Array.length_toList, hsize]

end EntityGraph
