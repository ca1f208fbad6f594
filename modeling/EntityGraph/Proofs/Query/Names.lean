import EntityGraph.Proofs.Render.Grouping
import EntityGraph.Query.Compile
import EntityGraph.Schema.Registry.Build

/-!
# Names in compiled statements

Statements name columns as `alias.column` without quoting. This module shows that such a name is
always one plain word of SQL text: a built registry names every column by an identifier
(`Registry.build_named`), a plan gives every table the alias `tN` (`Query.plan_named`), and so
every field a filter of a compiled query resolves is written as a column word
(`Compiler.Named.plain`).

The plan is a state monad; `Ensures x Q` says that a run of `x` from a plan whose nodes are named
returns a value with `Q` and leaves the nodes named, and it is closed under `bind` and `mapM`, so
the invariant is proved one planning step at a time.
-/

namespace EntityGraph

open Sql

/-! ## Traversals in `Except` -/

section Traversals

variable {ε α β : Type}

/-- Every element of a successful traversal is the image of an element traversed. -/
theorem mapM_ok_mem {f : α → Except ε β} :
    ∀ {l : List α} {r : List β}, l.mapM f = .ok r → ∀ b ∈ r, ∃ a ∈ l, f a = .ok b
  | [], r, h => by
    cases h
    simp
  | x :: l, r, h => by
    rw [List.mapM_cons] at h
    cases hx : f x with
    | error e => rw [hx] at h; cases h
    | ok b =>
      rw [hx] at h
      cases hl : l.mapM f with
      | error e => rw [hl] at h; cases h
      | ok bs =>
        simp only [hl, except_ok_bind] at h
        cases h
        intro b' hb'
        rcases List.mem_cons.mp hb' with rfl | hb'
        · exact ⟨x, List.mem_cons_self, hx⟩
        · obtain ⟨a, ha, hfa⟩ := mapM_ok_mem hl b' hb'
          exact ⟨a, List.mem_cons_of_mem _ ha, hfa⟩

/-- A fold that succeeds took a successful step at every element. -/
theorem foldlM_ok_forall {f : β → α → Except ε β} {P : α → Prop}
    (hf : ∀ b a b', f b a = .ok b' → P a) :
    ∀ (l : List α) (init r : β), l.foldlM f init = .ok r → ∀ a ∈ l, P a
  | [], _, _, _ => by simp
  | x :: l, init, r, h => by
    rw [List.foldlM_cons] at h
    cases hx : f init x with
    | error e => rw [hx] at h; cases h
    | ok b =>
      rw [hx] at h
      intro a ha
      rcases List.mem_cons.mp ha with rfl | ha
      · exact hf _ _ _ hx
      · exact foldlM_ok_forall hf l b r h a ha

/-- An invariant of every successful step holds at the end of a successful fold. -/
theorem foldlM_ok_invariant {f : β → α → Except ε β} {I : β → Prop}
    (hf : ∀ b a b', I b → f b a = .ok b' → I b') :
    ∀ (l : List α) (init r : β), I init → l.foldlM f init = .ok r → I r
  | [], _, _, hi, h => by
    cases h
    exact hi
  | x :: l, init, r, hi, h => by
    rw [List.foldlM_cons] at h
    cases hx : f init x with
    | error e => rw [hx] at h; cases h
    | ok b =>
      rw [hx] at h
      exact foldlM_ok_invariant hf l b r (hf _ _ _ hi hx) h

end Traversals

/-! ## Identifiers -/

/-- An identifier has no space and no parenthesis. -/
theorem isIdentifier_not_break {name : String} (h : isIdentifier name = true) :
    ∀ c ∈ name.toList, isBreak c = false := by
  have part : ∀ c, isIdentifierPart c = true → isBreak c = false := by
    intro c hc
    cases hb : isBreak c with
    | false => rfl
    | true =>
      have : c = ' ' ∨ c = '(' ∨ c = ')' := by simpa [isBreak, or_assoc] using hb
      rcases this with rfl | rfl | rfl <;> exact absurd hc (by decide)
  unfold isIdentifier at h
  split at h
  · cases h
  · next c rest hs =>
    simp only [Bool.and_eq_true, List.all_eq_true] at h
    rw [hs]
    intro x hx
    rcases List.mem_cons.mp hx with rfl | hx
    · exact part x (by simp [isIdentifierPart, h.1])
    · exact part x (h.2 x hx)

/-- The names an association writes: its intermediate table and its two link columns. -/
def RelationKind.Named : RelationKind → Prop
  | .association table source target =>
    isIdentifier table = true ∧ isIdentifier source = true ∧ isIdentifier target = true
  | _ => True

/-- The names of an entity that statements write: its columns, its table, and those of its
relations. -/
structure Structure.Named (s : Structure) : Prop where
  columns : ∀ c ∈ s.columns, isIdentifier c.name = true
  table : isIdentifier s.table = true
  relations : ∀ r ∈ s.relations, r.kind.Named

namespace Registry

theorem checkIdentifier_ok {e n : String} {u : Unit} (h : checkIdentifier e n = .ok u) :
    isIdentifier n = true := by
  unfold checkIdentifier at h
  split at h
  · assumption
  · cases h

/-- Checking the names of the descriptors checks that every table is an identifier. -/
theorem checkNames_tables {ds : List EntityDescriptor} {u : Unit} (h : checkNames ds = .ok u) :
    ∀ d ∈ ds, isIdentifier d.table = true := by
  unfold checkNames at h
  simp only [bind, Except.bind] at h
  split at h
  · cases h
  · next acc hfold =>
    refine foldlM_ok_forall ?_ _ _ _ hfold
    intro b d b' hs
    obtain ⟨names, tables⟩ := b
    cases hn : checkIdentifier d.name d.name with
    | error e => simp only [hn] at hs; cases hs
    | ok u =>
      cases hc : checkIdentifier d.name d.table with
      | ok u => exact checkIdentifier_ok hc
      | error e => simp only [hn, hc] at hs; cases hs

/-- Resolving the columns of a descriptor keeps its columns and table and declares no relation
yet. -/
theorem resolveColumns_shape {ds : List EntityDescriptor} {i : Nat} {d : EntityDescriptor}
    {s : Structure} (h : resolveColumns ds i d = .ok s) :
    s.columns = d.columns ∧ s.table = d.table ∧ s.relations = [] := by
  unfold resolveColumns at h
  simp only [bind, Except.bind] at h
  -- every way to finish builds the structure on the descriptor
  revert h
  repeat' split
  all_goals intro h; cases h; try exact ⟨rfl, rfl, rfl⟩

/-- Resolving the columns of a descriptor checks that each is an identifier. -/
theorem resolveColumns_columns {ds : List EntityDescriptor} {i : Nat} {d : EntityDescriptor}
    {s : Structure} (h : resolveColumns ds i d = .ok s) :
    ∀ c ∈ d.columns, isIdentifier c.name = true := by
  unfold resolveColumns at h
  simp only [bind, Except.bind] at h
  split at h
  · cases h
  · next acc hfold =>
    refine foldlM_ok_forall ?_ _ _ _ hfold
    intro b a b' hs
    obtain ⟨seen, pk, targets⟩ := b
    cases hc : checkIdentifier d.name a.name with
    | ok u => exact checkIdentifier_ok hc
    | error e =>
      simp only [hc] at hs
      cases hs

/-- A resolved association was checked to name its table and columns by identifiers. -/
theorem resolveRelation_named {ds : List EntityDescriptor} {structures : Array Structure}
    {owner : Structure} {rd : RelationSpec} {r : Relation}
    (h : resolveRelation ds structures owner rd = .ok r) : r.kind.Named := by
  cases rd with
  | reference name column =>
    simp only [resolveRelation, bind, Except.bind] at h
    split at h
    · cases h
    · split at h
      · cases h
        trivial
      · cases h
  | children name target back =>
    simp only [resolveRelation, bind, Except.bind] at h
    split at h
    · cases h
    · split at h
      · cases h
        trivial
      · cases h
  | association name target table source tgt =>
    simp only [resolveRelation, bind, Except.bind] at h
    split at h
    · cases h
    · split at h
      · cases h
      · next ht =>
        split at h
        · cases h
        · next hs =>
          split at h
          · cases h
          · next hg =>
            -- every way past the remaining checks returns the association as declared
            have hk : r.kind = .association table source tgt := by
              revert h
              repeat' split
              all_goals intro h; cases h; try rfl
            rw [hk]
            exact ⟨checkIdentifier_ok ht, checkIdentifier_ok hs, checkIdentifier_ok hg⟩

/-- The relations resolved for a descriptor are named. -/
theorem resolveLinks_named {ds : List EntityDescriptor} {structures : Array Structure} {i : Nat}
    {d : EntityDescriptor} {q : List Implementation × List Relation}
    (h : resolveLinks ds structures i d = .ok q) : ∀ r ∈ q.2, r.kind.Named := by
  unfold resolveLinks at h
  simp only [bind, Except.bind] at h
  split at h
  · cases h
  · split at h
    · cases h
    · next acc hfold =>
      cases h
      refine foldlM_ok_invariant
        (I := fun acc : List String × List Relation => ∀ r ∈ acc.2, r.kind.Named) ?_ _ _ _
        (by simp) hfold
      rintro ⟨names, rs⟩ rd b' hI hs
      -- a step that succeeds appends one resolved relation
      revert hs
      repeat' split
      all_goals intro hs
      all_goals first
        | (cases hs; done)
        | (cases hs
           intro r hr
           rcases List.mem_append.mp hr with hr | hr
           · exact hI r hr
           · rw [List.mem_singleton.mp hr]
             exact resolveRelation_named (by assumption))

/-- Every entity of a built registry is named. -/
theorem build_named {ds : List EntityDescriptor} {reg : Registry} (h : build ds = .ok reg) :
    ∀ s ∈ reg.structures, s.Named := by
  unfold build at h
  simp only [bind, Except.bind] at h
  split at h
  · cases h
  · next u hnames =>
    split at h
    · cases h
    · next ss hss =>
      split at h
      · cases h
      · next ss' hss' =>
        split at h
        · cases h
        · next arr harr =>
          cases h
          refine foldlM_ok_invariant (I := fun arr : Array Structure => ∀ s ∈ arr, s.Named)
            ?_ _ _ _ ?_ harr
          · -- linking gives an entity its implementations and its resolved relations
            rintro arr₀ ⟨d, i⟩ arr₁ hI hlink
            simp only at hlink
            split at hlink
            · cases hlink
            · next q hq =>
              cases hlink
              intro s hs
              obtain ⟨j, hj, rfl⟩ := Array.getElem_of_mem hs
              rw [Array.getElem_modify]
              split
              · have h₀ := hI _ (Array.getElem_mem (by simpa using hj))
                exact ⟨h₀.columns, h₀.table, resolveLinks_named hq⟩
              · exact hI _ (Array.getElem_mem _)
          · -- the chains of parents are added to structures resolved from the descriptors
            intro s hs
            obtain ⟨⟨⟨s₀, d⟩, i⟩, hx, hf⟩ := mapM_ok_mem hss' s (by simpa using hs)
            have hs₀ : s₀ ∈ ss := (List.of_mem_zip (List.fst_mem_of_mem_zipIdx hx)).1
            obtain ⟨⟨d', i'⟩, hd', hr⟩ := mapM_ok_mem hss s₀ hs₀
            have hshape : s.columns = s₀.columns ∧ s.table = s₀.table ∧
                s.relations = s₀.relations := by
              simp only at hf
              split at hf
              · cases hf
              · cases hf
                exact ⟨rfl, rfl, rfl⟩
            obtain ⟨hc, ht, hrel⟩ := resolveColumns_shape hr
            refine ⟨?_, ?_, ?_⟩
            · rw [hshape.1, hc]
              exact resolveColumns_columns hr
            · rw [hshape.2.1, ht]
              exact checkNames_tables hnames d' (List.fst_mem_of_mem_zipIdx hd')
            · rw [hshape.2.2, hrel]
              simp

/-- An entity with a column or a relation is registered: the blank entity has neither. -/
theorem get_mem {reg : Registry} {e : EntityId} (h : (reg.get e).columns ≠ [] ∨ (reg.get e).relations ≠ []) :
    reg.get e ∈ reg.structures := by
  unfold Registry.get Registry.get? at *
  cases hs : reg.structures[e.index]? with
  | none =>
    rw [hs] at h
    rcases h with h | h <;> exact absurd rfl h
  | some s =>
    rw [Option.getD_some]
    exact Array.mem_of_getElem? hs

/-- The relation a join names on an entity is a registered relation. -/
theorem findRelation?_named {reg : Registry} (hreg : ∀ s ∈ reg.structures, s.Named)
    {e : EntityId} {name : String} {r : Relation} (h : reg.findRelation? e name = some r) :
    r.kind.Named := by
  unfold findRelation? at h
  obtain ⟨level, -, hl⟩ := List.exists_of_findSome?_eq_some h
  have hr : r ∈ (reg.get level).relations := List.mem_of_find?_eq_some hl
  exact (hreg _ (get_mem (.inr (List.ne_nil_of_mem hr)))).relations r hr

end Registry

/-! ## Plans -/

/-- An alias the planner hands out: `t` and a number. -/
def IsAlias (a : String) : Prop := ∃ k : Nat, a = "t" ++ toString k

/-- The names a planned node writes: aliases `tN` for its tables and its link table, and the
names of the relation it was joined through. -/
structure PlannedNode.Named (n : PlannedNode) : Prop where
  tables : ∀ t ∈ n.tables, IsAlias t.2
  linkAlias : ∀ a, n.linkAlias = some a → IsAlias a
  relation : ∀ r, n.relation = some r → r.kind.Named

/-- From a plan whose nodes are named, a run that returns gives a value with `Q` and leaves the
nodes named. -/
def Ensures {α : Type} (x : PlanM α) (Q : α → Prop) : Prop :=
  ∀ s a s', (∀ n ∈ s.2, n.Named) → x.run s = .ok (a, s') → Q a ∧ ∀ n ∈ s'.2, n.Named

namespace Ensures

variable {α β γ : Type} {Q : α → Prop} {R : β → Prop}

theorem pure {a : α} (h : Q a) : Ensures (Pure.pure a : PlanM α) Q := by
  intro s a' s' hs e
  cases e
  exact ⟨h, hs⟩

theorem bind {x : PlanM α} {f : α → PlanM β} (hx : Ensures x Q)
    (hf : ∀ a, Q a → Ensures (f a) R) : Ensures (x >>= f) R := by
  intro s b s'' hs e
  rw [StateT.run_bind] at e
  cases hx' : x.run s with
  | error err => rw [hx'] at e; cases e
  | ok q =>
    obtain ⟨a, s'⟩ := q
    rw [hx'] at e
    obtain ⟨hq, hs'⟩ := hx s a s' hs hx'
    exact hf a hq s' b s'' hs' e

theorem mapM {f : γ → PlanM α} (hf : ∀ c, Ensures (f c) Q) :
    ∀ l : List γ, Ensures (l.mapM f) (fun bs => ∀ b ∈ bs, Q b)
  | [] => Ensures.pure (by simp)
  | c :: l => by
    rw [List.mapM_cons]
    exact (hf c).bind fun a ha => (mapM hf l).bind fun bs hbs =>
      Ensures.pure (by simpa [ha] using hbs)

/-- A step of `Except` lifted into the plan leaves the plan as it is. -/
theorem lift {x : Except Error α} (h : ∀ a, x = .ok a → Q a) : Ensures (liftM x : PlanM α) Q := by
  intro s a s' hs e
  cases hx : x with
  | error err =>
    rw [hx] at e
    cases e
  | ok b =>
    rw [hx] at e
    cases e
    exact ⟨h _ hx, hs⟩

end Ensures

theorem freshAlias_ensures : Ensures freshAlias IsAlias := by
  rintro ⟨n, nodes⟩ a s' hs e
  cases e
  exact ⟨⟨n, rfl⟩, hs⟩

/-- A fresh alias paired with a table. -/
theorem freshAlias_paired (t : EntityId) :
    Ensures (do pure (t, ← freshAlias)) (fun p : EntityId × String => IsAlias p.2) :=
  freshAlias_ensures.bind fun _ ha => Ensures.pure ha

theorem linkAliasFor_ensures (relation : Option Relation) :
    Ensures (linkAliasFor relation) (fun la => ∀ a, la = some a → IsAlias a) := by
  unfold linkAliasFor
  split
  · intro s a s' hs e
    rw [StateT.run_map] at e
    cases hx : freshAlias.run s with
    | error err => rw [hx] at e; cases e
    | ok q =>
      rw [hx] at e
      cases e
      obtain ⟨ha, hs'⟩ := freshAlias_ensures s q.1 q.2 hs hx
      exact ⟨fun a e => Option.some.inj e ▸ ha, hs'⟩
  · exact Ensures.pure (by simp)

theorem get_ensures : Ensures (get : PlanM (Nat × Array PlannedNode)) (fun _ => True) := by
  intro s a s' hs e
  cases e
  exact ⟨trivial, hs⟩

/-- Adding a named node. -/
theorem push_ensures (node : PlannedNode) (h : node.Named) :
    Ensures (modify fun (x : Nat × Array PlannedNode) => match x with
      | (n, nodes) => (n, nodes.push node)) (fun _ => True) := by
  rintro ⟨n, nodes⟩ a s' hs e
  cases e
  refine ⟨trivial, fun m hm => ?_⟩
  rcases Array.mem_push.mp hm with hm | rfl
  · exact hs m hm
  · exact h

section Planning

variable {reg : Registry}

mutual
/-- Planning a node, reached through a named relation, and its joins keeps the nodes named. -/
theorem planNode_ensures (hreg : ∀ s ∈ reg.structures, s.Named) : ∀ (entity : EntityId)
    (parent : Option Nat)
    (relation : Option Relation) (j : Join), (∀ r, relation = some r → r.kind.Named) →
    Ensures (planNode reg entity parent relation j) (fun _ => True)
  | entity, parent, relation, ⟨_, filter, order, joins⟩, hrel => by
    rw [planNode]
    refine (linkAliasFor_ensures relation).bind fun linkAlias hlink => ?_
    refine freshAlias_ensures.bind fun own hown => ?_
    refine (Ensures.mapM (fun l => freshAlias_paired l) _).bind fun levels hlevels => ?_
    refine (Ensures.mapM (fun (i : Implementation) => freshAlias_paired i.entity) _).bind
      fun impls himpls => ?_
    refine get_ensures.bind fun st _ => ?_
    refine (push_ensures _ ⟨?_, hlink, hrel⟩).bind fun _ _ =>
      planJoins_ensures hreg entity _ joins
    -- the node's tables: its own, its levels and its implementations, each with a fresh alias
    intro t ht
    simp only [List.mem_cons, List.mem_append] at ht
    rcases ht with (rfl | ht) | ht
    · exact hown
    · exact hlevels t ht
    · exact himpls t ht

/-- Planning joins keeps the nodes named. -/
theorem planJoins_ensures (hreg : ∀ s ∈ reg.structures, s.Named) :
    ∀ (owner : EntityId) (index : Nat) (js : List Join),
    Ensures (planJoins reg owner index js) (fun _ => True)
  | _, _, [] => Ensures.pure trivial
  | owner, index, j :: rest => by
    rw [planJoins]
    refine Ensures.bind (Ensures.lift fun rel e => ?_) fun rel hrel =>
      (planNode_ensures hreg rel.target _ _ j fun r e => Option.some.inj e ▸ hrel).bind
        fun _ _ => planJoins_ensures hreg owner index rest
    -- a join goes through a relation the registry declares
    unfold joinRelation at e
    split at e
    · next r hr =>
      cases e
      exact Registry.findRelation?_named hreg hr
    · cases e
end

/-- Every node of a plan over a named registry is named. -/
theorem Query.plan_named (hreg : ∀ s ∈ reg.structures, s.Named) {q : Query}
    {nodes : Array PlannedNode} (h : q.plan reg = .ok nodes) :
    ∀ n ∈ nodes, n.Named := by
  unfold Query.plan at h
  simp only [bind, Except.bind] at h
  split at h
  · cases h
  · next r hr =>
    cases h
    exact (planNode_ensures hreg _ _ _ _ (by simp) (0, #[]) r.1 r.2 (by simp) hr).2

end Planning

/-- The names a compiler writes without quoting: those of its registry and of its plan. -/
structure Compiler.Named (c : Compiler) : Prop where
  structures : ∀ s ∈ c.reg.structures, s.Named
  nodes : ∀ n ∈ c.nodes, n.Named

/-- A compiler over a built registry and a plan is named. -/
theorem Compiler.named {ds : List EntityDescriptor} {reg : Registry} {q : Query}
    {nodes : Array PlannedNode} (hreg : Registry.build ds = .ok reg) (hplan : q.plan reg = .ok nodes)
    (options : CompileOptions) : Compiler.Named { reg, options, nodes } :=
  ⟨Registry.build_named hreg, Query.plan_named (Registry.build_named hreg) hplan⟩

/-! ## Resolved fields -/

/-- A resolved field is an alias of a planned table, a dot, and a column of that table. -/
theorem resolveIn_sql {reg : Registry} {nodes : Array PlannedNode} {i : Nat} {field : String}
    {r : Resolved} (h : resolveIn reg nodes i field = some r) :
    ∃ n ∈ nodes, ∃ t ∈ n.tables, ∃ col ∈ (reg.get t.1).columns, r.sql = t.2 ++ "." ++ col.name := by
  unfold resolveIn at h
  simp only [bind, Option.bind_eq_some_iff, pure] at h
  obtain ⟨n, hn, h⟩ := h
  -- both ways of finding the column end the same way: the table's alias, then the column
  have found : ∀ x : Option (EntityId × Nat), (x.bind fun p => (n.aliasOf? p.1).bind fun aliasName =>
      ((reg.get p.1).column? p.2).bind fun column =>
        some ({ sql := aliasName ++ "." ++ column.name, type := column.type, node := i } : Resolved)) =
      some r → ∃ t ∈ n.tables, ∃ col ∈ (reg.get t.1).columns, r.sql = t.2 ++ "." ++ col.name := by
    intro x hx
    simp only [Option.bind_eq_some_iff, Option.some.injEq] at hx
    obtain ⟨⟨table, col⟩, -, aliasName, ha, column, hc, rfl⟩ := hx
    simp only [PlannedNode.aliasOf?, Option.map_eq_some_iff] at ha
    obtain ⟨t, ht, rfl⟩ := ha
    have htable : t.1 = table := by simpa using List.find?_some ht
    refine ⟨t, List.mem_of_find?_eq_some ht, column, ?_, rfl⟩
    rw [htable]
    exact List.mem_of_getElem? hc
  refine ⟨n, Array.mem_of_getElem? hn, ?_⟩
  split at h <;> exact found _ h

/-- A field that resolves is resolved on some node. -/
theorem resolveField_sql {reg : Registry} {nodes : Array PlannedNode} {owner : Nat}
    {name : String} {r : Resolved} (h : resolveField reg nodes owner name = .ok r) :
    ∃ i field, resolveIn reg nodes i field = some r := by
  unfold resolveField at h
  dsimp only at h
  split at h
  · split at h
    · split at h
      · next r' hr => cases h; exact ⟨_, _, hr⟩
      · cases h
    · cases h
  · split at h
    · next r' hr =>
      cases h
      obtain ⟨i, -, hi⟩ := List.exists_of_findSome?_eq_some hr
      exact ⟨i, _, hi⟩
    · cases h

/-- `tN.column` is a column word. -/
theorem isColumnWord_qualified {a name : String} (ha : IsAlias a) (hn : isIdentifier name = true) :
    IsColumnWord (a ++ "." ++ name) := by
  obtain ⟨k, rfl⟩ := ha
  have hhead : ("t" ++ toString k ++ "." ++ name).toList.head? = some 't' := by simp
  refine ⟨fun e => (by rw [e] at hhead; cases hhead), ?_, ?_⟩
  · intro c hc
    simp only [String.toList_append, List.mem_append] at hc
    rcases hc with ((hc | hc) | hc) | hc
    · simp at hc; subst hc; decide
    · exact digits_not_break k c hc
    · simp at hc; subst hc; decide
    · exact isIdentifier_not_break hn c hc
  · intro hm
    simp only [reserved, List.mem_cons, List.not_mem_nil, or_false] at hm
    rcases hm with h | h | h | h | h | h | h <;> rw [h] at hhead <;> simp at hhead

/-- In a named compiler every field that resolves is written as a column word. -/
theorem Compiler.Named.plain {c : Compiler} (hc : c.Named) (owner : Nat) :
    (c.context owner).Plain := by
  intro name r hr
  obtain ⟨i, field, hi⟩ := resolveField_sql hr
  obtain ⟨n, hn, t, ht, col, hcol, hsql⟩ := resolveIn_sql hi
  rw [hsql]
  exact isColumnWord_qualified ((hc.nodes n hn).tables t ht)
    ((hc.structures _ (Registry.get_mem (.inl (List.ne_nil_of_mem hcol)))).columns col hcol)

end EntityGraph
