import EntityGraph.Proofs.Query.Names

/-!
# Plans in depth-first order

`Query.plan` walks the join tree of a query depth first. It adds a node for each join right after
the nodes planned before it, and hands out the aliases `t0`, `t1`, ... one at a time as it goes: a
node takes the alias of its link table first (for a join through an intermediate table), then
those of its own table, of its ancestors' tables root first and of its implementations' tables.

`Laid reg k nodes` is what holds of the planning state `(k, nodes)` after every step:

- the aliases taken so far are `t0`, ..., `t(k-1)`, in node order (`Laid.numbered`);
- each node spans the tables of its entity, and has a link alias exactly when its relation goes
  through an intermediate table (`PlannedNode.Spans`);
- the first node has no parent and no relation, and every later node hangs from an earlier node
  that the node just before it descends from, through a relation that the registry finds under its
  name on the parent's entity (`Placed`).

Planning a node needs the node before it to descend from the node it is joined to
(`Attaches`), and leaves the last node a descendant of the new one; so each step keeps the state
laid out, and a whole plan is laid out (`Query.plan_laid`), with its nodes the joins of the query
in depth-first order (`Join.preorder`) and its parents in depth-first order (`DepthFirst`).
-/

namespace EntityGraph

/-! ## Aliases and join trees -/

/-- The alias planning hands out `k`-th. -/
def aliasName (k : Nat) : String := "t" ++ toString k

/-- Different numbers give different aliases. -/
theorem aliasName_injective : Function.Injective aliasName := by
  intro a b h
  have hdigits : Nat.toDigits 10 a = Nat.toDigits 10 b := by
    simpa [aliasName, Nat.toString_eq_ofList_toDigits] using congrArg String.toList h
  calc a = Nat.ofDigitChars 10 (Nat.toDigits 10 a) 0 := Nat.ofDigitChars_ten_toDigits.symm
    _ = Nat.ofDigitChars 10 (Nat.toDigits 10 b) 0 := by rw [hdigits]
    _ = b := Nat.ofDigitChars_ten_toDigits

/-- The first `k` aliases are distinct. -/
theorem nodup_aliasNames (k : Nat) : ((List.range k).map aliasName).Nodup :=
  List.Pairwise.map aliasName (fun _ _ hne heq => hne (aliasName_injective heq)) List.nodup_range

namespace PlannedNode

/-- The aliases a node takes, in the order it takes them: its link table's, then its tables'. -/
def aliases (n : PlannedNode) : List String := n.linkAlias.toList ++ n.tables.map (·.2)

/-- The join a node stands for: the name of its relation (empty for the query's own node), its
filter and its ordering. -/
def key (n : PlannedNode) : String × Filter × List OrderBy :=
  ((n.relation.map (·.name)).getD "", n.filter, n.order)

end PlannedNode

/-- The name, filter and ordering of a join. -/
def Join.key (j : Join) : String × Filter × List OrderBy := (j.relation, j.filter, j.order)

mutual
/-- The joins of a join tree in depth-first order: the join, then the joins below each of its
joins in turn. -/
def Join.preorder : Join → List Join
  | ⟨relation, filter, order, joins⟩ => ⟨relation, filter, order, joins⟩ :: Join.preorderAll joins

/-- The joins below each of the given joins, in turn, in depth-first order. -/
def Join.preorderAll : List Join → List Join
  | [] => []
  | j :: js => j.preorder ++ Join.preorderAll js
end

/-- Whether a relation keeps its pairs in an intermediate table. -/
def throughTable (relation : Option Relation) : Bool :=
  match relation.map Relation.kind with
  | some (.association ..) => true
  | _ => false

/-- The table that the join from the owner reaches, for a node of `entity` joined through
`relation`: the level holding the back reference of a collection of children, and the node's own
table otherwise. -/
def anchorFor (entity : EntityId) (relation : Option Relation) : EntityId :=
  match relation.map Relation.kind with
  | some (.children back) => back.entity
  | _ => entity

/-! ## Trees of parents -/

/-- Following parents from node `i` reaches node `a`, or `i` is `a`. -/
inductive Descends (parents : List (Option Nat)) : Nat → Nat → Prop
  | refl (i : Nat) : Descends parents i i
  | parent {i p a : Nat} : parents[i]? = some (some p) → Descends parents p a → Descends parents i a

namespace Descends

variable {ps : List (Option Nat)}

theorem trans {i a b : Nat} (h₁ : Descends ps i a) (h₂ : Descends ps a b) : Descends ps i b := by
  induction h₁ with
  | refl => exact h₂
  | parent hp _ ih => exact .parent hp (ih h₂)

/-- Nodes added later change no ancestry of the nodes before them. -/
theorem append {i a : Nat} (h : Descends ps i a) (qs : List (Option Nat)) :
    Descends (ps ++ qs) i a := by
  induction h with
  | refl i => exact .refl i
  | parent hp _ ih =>
    have hi := (List.getElem?_eq_some_iff.mp hp).1
    exact .parent (by rw [List.getElem?_append_left hi, hp]) ih

end Descends

/-- Parents in depth-first order: the first node has no parent, and every later node hangs from
an earlier node, which is the node just before it or one of that node's ancestors. -/
structure DepthFirst (parents : List (Option Nat)) : Prop where
  root : parents.head? = some none
  later : ∀ i, 0 < i → i < parents.length →
    ∃ p, parents[i]? = some (some p) ∧ p < i ∧ Descends parents (i - 1) p

/-! ## Laid-out plans -/

/-- A node spans the tables of its entity: its own table, its ancestors' root first, then its
implementations', the first `levelCount` being the inheritance levels. Its anchor is the one the
join from its owner reaches, and it has a link alias exactly when its relation goes through an
intermediate table. -/
structure PlannedNode.Spans (reg : Registry) (n : PlannedNode) : Prop where
  tables : n.tables.map (·.1) =
    n.entity :: (reg.get n.entity).parents ++ (reg.get n.entity).implementations.map (·.entity)
  levelCount : n.levelCount = (reg.get n.entity).parents.length + 1
  anchor : n.anchor = anchorFor n.entity n.relation
  linkAlias : n.linkAlias.isSome = throughTable n.relation

/-- Where planning puts node `i`: the first node has no parent and no relation; a later node
hangs from an earlier node `p` that the node before it descends from, through a relation that the
registry finds under its name on `p`'s entity and that targets the node's entity. -/
def Placed (reg : Registry) (nodes : List PlannedNode) : Nat → PlannedNode → Prop
  | 0, n => n.parent = none ∧ n.relation = none
  | i + 1, n => ∃ p m rel, n.parent = some p ∧ p ≤ i ∧ nodes[p]? = some m ∧
      n.relation = some rel ∧ reg.findRelation? m.entity rel.name = some rel ∧
      rel.target = n.entity ∧ Descends (nodes.map (·.parent)) i p

/-- The planning state `(k, nodes)` after a step: the nodes took the aliases `t0`, ...,
`t(k-1)` in order, span their entities' tables, and are placed as planning places them. -/
structure Laid (reg : Registry) (k : Nat) (nodes : List PlannedNode) : Prop where
  numbered : nodes.flatMap PlannedNode.aliases = (List.range k).map aliasName
  spans : ∀ n ∈ nodes, n.Spans reg
  placed : ∀ i n, nodes[i]? = some n → Placed reg nodes i n

/-- Where a node of `entity` may be added after `nodes`: first, with no parent and no relation, or
under a node `p` that the last node descends from, through a relation found under its name on
`p`'s entity that targets `entity`. -/
def Attaches (reg : Registry) (nodes : List PlannedNode) (entity : EntityId) (parent : Option Nat)
    (relation : Option Relation) : Prop :=
  (nodes = [] ∧ parent = none ∧ relation = none) ∨
    ∃ p m rel, parent = some p ∧ nodes[p]? = some m ∧ relation = some rel ∧
      reg.findRelation? m.entity rel.name = some rel ∧ rel.target = entity ∧
      Descends (nodes.map (·.parent)) (nodes.length - 1) p

section Laying

variable {reg : Registry}

theorem Placed.append {nodes : List PlannedNode} {i : Nat} {n : PlannedNode}
    (h : Placed reg nodes i n) (more : List PlannedNode) : Placed reg (nodes ++ more) i n := by
  cases i with
  | zero => exact h
  | succ i =>
    obtain ⟨p, m, rel, hp, hle, hm, hrel, hfind, htarget, hdesc⟩ := h
    have hlt := (List.getElem?_eq_some_iff.mp hm).1
    refine ⟨p, m, rel, hp, hle, by rw [List.getElem?_append_left hlt, hm], hrel, hfind, htarget, ?_⟩
    simpa using hdesc.append (more.map (·.parent))

theorem laid_nil : Laid reg 0 [] := ⟨rfl, by simp, by simp⟩

/-- Adding a node that spans its tables, attaches where it is added and takes the next `m`
aliases keeps the plan laid out. -/
theorem Laid.push {k m : Nat} {nodes : List PlannedNode} {node : PlannedNode}
    (h : Laid reg k nodes) (hspans : node.Spans reg)
    (hat : Attaches reg nodes node.entity node.parent node.relation)
    (haliases : node.aliases = (List.range' k m).map aliasName) :
    Laid reg (k + m) (nodes ++ [node]) := by
  refine ⟨?_, ?_, ?_⟩
  · rw [List.flatMap_append, h.numbered, List.flatMap_singleton, haliases, ← List.map_append,
      List.range_eq_range', List.range_eq_range', ← List.range'_append_1, Nat.zero_add]
  · intro n hn
    rcases List.mem_append.mp hn with hn | hn
    · exact h.spans n hn
    · rw [List.mem_singleton.mp hn]
      exact hspans
  · intro i n hi
    rcases Nat.lt_or_ge i nodes.length with hlt | hge
    · rw [List.getElem?_append_left hlt] at hi
      exact (h.placed i n hi).append [node]
    · -- the new node is the last one
      rw [List.getElem?_append_right hge] at hi
      obtain ⟨hlt, hget⟩ := List.getElem?_eq_some_iff.mp hi
      have hi' : i = nodes.length := by simp at hlt; omega
      subst hi'
      have hn : n = node := by simpa using hget.symm
      subst hn
      rcases hat with ⟨rfl, hp, hr⟩ | ⟨p, m', rel, hp, hm, hr, hfind, htarget, hdesc⟩
      · exact ⟨hp, hr⟩
      · have hlt := (List.getElem?_eq_some_iff.mp hm).1
        obtain ⟨i, hi⟩ : ∃ i, nodes.length = i + 1 := ⟨nodes.length - 1, by omega⟩
        rw [hi]
        refine ⟨p, m', rel, hp, by omega, by rw [List.getElem?_append_left hlt, hm], hr, hfind,
          htarget, ?_⟩
        simpa [hi] using hdesc.append [n.parent]

/-- The last node of a laid-out plan descends from every node that the node it hangs from
descends from. -/
theorem Laid.depthFirst {k : Nat} {nodes : List PlannedNode} (h : Laid reg k nodes)
    (hne : nodes ≠ []) : DepthFirst (nodes.map (·.parent)) := by
  refine ⟨?_, ?_⟩
  · obtain ⟨n, rest, rfl⟩ := List.exists_cons_of_ne_nil hne
    simp [(h.placed 0 n rfl : Placed reg _ 0 n).1]
  · intro i hpos hlt
    obtain ⟨i, rfl⟩ : ∃ j, i = j + 1 := ⟨i - 1, by omega⟩
    have hlt' : i + 1 < nodes.length := by simpa using hlt
    obtain ⟨p, m, rel, hp, hle, -, -, -, -, hdesc⟩ :=
      h.placed (i + 1) nodes[i + 1] (List.getElem?_eq_getElem hlt')
    exact ⟨p, by simp [List.getElem?_eq_getElem hlt', hp], by omega, hdesc⟩

end Laying

/-! ## Planning steps -/

@[simp] theorem freshAlias_run (k : Nat) (nodes : Array PlannedNode) :
    freshAlias.run (k, nodes) = .ok (aliasName k, (k + 1, nodes)) := rfl

/-- Pairing each item with a fresh alias hands out the next aliases in order. -/
theorem mapM_paired_run {β : Type} (key : β → EntityId) :
    ∀ (l : List β) {s s' : Nat × Array PlannedNode} {r : List (EntityId × String)},
      (l.mapM fun x => do pure (key x, ← freshAlias)).run s = .ok (r, s') →
      r.map (·.1) = l.map key ∧ r.map (·.2) = (List.range' s.1 l.length).map aliasName ∧
        s' = (s.1 + l.length, s.2)
  | [], s, s', r, h => by
    obtain ⟨rfl, rfl⟩ := run_pure_ok h
    simp
  | x :: l, ⟨k, nodes⟩, s', r, h => by
    rw [List.mapM_cons] at h
    obtain ⟨b, s₁, hb, h⟩ := run_bind_ok h
    obtain ⟨a, s₀, ha, hb⟩ := run_bind_ok hb
    rw [freshAlias_run] at ha
    cases ha
    obtain ⟨rfl, rfl⟩ := run_pure_ok hb
    obtain ⟨bs, s₂, hbs, h⟩ := run_bind_ok h
    obtain ⟨rfl, rfl⟩ := run_pure_ok h
    obtain ⟨hkeys, haliases, rfl⟩ := mapM_paired_run key l hbs
    refine ⟨by simp [hkeys], by simp [haliases, List.range'_succ], ?_⟩
    simp only [List.length_cons, Prod.mk.injEq, and_true]
    omega

/-- A link alias is the next alias, taken exactly for a relation through an intermediate table. -/
theorem linkAliasFor_run {relation : Option Relation} {s s' : Nat × Array PlannedNode}
    {la : Option String} (h : (linkAliasFor relation).run s = .ok (la, s')) :
    la.isSome = throughTable relation ∧
      ∃ a, la.toList = (List.range' s.1 a).map aliasName ∧ s' = (s.1 + a, s.2) := by
  obtain ⟨k, nodes⟩ := s
  rcases relation with _ | ⟨name, owner, target, kind⟩
  · obtain ⟨rfl, rfl⟩ := run_pure_ok h
    exact ⟨rfl, 0, rfl, rfl⟩
  · cases kind with
    | reference column =>
      obtain ⟨rfl, rfl⟩ := run_pure_ok h
      exact ⟨rfl, 0, rfl, rfl⟩
    | children back =>
      obtain ⟨rfl, rfl⟩ := run_pure_ok h
      exact ⟨rfl, 0, rfl, rfl⟩
    | association table source sink =>
      have hrun : (linkAliasFor (some ⟨name, owner, target, .association table source sink⟩)).run
          (k, nodes) = .ok (some (aliasName k), (k + 1, nodes)) := rfl
      rw [hrun] at h
      cases h
      exact ⟨rfl, 1, rfl, rfl⟩

/-- The relation a join names, found on its owner under the join's name. -/
theorem joinRelation_ok {owner : EntityId} {name : String} {rel : Relation}
    (h : joinRelation reg owner name = .ok rel) :
    reg.findRelation? owner name = some rel ∧ rel.name = name := by
  unfold joinRelation at h
  split at h
  · next r hr =>
    cases h
    refine ⟨hr, ?_⟩
    obtain ⟨level, -, hl⟩ := List.exists_of_findSome?_eq_some hr
    simpa using List.find?_some hl
  · cases h

section Planning

variable {reg : Registry}

mutual
/-- Planning a node that attaches where it is added, and then its joins, keeps the plan laid out:
it adds the node of `entity` followed by the nodes of the joins below it in depth-first order,
and leaves the last node a descendant of the new one. -/
theorem planNode_laid : ∀ (entity : EntityId) (parent : Option Nat) (relation : Option Relation)
    (j : Join) {s s' : Nat × Array PlannedNode}, Laid reg s.1 s.2.toList →
    Attaches reg s.2.toList entity parent relation → (relation.map (·.name)).getD "" = j.relation →
    (planNode reg entity parent relation j).run s = .ok ((), s') →
    ∃ node rest, s'.2.toList = s.2.toList ++ node :: rest ∧ Laid reg s'.1 s'.2.toList ∧
      node.entity = entity ∧ node.parent = parent ∧
      (node :: rest).map PlannedNode.key = j.preorder.map Join.key ∧
      Descends (s'.2.toList.map (·.parent)) (s'.2.size - 1) s.2.size
  | entity, parent, relation, ⟨name, filter, order, joins⟩, ⟨k, nodes⟩, s', hlaid, hat, hname,
      h => by
    rw [planNode] at h
    obtain ⟨la, s₁, hla, h⟩ := run_bind_ok h
    obtain ⟨hlaSome, a, hlaAliases, rfl⟩ := linkAliasFor_run hla
    obtain ⟨own, s₂, hown, h⟩ := run_bind_ok h
    rw [freshAlias_run] at hown
    cases hown
    obtain ⟨levels, s₃, hlevels, h⟩ := run_bind_ok h
    obtain ⟨hlevelKeys, hlevelAliases, rfl⟩ := mapM_paired_run (fun l => l) _ hlevels
    obtain ⟨impls, s₄, himpls, h⟩ := run_bind_ok h
    obtain ⟨himplKeys, himplAliases, rfl⟩ :=
      mapM_paired_run (fun i : Implementation => i.entity) _ himpls
    obtain ⟨st, s₅, hget, h⟩ := run_bind_ok h
    cases hget
    obtain ⟨u, s₆, hpush, h⟩ := run_bind_ok h
    cases hpush
    have hP : levels.length = (reg.get entity).parents.length := by
      simpa using congrArg List.length hlevelKeys
    -- the node just added takes the aliases after those taken before it
    let node : PlannedNode :=
      { entity, parent, relation, filter, order,
        tables := (entity, aliasName (k + a)) :: levels ++ impls,
        levelCount := levels.length + 1, anchor := anchorFor entity relation, linkAlias := la }
    have hspans : node.Spans reg := by
      refine ⟨?_, ?_, rfl, hlaSome⟩
      · simp [node, hlevelKeys, himplKeys]
      · simp [node, hP]
    have haliases : node.aliases = (List.range' k (a + 1 + (reg.get entity).parents.length +
        (reg.get entity).implementations.length)).map aliasName := by
      dsimp only at hlevelAliases himplAliases
      calc node.aliases = la.toList ++ aliasName (k + a) :: (levels.map (·.2) ++ impls.map (·.2)) := by
            simp [node, PlannedNode.aliases]
        _ = (List.range' k a).map aliasName ++ aliasName (k + a) ::
              ((List.range' (k + a + 1) (reg.get entity).parents.length).map aliasName ++
                (List.range' (k + a + 1 + (reg.get entity).parents.length)
                  (reg.get entity).implementations.length).map aliasName) := by
            rw [hlaAliases, hlevelAliases, himplAliases]
        _ = _ := by
            rw [← List.map_append, ← List.map_cons, ← List.map_append, List.range'_append_1,
              ← List.range'_succ, List.range'_append_1]
            congr 2
            omega
    have hlaid₁ := hlaid.push hspans hat haliases
    have hk : k + (a + 1 + (reg.get entity).parents.length +
        (reg.get entity).implementations.length) = k + a + 1 +
        (reg.get entity).parents.length + (reg.get entity).implementations.length := by omega
    rw [hk] at hlaid₁
    obtain ⟨rest, hs', hlaid', hkeys, hdesc'⟩ := @planJoins_laid entity nodes.size joins
      (k + a + 1 + (reg.get entity).parents.length +
        (reg.get entity).implementations.length, nodes.push node) s'
      (by simpa using hlaid₁) (by simp [node]) (by simpa using Descends.refl _) h
    refine ⟨node, rest, by simpa using hs', hlaid', rfl, rfl, ?_, by simpa using hdesc'⟩
    simp only [Join.preorder, List.map_cons, hkeys]
    simp [node, PlannedNode.key, Join.key, hname]

theorem planJoins_laid : ∀ (owner : EntityId) (index : Nat) (js : List Join)
    {s s' : Nat × Array PlannedNode}, Laid reg s.1 s.2.toList →
    (s.2.toList[index]?).map (·.entity) = some owner →
    Descends (s.2.toList.map (·.parent)) (s.2.size - 1) index →
    (planJoins reg owner index js).run s = .ok ((), s') →
    ∃ new, s'.2.toList = s.2.toList ++ new ∧ Laid reg s'.1 s'.2.toList ∧
      new.map PlannedNode.key = (Join.preorderAll js).map Join.key ∧
      Descends (s'.2.toList.map (·.parent)) (s'.2.size - 1) index
  | owner, index, [], s, s', hlaid, _, hdesc, h => by
    obtain ⟨-, rfl⟩ := run_pure_ok h
    exact ⟨[], by simp, hlaid, by simp [Join.preorderAll], hdesc⟩
  | owner, index, j :: rest, s, s', hlaid, howner, hdesc, h => by
    rw [planJoins] at h
    obtain ⟨rel, s₁, hrel, h⟩ := run_bind_ok h
    obtain ⟨hjoin, hs₁⟩ := run_lift_ok hrel
    rw [hs₁] at h
    obtain ⟨hfind, hname⟩ := joinRelation_ok hjoin
    obtain ⟨u, s₂, hnode, h⟩ := run_bind_ok h
    obtain ⟨m, hm, rfl⟩ : ∃ m, s.2.toList[index]? = some m ∧ m.entity = owner := by
      simpa using howner
    have hat : Attaches reg s.2.toList rel.target (some index) (some rel) :=
      .inr ⟨index, m, rel, rfl, hm, rfl, by rw [hname]; exact hfind, rfl, by simpa using hdesc⟩
    obtain ⟨node, new₁, hs₂, hlaid₂, -, hparent, hkeys₁, hdesc₂⟩ :=
      planNode_laid rel.target (some index) (some rel) j hlaid hat (by simp [hname]) hnode
    -- the node of `j` hangs from `index`, so the last node still descends from `index`
    have hindex : Descends (s₂.2.toList.map (·.parent)) s.2.size index :=
      .parent (by simp [hs₂, hparent]) (.refl index)
    have hlt := (List.getElem?_eq_some_iff.mp hm).1
    obtain ⟨new₂, hs', hlaid', hkeys₂, hdesc'⟩ := planJoins_laid m.entity index rest hlaid₂
      (by rw [hs₂, List.getElem?_append_left hlt, hm]; rfl) (hdesc₂.trans hindex) h
    refine ⟨node :: new₁ ++ new₂, by rw [hs', hs₂]; simp, hlaid', ?_, hdesc'⟩
    rw [Join.preorderAll, List.map_append, List.map_append, hkeys₁, hkeys₂]
end

/-- A plan that succeeds is laid out, and its nodes are the joins of the query in depth-first
order, the first being the query's own node, of the query's entity. -/
theorem Query.plan_laid {q : Query} {nodes : Array PlannedNode} (h : q.plan reg = .ok nodes) :
    ∃ k, Laid reg k nodes.toList ∧
      nodes.toList.map PlannedNode.key =
        (Join.preorder ⟨"", q.filter, q.order, q.joins⟩).map Join.key ∧
      nodes.toList.head?.map (·.entity) = some q.entity := by
  unfold Query.plan at h
  obtain ⟨⟨⟨⟩, k, planned⟩, hrun, h⟩ := except_bind_ok h
  cases h
  obtain ⟨node, rest, hs, hlaid, hentity, -, hkeys, -⟩ :=
    planNode_laid q.entity none none _ laid_nil (.inl ⟨rfl, rfl, rfl⟩) rfl hrun
  dsimp only at hs hlaid
  refine ⟨k, hlaid, by rw [hs]; exact hkeys, ?_⟩
  simp [hs, hentity]

end Planning

end EntityGraph
