import EntityGraph.Proofs.Query.Layout

/-!
# The chain of joins

A compiled statement reads `SELECT columns FROM table alias`, then one join per further table,
each `JOIN table alias ON alias.column = other.column`. The primary node's levels and
implementations come first, then each later node in turn: the join from its owner (through the
link table for an association), then its other levels and its implementations.

`Compiler.chain` lists these joins as `JoinStep`s, and the text of the statement is the text of
the chain (`Compiler.statement_from`). Over a well-formed registry, each alias of the plan is
introduced exactly once along the chain (`Compiler.chain_introduces`), and every join compares
a column of the table it joins with a column of a table joined before it
(`Compiler.chain_ordered`).
-/

namespace EntityGraph

/-- One table joined in a statement: `keyword table alias ON left = right`, each side of the
condition an alias and a column. -/
structure JoinStep where
  keyword : String
  table : String
  tableAlias : String
  left : String × String
  right : String × String

/-- The text of a join. -/
def JoinStep.sql (s : JoinStep) : String :=
  s.keyword ++ s.table ++ " " ++ s.tableAlias ++ " ON " ++ s.left.1 ++ "." ++ s.left.2 ++ " = " ++
    s.right.1 ++ "." ++ s.right.2

/-- Each join compares a column of the table it joins with a column of a table introduced before
it: `seen` are the aliases introduced before the first join. -/
def JoinStep.Ordered : List String → List JoinStep → Prop
  | _, [] => True
  | seen, s :: rest => s.left.1 = s.tableAlias ∧ s.right.1 ∈ seen ∧
      JoinStep.Ordered (seen ++ [s.tableAlias]) rest

namespace JoinStep

/-- More aliases introduced before a chain keep it in order. -/
theorem Ordered.mono : ∀ {steps : List JoinStep} {seen seen' : List String},
    (∀ a ∈ seen, a ∈ seen') → Ordered seen steps → Ordered seen' steps
  | [], _, _, _, _ => trivial
  | _ :: _, _, _, hsub, ⟨hleft, hright, hrest⟩ =>
    ⟨hleft, hsub _ hright, Ordered.mono (fun a ha => by
      simp only [List.mem_append] at ha ⊢
      exact ha.imp_left (hsub a)) hrest⟩

/-- A chain in order followed by a chain in order after the aliases it introduces. -/
theorem Ordered.append : ∀ {a b : List JoinStep} {seen : List String},
    Ordered seen a → Ordered (seen ++ a.map (·.tableAlias)) b → Ordered seen (a ++ b)
  | [], _, _, _, hb => by simpa using hb
  | _ :: _, _, _, ⟨hleft, hright, ha⟩, hb => ⟨hleft, hright, Ordered.append ha (by simpa using hb)⟩

/-- Joins that each compare their own table with a table introduced before all of them. -/
theorem ordered_of_forall : ∀ {steps : List JoinStep} {seen : List String},
    (∀ s ∈ steps, s.left.1 = s.tableAlias ∧ s.right.1 ∈ seen) → Ordered seen steps
  | [], _, _ => trivial
  | s :: _, _, h =>
    ⟨(h s List.mem_cons_self).1, (h s List.mem_cons_self).2, ordered_of_forall fun t ht =>
      ⟨(h t (List.mem_cons_of_mem _ ht)).1,
        List.mem_append_left _ (h t (List.mem_cons_of_mem _ ht)).2⟩⟩

end JoinStep

/-- In a list of tables of distinct entities, the alias found for an entity present, followed by
the aliases of the other tables, is the list of aliases in another order. -/
theorem find_filter_perm {x : EntityId} :
    ∀ {l : List (EntityId × String)}, (l.map (·.1)).Nodup → x ∈ l.map (·.1) →
      ∃ a, (l.find? (·.1 == x)).map (·.2) = some a ∧
        (a :: (l.filter (·.1 != x)).map (·.2)).Perm (l.map (·.2))
  | [], _, hx => by simp at hx
  | (y, b) :: l, hnd, hx => by
    have hy : y ∉ l.map (·.1) := (List.nodup_cons.mp hnd).1
    have hnd' : (l.map (·.1)).Nodup := (List.nodup_cons.mp hnd).2
    by_cases hxy : y = x
    · subst hxy
      have hkeep : l.filter (·.1 != y) = l := List.filter_eq_self.mpr fun p hp => by
        have hne : p.1 ≠ y := fun e => hy (by rw [← e]; exact List.mem_map_of_mem hp)
        simpa using hne
      exact ⟨b, by simp, by simp [hkeep]⟩
    · have hx' : x ∈ l.map (·.1) := by
        simp only [List.map_cons, List.mem_cons] at hx
        exact hx.resolve_left (Ne.symm hxy)
      obtain ⟨a, ha, hperm⟩ := find_filter_perm hnd' hx'
      refine ⟨a, by simp [hxy, ha], ?_⟩
      have hfilter : ((y, b) :: l).filter (·.1 != x) = (y, b) :: l.filter (·.1 != x) := by
        simp [hxy]
      rw [hfilter, List.map_cons, List.map_cons]
      exact (List.Perm.swap b a _).trans (hperm.cons b)

/-- Joining the texts of several lists in turn joins the texts of each. -/
theorem join_flatMap {α : Type} (f : α → List String) :
    ∀ l : List α, String.join (l.flatMap f) = String.join (l.map fun a => String.join (f a))
  | [] => rfl
  | a :: l => by rw [List.flatMap_cons, List.map_cons, String.join_append, String.join_cons,
      join_flatMap f l]

namespace Compiler

/-- The joins of a node's other inheritance levels to its anchor, then of its implementations to
its own table. -/
def levelSteps (c : Compiler) (n : PlannedNode) (primary : Bool) : List JoinStep :=
  let keyword := if primary then "INNER JOIN" else "LEFT JOIN"
  let anchor := c.reg.get n.anchor
  let anchorAlias := (n.aliasOf? n.anchor).getD ""
  let own := c.reg.get n.entity
  ((n.tables.take n.levelCount).filter (·.1 != n.anchor)).map (fun (table, aliasName) =>
    { keyword := " " ++ keyword ++ " ", table := c.tableName table, tableAlias := aliasName,
      left := (aliasName, (c.reg.get table).primaryKeyName),
      right := (anchorAlias, anchor.primaryKeyName) }) ++
  (own.implementations.zip (n.tables.drop n.levelCount)).map (fun (impl, (table, aliasName)) =>
    { keyword := " LEFT JOIN ", table := c.tableName table, tableAlias := aliasName,
      left := (aliasName, (c.reg.get table).primaryKeyName),
      right := (n.ownAlias, ((own.column? impl.linkColumn).map (·.name)).getD "") })

/-- The join of a node to the node it was joined from: to its anchor, through the link table for
an association. -/
def relationSteps (c : Compiler) (n : PlannedNode) : List JoinStep :=
  match n.relation, n.parent with
  | some rel, some parent =>
    let owner := c.reg.get rel.owner
    let ownerAlias := ((c.node parent).aliasOf? rel.owner).getD ""
    let anchor := c.reg.get n.anchor
    let anchorAlias := (n.aliasOf? n.anchor).getD ""
    let anchorTable := c.tableName n.anchor
    match rel.kind with
    | .reference column =>
      [{ keyword := " LEFT JOIN ", table := anchorTable, tableAlias := anchorAlias,
         left := (anchorAlias, anchor.primaryKeyName),
         right := (ownerAlias, ((owner.column? column).map (·.name)).getD "") }]
    | .children back =>
      [{ keyword := " LEFT JOIN ", table := anchorTable, tableAlias := anchorAlias,
         left := (anchorAlias, (((c.reg.get back.entity).column? back.index).map (·.name)).getD ""),
         right := (ownerAlias, owner.primaryKeyName) }]
    | .association table source target =>
      let link := n.linkAlias.getD ""
      [{ keyword := " LEFT JOIN ", table := qualifyTable c.options.schema table, tableAlias := link,
         left := (link, source), right := (ownerAlias, owner.primaryKeyName) },
       { keyword := " LEFT JOIN ", table := anchorTable, tableAlias := anchorAlias,
         left := (anchorAlias, anchor.primaryKeyName), right := (link, target) }]
  | _, _ => []

/-- The joins after the first table of the statement: the primary node's levels and
implementations, then for each later node its join from its owner and its levels and
implementations. -/
def chain (c : Compiler) : List JoinStep :=
  c.levelSteps (c.node 0) true ++
    (c.nodes.toList.drop 1).flatMap fun n => c.relationSteps n ++ c.levelSteps n false

theorem levelJoins_eq (c : Compiler) (n : PlannedNode) (primary : Bool) :
    c.levelJoins n primary = String.join ((c.levelSteps n primary).map JoinStep.sql) := by
  simp only [levelJoins, levelSteps, List.map_append, List.map_map, String.join_append]
  rfl

theorem relationJoin_eq (c : Compiler) (n : PlannedNode) :
    c.relationJoin n = String.join ((c.relationSteps n).map JoinStep.sql) := by
  cases hr : n.relation with
  | none => simp [relationJoin, relationSteps, hr]
  | some rel =>
    cases hp : n.parent with
    | none => simp [relationJoin, relationSteps, hr, hp]
    | some parent =>
      cases hk : rel.kind <;>
        simp [relationJoin, relationSteps, hr, hp, hk, JoinStep.sql, String.append_assoc]

/-- The joins after the primary table are the text of the chain. -/
theorem chain_sql (c : Compiler) :
    c.levelJoins (c.node 0) true ++ c.joins = String.join (c.chain.map JoinStep.sql) := by
  simp only [chain, joins, levelJoins_eq, relationJoin_eq, List.map_append, List.map_flatMap,
    String.join_append, join_flatMap]

/-- The statement selects the projection from the primary table, or from the page subquery in its
place, under the primary node's own alias; the chain of joins follows, then the filters and the
ordering. -/
theorem statement_from {c : Compiler} {limit offset : Option Nat} {ps ps' : Array CompiledParam}
    {sql : String} (h : (c.statement limit offset).run ps = .ok (sql, ps')) :
    ∃ head clauses rest, (head = c.tableName (c.node 0).entity ∨ ∃ sub, head = "(" ++ sub ++ ")") ∧
      sql = "SELECT " ++ ", ".intercalate c.projection.1 ++ " FROM " ++ head ++ " " ++
        (c.node 0).ownAlias ++ String.join (c.chain.map JoinStep.sql) ++ whereClause clauses ++
        " ORDER BY " ++ rest := by
  unfold statement at h
  obtain ⟨page, ps₁, -, h⟩ := run_bind_ok h
  obtain ⟨source, ps₂, hsource, h⟩ := run_bind_ok h
  obtain ⟨clauses, ps₃, -, h⟩ := run_bind_ok h
  obtain ⟨order, ps₄, -, h⟩ := run_bind_ok h
  obtain ⟨rfl, -⟩ := run_pure_ok h
  -- the source names the primary table, or the page subquery, and joins the primary levels
  obtain ⟨head, hhead, rfl⟩ : ∃ head, (head = c.tableName (c.node 0).entity ∨
      ∃ sub, head = "(" ++ sub ++ ")") ∧
      source = head ++ " " ++ (c.node 0).ownAlias ++ c.levelJoins (c.node 0) true := by
    unfold Compiler.source at hsource
    split at hsource
    · obtain ⟨sub, ps₅, -, h⟩ := run_bind_ok hsource
      obtain ⟨rfl, -⟩ := run_pure_ok h
      have hparen : ")" ++ " " = ") " := rfl
      refine ⟨"(" ++ sub ++ ")", .inr ⟨sub, rfl⟩, ?_⟩
      simp only [String.append_assoc, ← hparen]
    · obtain ⟨rfl, -⟩ := run_pure_ok hsource
      exact ⟨_, .inl rfl, rfl⟩
  refine ⟨head, clauses, ", ".intercalate order ++
    (if page == .none then c.paging limit offset else ""), hhead, ?_⟩
  rw [← chain_sql]
  simp only [String.append_assoc]

end Compiler

/-! ## Aliases along the chain -/

/-- A table of a node has an alias, one of those the node took. -/
theorem PlannedNode.aliasOf?_mem {n : PlannedNode} {e : EntityId} (h : e ∈ n.tables.map (·.1)) :
    ∃ a, n.aliasOf? e = some a ∧ a ∈ n.aliases := by
  obtain ⟨t, ht, rfl⟩ := List.mem_map.mp h
  cases hf : n.tables.find? (·.1 == t.1) with
  | none => exact absurd (List.find?_eq_none.mp hf t ht) (by simp)
  | some u =>
    refine ⟨u.2, by simp [PlannedNode.aliasOf?, hf], ?_⟩
    exact List.mem_append_right _ (List.mem_map_of_mem (List.mem_of_find?_eq_some hf))

/-- What the joins of a node rest on: it spans its entity's tables, its inheritance levels are
distinct, and its anchor is one of them. -/
structure PlannedNode.Anchored (reg : Registry) (n : PlannedNode) : Prop where
  spans : n.Spans reg
  levels_nodup : (n.entity :: (reg.get n.entity).parents).Nodup
  anchor_mem : n.anchor ∈ n.entity :: (reg.get n.entity).parents

namespace PlannedNode.Anchored

variable {reg : Registry} {n : PlannedNode}

theorem levels_map (h : n.Anchored reg) :
    (n.tables.take n.levelCount).map (·.1) = n.entity :: (reg.get n.entity).parents := by
  rw [List.map_take, h.spans.tables, h.spans.levelCount]
  simp

theorem impls_map (h : n.Anchored reg) :
    (n.tables.drop n.levelCount).map (·.1) = (reg.get n.entity).implementations.map (·.entity) := by
  rw [List.map_drop, h.spans.tables, h.spans.levelCount]
  simp

/-- The anchor's alias, followed by the aliases of the other levels, is the levels' aliases in
another order. -/
theorem anchorAlias (h : n.Anchored reg) : ∃ a, n.aliasOf? n.anchor = some a ∧
    (a :: ((n.tables.take n.levelCount).filter (·.1 != n.anchor)).map (·.2)).Perm
      ((n.tables.take n.levelCount).map (·.2)) := by
  obtain ⟨a, ha, hperm⟩ := find_filter_perm (x := n.anchor)
    (by rw [h.levels_map]; exact h.levels_nodup) (by rw [h.levels_map]; exact h.anchor_mem)
  refine ⟨a, ?_, hperm⟩
  obtain ⟨p, hp, rfl⟩ := Option.map_eq_some_iff.mp ha
  unfold PlannedNode.aliasOf?
  rw [← List.take_append_drop n.levelCount n.tables, List.find?_append, hp]
  rfl

/-- The first table of a node is its own, under its own alias. -/
theorem tables_eq (h : n.Anchored reg) : ∃ rest, n.tables = (n.entity, n.ownAlias) :: rest := by
  cases hn : n.tables with
  | nil => simpa [hn] using h.spans.tables
  | cons t rest =>
    have hentity : t.1 = n.entity := by simpa [hn] using congrArg List.head? h.spans.tables
    exact ⟨rest, by simp [PlannedNode.ownAlias, hn, ← hentity]⟩

/-- The alias of the node's own entity is its own alias. -/
theorem aliasOf?_entity (h : n.Anchored reg) : (n.aliasOf? n.entity).getD "" = n.ownAlias := by
  obtain ⟨rest, htables⟩ := h.tables_eq
  simp [PlannedNode.aliasOf?, htables]

/-- The node's own alias is its anchor's or that of another of its levels. -/
theorem ownAlias_mem (h : n.Anchored reg) : n.ownAlias ∈ (n.aliasOf? n.anchor).getD "" ::
    ((n.tables.take n.levelCount).filter (·.1 != n.anchor)).map (·.2) := by
  obtain ⟨rest, htables⟩ := h.tables_eq
  obtain ⟨lc, hlc⟩ : ∃ lc, n.levelCount = lc + 1 := ⟨_, h.spans.levelCount⟩
  by_cases he : n.entity = n.anchor
  · exact List.mem_cons.mpr (.inl (by rw [← he, h.aliasOf?_entity]))
  · refine List.mem_cons_of_mem _ (List.mem_map.mpr ⟨(n.entity, n.ownAlias), ?_, rfl⟩)
    rw [htables, hlc]
    simp [he]

end PlannedNode.Anchored

namespace Compiler

variable {c : Compiler} {n : PlannedNode}

/-- The joins of a node's levels introduce the aliases of its levels other than the anchor, then
those of its implementations. -/
theorem levelSteps_tableAliases (h : n.Anchored c.reg) (primary : Bool) :
    (c.levelSteps n primary).map (·.tableAlias) =
      ((n.tables.take n.levelCount).filter (·.1 != n.anchor)).map (·.2) ++
        (n.tables.drop n.levelCount).map (·.2) := by
  have hlen : (n.tables.drop n.levelCount).length ≤ (c.reg.get n.entity).implementations.length := by
    exact Nat.le_of_eq (by simpa using congrArg List.length h.impls_map)
  simp only [levelSteps, List.map_append, List.map_map]
  refine congrArg₂ (· ++ ·) (List.map_congr_left fun _ _ => rfl) ?_
  calc _ = (((c.reg.get n.entity).implementations.zip (n.tables.drop n.levelCount)).map
          Prod.snd).map Prod.snd := by
        rw [List.map_map]
        exact List.map_congr_left fun _ _ => rfl
    _ = _ := by rw [List.map_snd_zip hlen]

/-- The joins of a node's levels and implementations introduce, after its anchor's alias, the
node's other table aliases. -/
theorem levelSteps_aliases (h : n.Anchored c.reg) (primary : Bool) :
    ((n.aliasOf? n.anchor).getD "" :: (c.levelSteps n primary).map (·.tableAlias)).Perm
      (n.tables.map (·.2)) := by
  obtain ⟨a, ha, hperm⟩ := h.anchorAlias
  rw [levelSteps_tableAliases h, ha, Option.getD_some, ← List.cons_append,
    ← List.take_append_drop n.levelCount n.tables, List.map_append, List.take_append_drop]
  exact hperm.append_right _

/-- The joins of a node's levels and implementations are in order once the anchor is introduced. -/
theorem levelSteps_ordered (h : n.Anchored c.reg) (primary : Bool) {seen : List String}
    (hanchor : (n.aliasOf? n.anchor).getD "" ∈ seen) :
    JoinStep.Ordered seen (c.levelSteps n primary) := by
  have hown := h.ownAlias_mem
  simp only [levelSteps]
  refine JoinStep.Ordered.append (JoinStep.ordered_of_forall ?_) (JoinStep.ordered_of_forall ?_)
  · -- a level is joined to the anchor
    simp only [List.mem_map]
    rintro s ⟨⟨t, a⟩, -, rfl⟩
    exact ⟨rfl, hanchor⟩
  · -- an implementation is joined to the node's own table, the anchor or a level joined before
    simp only [List.mem_map]
    rintro s ⟨⟨i, t, a⟩, -, rfl⟩
    refine ⟨rfl, ?_⟩
    rcases List.mem_cons.mp hown with he | hmem
    · exact List.mem_append_left _ (he ▸ hanchor)
    · obtain ⟨⟨t', a'⟩, hx, rfl⟩ := List.mem_map.mp hmem
      exact List.mem_append_right _ (List.mem_map.mpr ⟨_, List.mem_map_of_mem hx, rfl⟩)

/-- The join from a node's owner introduces the alias of the link table, if any, then the
anchor's. -/
theorem relationSteps_tableAliases {rel : Relation} {p : Nat} (hr : n.relation = some rel)
    (hp : n.parent = some p) (hlink : n.linkAlias.isSome = throughTable n.relation) :
    (c.relationSteps n).map (·.tableAlias) = n.linkAlias.toList ++ [(n.aliasOf? n.anchor).getD ""] := by
  rw [hr] at hlink
  simp only [relationSteps, hr, hp]
  cases hk : rel.kind with
  | reference column =>
    have hnone : n.linkAlias = none := by simpa [throughTable, hk] using hlink
    simp [hnone]
  | children back =>
    have hnone : n.linkAlias = none := by simpa [throughTable, hk] using hlink
    simp [hnone]
  | association table source target =>
    obtain ⟨a, ha⟩ : ∃ a, n.linkAlias = some a :=
      Option.isSome_iff_exists.mp (by simpa [throughTable, hk] using hlink)
    simp [ha]

/-- The join from a node's owner is in order once the owner's table is introduced. -/
theorem relationSteps_ordered {rel : Relation} {p : Nat} (hr : n.relation = some rel)
    (hp : n.parent = some p) {seen : List String}
    (howner : ((c.node p).aliasOf? rel.owner).getD "" ∈ seen) :
    JoinStep.Ordered seen (c.relationSteps n) := by
  simp only [relationSteps, hr, hp]
  cases rel.kind <;> simp [JoinStep.Ordered, howner]

end Compiler

section Chain

variable {reg : Registry} {k : Nat} {nodes : List PlannedNode}

/-- Over a well-formed registry, every node of a laid-out plan is anchored: its levels are
distinct, and the join from its owner reaches one of them. -/
theorem Laid.anchored (hwf : reg.WellFormed) (h : Laid reg k nodes) {i : Nat} {n : PlannedNode}
    (hn : nodes[i]? = some n) : n.Anchored reg := by
  have hspans := h.spans n (List.mem_of_getElem? hn)
  refine ⟨hspans, List.nodup_cons.mpr ⟨(hwf.parents_nodup n.entity).2,
    (hwf.parents_nodup n.entity).1⟩, ?_⟩
  rw [hspans.anchor]
  cases i with
  | zero =>
    obtain ⟨-, hr⟩ := h.placed 0 n hn
    simp [anchorFor, hr]
  | succ i =>
    obtain ⟨p, m, rel, -, -, -, hr, hfind, htarget, -⟩ := h.placed (i + 1) n hn
    rw [hr]
    cases hk : rel.kind with
    | children back =>
      -- the back reference is a column of the target or of one of its ancestors
      obtain ⟨level, -, hrel⟩ := Registry.findRelation?_mem hfind
      obtain ⟨-, -, -, hres⟩ := hwf.relations level rel hrel
      rw [hk] at hres
      simp only [anchorFor, Option.map_some, hk]
      rcases hres.1 with he | he
      · exact List.mem_cons.mpr (.inl (he.trans htarget))
      · exact List.mem_cons_of_mem _ (htarget ▸ he)
    | reference column => simp [anchorFor, hk]
    | association table source target => simp [anchorFor, hk]

/-- The relation a later node is joined through belongs to a table of the node it hangs from. -/
theorem Laid.owner_mem (hwf : reg.WellFormed) (h : Laid reg k nodes) {p : Nat} {m : PlannedNode}
    {rel : Relation} (hm : nodes[p]? = some m) (hfind : reg.findRelation? m.entity rel.name = some rel) :
    ∃ a, m.aliasOf? rel.owner = some a ∧ a ∈ m.aliases := by
  obtain ⟨level, hlevel, hrel⟩ := Registry.findRelation?_mem hfind
  obtain ⟨howner, -⟩ := hwf.relations level rel hrel
  apply PlannedNode.aliasOf?_mem
  rw [(h.spans m (List.mem_of_getElem? hm)).tables, howner]
  simp only [Registry.levels, List.mem_append, List.mem_singleton] at hlevel
  rcases hlevel with hl | hl <;> simp [hl]

end Chain

namespace Compiler

variable {c : Compiler} {k : Nat}

theorem node_eq {i : Nat} {n : PlannedNode} (h : c.nodes.toList[i]? = some n) : c.node i = n := by
  simp only [Array.getElem?_toList] at h
  simp [Compiler.node, h]

/-- The primary node's joins are in order after its own table, and introduce the other aliases it
took. -/
theorem rootSteps_introduce (hwf : c.reg.WellFormed) (hlaid : Laid c.reg k c.nodes.toList)
    {n : PlannedNode} (hn : c.nodes.toList[0]? = some n) :
    JoinStep.Ordered [n.ownAlias] (c.levelSteps n true) ∧
      (n.ownAlias :: (c.levelSteps n true).map (·.tableAlias)).Perm n.aliases := by
  have hA := hlaid.anchored hwf hn
  obtain ⟨-, hr⟩ := hlaid.placed 0 n hn
  -- the primary node is reached by no join: its anchor is its own table, and it has no link table
  have hanchor : (n.aliasOf? n.anchor).getD "" = n.ownAlias := by
    rw [hA.spans.anchor, hr]
    exact hA.aliasOf?_entity
  have hlink : n.linkAlias = none := by
    simpa [hr, throughTable] using hA.spans.linkAlias
  refine ⟨levelSteps_ordered hA true (by rw [hanchor]; exact List.mem_singleton_self _), ?_⟩
  have hperm := levelSteps_aliases hA true
  rw [hanchor] at hperm
  simpa [PlannedNode.aliases, hlink] using hperm

/-- A later node's joins are in order once the nodes before it are introduced, and introduce the
aliases it took. -/
theorem nodeSteps_introduce (hwf : c.reg.WellFormed) (hlaid : Laid c.reg k c.nodes.toList)
    {i : Nat} {n : PlannedNode} (hn : c.nodes.toList[i + 1]? = some n) {seen : List String}
    (hseen : ∀ j ≤ i, ∀ m, c.nodes.toList[j]? = some m → ∀ a ∈ m.aliases, a ∈ seen) :
    JoinStep.Ordered seen (c.relationSteps n ++ c.levelSteps n false) ∧
      ((c.relationSteps n ++ c.levelSteps n false).map (·.tableAlias)).Perm n.aliases := by
  have hA := hlaid.anchored hwf hn
  obtain ⟨p, m, rel, hp, hle, hm, hr, hfind, -, -⟩ := hlaid.placed (i + 1) n hn
  obtain ⟨a, ha, hmem⟩ := hlaid.owner_mem hwf hm hfind
  have howner : ((c.node p).aliasOf? rel.owner).getD "" ∈ seen := by
    rw [node_eq hm, ha]
    exact hseen p hle m hm a hmem
  have hrelAliases := relationSteps_tableAliases (c := c) hr hp hA.spans.linkAlias
  refine ⟨(relationSteps_ordered hr hp howner).append (levelSteps_ordered hA false ?_), ?_⟩
  · rw [hrelAliases]
    simp
  · rw [List.map_append, hrelAliases, PlannedNode.aliases, List.append_assoc, List.singleton_append]
    exact (levelSteps_aliases hA false).append_left _

/-- The joins of the nodes from `i + 1` on are in order once the nodes before them are
introduced, and introduce the aliases those nodes took. -/
theorem laterSteps_introduce (hwf : c.reg.WellFormed) (hlaid : Laid c.reg k c.nodes.toList) :
    ∀ (rest : List PlannedNode) (i : Nat) (seen : List String), c.nodes.toList.drop (i + 1) = rest →
      (∀ j ≤ i, ∀ m, c.nodes.toList[j]? = some m → ∀ a ∈ m.aliases, a ∈ seen) →
      JoinStep.Ordered seen (rest.flatMap fun n => c.relationSteps n ++ c.levelSteps n false) ∧
        ((rest.flatMap fun n => c.relationSteps n ++ c.levelSteps n false).map (·.tableAlias)).Perm
          (rest.flatMap PlannedNode.aliases)
  | [], _, _, _, _ => ⟨trivial, by simp⟩
  | n :: rest, i, seen, hdrop, hseen => by
    have hn : c.nodes.toList[i + 1]? = some n := by
      have h0 : (c.nodes.toList.drop (i + 1))[0]? = some n := by rw [hdrop]; rfl
      rwa [List.getElem?_drop, Nat.add_zero] at h0
    have hrest : c.nodes.toList.drop (i + 1 + 1) = rest := by
      rw [← List.drop_drop, hdrop]
      rfl
    obtain ⟨hord, hperm⟩ := nodeSteps_introduce hwf hlaid hn hseen
    -- after node `i + 1`, the aliases it took are introduced too
    obtain ⟨hord', hperm'⟩ := laterSteps_introduce hwf hlaid rest (i + 1)
      (seen ++ (c.relationSteps n ++ c.levelSteps n false).map (·.tableAlias)) hrest (by
        intro j hj m hm a ha
        rcases Nat.lt_or_ge j (i + 1) with hlt | hge
        · exact List.mem_append_left _ (hseen j (by omega) m hm a ha)
        · obtain rfl : j = i + 1 := by omega
          rw [hn] at hm
          cases hm
          exact List.mem_append_right _ (hperm.mem_iff.mpr ha))
    rw [List.flatMap_cons, List.flatMap_cons, List.map_append]
    exact ⟨hord.append hord', hperm.append hperm'⟩

/-- Over a well-formed registry, the joins of a laid-out plan introduce, after the primary node's
own alias, each alias of the plan exactly once, and each compares a column of the table it joins
with a column of a table introduced before it. -/
theorem chain_introduces (hwf : c.reg.WellFormed) (hlaid : Laid c.reg k c.nodes.toList)
    (hne : c.nodes.toList ≠ []) :
    ((c.node 0).ownAlias :: c.chain.map (·.tableAlias)).Perm ((List.range k).map aliasName) ∧
      JoinStep.Ordered [(c.node 0).ownAlias] c.chain := by
  obtain ⟨root, rest, hL⟩ := List.exists_cons_of_ne_nil hne
  have hroot : c.nodes.toList[0]? = some root := by simp [hL]
  obtain ⟨hord, hperm⟩ := rootSteps_introduce hwf hlaid hroot
  obtain ⟨hord', hperm'⟩ := laterSteps_introduce hwf hlaid rest 0
    (root.ownAlias :: (c.levelSteps root true).map (·.tableAlias)) (by simp [hL]) (by
      intro j hj m hm a ha
      obtain rfl : j = 0 := by omega
      rw [hroot] at hm
      cases hm
      exact hperm.mem_iff.mpr ha)
  have hdrop : c.nodes.toList.drop 1 = rest := by simp [hL]
  rw [chain, node_eq hroot, hdrop, ← hlaid.numbered, hL, List.flatMap_cons]
  refine ⟨?_, hord.append (by simpa using hord')⟩
  rw [List.map_append, ← List.cons_append]
  exact hperm.append hperm'

end Compiler

/-! ## Compiled queries -/

/-- The layout of a compiled query is the projection of the compiler over its plan. -/
theorem Query.compile_layout {reg : Registry} {options : CompileOptions} {q : Query}
    {cq : CompiledQuery} (h : q.compile reg options = .ok cq) :
    ∃ nodes, q.plan reg = .ok nodes ∧
      cq.nodes = (Compiler.projection { reg, options, nodes }).2 ∧
      cq.width = (Compiler.projection { reg, options, nodes }).1.length := by
  unfold Query.compile at h
  split at h
  · cases h
  · obtain ⟨nodes, hplan, h⟩ := except_bind_ok h
    obtain ⟨⟨sql, params⟩, -, h⟩ := except_bind_ok h
    cases h
    exact ⟨nodes, hplan, rfl, rfl⟩

/-- What a compiled query `cq` promises about its plan `nodes`, which took `k` aliases:

- the plan hands out `t0`, ..., `t(k-1)` node by node, each node taking the alias of its link
  table (exactly for an association) before those of its tables, and its nodes are the query's
  joins in depth-first order;
- the statement selects from the primary table, or the page subquery in its place, under the
  primary node's own alias, then joins the chain, which with that alias introduces every alias
  exactly once, each join comparing a column of its own table with one of a table introduced
  before it;
- the layout lays out the planned nodes in order, the first of the query's entity with no
  relation, each later one hanging from an earlier one in depth-first order; each has one block per
  table it spans, its own table's first, which is its identity block; each block lists its table's
  primary key first and every column once, and the blocks of all nodes tile the result row. -/
structure CompiledQuery.WellLaid (reg : Registry) (options : CompileOptions) (q : Query)
    (cq : CompiledQuery) (nodes : Array PlannedNode) (k : Nat) : Prop where
  numbered : nodes.toList.flatMap PlannedNode.aliases = (List.range k).map aliasName
  linkAlias : ∀ n ∈ nodes.toList, n.linkAlias.isSome = throughTable n.relation
  joins : nodes.toList.map PlannedNode.key =
    (Join.preorder ⟨"", q.filter, q.order, q.joins⟩).map Join.key
  introduced : ((Compiler.node ⟨reg, options, nodes⟩ 0).ownAlias ::
    (Compiler.chain ⟨reg, options, nodes⟩).map (·.tableAlias)).Perm ((List.range k).map aliasName)
  ordered : JoinStep.Ordered [(Compiler.node ⟨reg, options, nodes⟩ 0).ownAlias]
    (Compiler.chain ⟨reg, options, nodes⟩)
  sql : ∃ head clauses rest,
    (head = Compiler.tableName ⟨reg, options, nodes⟩ q.entity ∨ ∃ sub, head = "(" ++ sub ++ ")") ∧
    cq.sql = "SELECT " ++ ", ".intercalate (Compiler.projection ⟨reg, options, nodes⟩).1 ++
      " FROM " ++ head ++ " " ++ (Compiler.node ⟨reg, options, nodes⟩ 0).ownAlias ++
      String.join ((Compiler.chain ⟨reg, options, nodes⟩).map JoinStep.sql) ++
      Compiler.whereClause clauses ++ " ORDER BY " ++ rest
  laysOut : List.Forall₂ (fun n cn => cn.LaysOut reg n) nodes.toList cq.nodes
  depthFirst : DepthFirst (cq.nodes.map (·.parent))
  root : cq.nodes.head?.map (fun cn => (cn.entity, cn.relation)) = some (q.entity, none)
  blocks : ∀ cn ∈ cq.nodes, cn.blocks.map (·.entity) =
    cn.entity :: (reg.get cn.entity).parents ++ (reg.get cn.entity).implementations.map (·.entity)
  identity : ∀ cn ∈ cq.nodes, cn.identityBlock? = cn.blocks.head?
  columns : ∀ cn ∈ cq.nodes, ∀ b ∈ cn.blocks, b.columns.head? = some (reg.get b.entity).primaryKey ∧
    b.columns.Perm (List.range (reg.get b.entity).columns.length)
  tiles : Tiles 0 (cq.nodes.flatMap (·.blocks)) cq.width

/-- A query that compiles against a well-formed registry is well laid out, over the plan it
compiles. -/
theorem Query.compile_well_laid {reg : Registry} (hwf : reg.WellFormed) {options : CompileOptions}
    {q : Query} {cq : CompiledQuery} (h : q.compile reg options = .ok cq) :
    ∃ nodes k, q.plan reg = .ok nodes ∧ cq.WellLaid reg options q nodes k := by
  obtain ⟨nodes, ps, hlt, hplan, hrun, -⟩ := Query.compile_ok h
  obtain ⟨nodes', hplan', hlayout, hwidth⟩ := Query.compile_layout h
  obtain rfl : nodes = nodes' := by
    rw [hplan] at hplan'
    cases hplan'
    rfl
  obtain ⟨k, hlaid, hkeys, hhead⟩ := Query.plan_laid hplan
  obtain ⟨root, hroot, hentity⟩ : ∃ root, nodes.toList.head? = some root ∧ root.entity = q.entity := by
    simpa using hhead
  obtain ⟨rest, hL⟩ := List.head?_eq_some_iff.mp hroot
  have hne : nodes.toList ≠ [] := by simp [hL]
  have hnode : Compiler.node ⟨reg, options, nodes⟩ 0 = root := Compiler.node_eq (by simp [hL])
  have hfirst : ∀ n, nodes.toList.head? = some n → n.entity.index < reg.size := fun n hn => by
    rw [hroot] at hn
    cases hn
    rwa [hentity]
  have hregistered : ∀ n ∈ nodes.toList, ∀ t ∈ n.tables, t.1.index < reg.size :=
    fun n hn => hlaid.registered hwf hfirst hn
  obtain ⟨hlays, htiles⟩ := Compiler.projection_lays ⟨reg, options, nodes⟩
  rw [← hlayout] at hlays htiles
  rw [← hwidth] at htiles
  obtain ⟨hperm, hord⟩ := Compiler.chain_introduces (c := ⟨reg, options, nodes⟩) hwf hlaid hne
  obtain ⟨head, clauses, rest', hhead', hsql⟩ := Compiler.statement_from hrun
  -- each layout node lays out a planned node, which spans registered tables
  have hnodes : ∀ cn ∈ cq.nodes, ∃ n ∈ nodes.toList, cn.LaysOut reg n ∧ n.Spans reg :=
    fun cn hcn => by
      obtain ⟨n, hn, hl⟩ := laysOut_mem hlays cn hcn
      exact ⟨n, hn, hl, hlaid.spans n hn⟩
  refine ⟨nodes, k, hplan, ⟨hlaid.numbered, fun n hn => (hlaid.spans n hn).linkAlias, hkeys, hperm,
    hord, ⟨head, clauses, rest', ?_, hsql⟩, hlays, ?_, ?_, ?_, ?_, ?_, htiles⟩⟩
  · rwa [hnode, hentity] at hhead'
  · rw [laysOut_parents hlays]
    exact hlaid.depthFirst hne
  · -- the first layout node lays out the query's own node
    rw [hL] at hlays
    obtain ⟨cn, layout, hl, -, hcq⟩ := List.forall₂_cons_left_iff.mp hlays
    obtain ⟨-, hr⟩ := hlaid.placed 0 root (by simp [hL])
    simp [hcq, hl.entity, hl.relation, hentity, hr]
  · intro cn hcn
    obtain ⟨n, -, hl, hs⟩ := hnodes cn hcn
    exact hl.blocks_entities hs
  · intro cn hcn
    obtain ⟨n, -, hl, hs⟩ := hnodes cn hcn
    exact hl.identityBlock?_eq hs
  · intro cn hcn b hb
    obtain ⟨n, hn, hl, -⟩ := hnodes cn hcn
    exact hl.block_columns hwf (hregistered n hn) hb

/-- Teams and their heroes, a hero being a person, and the `team_id` of a hero the back reference
of its team's `members`. -/
def teamsRegistry : Registry :=
  { structures := #[
      { id := ⟨0⟩, name := "Team", table := "team",
        columns := [Column.primary "id", Column.ordinary "title" .text],
        targets := [none, none], primaryKey := 0, parents := [], implementations := [],
        relations :=
          [{ name := "members", owner := ⟨0⟩, target := ⟨1⟩, kind := .children ⟨⟨1⟩, 2⟩ }],
        sequenceColumn := none },
      { id := ⟨1⟩, name := "Hero", table := "hero",
        columns := [Column.primary "id", Column.ordinary "alias" .text,
          Column.reference "team_id" "Team"],
        targets := [none, none, some ⟨0⟩], primaryKey := 0, parents := [⟨2⟩],
        implementations := [], relations := [], sequenceColumn := none },
      { id := ⟨2⟩, name := "Person", table := "person",
        columns := [Column.primary "id", Column.ordinary "name" .text],
        targets := [none, none], primaryKey := 0, parents := [], implementations := [],
        relations := [], sequenceColumn := none }] }

/-- The teams with their members. -/
def teamMembers : Query := { entity := ⟨0⟩, joins := [Join.new "members"] }

theorem teamsRegistry_wellFormed : teamsRegistry.WellFormed := by
  have hsize : teamsRegistry.size = 3 := rfl
  -- a registered number is one of the three entities; any other gives the blank entity
  have hthree : ∀ e : EntityId, e.index < teamsRegistry.size → e = ⟨0⟩ ∨ e = ⟨1⟩ ∨ e = ⟨2⟩ := by
    rintro ⟨i⟩ h
    change i < 3 at h
    simp only [EntityId.mk.injEq]
    omega
  have hblank : ∀ e : EntityId, ¬ e.index < teamsRegistry.size → teamsRegistry.get e = default :=
    fun e he => Registry.get_of_size_le (Nat.not_lt.mp he)
  refine ⟨?_, ?_, ?_, ?_, ?_, ?_, ?_, ?_⟩
  · intro e he
    rcases hthree e he with rfl | rfl | rfl <;> rfl
  · intro e he
    rcases hthree e he with rfl | rfl | rfl <;> decide +kernel
  · intro e he
    rcases hthree e he with rfl | rfl | rfl <;>
      exact ⟨by decide +kernel, fun _ _ => Structure.columnIndex?_eq_some_iff (by decide +kernel),
        by decide +kernel, by decide +kernel, by decide +kernel, by decide +kernel,
        by decide +kernel⟩
  · intro e
    by_cases he : e.index < teamsRegistry.size
    · rcases hthree e he with rfl | rfl | rfl <;> decide +kernel
    · simp [hblank e he]
  · intro e
    by_cases he : e.index < teamsRegistry.size
    · rcases hthree e he with rfl | rfl | rfl <;> decide +kernel
    · simp [hblank e he]
  · intro e p hp
    by_cases he : e.index < teamsRegistry.size
    · rcases hthree e he with rfl | rfl | rfl
      · cases hp
      · cases hp
        rfl
      · cases hp
    · simp [hblank e he, Structure.parent?] at hp
  · intro e
    by_cases he : e.index < teamsRegistry.size
    · rcases hthree e he with rfl | rfl | rfl <;> decide +kernel
    · simp [hblank e he]
  · intro e r hr
    by_cases he : e.index < teamsRegistry.size
    · rcases hthree e he with rfl | rfl | rfl
      · -- the team's one relation: its members, whose `team_id` holds the team's key
        have hr' : r = ⟨"members", ⟨0⟩, ⟨1⟩, .children ⟨⟨1⟩, 2⟩⟩ := List.mem_singleton.mp hr
        subst hr'
        exact ⟨rfl, by decide, by decide +kernel, .inl rfl, by decide +kernel⟩
      · exact absurd hr List.not_mem_nil
      · exact absurd hr List.not_mem_nil
    · simp [hblank e he] at hr

/-- The teams with their members compile to a well-laid-out query. -/
theorem team_members_well_laid : teamsRegistry.WellFormed ∧
    ∃ cq, teamMembers.compile teamsRegistry {} = .ok cq ∧
      ∃ nodes k, teamMembers.plan teamsRegistry = .ok nodes ∧
        cq.WellLaid teamsRegistry {} teamMembers nodes k :=
  -- the kernel runs the compiler; the compiled query is the one it returns
  have hcq := Except.eq_ok_of_isSome (x := teamMembers.compile teamsRegistry {}) (by decide +kernel)
  ⟨teamsRegistry_wellFormed, _, hcq, Query.compile_well_laid teamsRegistry_wellFormed hcq⟩

end EntityGraph
