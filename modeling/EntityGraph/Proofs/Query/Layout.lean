import EntityGraph.Proofs.Query.Planning
import EntityGraph.Proofs.Schema.WellFormed

/-!
# Result layout

A compiled query says where the columns of each table sit in a result row: one block per table of
each planned node, in the order of the node's tables, each block listing the table's columns
primary key first. Rows are read only through these offsets, so they must agree with the columns
the statement selects.

- `Tiles start blocks stop`: the blocks lie one after another from column `start` to `stop`.
- `CompiledNode.LaysOut`: a layout node has the entity, parent and relation of its planned node,
  and one block per table of it, with the table's alias and columns.
- `Compiler.projection_lays`: the projection lays out every planned node in order, and the blocks
  of all nodes tile the selected columns from the first to the last.
- `Structure.projection_perm`: a block lists its primary key first and every column of the table
  exactly once.
-/

namespace EntityGraph

/-! ## Blocks side by side -/

/-- The blocks lie one after another from column `start`, the last ending at column `stop`. -/
def Tiles : Nat → List ProjectionBlock → Nat → Prop
  | start, [], stop => start = stop
  | start, b :: bs, stop => b.offset = start ∧ Tiles (start + b.columns.length) bs stop

theorem Tiles.append {a b c : Nat} :
    ∀ {xs ys : List ProjectionBlock}, Tiles a xs b → Tiles b ys c → Tiles a (xs ++ ys) c
  | [], _, hx, hy => by
    cases hx
    exact hy
  | x :: xs, _, hx, hy => ⟨hx.1, Tiles.append hx.2 hy⟩

/-! ## Columns of a table -/

namespace Structure

@[simp] theorem projection_head? (s : Structure) : s.projection.head? = some s.primaryKey := rfl

/-- A table's block lists its primary key and then every other column once: every column exactly
once. -/
theorem projection_perm {s : Structure} (h : s.primaryKey < s.columns.length) :
    s.projection.Perm (List.range s.columns.length) := by
  have hmem : s.primaryKey ∈ List.range s.columns.length := List.mem_range.mpr h
  rw [projection, ← List.nodup_range.erase_eq_filter]
  exact (List.perm_cons_erase hmem).symm

end Structure

/-! ## The projection -/

namespace Compiler

/-- What the projection does for one table of a node: select the table's columns and add its block
where they start. -/
def tableStep (c : Compiler) :
    List String × List ProjectionBlock → EntityId × String → List String × List ProjectionBlock :=
  fun (columns, blocks) (table, aliasName) =>
    let s := c.reg.get table
    let proj := s.projection
    let block : ProjectionBlock :=
      { entity := table, tableAlias := aliasName, offset := columns.length, columns := proj }
    (columns ++ proj.map (fun i => aliasName ++ "." ++ ((s.column? i).map (·.name)).getD ""),
      blocks ++ [block])

/-- What the projection does for one node: its tables in turn, then its layout node. -/
def nodeStep (c : Compiler) :
    List String × List CompiledNode → PlannedNode → List String × List CompiledNode :=
  fun (columns, compiled) n =>
    let (columns, blocks) := n.tables.foldl c.tableStep (columns, [])
    let node : CompiledNode :=
      { entity := n.entity, parent := n.parent, relation := n.relation.map (·.name), blocks }
    (columns, compiled ++ [node])

theorem projection_eq (c : Compiler) : c.projection = c.nodes.toList.foldl c.nodeStep ([], []) := rfl

end Compiler

/-- A layout node lays out a planned node: it has the node's entity, parent and relation name, and
one block per table of the node, in order, with the table's alias and the table's columns. -/
structure CompiledNode.LaysOut (reg : Registry) (cn : CompiledNode) (n : PlannedNode) : Prop where
  entity : cn.entity = n.entity
  parent : cn.parent = n.parent
  relation : cn.relation = n.relation.map (·.name)
  tables : cn.blocks.map (fun b => (b.entity, b.tableAlias)) = n.tables
  columns : ∀ b ∈ cn.blocks, b.columns = (reg.get b.entity).projection

section Folds

variable {reg : Registry}

/-- Adding the block of each table in turn, each at the column where the selected columns end,
lays the tables' blocks side by side after the columns already selected. -/
theorem foldl_blocks
    {f : List String × List ProjectionBlock → EntityId × String → List String × List ProjectionBlock}
    (hf : ∀ cols bs t a, ∃ names, f (cols, bs) (t, a) =
      (cols ++ names, bs ++ [⟨t, a, cols.length, (reg.get t).projection⟩]) ∧
        names.length = (reg.get t).projection.length) :
    ∀ (tables : List (EntityId × String)) (cols : List String) (bs : List ProjectionBlock),
      ∃ names blocks, tables.foldl f (cols, bs) = (cols ++ names, bs ++ blocks) ∧
        blocks.map (fun b => (b.entity, b.tableAlias)) = tables ∧
        (∀ b ∈ blocks, b.columns = (reg.get b.entity).projection) ∧
        Tiles cols.length blocks (cols.length + names.length)
  | [], cols, bs => ⟨[], [], by simp, rfl, by simp, by simp [Tiles]⟩
  | (t, a) :: tables, cols, bs => by
    obtain ⟨names₁, hstep, hlen⟩ := hf cols bs t a
    obtain ⟨names₂, blocks, hfold, htables, hcolumns, htiles⟩ :=
      foldl_blocks hf tables (cols ++ names₁) (bs ++ [⟨t, a, cols.length, (reg.get t).projection⟩])
    refine ⟨names₁ ++ names₂, ⟨t, a, cols.length, (reg.get t).projection⟩ :: blocks, ?_, ?_, ?_, ?_⟩
    · rw [List.foldl_cons, hstep, hfold]
      simp
    · simp [htables]
    · intro b hb
      rcases List.mem_cons.mp hb with rfl | hb
      · rfl
      · exact hcolumns b hb
    · refine ⟨rfl, ?_⟩
      simpa [hlen, Nat.add_assoc] using htiles

/-- Adding one layout node per planned node, each laid out at the column where the selected
columns end, lays out the planned nodes in order with their blocks side by side. -/
theorem foldl_layout
    {g : List String × List CompiledNode → PlannedNode → List String × List CompiledNode}
    (hg : ∀ cols comp n, ∃ names cn, g (cols, comp) n = (cols ++ names, comp ++ [cn]) ∧
      cn.LaysOut reg n ∧ Tiles cols.length cn.blocks (cols.length + names.length)) :
    ∀ (nodes : List PlannedNode) (cols : List String) (comp : List CompiledNode),
      ∃ names layout, nodes.foldl g (cols, comp) = (cols ++ names, comp ++ layout) ∧
        List.Forall₂ (fun n cn => cn.LaysOut reg n) nodes layout ∧
        Tiles cols.length (layout.flatMap (·.blocks)) (cols.length + names.length)
  | [], cols, comp => ⟨[], [], by simp, .nil, by simp [Tiles]⟩
  | n :: nodes, cols, comp => by
    obtain ⟨names₁, cn, hstep, hlays, htiles₁⟩ := hg cols comp n
    obtain ⟨names₂, layout, hfold, hall, htiles₂⟩ := foldl_layout hg nodes (cols ++ names₁) (comp ++ [cn])
    refine ⟨names₁ ++ names₂, cn :: layout, ?_, .cons hlays hall, ?_⟩
    · rw [List.foldl_cons, hstep, hfold]
      simp
    · rw [List.flatMap_cons]
      refine htiles₁.append ?_
      simpa [Nat.add_assoc] using htiles₂

end Folds

/-- The projection lays out every planned node, in order, and the blocks of all nodes lie side by
side over the selected columns, from the first to the last. -/
theorem Compiler.projection_lays (c : Compiler) :
    List.Forall₂ (fun n cn => cn.LaysOut c.reg n) c.nodes.toList c.projection.2 ∧
      Tiles 0 (c.projection.2.flatMap (·.blocks)) c.projection.1.length := by
  -- each node's tables are laid out by the table steps, from where the columns so far end
  have hnode : ∀ cols comp n, ∃ names cn, c.nodeStep (cols, comp) n = (cols ++ names, comp ++ [cn]) ∧
      cn.LaysOut c.reg n ∧ Tiles cols.length cn.blocks (cols.length + names.length) := by
    intro cols comp n
    obtain ⟨names, blocks, hfold, htables, hcolumns, htiles⟩ :=
      @foldl_blocks c.reg c.tableStep (fun cols bs t a => ⟨_, rfl, by simp⟩) n.tables cols []
    refine ⟨names,
      { entity := n.entity, parent := n.parent, relation := n.relation.map (·.name),
        blocks := blocks }, ?_, ⟨rfl, rfl, rfl, htables, hcolumns⟩, htiles⟩
    simp only [Compiler.nodeStep, hfold, List.nil_append]
  obtain ⟨names, layout, hfold, hall, htiles⟩ := foldl_layout hnode c.nodes.toList [] []
  rw [Compiler.projection_eq, hfold]
  exact ⟨hall, by simpa using htiles⟩

/-! ## Layouts over well-formed registries -/

/-- The relation found under a name on an entity is declared by one of its levels. -/
theorem Registry.findRelation?_mem {reg : Registry} {e : EntityId} {name : String} {r : Relation}
    (h : reg.findRelation? e name = some r) : ∃ level ∈ reg.levels e, r ∈ (reg.get level).relations := by
  unfold Registry.findRelation? at h
  obtain ⟨level, hl, hr⟩ := List.exists_of_findSome?_eq_some h
  exact ⟨level, List.mem_reverse.mp hl, List.mem_of_find?_eq_some hr⟩

section Registered

variable {reg : Registry} {k : Nat} {nodes : List PlannedNode}

/-- Over a well-formed registry, when the first node of a laid-out plan is of a registered entity,
so is every table of every node: each later node is of the target of a registered relation, and
ancestors and implementations are registered. -/
theorem Laid.registered (hwf : reg.WellFormed) (h : Laid reg k nodes)
    (hroot : ∀ n, nodes.head? = some n → n.entity.index < reg.size) {n : PlannedNode}
    (hn : n ∈ nodes) : ∀ t ∈ n.tables, t.1.index < reg.size := by
  obtain ⟨i, hi⟩ := List.mem_iff_getElem?.mp hn
  have hentity : n.entity.index < reg.size := by
    cases i with
    | zero => exact hroot n (by rw [List.head?_eq_getElem?]; exact hi)
    | succ i =>
      obtain ⟨p, m, rel, -, -, -, -, hfind, htarget, -⟩ := h.placed (i + 1) n hi
      obtain ⟨level, -, hrel⟩ := Registry.findRelation?_mem hfind
      exact htarget ▸ (hwf.relations level rel hrel).2.1
  intro t ht
  have hmem : t.1 ∈ n.tables.map (·.1) := List.mem_map_of_mem ht
  rw [(h.spans n hn).tables] at hmem
  simp only [List.mem_cons, List.mem_append, List.mem_map] at hmem
  rcases hmem with (he | hp) | ⟨im, him, he⟩
  · exact he ▸ hentity
  · exact hwf.parents_lt _ _ hp
  · exact he ▸ (hwf.implementations _ im him).1

end Registered

namespace CompiledNode.LaysOut

variable {reg : Registry} {cn : CompiledNode} {n : PlannedNode}

/-- The blocks of a layout node are those of its entity's tables: its own, its ancestors' root
first, then its implementations'. -/
theorem blocks_entities (h : cn.LaysOut reg n) (hs : n.Spans reg) :
    cn.blocks.map (·.entity) =
      cn.entity :: (reg.get cn.entity).parents ++ (reg.get cn.entity).implementations.map (·.entity) := by
  have htables := congrArg (List.map Prod.fst) h.tables
  rw [List.map_map] at htables
  rw [h.entity, ← hs.tables, ← htables]
  rfl

/-- The identity block of a layout node is its first block, that of its own table. -/
theorem identityBlock?_eq (h : cn.LaysOut reg n) (hs : n.Spans reg) :
    cn.identityBlock? = cn.blocks.head? := by
  have hb := h.blocks_entities hs
  cases hbl : cn.blocks with
  | nil => simp [hbl] at hb
  | cons b rest =>
    have he : b.entity = cn.entity := by
      simp only [hbl, List.map_cons, List.cons_append, List.cons.injEq] at hb
      exact hb.1
    simp [CompiledNode.identityBlock?, hbl, he]

/-- Over a well-formed registry, a block of a registered table lists the table's primary key
first and every column of the table exactly once. -/
theorem block_columns (hwf : reg.WellFormed) (h : cn.LaysOut reg n)
    (hreg : ∀ t ∈ n.tables, t.1.index < reg.size) {b : ProjectionBlock} (hb : b ∈ cn.blocks) :
    b.columns.head? = some (reg.get b.entity).primaryKey ∧
      b.columns.Perm (List.range (reg.get b.entity).columns.length) := by
  have hin : (b.entity, b.tableAlias) ∈ n.tables := by
    rw [← h.tables]
    exact List.mem_map.mpr ⟨b, hb, rfl⟩
  rw [h.columns b hb]
  exact ⟨Structure.projection_head? _,
    Structure.projection_perm (hwf.columned _ (hreg _ hin)).primaryKey_lt⟩

end CompiledNode.LaysOut

section Layouts

variable {reg : Registry} {planned : List PlannedNode} {layout : List CompiledNode}

/-- A layout has the parents of the plan it lays out. -/
theorem laysOut_parents (h : List.Forall₂ (fun n cn => cn.LaysOut reg n) planned layout) :
    layout.map (·.parent) = planned.map (·.parent) := by
  induction h with
  | nil => rfl
  | cons hl _ ih => simp [hl.parent, ih]

/-- Each node of a layout lays out a node of the plan. -/
theorem laysOut_mem (h : List.Forall₂ (fun n cn => cn.LaysOut reg n) planned layout) :
    ∀ cn ∈ layout, ∃ n ∈ planned, cn.LaysOut reg n := by
  induction h with
  | nil => simp
  | cons hl _ ih =>
    intro cn hcn
    rcases List.mem_cons.mp hcn with rfl | hcn
    · exact ⟨_, List.mem_cons_self, hl⟩
    · obtain ⟨n, hn, hlays⟩ := ih cn hcn
      exact ⟨n, List.mem_cons_of_mem _ hn, hlays⟩

end Layouts

end EntityGraph
