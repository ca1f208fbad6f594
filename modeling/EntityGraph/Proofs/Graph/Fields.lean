import EntityGraph.Proofs.Schema.Slots
import EntityGraph.Proofs.Session.Run
import EntityGraph.Proofs.Query.Reuse
import EntityGraph.Graph.Tree
import EntityGraph.Query.Resolve

/-!
# Three readings of a field name

A field name of an entity denotes a column of one of the tables its instances span. Three places
resolve it: `Session.locate`, behind reading and writing a field (`getField`, `setField`);
`resolveIn`, behind the filters and orderings of a compiled query; and `Instance.treeFields`,
behind the tree export.

`locate` and `resolveIn` search alike: the entity's own table, its ancestors nearest first, then
its implementations (`Registry.fieldColumn?`). So a filter or an ordering on a field reads the
column, under its table's alias, that reading and writing the field use
(`resolveIn_eq_some_iff`).

The tree export reads the entity's own table first and then every other table in layout order,
ancestors root first. Over an instance whose rows are all loaded, a slot search in layout order is
a table search read at each table's first slot (`findSome?_range_eq_columnIn`), so the tree agrees
with reading the field whenever the two orders pick the same table: when the entity's own table
has the column, or when at most one ancestor has it (`tree_field_eq_getField`). A name that two
ancestors declare and the entity does not is read from the nearer one but shown from the root
side (`shadowed_field_tree_differs`). Main statement: `field_readings_agree`.
-/

namespace EntityGraph

/-! ## Searching tables for a column -/

namespace Registry

variable {reg : Registry}

/-- The first of the given tables that has a column of the given name, with the column's
position. -/
def columnIn (reg : Registry) (field : String) (tables : List EntityId) : Option (EntityId × Nat) :=
  tables.findSome? fun t => ((reg.get t).columnIndex? field).map (t, ·)

/-- Whether a table has a column of the given name. -/
def declares (reg : Registry) (field : String) (t : EntityId) : Bool :=
  ((reg.get t).columnIndex? field).isSome

/-- Where reading, writing and querying look for a field of an entity: its own table, its
ancestors nearest first, then its implementations. -/
def fieldColumn? (reg : Registry) (e : EntityId) (field : String) : Option (EntityId × Nat) :=
  reg.columnIn field (e :: (reg.get e).parents.reverse ++ (reg.get e).implementations.map (·.entity))

@[simp] theorem columnIn_nil (field : String) : reg.columnIn field [] = none := rfl

theorem columnIn_cons (field : String) (t : EntityId) (ts : List EntityId) :
    reg.columnIn field (t :: ts) =
      (((reg.get t).columnIndex? field).map (t, ·)).or (reg.columnIn field ts) := by
  simp only [columnIn, List.findSome?_cons]
  cases (reg.get t).columnIndex? field <;> rfl

theorem columnIn_append (field : String) (ts us : List EntityId) :
    reg.columnIn field (ts ++ us) = (reg.columnIn field ts).or (reg.columnIn field us) :=
  List.findSome?_append

/-- The search finds the first table that declares the name. -/
theorem columnIn_eq_find? (field : String) (ts : List EntityId) :
    reg.columnIn field ts =
      (ts.find? (reg.declares field)).bind fun t => ((reg.get t).columnIndex? field).map (t, ·) := by
  induction ts with
  | nil => rfl
  | cons t ts ih =>
    rw [columnIn_cons, ih, List.find?_cons]
    cases h : (reg.get t).columnIndex? field <;> simp [declares, h]

/-- A search finds the same table forwards and backwards when at most one table declares the
name. -/
theorem columnIn_reverse (field : String) {ts : List EntityId}
    (h : (ts.filter (reg.declares field)).length ≤ 1) :
    reg.columnIn field ts.reverse = reg.columnIn field ts := by
  rw [columnIn_eq_find?, columnIn_eq_find?, ← List.head?_filter, ← List.head?_filter,
    List.filter_reverse]
  -- a list of at most one element is its own reverse
  match hf : ts.filter (reg.declares field), h with
  | [], _ => rfl
  | [_], _ => rfl

/-- A found table declares the name, at the position found. -/
theorem columnIn_some {field : String} {ts : List EntityId} {t : EntityId} {idx : Nat}
    (h : reg.columnIn field ts = some (t, idx)) :
    t ∈ ts ∧ (reg.get t).columnIndex? field = some idx := by
  obtain ⟨l₁, a, l₂, rfl, ha, -⟩ := List.findSome?_eq_some_iff.mp h
  obtain ⟨i, hi, hia⟩ := Option.map_eq_some_iff.mp ha
  cases hia
  exact ⟨by simp, hi⟩

theorem fieldColumn?_eq (e : EntityId) (field : String) :
    reg.fieldColumn? e field =
      ((reg.findColumn? e field).map fun p => (p.entity, p.index)).or
        ((reg.get e).implementations.findSome? fun impl =>
          ((reg.get impl.entity).columnIndex? field).map (impl.entity, ·)) := by
  rw [fieldColumn?, columnIn_append, findColumn?, List.map_findSome?, columnIn, columnIn,
    List.findSome?_map]
  simp only [levels, List.reverse_append, List.reverse_singleton, List.singleton_append,
    Function.comp_def, Option.map_map]

end Registry

/-! ## Reading, writing and querying search alike -/

namespace Session

variable {reg : Registry} {e : EntityId} {field : String}

/-- `locate` answers the table and column that `fieldColumn?` finds. -/
theorem locate_eq (reg : Registry) (e : EntityId) (field : String) :
    locate reg e field = match reg.fieldColumn? e field with
      | some (t, idx) => match (reg.get t).column? idx with
        | some c => .ok (t, idx, c)
        | none => .error (.build .unknownColumn (some (reg.get e).name) (some field) "no such field")
      | none => .error (.build .unknownColumn (some (reg.get e).name) (some field) "no such field") := by
  rw [Registry.fieldColumn?_eq]
  unfold locate
  cases reg.findColumn? e field <;> rfl

theorem locate_eq_ok_iff {t : EntityId} {idx : Nat} {c : Column} :
    locate reg e field = .ok (t, idx, c) ↔
      reg.fieldColumn? e field = some (t, idx) ∧ (reg.get t).column? idx = some c := by
  rw [locate_eq]
  rcases reg.fieldColumn? e field with _ | ⟨t', idx'⟩
  · simp
  · cases hc : (reg.get t').column? idx' with
    | none =>
      simp only [hc, reduceCtorEq, Option.some.injEq, Prod.mk.injEq, false_iff, not_and]
      rintro ⟨rfl, rfl⟩
      simp [hc]
    | some c' =>
      simp only [hc, Except.ok.injEq, Prod.mk.injEq, Option.some.injEq]
      constructor
      · rintro ⟨rfl, rfl, rfl⟩
        exact ⟨⟨rfl, rfl⟩, hc⟩
      · rintro ⟨⟨rfl, rfl⟩, h⟩
        rw [hc] at h
        exact ⟨rfl, rfl, Option.some.inj h⟩

end Session

/-- A filter or an ordering on a field of a node reads, under the alias of its table, the column
that reading and writing the field use on the node's entity. -/
theorem resolveIn_eq_locate (reg : Registry) (nodes : Array PlannedNode) (k : Nat) (field : String) :
    resolveIn reg nodes k field = nodes[k]?.bind fun n =>
      (Session.locate reg n.entity field).toOption.bind fun (t, _, c) =>
        (n.aliasOf? t).map fun a => { sql := a ++ "." ++ c.name, type := c.type, node := k } := by
  unfold resolveIn
  cases nodes[k]? with
  | none => rfl
  | some n =>
    simp only [Option.bind_eq_bind, Option.bind_some, Session.locate_eq, Registry.fieldColumn?_eq]
    cases reg.findColumn? n.entity field with
    | some p =>
      simp only [Option.map_some, Option.some_or]
      cases ha : n.aliasOf? p.entity <;> cases hc : (reg.get p.entity).column? p.index <;>
        simp [ha, Except.toOption]
    | none =>
      simp only [Option.map_none, Option.none_or]
      cases (reg.get n.entity).implementations.findSome? (fun impl =>
          ((reg.get impl.entity).columnIndex? field).map (impl.entity, ·)) with
      | none => rfl
      | some p =>
        obtain ⟨t, idx⟩ := p
        cases ha : n.aliasOf? t <;> cases hc : (reg.get t).column? idx <;>
          simp [ha, hc, Except.toOption]

/-! ## The tree export -/

section Search

variable {α β : Type}

theorem findSome?_cons_or (f : α → Option β) (x : α) (l : List α) :
    (x :: l).findSome? f = (f x).or (l.findSome? f) := by
  rw [List.findSome?_cons]
  cases f x <;> rfl

/-- Searching a numbered list for an element's first place. -/
theorem find?_zipIdx (p : α → Bool) :
    ∀ (l : List α) (n : Nat), ((l.zipIdx n).find? (p ·.1)).map (·.2) = (l.findIdx? p).map (· + n)
  | [], _ => rfl
  | x :: l, n => by
    rw [List.zipIdx_cons, List.find?_cons, List.findIdx?_cons]
    cases hx : p x
    · simp only [Bool.false_eq_true, if_false, find?_zipIdx p l (n + 1), Option.map_map]
      congr 1
      funext k
      simp only [Function.comp_apply]
      omega
    · simp

theorem findSome?_congr {f g : α → Option β} :
    ∀ {l : List α}, (∀ x ∈ l, f x = g x) → l.findSome? f = l.findSome? g
  | [], _ => rfl
  | x :: l, h => by
    rw [List.findSome?_cons, List.findSome?_cons, h x (by simp),
      findSome?_congr fun y hy => h y (List.mem_cons_of_mem x hy)]

/-- Leaving out elements where the search finds nothing changes nothing. -/
theorem findSome?_filter {p : α → Bool} {g : α → Option β} :
    ∀ {l : List α}, (∀ x ∈ l, p x = false → g x = none) → (l.filter p).findSome? g = l.findSome? g
  | [], _ => rfl
  | x :: l, h => by
    have ih := findSome?_filter fun y hy => h y (List.mem_cons_of_mem x hy)
    rw [List.filter_cons, List.findSome?_cons]
    cases hp : p x
    · rw [h x (by simp) hp, if_neg (by simp), ih]
    · rw [if_pos rfl, List.findSome?_cons, ih]

end Search

namespace Instance

variable {reg : Registry} {store : RowStore} {i : Instance} {field : String}

/-- An instance spans the tables of its entity: its layout is the entity's, and its first
`levelCount` tables are the inheritance levels. -/
structure Spans (reg : Registry) (i : Instance) : Prop where
  layout : i.layout = reg.tableLayout i.entity
  levelCount : i.levelCount = (reg.get i.entity).parents.length + 1

theorem spans_unloaded (reg : Registry) (e : EntityId) : (unloaded reg e).Spans reg := ⟨rfl, rfl⟩

/-- Every slot of the instance holds a row. -/
def Loaded (i : Instance) : Prop := ∀ s < i.layout.length, (i.row? s).isSome

/-- What the tree shows for a field name from one slot: the value of the column of that name in
the slot's table, when the slot holds a row and the table has such a column. -/
def slotField (i : Instance) (reg : Registry) (store : RowStore) (field : String) (slot : Nat) :
    Option Json :=
  if (i.row? slot).isNone then none
  else ((reg.get ((i.layout[slot]?).getD default)).columnIndex? field).map fun idx =>
    (i.value store slot idx).toJson

/-- The order in which the tree reads slots: the entity's own table, then the others in layout
order. -/
def treeOrder (i : Instance) : List Nat :=
  i.leafSlot :: (List.range i.layout.length).filter (· != i.leafSlot)

/-- Adding the columns of one table adds each name not shown yet, with its first column. -/
theorem lookup_foldl_fresh (val : Nat → Json) (field : String) :
    ∀ (cols : List (Column × Nat)) (fields : List (String × Json)),
      (cols.foldl (fun fs p =>
          if fs.any (·.1 == p.1.name) then fs else fs ++ [(p.1.name, val p.2)]) fields).lookup field =
        (fields.lookup field).or ((cols.find? (·.1.name == field)).map fun p => val p.2)
  | [], fields => by simp
  | (c, index) :: cols, fields => by
    rw [List.foldl_cons, lookup_foldl_fresh val field cols, List.find?_cons]
    dsimp only
    by_cases hname : c.name = field
    · -- the name is shown already, or it is shown now with this column
      subst hname
      split
      · next hany =>
        have hsome : (fields.lookup c.name).isSome := by rwa [lookup_isSome]
        obtain ⟨v, hv⟩ := Option.isSome_iff_exists.mp hsome
        simp [hv]
      · next hany =>
        have hnone : fields.lookup c.name = none := by
          rw [← Option.not_isSome_iff_eq_none, lookup_isSome]
          exact hany
        simp [List.lookup_append, hnone]
    · have hne : (c.name == field) = false := by simpa using hname
      have hne' : (field == c.name) = false := by simpa using Ne.symm hname
      split <;> simp [List.lookup_append, List.lookup_cons, hne, hne']

/-- The field a tree shows for a name is the one of the first slot, in the tree's order, that
has it. -/
theorem treeFields_lookup (i : Instance) (reg : Registry) (store : RowStore) (field : String) :
    (i.treeFields reg store).lookup field = i.treeOrder.findSome? (i.slotField reg store field) := by
  -- the fields so far answer first; each slot adds only names not shown yet
  suffices h : ∀ (order : List Nat) (fields : List (String × Json)),
      (order.foldl (fun fields slot => if (i.row? slot).isNone then fields else
        (reg.get ((i.layout[slot]?).getD default)).columns.zipIdx.foldl (fun fs p =>
          if fs.any (·.1 == p.1.name) then fs else fs ++ [(p.1.name, (i.value store slot p.2).toJson)])
          fields) fields).lookup field =
        (fields.lookup field).or (order.findSome? (i.slotField reg store field)) from
    h i.treeOrder []
  intro order
  induction order with
  | nil => simp
  | cons s order ih =>
    intro fields
    rw [List.foldl_cons, ih, findSome?_cons_or, ← Option.or_assoc]
    congr 1
    unfold slotField
    by_cases hrow : (i.row? s).isNone = true
    · simp [hrow]
    · simp only [hrow, Bool.false_eq_true, if_false]
      have hidx := find?_zipIdx (fun c : Column => c.name == field)
        (reg.get ((i.layout[s]?).getD default)).columns 0
      simp only [Nat.add_zero, Option.map_id'] at hidx
      rw [lookup_foldl_fresh (fun idx => (i.value store s idx).toJson), Structure.columnIndex?,
        ← hidx, Option.map_map]
      rfl

theorem Spans.leafSlot_eq (hs : i.Spans reg) : i.leafSlot = (reg.get i.entity).parents.length := by
  simp [leafSlot, hs.levelCount]

theorem Spans.layout_leafSlot (hs : i.Spans reg) : i.layout[i.leafSlot]? = some i.entity := by
  rw [hs.layout, hs.leafSlot_eq, Registry.tableLayout, Registry.levels, List.append_assoc,
    List.getElem?_append_right (Nat.le_refl _)]
  simp

/-- The entity's own table has its slot at the end of the levels. -/
theorem Spans.slotOf_entity (hwf : reg.WellFormed) (hs : i.Spans reg) :
    i.slotOf i.entity = some i.leafSlot := by
  have hlt : i.leafSlot < i.layout.length := (List.getElem?_eq_some_iff.mp hs.layout_leafSlot).1
  refine List.findIdx?_eq_some_iff_getElem.mpr ⟨hlt, ?_, fun j hj => ?_⟩
  · simp [(List.getElem?_eq_some_iff.mp hs.layout_leafSlot).2]
  · -- a table before it is an ancestor, and an entity is not its own ancestor
    have hj' : j < (reg.get i.entity).parents.length := hs.leafSlot_eq ▸ hj
    have hget : i.layout[j] = (reg.get i.entity).parents[j] := by
      simp only [hs.layout, Registry.tableLayout, Registry.levels, List.append_assoc]
      rw [List.getElem_append_left hj']
    have hne : (reg.get i.entity).parents[j] ≠ i.entity := fun h =>
      (hwf.parents_nodup i.entity).2 (List.mem_iff_getElem.mpr ⟨j, hj', h⟩)
    rw [hget]
    simpa using hne

end Instance

namespace Registry

/-- Searching slots in layout order is searching the tables in layout order and reading at the
first slot of the table found. -/
theorem findSome?_range_eq_columnIn {β : Type} (reg : Registry) (field : String) :
    ∀ (L : List EntityId) (V : Nat → Nat → β),
      (List.range L.length).findSome? (fun s =>
          ((reg.get ((L[s]?).getD default)).columnIndex? field).map (V s)) =
        (reg.columnIn field L).bind fun p => (L.findIdx? (· == p.1)).map (V · p.2)
  | [], _ => rfl
  | t :: L, V => by
    rw [List.length_cons, List.range_succ_eq_map, findSome?_cons_or, List.findSome?_map,
      columnIn_cons]
    simp only [Function.comp_def, Nat.succ_eq_add_one, List.getElem?_cons_succ,
      List.getElem?_cons_zero, Option.getD_some]
    cases hG : (reg.get t).columnIndex? field with
    | some idx => simp [List.findIdx?_cons]
    | none =>
      simp only [Option.map_none, Option.none_or]
      rw [findSome?_range_eq_columnIn reg field L fun s => V (s + 1)]
      cases hc : reg.columnIn field L with
      | none => rfl
      | some p =>
        -- the table found declares the name and the first one does not, so they differ
        have ht : t ≠ p.1 := by
          have hp := (columnIn_some hc).2
          rintro rfl
          rw [hG] at hp
          cases hp
        simp [List.findIdx?_cons, ht, Option.map_map, Function.comp_def]

end Registry

/-- A position found by name is the position of a column. -/
theorem Structure.column?_of_columnIndex? {s : Structure} {field : String} {idx : Nat}
    (h : s.columnIndex? field = some idx) : ∃ c, s.column? idx = some c := by
  obtain ⟨hlt, -, -⟩ := List.findIdx?_eq_some_iff_getElem.mp h
  exact ⟨s.columns[idx], List.getElem?_eq_getElem hlt⟩

namespace Session

variable {τ : Type}

/-- Reading a field reads the column `locate` finds, in its table's slot. -/
theorem run_getField (h : InstanceId) (field : String) (w : World τ) :
    ((getField h field).run.run w).1 = match w.session.arena.get? h with
      | some i => (locate w.engine.reg i.entity field).map fun p =>
          match i.slotOf p.1 with
          | some s => i.value w.engine.pool.store s p.2.1
          | none => .null
      | none => .error (unknownInstance h) := by
  simp only [getField, run_bind, run_getInstance, run_registry]
  cases w.session.arena.get? h with
  | none => rfl
  | some i =>
    simp only [run_ofExcept]
    cases locate w.engine.reg i.entity field with
    | error e => rfl
    | ok p =>
      obtain ⟨t, idx, c⟩ := p
      cases hslot : i.slotOf t <;> simp [hslot, Except.map] <;> rfl

end Session

/-- Over an instance whose rows are all loaded, the tree shows for a field what reading the field
gives, when the entity's own table has the field or at most one of its ancestors has it. -/
theorem tree_field_eq_getField {τ : Type} {w : World τ} {h : InstanceId} {i : Instance}
    (hwf : w.engine.reg.WellFormed) (hi : w.session.arena.get? h = some i)
    (hs : i.Spans w.engine.reg) (hl : i.Loaded) {field : String}
    (hf : w.engine.reg.declares field i.entity = true ∨
      ((w.engine.reg.get i.entity).parents.filter (w.engine.reg.declares field)).length ≤ 1) :
    (i.treeFields w.engine.reg w.engine.pool.store).lookup field =
      ((Session.getField h field).run.run w).1.toOption.map Value.toJson := by
  rw [Instance.treeFields_lookup, Session.run_getField, hi]
  dsimp only
  have hleaf : (i.layout[i.leafSlot]?).getD default = i.entity := by
    rw [hs.layout_leafSlot]
    rfl
  have hleafLoaded : (i.row? i.leafSlot).isNone = false := by
    have := hl i.leafSlot (List.getElem?_eq_some_iff.mp hs.layout_leafSlot).1
    simpa using this
  by_cases hown : w.engine.reg.declares field i.entity = true
  · -- the own table has the field: both read it in the own slot
    obtain ⟨idx, hidx⟩ := Option.isSome_iff_exists.mp hown
    obtain ⟨c, hc⟩ := Structure.column?_of_columnIndex? hidx
    have hfc : w.engine.reg.fieldColumn? i.entity field = some (i.entity, idx) := by
      rw [Registry.fieldColumn?, Registry.columnIn_append, Registry.columnIn_cons, hidx]
      rfl
    rw [Session.locate_eq_ok_iff.mpr ⟨hfc, hc⟩]
    simp only [Except.map, Except.toOption, Option.map_some]
    rw [hs.slotOf_entity hwf, Instance.treeOrder, findSome?_cons_or]
    simp [Instance.slotField, hleafLoaded, hleaf, hidx]
  · have hnone : (w.engine.reg.get i.entity).columnIndex? field = none := by
      simpa [Registry.declares] using hown
    have hone := hf.resolve_left hown
    -- the tree passes over the own slot, then reads the slots in layout order
    have htree : i.treeOrder.findSome? (i.slotField w.engine.reg w.engine.pool.store field) =
        (w.engine.reg.columnIn field i.layout).bind fun p =>
          (i.layout.findIdx? (· == p.1)).map fun s => (i.value w.engine.pool.store s p.2).toJson := by
      have hskip : i.slotField w.engine.reg w.engine.pool.store field i.leafSlot = none := by
        simp [Instance.slotField, hleafLoaded, hleaf, hnone]
      rw [Instance.treeOrder, findSome?_cons_or, hskip, Option.none_or,
        findSome?_filter (fun s _ hs' => by simp only [bne_eq_false_iff_eq] at hs'; rw [hs']; exact hskip),
        ← Registry.findSome?_range_eq_columnIn w.engine.reg field i.layout
          fun s idx => (i.value w.engine.pool.store s idx).toJson]
      refine findSome?_congr fun s hmem => ?_
      have hrow := hl s (List.mem_range.mp hmem)
      simp [Instance.slotField, Option.isSome_iff_ne_none.mp hrow]
    -- reading searches the same tables: only the order of the ancestors differs, and at most
    -- one of them has the field
    have hfc : w.engine.reg.fieldColumn? i.entity field = w.engine.reg.columnIn field i.layout := by
      simp only [Registry.fieldColumn?, hs.layout, Registry.tableLayout, Registry.levels,
        Registry.columnIn_append, Registry.columnIn_cons, hnone, Option.map_none, Option.none_or,
        Registry.columnIn_reverse field hone, Registry.columnIn_nil, Option.or_none]
    rw [htree]
    cases hcol : w.engine.reg.columnIn field i.layout with
    | none => simp [Session.locate_eq, hfc, hcol, Except.map, Except.toOption]
    | some p =>
      obtain ⟨t, idx⟩ := p
      obtain ⟨hmem, hidx⟩ := Registry.columnIn_some hcol
      obtain ⟨c, hc⟩ := Structure.column?_of_columnIndex? hidx
      obtain ⟨s, hslot⟩ : ∃ s, i.slotOf t = some s := Option.isSome_iff_exists.mp
        (List.findIdx?_isSome.trans (List.any_eq_true.mpr ⟨t, hmem, by simp⟩))
      rw [Session.locate_eq_ok_iff.mpr ⟨hfc.trans hcol, hc⟩]
      simp only [Option.bind_some, Except.map, Except.toOption, hslot, Option.map_some]
      rw [show i.layout.findIdx? (· == t) = some s from hslot]
      rfl

/-- Reading, writing, filtering and the tree export agree on a field. A filter or an ordering on
a field of a node reads, under its table's alias, the column that `locate` finds for reading and
writing the field on the node's entity; and over a loaded instance of a well-formed registry, the
tree shows what reading the field gives, when the entity's own table has the field or at most one
of its ancestors has it. -/
theorem field_readings_agree {τ : Type} {w : World τ} {h : InstanceId} {i : Instance}
    (hwf : w.engine.reg.WellFormed) (hi : w.session.arena.get? h = some i)
    (hs : i.Spans w.engine.reg) (hl : i.Loaded) {field : String}
    (hf : w.engine.reg.declares field i.entity = true ∨
      ((w.engine.reg.get i.entity).parents.filter (w.engine.reg.declares field)).length ≤ 1) :
    (∀ (nodes : Array PlannedNode) (k : Nat) (n : PlannedNode), nodes[k]? = some n →
      n.entity = i.entity →
      resolveIn w.engine.reg nodes k field =
        (Session.locate w.engine.reg i.entity field).toOption.bind fun (t, _, c) =>
          (n.aliasOf? t).map fun a => { sql := a ++ "." ++ c.name, type := c.type, node := k }) ∧
    (i.treeFields w.engine.reg w.engine.pool.store).lookup field =
      ((Session.getField h field).run.run w).1.toOption.map Value.toJson := by
  refine ⟨fun nodes k n hn he => ?_, tree_field_eq_getField hwf hi hs hl hf⟩
  rw [resolveIn_eq_locate, hn, Option.bind_some, he]

/-! ## A name declared at two levels above the entity -/

/-- A leaf entity below a middle level below a root, where the root and the middle level both
declare `label`. -/
def shadowDescriptors : List EntityDescriptor :=
  [{ name := "Base", table := "base",
     columns := [Column.primary "id", Column.ordinary "label" .text] },
   { name := "Mid", table := "mid", parent := some "Base",
     columns := [Column.primary "id", Column.ordinary "label" .text] },
   { name := "Leaf", table := "leaf", parent := some "Mid",
     columns := [Column.primary "id", Column.ordinary "rank" .integer] }]

def shadowRegistry : Registry := (Registry.build shadowDescriptors).toOption.getD default

/-- The rows of leaf 1: the root level says `root`, the middle level `middle`. -/
def shadowStore : RowStore :=
  ⟨#[ModelRow.loaded (shadowRegistry.get ⟨0⟩) 1 [.null, .text "root"],
    ModelRow.loaded (shadowRegistry.get ⟨1⟩) 1 [.null, .text "middle"],
    ModelRow.loaded (shadowRegistry.get ⟨2⟩) 1 [.null, .int 7]]⟩

/-- Leaf 1 with all three of its rows loaded. -/
def shadowLeaf : Instance :=
  { Instance.unloaded shadowRegistry ⟨2⟩ with rows := [some ⟨0⟩, some ⟨1⟩, some ⟨2⟩] }

/-- A session holding leaf 1 as its first instance. -/
def shadowWorld : World Unit :=
  { engine := { Engine.new shadowRegistry {} with
      pool := { (Engine.new shadowRegistry {}).pool with store := shadowStore } },
    session := { Session.new {} with arena := { instances := #[shadowLeaf] } },
    transport := () }

/-- The leaf's two ancestors are the root and the middle level. -/
example : (shadowRegistry.get ⟨2⟩).parents = [⟨0⟩, ⟨1⟩] := by
  decide +kernel

theorem shadow_registry_builds : Registry.build shadowDescriptors = .ok shadowWorld.engine.reg :=
  -- the kernel runs the build; the registry is then the one it returns
  Except.eq_ok_of_isSome (by decide +kernel)

theorem shadowLeaf_loaded : shadowLeaf.Loaded := by
  unfold Instance.Loaded
  decide +kernel

/-- The leaf's own `rank` reads `7`. -/
example : ((Session.getField ⟨0⟩ "rank").run.run shadowWorld).1.toOption.map (·.toJson.render) =
    some "7" := by
  decide +kernel

/-- The leaf's own `rank` reads alike in the tree and through `getField`. -/
theorem leaf_rank_reads_alike :
    shadowWorld.engine.reg.WellFormed ∧ shadowLeaf.Loaded ∧
      (shadowLeaf.treeFields shadowWorld.engine.reg shadowWorld.engine.pool.store).lookup "rank" =
        ((Session.getField ⟨0⟩ "rank").run.run shadowWorld).1.toOption.map Value.toJson :=
  have hwf := (Registry.build_wellFormed shadow_registry_builds).1
  ⟨hwf, shadowLeaf_loaded,
    (field_readings_agree hwf rfl ⟨rfl, rfl⟩ shadowLeaf_loaded (Or.inl (by decide +kernel))).2⟩

/-- Where the root and the middle level both declare `label` and the leaf does not, reading the
field gives the middle level's value, while the tree shows the root's. -/
theorem shadowed_field_tree_differs :
    shadowWorld.session.arena.get? ⟨0⟩ = some shadowLeaf ∧
      shadowLeaf.Spans shadowWorld.engine.reg ∧ shadowLeaf.Loaded ∧
      shadowWorld.engine.reg.declares "label" ⟨2⟩ = false ∧
      ((shadowWorld.engine.reg.get ⟨2⟩).parents.filter
        (shadowWorld.engine.reg.declares "label")).length = 2 ∧
      ((shadowLeaf.treeFields shadowWorld.engine.reg shadowWorld.engine.pool.store).lookup
        "label").map Json.render = some "\"root\"" ∧
      ((Session.getField ⟨0⟩ "label").run.run shadowWorld).1.toOption.map (·.toJson.render) =
        some "\"middle\"" ∧
      (shadowLeaf.treeFields shadowWorld.engine.reg shadowWorld.engine.pool.store).lookup "label" ≠
        ((Session.getField ⟨0⟩ "label").run.run shadowWorld).1.toOption.map Value.toJson := by
  have htree : ((shadowLeaf.treeFields shadowWorld.engine.reg shadowWorld.engine.pool.store).lookup
      "label").map Json.render = some "\"root\"" := by decide +kernel
  have hget : ((Session.getField ⟨0⟩ "label").run.run shadowWorld).1.toOption.map
      (·.toJson.render) = some "\"middle\"" := by decide +kernel
  refine ⟨rfl, ⟨rfl, rfl⟩, shadowLeaf_loaded, by decide +kernel, by decide +kernel, htree, hget,
    fun heq => ?_⟩
  -- equal fields would render alike
  rw [heq, Option.map_map] at htree
  rw [Function.comp_def, hget] at htree
  simp at htree

end EntityGraph
