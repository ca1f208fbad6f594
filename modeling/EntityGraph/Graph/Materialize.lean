import EntityGraph.Graph.Arena
import EntityGraph.Query.Compiled
import EntityGraph.RowCache

/-!
# Materializing result rows

Turning the flat rows of a compiled query back into instances. Every node of the query's layout
has column blocks, each starting with the primary key of its table; a `null` key means the outer
join found no row there. The rows of one primary record are contiguous, so a change of the
primary key ends a record.

For each row and node in layout order:
* the node's instance is the one the arena's identity map knows for its key, or a new empty
  instance registered under it (locked when loading locks);
* each block with a key fills its table's slot with the cached row for that key, refreshed in
  place from the result when it has no unsaved changes; a slot whose row has unsaved changes is
  left alone, since changes in memory win over what was read;
* the instance is attached to its parent's instance: a reference is set unless an assignment is
  pending, and a collection is emptied the first time a scan reaches it and then gains each new
  member once.
-/

namespace EntityGraph

/-- The rows an engine shares between its sessions: the rows and the cache of stored ones. -/
structure RowPool where
  store : RowStore := {}
  cache : RowCache RowRef
  deriving Inhabited

/-- What materializing changes: the shared rows, the session's arena, and which collections this
scan already emptied. -/
structure LoadState where
  pool : RowPool
  arena : Arena
  reset : List (InstanceId × String) := []
  deriving Inhabited

/-- What a scan reads with: the registry, the compiled query, and whether new instances start
locked. -/
structure Scan where
  reg : Registry
  query : CompiledQuery
  lockLoaded : Bool := false

namespace Scan

/-- The primary key in a cell of a result row. -/
def keyAt (row : List Value) (offset : Nat) : Option Int64 := (row[offset]?).bind Value.asInt64?

/-- Fill one table slot of an instance from a block of a result row. -/
def loadBlock (s : Scan) (h : InstanceId) (block : ProjectionBlock) (row : List Value) :
    StateM LoadState Unit := do
  let some blockId := keyAt row block.offset | pure ()
  let st ← get
  let some inst := st.arena.get? h | pure ()
  let some slot := inst.slotOf block.entity | pure ()
  if let some existing := inst.row? slot then
    if (st.pool.store.get existing).isModified then return
  let shape := s.reg.get block.entity
  let fill (vs : List Value) (kc : Nat × Nat) : List Value :=
    let (k, column) := kc
    let raw := (row[block.offset + k]?).getD .null
    match shape.columns[column]? with
    | some c => vs.set column (c.type.decode raw)
    | none => vs
  let values := (block.columns.zipIdx.map fun (c, k) => (k, c)).foldl fill
    (List.replicate shape.columnCount .null)
  let make : StateM RowStore RowRef :=
    modifyGet fun store => (store.add (ModelRow.loaded shape blockId values)).swap
  let ((cache, ref, made), store) :=
    (st.pool.cache.getOrInsert (block.entity, blockId) make).run st.pool.store
  let store :=
    if !made && !(store.get ref).isModified then store.modify ref (·.refresh values) else store
  set { st with pool := { store, cache }, arena := st.arena.modify h (·.setRow slot ref) }

/-- The instance of a node in a result row, made and registered when the record is new, with
its blocks loaded; `none` when the node's key is `null`. -/
def hydrate (s : Scan) (node : CompiledNode) (row : List Value) :
    StateM LoadState (Option InstanceId) := do
  let some identity := node.identityBlock? | pure none
  let some id := keyAt row identity.offset | pure none
  let st ← get
  let h ← match st.arena.lookup node.entity id with
    | some h => pure h
    | none => do
      let inst := { Instance.unloaded s.reg node.entity with locked := s.lockLoaded }
      let (arena, h) := st.arena.push inst
      set { st with arena := arena.bind node.entity id h }
      pure h
  for block in node.blocks do
    s.loadBlock h block row
  pure (some h)

/-- Record `target` as reached from `owner` through a relation. -/
def attach (s : Scan) (owner : InstanceId) (relation : String) (target : Option InstanceId) :
    StateM LoadState Unit := do
  let st ← get
  let some inst := st.arena.get? owner | pure ()
  let some descriptor := s.reg.findRelation? inst.entity relation | pure ()
  let firstVisit := !st.reset.contains (owner, relation)
  let st := if firstVisit then { st with reset := st.reset ++ [(owner, relation)] } else st
  match descriptor.kind with
  | .reference _ =>
    let pending := match inst.relation? relation with
      | some (.reference _ true) => true
      | _ => false
    if pending then set st
    else set { st with arena := st.arena.modify owner (·.setRelation relation (.reference target false)) }
  | _ =>
    let data := (inst.relation? relation).getD RelationalData.emptyCollection
    let data := match data with
      | .collection existing added removed =>
        let existing := if firstVisit then [] else existing
        let existing := match target with
          | some t =>
            if existing.contains t || added.contains t || removed.contains t then existing
            else existing ++ [t]
          | none => existing
        RelationalData.collection existing added removed
      | other => other
    set { st with arena := st.arena.modify owner (·.setRelation relation data) }

/-- Materialize every node of one result row, attaching each to its parent; the instances in
layout order. -/
def readRow (s : Scan) (row : List Value) : StateM LoadState (List (Option InstanceId)) :=
  s.query.nodes.foldlM (fun acc node => do
    let inst ← s.hydrate node row
    if let (some p, some relation) := (node.parent, node.relation) then
      if let some (some owner) := acc[p]? then
        s.attach owner relation inst
    pure (acc ++ [inst])) []

/-- Read the record starting at `position`: rows up to the first whose primary key differs.
The result is the record's primary instance and the position after it. -/
def nextRecord (s : Scan) (rows : List (List Value)) (position : Nat) :
    StateM LoadState (Option InstanceId × Nat) := do
  let some root := s.query.nodes.head? | pure (none, position)
  let some identity := root.identityBlock? | pure (none, position)
  let rec go : List (List Value) → Nat → Option InstanceId → Option Int64 →
      StateM LoadState (Option InstanceId × Nat)
    | [], pos, record, _ => pure (record, pos)
    | row :: more, pos, record, current => do
      let key := keyAt row identity.offset
      if record.isSome && key != current then pure (record, pos)
      else
        let insts ← s.readRow row
        let record := if record.isSome then record else insts.head?.join
        go more (pos + 1) record key
  go (rows.drop position) position none none

/-- Read records until the rows run out: each record and the position after each read, the
last read being the one that found nothing. A scan starts with no collection emptied. -/
def records (s : Scan) (rows : List (List Value)) :
    StateM LoadState (List InstanceId × List Nat) := do
  modify fun st => { st with reset := [] }
  let rec go : (fuel : Nat) → Nat → List InstanceId → List Nat →
      StateM LoadState (List InstanceId × List Nat)
    | 0, _, found, positions => pure (found, positions)
    | fuel + 1, pos, found, positions => do
      let (record, pos) ← s.nextRecord rows pos
      match record with
      | some r => go fuel pos (found ++ [r]) (positions ++ [pos])
      | none => pure (found, positions ++ [pos])
  go (rows.length + 1) 0 [] []

end Scan

end EntityGraph
