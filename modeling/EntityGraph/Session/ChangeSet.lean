import EntityGraph.Graph.Materialize

/-!
# Change sets

The rows and instances written during one unit of work. Nothing reaches the row cache until the
unit is published; publishing then keeps, in order, the inserted rows and the updated rows that
were not deleted again in the same unit, and evicts the deleted ones. The instances saved in the
unit, except those deleted later in it, and the instances deleted are handed back to be
announced once the cache agrees with the store.

Rows are kept by their key (table level and primary key): a later write of a key replaces the
earlier one, and an update of a row inserted in the same unit stays an insertion. Saved and
deleted instances are kept once each, in the order they were first recorded.
-/

namespace EntityGraph

/-- An instance saved or deleted in a unit of work. -/
structure InstanceEvent where
  handle : InstanceId
  entity : EntityId
  id : Int64
  deriving DecidableEq, Inhabited, Repr

/-- The instance events of a published unit. -/
structure Published where
  updated : List InstanceEvent
  deleted : List InstanceEvent
  deriving Inhabited, Repr

/-- How many rows a unit inserted, updated and deleted. -/
structure PendingCounts where
  inserted : Nat
  updated : Nat
  deleted : Nat
  deriving DecidableEq, Inhabited, Repr

/-- The rows and instances written in a unit of work. -/
structure ChangeSet where
  inserted : List (RowKey × RowRef) := []
  updated : List (RowKey × RowRef) := []
  deleted : List RowKey := []
  saved : List InstanceEvent := []
  removed : List InstanceEvent := []
  deriving Inhabited

/-- Set the row of a key, in place when the key is present. -/
def RowKey.put (entries : List (RowKey × RowRef)) (key : RowKey) (row : RowRef) :
    List (RowKey × RowRef) :=
  if entries.any (·.1 == key) then entries.map fun e => if e.1 == key then (key, row) else e
  else entries ++ [(key, row)]

/-- Keep a row in the cache under its own table and key; a row without a key is not kept. -/
def RowPool.keep (p : RowPool) (row : RowRef) : RowPool :=
  let r := p.store.get row
  match r.id with
  | some id => { p with cache := p.cache.put (r.entity, id) row }
  | none => p

namespace ChangeSet

/-- Record an inserted row. -/
def recordInsert (c : ChangeSet) (key : RowKey) (row : RowRef) : ChangeSet :=
  { c with inserted := RowKey.put c.inserted key row }

/-- Record an updated row; a row inserted in the same unit stays an insertion. -/
def recordUpdate (c : ChangeSet) (key : RowKey) (row : RowRef) : ChangeSet :=
  if c.inserted.any (·.1 == key) then { c with inserted := RowKey.put c.inserted key row }
  else { c with updated := RowKey.put c.updated key row }

/-- Record a deleted row. -/
def recordDelete (c : ChangeSet) (key : RowKey) : ChangeSet :=
  if c.deleted.contains key then c else { c with deleted := c.deleted ++ [key] }

/-- Record a saved instance. -/
def recordSaved (c : ChangeSet) (e : InstanceEvent) : ChangeSet :=
  if c.saved.contains e then c else { c with saved := c.saved ++ [e] }

/-- Record a deleted instance. -/
def recordRemoved (c : ChangeSet) (e : InstanceEvent) : ChangeSet :=
  if c.removed.contains e then c else { c with removed := c.removed ++ [e] }

/-- The numbers of rows waiting to be published. -/
def pending (c : ChangeSet) : PendingCounts :=
  { inserted := c.inserted.length, updated := c.updated.length, deleted := c.deleted.length }

/-- Apply the unit to the row cache and give the instance events to announce. -/
def publish (c : ChangeSet) (p : RowPool) : RowPool × Published :=
  let live (entries : List (RowKey × RowRef)) := entries.filter fun e => !c.deleted.contains e.1
  let p := (live c.inserted ++ live c.updated).foldl (fun p e => p.keep e.2) p
  let p := c.deleted.foldl (fun p k => { p with cache := (p.cache.evict k).1 }) p
  let gone := c.removed.map (·.handle)
  (p, { updated := c.saved.filter (fun e => !gone.contains e.handle), deleted := c.removed })

end ChangeSet

end EntityGraph
