import EntityGraph.Row.Store
import EntityGraph.Schema.Registry

/-!
# Instances

An instance is the object-level view of one entity: one row per table it spans (its inheritance
levels root first, then its implementation tables), flags for locking, deletion and an ongoing
save, and the relations materialized so far.

A row slot holds a shared row or nothing (a level or implementation row never loaded). Writing
a field follows copy-on-write: a clean row, possibly shared with the cache and other instances,
is replaced by a private copy before its first change, while a row that already carries unsaved
changes is changed in place.

Relations are either a reference (a target, and whether it was assigned since the last save) or
a collection (members already stored, members added and members removed since the last save).
-/

namespace EntityGraph

/-- The handle of an instance within one session, its position in the session's arena. -/
structure InstanceId where
  index : Nat
  deriving DecidableEq, Inhabited, Repr, Hashable

/-- `@n`, the way a handle is shown. -/
def InstanceId.display (h : InstanceId) : String := "@" ++ toString h.index

/-- The materialized state of one relation of one instance. -/
inductive RelationalData where
  /-- A single target; `dirty` marks an assignment not yet written to the reference column. -/
  | reference (target : Option InstanceId) (dirty : Bool)
  /-- Members already stored in the relation, and those added and removed since. -/
  | collection (existing added removed : List InstanceId)
  deriving DecidableEq, Inhabited, Repr

namespace RelationalData

/-- A collection with no members. -/
def emptyCollection : RelationalData := .collection [] [] []

/-- Whether saving the owner has work to do for this relation. -/
def isDirty : RelationalData → Bool
  | .reference _ dirty => dirty
  | .collection _ added removed => !added.isEmpty || !removed.isEmpty

/-- The current members: the target, or the stored members followed by the added ones. -/
def members : RelationalData → List InstanceId
  | .reference target _ => target.toList
  | .collection existing added _ => existing ++ added

end RelationalData

/-- One entity's instance. -/
structure Instance where
  entity : EntityId
  /-- The tables the instance spans: its levels root first, then its implementations. -/
  layout : List EntityId
  /-- How many of the tables are inheritance levels. -/
  levelCount : Nat
  /-- One slot per table of the layout. -/
  rows : List (Option RowRef)
  locked : Bool := false
  /-- Set while a save of this instance is in progress. -/
  saving : Bool := false
  deleted : Bool := false
  /-- Materialized relations by name, in the order they were first materialized. -/
  relations : List (String × RelationalData) := []
  deriving Inhabited, Repr

namespace Instance

/-- An instance with every slot empty, to be filled from loaded rows. -/
def unloaded (reg : Registry) (entity : EntityId) : Instance :=
  let layout := reg.tableLayout entity
  { entity, layout, levelCount := (reg.get entity).parents.length + 1,
    rows := layout.map fun _ => none }

/-- A new instance: a fresh unsaved row for every level, implementation slots empty. -/
def new (reg : Registry) (entity : EntityId) (store : RowStore) : RowStore × Instance :=
  let base := unloaded reg entity
  let step (acc : RowStore × List (Option RowRef)) (table : EntityId) :=
    let (store, ref) := acc.1.add (ModelRow.new (reg.get table))
    (store, acc.2 ++ [some ref])
  let (store, levelRows) := (base.layout.take base.levelCount).foldl step (store, [])
  (store, { base with rows := levelRows ++ base.rows.drop base.levelCount })

/-- The slot of the entity's own table. -/
def leafSlot (i : Instance) : Nat := i.levelCount - 1

/-- The slot of a table of the layout. -/
def slotOf (i : Instance) (table : EntityId) : Option Nat := i.layout.findIdx? (· == table)

/-- The row held in a slot. -/
def row? (i : Instance) (slot : Nat) : Option RowRef := (i.rows[slot]?).getD none

/-- Put a row into a slot. -/
def setRow (i : Instance) (slot : Nat) (r : RowRef) : Instance :=
  { i with rows := i.rows.set slot (some r) }

/-- The primary key, once the entity's own row is stored. -/
def id (i : Instance) (store : RowStore) : Option Int64 :=
  (i.row? i.leafSlot).bind fun r => (store.get r).id

/-- Whether the instance was never stored. -/
def isNew (i : Instance) (store : RowStore) : Bool := (i.id store).isNone

/-- The value of a column of a slot's row; `null` when the slot is empty. -/
def value (i : Instance) (store : RowStore) (slot column : Nat) : Value :=
  ((i.row? slot).bind fun r => (store.get r).get? column).getD .null

/-- Whether any held row has unsaved changes. -/
def hasModifiedRows (i : Instance) (store : RowStore) : Bool :=
  i.rows.any fun
    | some r => (store.get r).isModified
    | none => false

/-- The materialized state of a relation. -/
def relation? (i : Instance) (name : String) : Option RelationalData := i.relations.lookup name

/-- Set the state of a relation, keeping its place when it was materialized before. -/
def setRelation (i : Instance) (name : String) (d : RelationalData) : Instance :=
  if i.relations.any (·.1 == name) then
    { i with relations := i.relations.map fun kv => if kv.1 == name then (name, d) else kv }
  else { i with relations := i.relations ++ [(name, d)] }

/-- Whether a save would write anything. -/
def hasChanges (i : Instance) (store : RowStore) : Bool :=
  i.hasModifiedRows store || i.relations.any (·.2.isDirty)

/-- Write a column of a slot with copy-on-write, and say whether the slot's value changed. An
empty slot first gets a fresh row. Writing the value a column already holds changes nothing. -/
def write (i : Instance) (reg : Registry) (store : RowStore) (slot column : Nat) (v : Value) :
    RowStore × Instance × Bool :=
  let (store, i, r) : RowStore × Instance × RowRef :=
    match i.row? slot with
    | some r => (store, i, r)
    | none =>
      let (store, r) := store.add (ModelRow.new (reg.get ((i.layout[slot]?).getD default)))
      (store, i.setRow slot r, r)
  let row := store.get r
  if (row.get? column).any (·.same v) then (store, i, false)
  else if row.isModified then
    let (row, changed) := row.set column v
    (store.modify r fun _ => row, i, changed)
  else
    let (copy, changed) := row.copyForWrite.set column v
    let (store, r') := store.add copy
    (store, i.setRow slot r', changed)

/-- Forget the unsaved changes of every held row. -/
def clearModified (i : Instance) (store : RowStore) : RowStore :=
  i.rows.foldl (fun s slot => match slot with
    | some r => s.modify r ModelRow.clearModified
    | none => s) store

end Instance

end EntityGraph
