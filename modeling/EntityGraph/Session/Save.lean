import EntityGraph.Session.Load

/-!
# Saving and deleting

Saving an instance writes, in order:

1. the targets of references assigned since the last save, whose keys are then written into the
   reference columns;
2. the implementation rows, whose keys are written into the link columns;
3. the inheritance levels, root first, the root's new key given to every level below it;
4. the members of collections: children get the owner's key in their back reference (or `null`
   when removed), association members get a row of the association table.

Everything reachable that changed is saved along the way. An instance already being saved further
up is skipped, which is what ends cycles; work that cannot be done yet (a reference to a new
instance still being saved, a back reference of a member already being written) is postponed and
replayed, latest first, once the outermost save has run. Marks of changes are cleared only when
every stage of an instance succeeded.

Deleting an instance removes every association row naming it, then its level rows leaf first,
then its implementation rows. Related instances are left alone.
-/

namespace EntityGraph

/-- Whether a postponed work item is the resave of an instance. -/
def Deferred.isResaveOf (h : InstanceId) : Deferred → Bool
  | .resave g => g == h
  | .stamp .. => false

namespace Session

variable {τ : Type} [Transport τ]

/-- Run an operation and give its outcome as a value, keeping the state it reached. -/
def attempt {α : Type} (x : SessionM τ α) : SessionM τ (Except Error α) :=
  tryCatch (Except.ok <$> x) fun e => pure (.error e)

/-- Write a value into a column of the row an instance holds for a table, lock or no lock. -/
def stamp (h : InstanceId) (table : EntityId) (column : Nat) (v : Value) : SessionM τ Unit := do
  let i ← getInstance h
  let reg ← registry
  let some slot := i.slotOf table
    | throw (.custom ((reg.get i.entity).name ++ " has no row for " ++ (reg.get table).name))
  let (store, i, _) := i.write reg (← rows) slot column v
  setRows store
  modifyInstance h fun _ => i

/-- Stamp now, or after the outermost save when the instance is being saved and may have
written the row already. -/
def stampOrDefer (h : InstanceId) (table : EntityId) (column : Nat) (v : Value) : SessionM τ Unit := do
  if (← getInstance h).saving then
    modifySession fun s => { s with deferred := s.deferred ++ [.stamp h table column v] }
  else stamp h table column v

/-- Save an instance again after the outermost save; postponed once. -/
def deferResave (h : InstanceId) : SessionM τ Unit :=
  modifySession fun s =>
    if s.deferred.any (·.isResaveOf h) then s else { s with deferred := s.deferred ++ [.resave h] }

/-- Insert or update one row of a table level and give its key. A stored row without changes is
left alone. An inserted row takes its new key, and so does the table's sequence column. -/
def writeRow (row : RowRef) (table : EntityId) (explicitId : Option Int64) : SessionM τ Int64 := do
  let s := (← registry).get table
  let options := (← get).session.options
  let r := (← rows).get row
  match r.id with
  | some id =>
    if r.isModified then
      if let some stmt := Statement.updateRow options s r then
        let _ ← execute stmt
      modifyChanges (·.recordUpdate (table, id) row)
    pure id
  | none =>
    let stmt := Statement.insertRow options s r explicitId
    let id ← match explicitId with
      | some id => do
        let _ ← execute stmt
        pure id
      | none => insert stmt
    setRows ((← rows).modify row (·.setId id))
    if let some sequence := s.sequenceColumn then
      let _ ← execute (Statement.updateColumn options s sequence (.bigInt id) id)
      setRows ((← rows).modify row (·.assign sequence (.bigInt id)))
    modifyChanges (·.recordInsert (table, id) row)
    pure id

/-- Stage 1: write the references assigned since the last save; the names of those written. A
reference to a new instance that is itself being saved is postponed. -/
def saveReferences (cascade : InstanceId → SessionM τ Bool) (h : InstanceId) :
    SessionM τ (List String) := do
  let i ← getInstance h
  let pending := i.relations.filterMap fun (name, d) => match d with
    | .reference target true => some (name, target)
    | _ => none
  pending.foldlM (fun settled (name, target) => do
    let r ← relationOf i.entity name
    match r.kind with
    | .reference column =>
      let value? ← match target with
        | none => pure (some Value.null)
        | some t => do
          let ti ← getInstance t
          if ti.saving && ti.isNew (← rows) then
            deferResave h
            pure none
          else
            let _ ← cascade t
            match ← idOf t with
            | some id => pure (some (Value.bigInt id))
            | none => throw (.session .notPersisted
                ("reference target " ++ t.display ++ " has no id after save"))
      match value? with
      | some v => do
        stamp h r.owner column v
        pure (settled ++ [name])
      | none => pure settled
    | _ => pure settled) []

/-- Stage 2: write the implementation rows the instance holds and link them. -/
def saveImplementations (h : InstanceId) : SessionM τ Unit := do
  let i ← getInstance h
  let impls := ((← registry).get i.entity).implementations
  impls.zipIdx.forM fun (impl, k) => do
    match (← getInstance h).row? (i.levelCount + k) with
    | some row => do
      let id ← writeRow row impl.entity none
      stamp h i.entity impl.linkColumn (.bigInt id)
    | none => pure ()

/-- Stage 3: write the level rows root first and give the instance's key. -/
def saveLevels (h : InstanceId) : SessionM τ Int64 := do
  let i ← getInstance h
  let id? ← (i.layout.take i.levelCount).zipIdx.foldlM (fun (id? : Option Int64) (table, slot) => do
    match (← getInstance h).row? slot with
    | some row => do
      let explicit := if slot == 0 then none else id?
      return some (← writeRow row table explicit)
    | none => pure id?) none
  match id? with
  | some id => pure id
  | none => throw (.session .notPersisted ("instance " ++ h.display ++ " has no level rows"))

/-- What a saved collection becomes: its name, the members now linked, and the members still
waiting for a key. -/
abbrev Settled := String × List InstanceId × List InstanceId

/-- Stage 4: write the collections of an owner with key `ownerId`. -/
def saveCollections (cascade : InstanceId → SessionM τ Bool) (h : InstanceId) (ownerId : Int64) :
    SessionM τ (List Settled) := do
  let i ← getInstance h
  let options := (← get).session.options
  let pending := i.relations.filterMap fun (name, d) => match d with
    | .collection existing added removed => some (name, existing, added, removed)
    | _ => none
  pending.foldlM (fun settled (name, existing, added, removed) => do
    let r ← relationOf i.entity name
    match r.kind with
    | .children back => do
      for child in existing ++ added do
        stampOrDefer child back.entity back.index (.bigInt ownerId)
        let _ ← cascade child
      for child in removed do
        stampOrDefer child back.entity back.index .null
        let _ ← cascade child
      pure (settled ++ [(name, added, [])])
    | .association table source target => do
      for child in existing do
        let _ ← cascade child
      let (linked, unlinked) ← added.foldlM (fun (acc : List InstanceId × List InstanceId) child => do
        let _ ← cascade child
        match ← idOf child with
        | none => do
          deferResave h
          pure (acc.1, acc.2 ++ [child])
        | some childId => do
          let _ ← execute (Statement.insertLink options table source target ownerId childId)
          pure (acc.1 ++ [child], acc.2)) ([], [])
      for child in removed do
        if let some childId ← idOf child then
          let _ ← execute (Statement.deleteLink options table source target ownerId childId)
      pure (settled ++ [(name, linked, unlinked)])
    | .reference _ => pure settled) []

/-- Write one instance through the four stages, then clear its marks of change and record it as
saved. -/
def writeInstance (cascade : InstanceId → SessionM τ Bool) (h : InstanceId) : SessionM τ Unit := do
  let wasNew := (← getInstance h).isNew (← rows)
  let references ← saveReferences cascade h
  saveImplementations h
  let id ← saveLevels h
  if wasNew then
    let store ← rows
    modifyArena (·.remember store h)
  let collections ← saveCollections cascade h id
  let i ← getInstance h
  setRows (i.clearModified (← rows))
  let i := references.foldl (fun i name => match i.relation? name with
    | some (.reference target _) => i.setRelation name (.reference target false)
    | _ => i) i
  let i := collections.foldl (fun i (name, linked, waiting) => match i.relation? name with
    | some (.collection existing _ _) => i.setRelation name (.collection (existing ++ linked) waiting [])
    | _ => i) i
  modifyInstance h fun _ => i
  modifyChanges (·.recordSaved { handle := h, entity := i.entity, id })

/-- Save one instance unless it is being saved already or has nothing to write; whether it was
written. Each level of nesting marks one more instance as being saved, so `fuel` at the arena's
size is never exhausted. -/
def saveCascade : (fuel : Nat) → InstanceId → SessionM τ Bool
  | 0, _ => pure false
  | fuel + 1, h => do
    let i ← getInstance h
    if i.saving || !i.hasChanges (← rows) then return false
    modifyInstance h fun i => { i with saving := true }
    let r ← attempt (writeInstance (saveCascade fuel) h)
    modifyInstance h fun i => { i with saving := false }
    ofExcept r
    pure true

/-- Save an instance, then replay the postponed work, latest first, until none is left. Replaying
can itself postpone more work: instances that are children of one another over the same back
reference keep overwriting each other's column and never settle, so the replay never ends. The
bound of `2 ^ 64` items only makes the definition total; a replay that stops there leaves the
rest postponed. -/
def saveWithDeferred (h : InstanceId) : SessionM τ Bool := do
  let size := (← get).session.arena.size + 1
  let written ← saveCascade size h
  replay size written (2 ^ 64)
where
  /-- Replay postponed work, at most `fuel` items. -/
  replay (size : Nat) (written : Bool) : (fuel : Nat) → SessionM τ Bool
    | 0 => pure written
    | fuel + 1 => do
      match (← get).session.deferred.getLast? with
      | none => pure written
      | some work =>
        modifySession fun s => { s with deferred := s.deferred.dropLast }
        let target ← match work with
          | .resave i => pure i
          | .stamp i table column v => do
            stamp i table column v
            pure i
        let w ← saveCascade size target
        replay size (written || w) fuel

/-- Save an instance and everything reachable from it that changed; whether anything was
written. A deleted instance is refused. -/
def save (h : InstanceId) : SessionM τ Bool := do
  let i ← getInstance h
  if i.deleted then throw (.session .notPersisted ("instance " ++ h.display ++ " was deleted"))
  if !i.hasChanges (← rows) then return false
  beginUnit
  let r ← attempt (saveWithDeferred h)
  if r matches .error _ then modifySession fun s => { s with deferred := [] }
  let written ← ofExcept r
  endUnit
  pure written

/-- Delete a stored instance: association rows naming it, its level rows leaf first, then its
implementation rows. The cache drops the rows when the unit is published. -/
def delete (h : InstanceId) : SessionM τ Unit := do
  let i ← getInstance h
  let store ← rows
  let some id := i.id store
    | throw (.session .notPersisted ("instance " ++ h.display ++ " was never saved"))
  let levels := i.layout.take i.levelCount
  let impls := (i.layout.drop i.levelCount).zipIdx.filterMap fun (table, k) => do
    let r ← i.row? (i.levelCount + k)
    let rid ← (store.get r).id
    pure (table, rid)
  beginUnit
  let reg ← registry
  let options := (← get).session.options
  for s in reg.structures.toList do
    for r in s.relations do
      match r.kind with
      | .association table source target => do
        if reg.isA i.entity r.owner then
          let _ ← execute (Statement.deleteLinks options table source id)
        if reg.isA i.entity r.target then
          let _ ← execute (Statement.deleteLinks options table target id)
      | _ => pure ()
  for table in levels.reverse do
    let _ ← execute (Statement.deleteRow options (reg.get table) id)
    modifyChanges (·.recordDelete (table, id))
  for (table, rid) in impls do
    let _ ← execute (Statement.deleteRow options (reg.get table) rid)
    modifyChanges (·.recordDelete (table, rid))
  modifyArena (·.forget i.entity id)
  modifyInstance h fun i => { i with deleted := true }
  modifyChanges (·.recordRemoved { handle := h, entity := i.entity, id })
  endUnit

end Session

end EntityGraph
