import EntityGraph.Session.ChangeSet
import EntityGraph.Session.Statement
import EntityGraph.Transport
import EntityGraph.Config
import EntityGraph.Query.Cache

/-!
# Sessions

A session is one unit of work over a transport: it owns instances, addressed by their handles,
records what its saves and deletes wrote, and knows whether it opened a transaction. The rows of
its instances live in the engine it was opened on, shared with the engine's row cache and with
every other session of that engine.

Session operations run in `SessionM`, an error monad over the state of a `World`: the engine,
the session, the transport and the notices announced so far. A failing operation keeps the state
it reached, so statements already sent, keys already assigned and rows already changed stay as
they are, and the failure is the operation's result.

This module holds the state, the checks every operation starts with, and the operations that
only edit instances in memory: creating, reading and writing fields, locking, and pointing
relations at other instances. Writes reach the store only when the owner is saved.
-/

namespace EntityGraph

/-- What every session of an engine shares: the registry, the configuration, the rows with their
cache, and the compiled lookups by one column. -/
structure Engine where
  reg : Registry
  config : EngineConfig
  pool : RowPool
  unique : UniqueLookups := {}
  deriving Inhabited

namespace Engine

/-- An engine with an empty row cache sized by the configuration. -/
def new (reg : Registry) (config : EngineConfig) : Engine :=
  { reg, config, pool := { cache := RowCache.empty config.cache.capacityPerEntity } }

/-- The entity with a name, or the build error for an unregistered one. -/
def entity (e : Engine) (name : String) : Except Error EntityId :=
  match e.reg.entityId? name with
  | some id => .ok id
  | none => .error (.buildPlain .unknownEntity ("entity '" ++ name ++ "' is not registered"))

end Engine

/-- Work postponed until the outermost save has run. -/
inductive Deferred where
  /-- Save the instance again: something it refers to had no key yet. -/
  | resave (h : InstanceId)
  /-- Write a value into a column of an instance that was mid-save. -/
  | stamp (h : InstanceId) (table : EntityId) (column : Nat) (v : Value)
  deriving Inhabited, Repr

/-- What a session announces to its listeners. -/
inductive Notice where
  | beforeCommit
  | afterCommit
  | afterRollback
  /-- An instance saved in a published unit. -/
  | updated (e : InstanceEvent)
  /-- An instance deleted in a published unit. -/
  | deleted (e : InstanceEvent)
  deriving Inhabited, Repr

/-- One unit of work. -/
structure Session where
  config : SessionConfig
  options : CompileOptions
  arena : Arena := {}
  changes : ChangeSet := {}
  inTransaction : Bool := false
  /-- Postponed work, the latest last. -/
  deferred : List Deferred := []
  deriving Inhabited

/-- A session with the engine's session settings and compile options. -/
def Session.new (config : EngineConfig) : Session :=
  { config := config.session, options := config.compile }

/-- Everything a session operation reads and changes. -/
structure World (τ : Type) where
  engine : Engine
  session : Session
  transport : τ
  /-- What the session announced, oldest first. -/
  notices : Array Notice := #[]
  /-- The error a listener refuses every commit with, when it refuses. -/
  commitVeto : Option Error := none

/-- An operation of a session over a transport of type `τ`. -/
abbrev SessionM (τ : Type) := ExceptT Error (StateM (World τ))

namespace Session

variable {τ : Type}

/-- The error for a handle the session does not have. -/
def unknownInstance (h : InstanceId) : Error :=
  .session .unknownInstance ("instance " ++ h.display ++ " does not belong to this session")

/-- The engine's registry. -/
def registry : SessionM τ Registry := return (← get).engine.reg

/-- The engine's rows. -/
def rows : SessionM τ RowStore := return (← get).engine.pool.store

/-- Replace the engine's rows. -/
def setRows (s : RowStore) : SessionM τ Unit :=
  modify fun w => { w with engine := { w.engine with pool := { w.engine.pool with store := s } } }

/-- Change the session. -/
def modifySession (f : Session → Session) : SessionM τ Unit :=
  modify fun w => { w with session := f w.session }

/-- Change the arena. -/
def modifyArena (f : Arena → Arena) : SessionM τ Unit :=
  modifySession fun s => { s with arena := f s.arena }

/-- Change the unit's change set. -/
def modifyChanges (f : ChangeSet → ChangeSet) : SessionM τ Unit :=
  modifySession fun s => { s with changes := f s.changes }

/-- Announce a notice. -/
def announce (n : Notice) : SessionM τ Unit :=
  modify fun w => { w with notices := w.notices.push n }

/-- The instance with a handle. -/
def getInstance (h : InstanceId) : SessionM τ Instance := do
  match (← get).session.arena.get? h with
  | some i => pure i
  | none => throw (unknownInstance h)

/-- Change the instance with a handle. -/
def modifyInstance (h : InstanceId) (f : Instance → Instance) : SessionM τ Unit :=
  modifyArena (·.modify h f)

/-- The key of the instance with a handle. -/
def idOf (h : InstanceId) : SessionM τ (Option Int64) := do
  return (← getInstance h).id (← rows)

/-- The entity of the instance with a handle. -/
def entityOf (h : InstanceId) : SessionM τ EntityId := do
  return (← getInstance h).entity

/-- Whether saving the instance would write anything. -/
def isModified (h : InstanceId) : SessionM τ Bool := do
  return (← getInstance h).hasChanges (← rows)

/-- Refuse every later change of the instance. -/
def lock (h : InstanceId) : SessionM τ Unit := do
  let _ ← getInstance h
  modifyInstance h fun i => { i with locked := true }

/-- Refuse an entity number the registry does not have. -/
def checkEntity (e : EntityId) : SessionM τ Unit := do
  if e.index < (← registry).size then pure ()
  else throw (.buildPlain .unknownEntity ("entity " ++ e.display ++ " is not registered"))

/-- The name of an entity. -/
def entityName (e : EntityId) : SessionM τ String := do
  return ((← registry).get e).name

/-- Make a new unsaved instance of an entity. -/
def create (e : EntityId) : SessionM τ InstanceId := do
  checkEntity e
  let w ← get
  let (store, i) := Instance.new w.engine.reg e w.engine.pool.store
  setRows store
  let (arena, h) := (← get).session.arena.push i
  modifyArena fun _ => arena
  pure h

/-- The table and column a field name denotes on an entity: the nearest level that has it, else
the first implementation that has it. -/
def locate (reg : Registry) (e : EntityId) (field : String) : Except Error (EntityId × Nat × Column) :=
  let found := match reg.findColumn? e field with
    | some p => some (p.entity, p.index)
    | none => (reg.get e).implementations.findSome? fun impl =>
      ((reg.get impl.entity).columnIndex? field).map (impl.entity, ·)
  match found with
  | some (table, index) =>
    match (reg.get table).column? index with
    | some c => .ok (table, index, c)
    | none => .error (.build .unknownColumn (some (reg.get e).name) (some field) "no such field")
  | none => .error (.build .unknownColumn (some (reg.get e).name) (some field) "no such field")

/-- Fail with the error of a failed computation. -/
def ofExcept {α : Type} : Except Error α → SessionM τ α
  | .ok a => pure a
  | .error e => throw e

/-- Read a field; a field of a row never loaded reads as `null`. -/
def getField (h : InstanceId) (field : String) : SessionM τ Value := do
  let i ← getInstance h
  let (table, index, _) ← ofExcept (locate (← registry) i.entity field)
  match i.slotOf table with
  | some slot => return i.value (← rows) slot index
  | none => return .null

/-- Write a field and say whether its value changed. A locked instance, an unknown field, the
primary key and a value of the wrong type are refused, in that order. -/
def setField (h : InstanceId) (field : String) (v : Value) : SessionM τ Bool := do
  let i ← getInstance h
  let reg ← registry
  if i.locked then throw (.locked (reg.get i.entity).name field)
  let (table, index, column) ← ofExcept (locate reg i.entity field)
  if column.role == .primary then
    throw (.custom ("primary key '" ++ field ++ "' of " ++ (reg.get i.entity).name ++
      " is assigned by the database"))
  ofExcept (column.type.check column.name v)
  let some slot := i.slotOf table | throw (unknownInstance h)
  let (store, i, changed) := i.write reg (← rows) slot index v
  setRows store
  modifyInstance h fun _ => i
  pure changed

/-- The relation a name denotes on an entity, or the build error for an unknown one. -/
def relationOf (e : EntityId) (name : String) : SessionM τ Relation := do
  let reg ← registry
  match reg.findRelation? e name with
  | some r => pure r
  | none => throw (.build .unknownRelation (some (reg.get e).name) none
      ("no relation named '" ++ name ++ "'"))

/-- Check that an owner may be changed through a relation of the expected kind, and that a
target fits it. -/
def relationForUpdate (owner : InstanceId) (relation : String) (target : Option InstanceId)
    (collection : Bool) : SessionM τ Relation := do
  let i ← getInstance owner
  let reg ← registry
  if i.locked then throw (.locked (reg.get i.entity).name relation)
  let r ← relationOf i.entity relation
  if r.isCollection != collection then
    throw (.session .relationKind ("'" ++ relation ++ "' on " ++ (reg.get i.entity).name ++
      " is not a " ++ (if collection then "collection" else "reference") ++ " relation"))
  if let some t := target then
    let te := (← getInstance t).entity
    if !reg.isA te r.target then
      throw (.session .relationKind ("'" ++ relation ++ "' holds " ++ (reg.get r.target).name ++
        ", not " ++ (reg.get te).name))
  pure r

/-- Point a reference at a target, or clear it; the column is written when the owner is saved. -/
def setReference (owner : InstanceId) (relation : String) (target : Option InstanceId) :
    SessionM τ Unit := do
  let _ ← relationForUpdate owner relation target false
  modifyInstance owner (·.setRelation relation (.reference target true))

/-- The collection state of a relation, empty when it was never materialized. -/
def collectionOf (i : Instance) (relation : String) : RelationalData :=
  (i.relation? relation).getD RelationalData.emptyCollection

/-- Add a member to a collection. A member removed since the last save is restored; a member
already there stays once. -/
def addRelated (owner : InstanceId) (relation : String) (child : InstanceId) : SessionM τ Unit := do
  let _ ← relationForUpdate owner relation (some child) true
  let i ← getInstance owner
  let data := match collectionOf i relation with
    | .collection existing added removed =>
      if removed.contains child then
        .collection (if existing.contains child then existing else existing ++ [child]) added
          (removed.erase child)
      else if existing.contains child || added.contains child then .collection existing added removed
      else .collection existing (added ++ [child]) removed
    | other => other
  modifyInstance owner (·.setRelation relation data)

/-- Remove a member from a collection. A member added since the last save is simply dropped; a
stored member is remembered as removed so that the save unlinks it. -/
def removeRelated (owner : InstanceId) (relation : String) (child : InstanceId) : SessionM τ Unit := do
  let _ ← relationForUpdate owner relation (some child) true
  let persisted := (← idOf child).isSome
  let i ← getInstance owner
  let data := match collectionOf i relation with
    | .collection existing added removed =>
      if added.contains child then .collection existing (added.erase child) removed
      else
        .collection (existing.filter (· != child)) added
          (if persisted && !removed.contains child then removed ++ [child] else removed)
    | other => other
  modifyInstance owner (·.setRelation relation data)

/-- Send a call to the transport, keeping its new state whatever the outcome. -/
def send {α : Type} (f : τ → τ × Except Error α) : SessionM τ α := do
  let w ← get
  let (t, r) := f w.transport
  set { w with transport := t }
  match r with
  | .ok a => pure a
  | .error e => throw e

/-- Run a write statement; an error names the statement. -/
def execute [Transport τ] (s : Statement) : SessionM τ Nat :=
  tryCatch (send (Transport.execute · s.sql s.params)) fun e => throw (e.withSql s.sql)

/-- Run an insertion and give the new row's key; an error names the statement. -/
def insert [Transport τ] (s : Statement) : SessionM τ Int64 :=
  tryCatch (send (Transport.insert · s.sql s.params)) fun e => throw (e.withSql s.sql)

end Session

end EntityGraph
