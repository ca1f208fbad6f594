import EntityGraph.Session.Transaction
import EntityGraph.Query.Compile

/-!
# Loading instances

Queries run through the transport and their rows are materialized into the session's arena,
each record reported once at its first position. Finding one record by key asks, in order: the
session's identity map, then the row cache (when it holds every row of the record), and only
then the store, through the engine's compiled lookup by the primary key.

Relations load on demand: a reference by the key in its column, a collection by a query on the
owner joined along the relation. Reading a relation that is already materialized sends nothing.
-/

namespace EntityGraph

/-- The instance of a record assembled from cached rows: every level by the record's key, then
every implementation whose link column holds a key; it fails at the first row the cache does not
hold. Every look-up counts as a hit or a miss. -/
def Instance.ofCache (reg : Registry) (store : RowStore) (e : EntityId) (id : Int64) :
    OptionT (StateM (RowCache RowRef)) Instance := do
  let fetch (key : RowKey) : OptionT (StateM (RowCache RowRef)) RowRef :=
    OptionT.mk (modifyGet fun c => (c.get key).swap)
  let base := Instance.unloaded reg e
  let i ← (base.layout.take base.levelCount).zipIdx.foldlM
    (fun i (table, slot) => do return i.setRow slot (← fetch (table, id))) base
  (reg.get e).implementations.zipIdx.foldlM (fun i (impl, k) => do
    match (i.value store i.leafSlot impl.linkColumn).asInt64? with
    | some link => return i.setRow (i.levelCount + k) (← fetch (impl.entity, link))
    | none => return i) i

namespace Session

variable {τ : Type} [Transport τ]

/-- Run a compiled query with slot arguments and materialize its rows; the records in result
order, each once. -/
def runQuery (compiled : CompiledQuery) (args : List Value) : SessionM τ (List InstanceId) := do
  let params ← ofExcept (compiled.bind args)
  let rows ← tryCatch (send (Transport.query · compiled.sql params)) fun e =>
    throw (e.withSql compiled.sql)
  let w ← get
  let scan : Scan := { reg := w.engine.reg, query := compiled, lockLoaded := w.session.config.lockLoaded }
  let ((found, _), st) := (scan.records rows).run { pool := w.engine.pool, arena := w.session.arena }
  set { w with engine := { w.engine with pool := st.pool }, session := { w.session with arena := st.arena } }
  pure found.eraseDups

/-- Run a query, filling its parameter slots from arguments. -/
def fetchWith (q : Query) (args : List Value) : SessionM τ (List InstanceId) := do
  checkEntity q.entity
  let w ← get
  let compiled ← ofExcept (q.compile w.engine.reg w.session.options)
  runQuery compiled args

/-- Run a query without arguments. -/
def fetch (q : Query) : SessionM τ (List InstanceId) := fetchWith q []

/-- The first instance whose column equals a value, through the engine's compiled lookup for
that column. -/
def findUnique (e : EntityId) (column : String) (v : Value) : SessionM τ (Option InstanceId) := do
  checkEntity e
  let w ← get
  let (r, unique) := w.engine.unique.compiled w.engine.reg e column w.session.options
  set { w with engine := { w.engine with unique } }
  let (compiled, _) ← ofExcept r
  return (← runQuery compiled [v]).head?

/-- The instance of a record assembled from the row cache, registered in the arena. -/
def findCached (e : EntityId) (id : Int64) : SessionM τ (Option InstanceId) := do
  let w ← get
  let (found, cache) := (Instance.ofCache w.engine.reg w.engine.pool.store e id).run.run w.engine.pool.cache
  set { w with engine := { w.engine with pool := { w.engine.pool with cache } } }
  match found with
  | none => pure none
  | some i =>
    let (arena, h) := w.session.arena.push { i with locked := w.session.config.lockLoaded }
    modifyArena fun _ => arena.remember w.engine.pool.store h
    pure (some h)

/-- The instance of a record by key: from the session, the row cache, or the store. -/
def find (e : EntityId) (id : Int64) : SessionM τ (Option InstanceId) := do
  checkEntity e
  if let some h := (← get).session.arena.lookup e id then return some h
  if let some h ← findCached e id then return some h
  findUnique e ((← registry).get e).primaryKeyName (.bigInt id)

/-- The target of a reference, loaded by the key in its column the first time. -/
def reference (owner : InstanceId) (relation : String) : SessionM τ (Option InstanceId) := do
  let i ← getInstance owner
  let r ← relationOf i.entity relation
  let .reference column := r.kind
    | throw (.session .relationKind
        ("'" ++ relation ++ "' on " ++ (← entityName i.entity) ++ " is a collection"))
  if let some (.reference target _) := i.relation? relation then return target
  let store ← rows
  let key := (i.slotOf r.owner).bind fun slot => (i.value store slot column).asInt64?
  let target ← match key with
    | some id => find r.target id
    | none => pure none
  modifyInstance owner (·.setRelation relation (.reference target false))
  pure target

/-- Query one relation of a stored instance again, narrowed by a filter, replacing the members
it had loaded; a reference assigned since the last save keeps its target. -/
def loadRelation (owner : InstanceId) (relation : String) (filter : Option Filter) :
    SessionM τ (List InstanceId) := do
  let i ← getInstance owner
  let reg ← registry
  let some id := i.id (← rows)
    | throw (.session .notPersisted
        ((reg.get i.entity).name ++ " must be saved before loading '" ++ relation ++ "'"))
  let r ← relationOf i.entity relation
  let data : RelationalData := match i.relation? relation with
    | some (.collection _ added removed) => .collection [] added removed
    | some (.reference target true) => .reference target true
    | _ => if r.isCollection then RelationalData.emptyCollection else .reference none false
  modifyInstance owner (·.setRelation relation data)
  let join := match filter with
    | some f => (Join.new relation).addFilter f
    | none => Join.new relation
  let q : Query := { (Query.new i.entity).addFilter
      (Filter.empty.is (reg.get i.entity).primaryKeyName (.bigInt id)) with joins := [join] }
  let compiled ← ofExcept (q.compile reg (← get).session.options)
  let _ ← runQuery compiled []
  return (((← getInstance owner).relation? relation).map (·.members)).getD []

/-- The members of a relation, loading it first when it was never materialized; an unsaved
owner has no stored members to load. -/
def related (owner : InstanceId) (relation : String) : SessionM τ (List InstanceId) := do
  let i ← getInstance owner
  if let some d := i.relation? relation then return d.members
  let r ← relationOf i.entity relation
  if !r.isCollection then return (← reference owner relation).toList
  if (i.id (← rows)).isNone then return []
  loadRelation owner relation none

end Session

end EntityGraph
