import EntityGraph.Service.Config
import EntityGraph.Service.Graph
import EntityGraph.Service.Connection
import EntityGraph.Session.Save
import EntityGraph.Database.Link

/-!
# The request service: sessions

Up to eight sessions over one engine and one in-memory database, opened on first use. The
database first runs the request's schema script. Every session sends its statements through a
recorder, and every step is answered with its result, the statements the transport received
during the step, and the notices the session announced.

Every session has one listener of each kind: the listener before commits refuses them while the
request's veto is set, and every listener logs its notice.
-/

namespace EntityGraph

namespace Service

open Database

/-- The sessions of one request and what they share. -/
structure SessionBench where
  engine : Engine
  link : Recorded Link
  sessions : Array (Option Session)
  veto : Bool := false
  /-- A second registry whose entity numbers steps may name. -/
  foreign : Option Registry := none

/-- The text of a recorded transport call. -/
def callReport : TransportCall → Json
  | .statement sql params => .arr [str sql, .arr (params.map Value.toTagged)]
  | .begin => .arr [str "BEGIN"]
  | .commit => .arr [str "COMMIT"]
  | .rollback => .arr [str "ROLLBACK"]

/-- The text of a notice of a session. -/
def noticeReport (session : Nat) : Notice → Json
  | .beforeCommit => obj [("session", nat session), ("event", str "before_commit")]
  | .afterCommit => obj [("session", nat session), ("event", str "after_commit")]
  | .afterRollback => obj [("session", nat session), ("event", str "after_rollback")]
  | .updated e => eventReport "updated" e
  | .deleted e => eventReport "deleted" e
where
  eventReport (kind : String) (e : InstanceEvent) : Json :=
    obj [("session", nat session), ("event", str kind), ("instance", nat e.handle.index),
      ("entity", nat e.entity.index), ("id", str (int64Text e.id))]

/-- The answer of a session operation. -/
def runOperation {α : Type} (w : World (Recorded Link)) (op : SessionM (Recorded Link) α)
    (encode : α → Json) : Json × World (Recorded Link) :=
  match (op.run).run w with
  | (.ok a, w) => (okAnswer (encode a), w)
  | (.error e, w) => (e.toAnswer, w)

/-- A handle as an answer. -/
def handleReport (h : InstanceId) : Json := nat h.index

/-- The `Debug` text of a session. -/
def sessionDebugText (s : Session) : String :=
  let p := s.changes.pending
  "Session \x7b instances: " ++ toString s.arena.size ++ ", in_transaction: " ++
    (if s.inTransaction then "true" else "false") ++ ", pending: PendingCounts \x7b inserted: " ++
    toString p.inserted ++ ", updated: " ++ toString p.updated ++ ", deleted: " ++
    toString p.deleted ++ " \x7d, events: SessionEventCallbacks \x7b before_commit: 1, after_commit: 1, " ++
    "after_rollback: 1, updated: 1, deleted: 1 \x7d, .. \x7d"

/-- The rows of a query as values. -/
def rowsReport (rows : List (List Value)) : Json := .arr (rows.map fun r => .arr (r.map Value.toTagged))

/-- One step on the sessions. -/
def sessionStep (st : SessionBench) (step : Json) : Decode (Json × SessionBench) := do
  let index ← natFieldD step "s" 0
  if index ≥ st.sessions.size then throw "no such session"
  let session := (st.sessions[index]?.join).getD (Session.new st.engine.config)
  let w : World (Recorded Link) :=
    { engine := st.engine, session, transport := st.link.clear,
      commitVeto := if st.veto then some (.custom "commit vetoed") else none }
  let reg := st.engine.reg
  let handle (k : String) : Decode InstanceId := do return ⟨← natField step k⟩
  let entityIn (j : Json) : Decode (Except Error EntityId) := do
    match field? j "foreign_entity" with
    | some n => do
      let name ← asStr n
      match st.foreign.bind (·.entityId? name) with
      | some e => pure (.ok e)
      | none => throw ("unknown foreign entity " ++ name)
    | none => pure (st.engine.entity (← strField j "entity"))
  let withEntity (j : Json) (k : EntityId → Decode (Json × World (Recorded Link))) :
      Decode (Json × World (Recorded Link)) := do
    match ← entityIn j with
    | .ok e => k e
    | .error e => pure (e.toAnswer, w)
  let host := st.link.inner.host
  let conn := st.link.inner.connection
  let onHost (h : Host) : SessionBench := { st with link := { st.link with inner := { st.link.inner with host := h } } }
  let rawAnswer {α : Type} (r : Host × Except Error α) (ok : α → Json) : Json × SessionBench :=
    match r with
    | (h, .ok a) => (okAnswer (ok a), onHost h)
    | (h, .error e) => (e.toAnswer, onHost h)
  let params : Decode (List Value) := match field? step "params" with
    | some ps => values ps
    | none => pure []
  let setCache (c : RowCache RowRef) : SessionBench :=
    { st with engine := { st.engine with pool := { st.engine.pool with cache := c } } }
  let stored : RowStore := st.engine.pool.store
  -- steps that leave the sessions alone
  match ← strField step "do" with
  | "veto" => return (okAnswer .null, { st with veto := ← boolField step "value" true })
  | "sql" => return rawAnswer (host.query conn (← strField step "sql") (← params)) fun (_, rows) => rowsReport rows
  | "exec" => return rawAnswer (host.execute conn (← strField step "sql") (← params)) nat
  | "exec_raw" => return rawAnswer (host.executeScript conn (← strField step "sql")) fun _ => .null
  | "conn_in_transaction" => return (okAnswer (.bool (host.connection conn).inTransaction), st)
  | "conn_last_insert_rowid" => return (okAnswer (str (int64Text (host.connection conn).lastRowid)), st)
  | "cache_stats" => return (okAnswer (statsReport st.engine.pool.cache.stats), st)
  | "cache_clear" => return (okAnswer .null, setCache st.engine.pool.cache.clear)
  | "engine_entity" =>
    return (match st.engine.entity (← strField step "name") with
      | .ok e => okAnswer (nat e.index)
      | .error e => e.toAnswer, st)
  | "cache_contains" | "cache_evict" | "cache_get" => do
    let id ← int64Field step "id"
    match ← entityIn step with
    | .error e => return (e.toAnswer, st)
    | .ok e =>
      match ← strField step "do" with
      | "cache_contains" => return (okAnswer (.bool (st.engine.pool.cache.contains (e, id))), st)
      | "cache_evict" =>
        let (c, found) := st.engine.pool.cache.evict (e, id)
        return (okAnswer (.bool found), setCache c)
      | _ =>
        let (c, row) := st.engine.pool.cache.get (e, id)
        return (okAnswer ((row.map fun r => rowReport (stored.get r)).getD .null), setCache c)
  | other => do
    let (answer, w) ← match other with
      | "create" => withEntity step fun e => pure (runOperation w (Session.create e) handleReport)
      | "set" => do
        let v ← Value.ofTagged (← field step "value")
        pure (runOperation w (Session.setField (← handle "h") (← strField step "field") v) .bool)
      | "get" => do pure (runOperation w (Session.getField (← handle "h") (← strField step "field")) Value.toTagged)
      | "save" => do pure (runOperation w (Session.save (← handle "h")) .bool)
      | "delete" => do pure (runOperation w (Session.delete (← handle "h")) fun _ => .null)
      | "begin" => pure (runOperation w Session.begin fun _ => .null)
      | "commit" => pure (runOperation w Session.commit fun _ => .null)
      | "rollback" => pure (runOperation w Session.rollback fun _ => .null)
      | "find" => do
        let id ← int64Field step "id"
        withEntity step fun e => pure (runOperation w (Session.find e id) (optNat ∘ Option.map (·.index)))
      | "find_unique" => do
        let column ← strField step "column"
        let v ← Value.ofTagged (← field step "value")
        withEntity step fun e =>
          pure (runOperation w (Session.findUnique e column v) (optNat ∘ Option.map (·.index)))
      | "fetch" => do
        let qj ← field step "query"
        let args ← match field? step "args" with
          | some a => some <$> values a
          | none => pure none
        let named := (field? qj "entity").isSome || (field? qj "foreign_entity").isSome
        withEntity (if named then qj else step) fun e => do
          let q ← queryOn e qj
          let op := match args with
            | some a => Session.fetchWith q a
            | none => Session.fetch q
          pure (runOperation w op fun hs => .arr (hs.map handleReport))
      | "set_reference" => do
        let target ← match field? step "target" with
          | some .null | none => pure none
          | some t => some <$> (InstanceId.mk <$> asNat t)
        pure (runOperation w (Session.setReference (← handle "h") (← strField step "relation") target)
          fun _ => .null)
      | "add_related" => do
        pure (runOperation w (Session.addRelated (← handle "h") (← strField step "relation") (← handle "child"))
          fun _ => .null)
      | "remove_related" => do
        pure (runOperation w
          (Session.removeRelated (← handle "h") (← strField step "relation") (← handle "child")) fun _ => .null)
      | "related" => do
        pure (runOperation w (Session.related (← handle "h") (← strField step "relation"))
          fun hs => .arr (hs.map handleReport))
      | "reference" => do
        pure (runOperation w (Session.reference (← handle "h") (← strField step "relation"))
          (optNat ∘ Option.map (·.index)))
      | "load_relation" => do
        let f ← match field? step "filter" with
          | some j => some <$> filter j
          | none => pure none
        pure (runOperation w (Session.loadRelation (← handle "h") (← strField step "relation") f)
          fun hs => .arr (hs.map handleReport))
      | "lock" => do pure (runOperation w (Session.lock (← handle "h")) fun _ => .null)
      | "is_modified" => do pure (runOperation w (Session.isModified (← handle "h")) .bool)
      | "id_of" => do pure (runOperation w (Session.idOf (← handle "h")) (optStr ∘ Option.map int64Text))
      | "entity_of" => do
        pure (runOperation w (Session.entityOf (← handle "h")) fun e => entityName reg e)
      | "instance" => do
        let h ← handle "h"
        pure (runOperation w (Session.getInstance h) fun i => instanceReport reg stored h i)
      | "tree" => do
        let h ← handle "h"
        pure (match w.session.arena.tree reg stored w.session.config.maxTreeDepth h with
          | some t => okAnswer t
          | none => (Session.unknownInstance h).toAnswer, w)
      | "pending" =>
        let p := w.session.changes.pending
        pure (okAnswer (obj [("inserted", nat p.inserted), ("updated", nat p.updated),
          ("deleted", nat p.deleted)]), w)
      | "in_transaction" => pure (okAnswer (.bool w.session.inTransaction), w)
      | "arena_len" => pure (okAnswer (nat w.session.arena.size), w)
      | "lookup" => do
        let id ← int64Field step "id"
        withEntity step fun e => pure (okAnswer (optNat ((w.session.arena.lookup e id).map (·.index))), w)
      | "info" =>
        let c := st.engine.config
        pure (okAnswer (obj [("config", w.session.config.toJson),
          ("compile_options", w.session.options.toJson), ("registry_len", nat reg.size),
          ("cache_len", nat st.engine.pool.cache.size),
          ("cache_capacity", nat st.engine.pool.cache.capacity),
          ("arena_len", nat w.session.arena.size), ("arena_is_empty", .bool w.session.arena.isEmpty),
          ("engine_config", c.toJson), ("engine_registry_len", nat reg.size),
          ("engine_clone_shares_cache", .bool true)]), w)
      | "debug" => pure (okAnswer (str (sessionDebugText w.session)), w)
      | other => throw ("unknown session step " ++ other)
    let calls := w.transport.calls.toList
    let notices := w.notices.toList
    let answer := match answer with
      | .obj fs =>
        let fs := if calls.isEmpty then fs else Json.setField "sql" (.arr (calls.map callReport)) fs
        let fs := if notices.isEmpty then fs
          else Json.setField "events" (.arr (notices.map (noticeReport index))) fs
        Json.obj fs
      | j => j
    return (answer, { st with engine := w.engine, link := w.transport,
                              sessions := st.sessions.set! index (some w.session) })

/-- Set up the engine and the database a request describes and run its steps. -/
def sessionSteps (req : Json) (reg : Registry) : Decode Json := do
  let config ← match field? req "config" with
    | some (.str t) => pure (EngineConfig.ofText t)
    | some j => pure (EngineConfig.ofText j.render)
    | none => pure (.ok {})
  let foreign ← match field? req "foreign_entities" with
    | some j => do
      match ← registryOf j with
      | .ok r => pure (some r)
      | .error _ => throw "bad foreign entities"
    | none => pure none
  match config with
  | .error e => pure e.toAnswer
  | .ok config =>
    match ({} : Host).openConnection { path := ":memory:" } with
    | .error f => throw f.message
    | .ok (host, conn) =>
      let (host, ran) := match field? req "ddl" with
        | some (.str ddl) => host.executeScript conn ddl
        | _ => (host, .ok ())
      match ran with
      | .error e => pure e.toAnswer
      | .ok () =>
        let bench : SessionBench :=
          { engine := Engine.new reg config, link := { inner := { host, connection := conn } },
            sessions := Array.replicate 8 none, foreign }
        let (out, _) ← steps (← listField req "steps") bench sessionStep
        pure (okAnswer (.arr out))

end Service

end EntityGraph
