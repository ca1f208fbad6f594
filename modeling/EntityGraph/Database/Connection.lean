import EntityGraph.Database.Execute
import EntityGraph.Error

/-!
# Databases and connections

A `Host` holds the databases of one run and the connections open to them. A connection opened on
`:memory:` gets a database of its own; connections that open the same name with
`file:NAME?mode=memory&cache=shared` share one database. Paths naming files on disk are never
opened.

Each connection runs statements on its database. Outside a transaction every statement commits
on its own; `BEGIN` starts a transaction that `COMMIT` keeps and `ROLLBACK` undoes. A failing
statement undoes only its own changes.

Connections sharing a database lock its tables: a connection that reads a table holds a read
lock on it, one that writes holds a write lock, until its transaction ends (at the end of the
statement outside a transaction). A connection cannot read a table another has write-locked, nor
write one another has locked at all; only one connection writes at a time, and while a writer
waits for readers to leave no one else starts reading. Any such conflict fails with `database
table is locked`. Every open transaction also reads the schema, so a definition waits for all
others, and a definition not yet committed keeps others from preparing statements (`database
schema is locked`).

The operations at the bottom (`Host.query`, `Host.execute`, `Host.insert`, `Host.executeScript`,
`Host.begin`, `Host.commit`, `Host.rollback`) are the transport a session talks to: they bind
values, run one statement and turn a failure into a library `Error` that carries the statement.
-/

namespace EntityGraph

namespace Database

/-- One database and the state of the transactions on it. -/
structure Store where
  /-- The name connections share it by, if shared. -/
  sharedName : Option String := none
  catalog : Catalog := {}
  /-- The connection writing it, with the catalog to go back to when its transaction is undone. -/
  writer : Option (Nat × Catalog) := none
  /-- Table locks: the connection, the table, and whether the lock is for writing. -/
  locks : List (Nat × String × Bool) := []
  /-- Connections with an open transaction; each reads the schema. -/
  readers : List Nat := []
  /-- Whether the writer waits for readers to leave. -/
  pending : Bool := false
  deriving Inhabited

/-- An open savepoint: its name, and the database and the counts of rows breaking deferred
foreign keys it began from. -/
structure Savepoint where
  name : String
  catalog : Catalog
  deferredBreaks : Int := 0
  postponedBreaks : Int := 0
  deriving Inhabited

/-- A connection to a database. -/
structure Connection where
  path : String
  /-- The index of its database. -/
  store : Nat
  readOnly : Bool := false
  /-- Whether the connection is outside an explicit transaction. -/
  autocommit : Bool := true
  /-- The transport's own record of an open transaction. -/
  inTransaction : Bool := false
  lastRowid : Int64 := 0
  changes : Nat := 0
  totalChanges : Nat := 0
  /-- Open savepoints, innermost first. -/
  savepoints : List Savepoint := []
  /-- Whether the transaction was opened by a savepoint, so that releasing it commits. -/
  openedBySavepoint : Bool := false
  closed : Bool := false
  /-- Whether foreign keys are enforced; connections start with them on. -/
  foreignKeys : Bool := true
  /-- Whether every foreign key waits for the end of the open transaction. -/
  deferAll : Bool := false
  /-- Rows breaking deferred foreign keys in the open transaction. -/
  deferredBreaks : Int := 0
  /-- Rows breaking foreign keys while every key is deferred, in the open transaction. -/
  postponedBreaks : Int := 0
  deriving Inhabited

/-- Whether a connection's open transaction holds rows breaking deferred foreign keys, so that
it cannot commit. -/
def Connection.keysBroken (c : Connection) : Bool := c.deferredBreaks > 0 || c.postponedBreaks > 0

/-- The databases and connections of one run. -/
structure Host where
  stores : Array Store := #[]
  connections : Array Connection := #[]
  deriving Inhabited

/-- What `open` is asked for: a path and the open flags. -/
structure OpenRequest where
  path : String
  readOnly : Bool := false
  readWrite : Bool := true
  create : Bool := true
  deriving Inhabited, Repr

/-- Why a connection could not be opened. -/
inductive OpenFault where
  | nulInPath
  | misuse
  | cannotOpen
  | accessMode (mode : String)
  deriving Inhabited, Repr

/-- The message of an open fault. -/
def OpenFault.message : OpenFault → String
  | .nulInPath => "invalid path: contains null byte"
  | .misuse => "failed to open database: bad parameter or other API misuse"
  | .cannotOpen => "failed to open database: unable to open database file"
  | .accessMode m => "failed to open database: no such access mode: " ++ m

/-- The parts of a `file:` name: the name before `?` and the parameters after it. -/
def uriParts (path : String) : Option (String × List (String × String)) :=
  if path.startsWith "file:" then
    let rest := (path.drop 5).toString
    let (name, query) := match rest.splitOn "?" with
      | n :: qs => (n, "?".intercalate qs)
      | [] => ("", "")
    let params := (query.splitOn "&").filterMap fun kv =>
      match kv.splitOn "=" with
      | [k, v] => some (k, v)
      | _ => none
    some (name, params)
  else none

namespace Host

/-- Open a connection; its index. The read and write flags must ask for reading only, reading
and writing, or reading, writing and creating. -/
def openConnection (h : Host) (r : OpenRequest) : Except OpenFault (Host × Nat) := do
  if r.path.contains '\x00' then throw .nulInPath
  let mode := (if r.readOnly then 1 else 0) ||| (if r.readWrite then 2 else 0) ||| (if r.create then 4 else 0)
  let mode := if mode &&& 3 == 0 then mode ||| 6 else mode
  if !(mode == 1 || mode == 2 || mode == 6) then throw .misuse
  let readOnly := mode == 1
  let (memory, shared, readOnly) ← match uriParts r.path with
    | some (name, params) =>
      let accessMode := params.lookup "mode"
      match accessMode with
      | some m =>
        if !(["ro", "rw", "rwc", "memory"].contains m) then throw (.accessMode m)
      | none => pure ()
      let memory := name == ":memory:" || accessMode == some "memory"
      let shared := if params.lookup "cache" == some "shared" then some name else none
      pure (memory, (if memory then shared else none), readOnly || accessMode == some "ro")
    | none => pure (r.path == ":memory:" || r.path.isEmpty, none, readOnly)
  if !memory then throw .cannotOpen
  let existing := match shared with
    | some n => (h.stores.toList.zipIdx.find? fun (s, i) => s.sharedName == some n &&
        h.connections.any fun c => c.store == i && !c.closed).map (·.2)
    | none => none
  let (h, store) := match existing with
    | some i => (h, i)
    | none => ({ h with stores := h.stores.push { sharedName := shared } }, h.stores.size)
  let c : Connection := { path := r.path, store, readOnly }
  pure ({ h with connections := h.connections.push c }, h.connections.size)

/-- A connection by index. -/
def connection (h : Host) (c : Nat) : Connection := h.connections[c]?.getD default

/-- The database of a connection. -/
def storeOf (h : Host) (c : Nat) : Store := h.stores[(h.connection c).store]?.getD default

/-- Replace a connection. -/
def setConnection (h : Host) (c : Nat) (conn : Connection) : Host :=
  { h with connections := h.connections.set! c conn }

/-- Replace the database of a connection. -/
def setStore (h : Host) (c : Nat) (s : Store) : Host :=
  { h with stores := h.stores.set! (h.connection c).store s }

end Host

namespace Store

/-- Whether another connection holds a lock on a table, for writing only if `writeOnly`. -/
def lockedByOther (s : Store) (c : Nat) (table : String) (writeOnly : Bool) : Bool :=
  s.locks.any fun (d, t, w) => d != c && sameName t table && (w || !writeOnly)

/-- Take a lock, keeping one entry per connection, table and kind. -/
def addLock (s : Store) (c : Nat) (table : String) (write : Bool) : Store :=
  if s.locks.any (fun (d, t, w) => d == c && sameName t table && w == write) then s
  else { s with locks := s.locks ++ [(c, table, write)] }

/-- End a connection's transaction on the database: drop its locks, and keep or undo its
writes. When the last reader besides a waiting writer leaves, the writer stops waiting. -/
def finish (s : Store) (c : Nat) (keep : Bool) : Store :=
  let isWriter := match s.writer with
    | some (w, _) => w == c
    | none => false
  let pending := if !isWriter && s.readers.length ≤ 2 then false else s.pending
  let s := { s with locks := s.locks.filter (·.1 != c), readers := s.readers.filter (· != c), pending }
  match s.writer with
  | some (w, before) =>
    if w == c then
      { s with writer := none, pending := false, catalog := if keep then s.catalog else before }
    else s
  | none => s

end Store

/-- A table's name as the catalog declares it, or as written when there is no such table. -/
def Catalog.declaredName (c : Catalog) (name : String) : String :=
  (c.findTable? none name).map (·.2.name) |>.getD name

/-- The faults of a statement about to run on a connection whose database is shared: the locks
it would take, checked against the other connections'. -/
def Store.lockFault? (s : Store) (c : Nat) (st : Statement) : Option Fault :=
  let written := st.tableWritten?
  let otherWriter := match s.writer with
    | some (w, _) => w != c
    | none => false
  if written.isSome && otherWriter then some (.tableLocked none)
  else if s.pending && otherWriter then some (.tableLocked none)
  else
    let readBlocked := st.tablesRead.find? fun t => s.lockedByOther c t true
    match readBlocked with
    | some t => some (.tableLocked (some (s.catalog.declaredName t)))
    | none =>
      match written with
      | some t =>
        if s.lockedByOther c t false then some (.tableLocked (some (s.catalog.declaredName t)))
        else if t == schemaTableName && s.readers.any (· != c) then some (.tableLocked (some t))
        else none
      | none => none

/-- Whether a statement's write waits on readers of the table it writes. -/
def Store.writeWaits (s : Store) (c : Nat) (st : Statement) : Bool :=
  match st.tableWritten? with
  | some t => s.lockedByOther c t false || (t == schemaTableName && s.readers.any (· != c))
  | none => false

/-- What running a statement on a connection gave: rows with their column names, or nothing. -/
inductive Reply where
  | rows (names : List String) (rows : List (List Datum))
  | done
  deriving Inhabited

/-- The fault of `BEGIN` inside a transaction. -/
def nestedTransaction : Fault := Fault.error "cannot start a transaction within a transaction"

/-- The fault of `COMMIT` or `ROLLBACK` outside a transaction. -/
def noTransaction (committing : Bool) : Fault :=
  Fault.error ((if committing then "cannot commit" else "cannot rollback") ++ " - no transaction is active")

/-- The fault of a savepoint that is not open. -/
def noSavepoint (name : String) : Fault := Fault.error ("no such savepoint: " ++ name)

/-- The state a statement on a connection starts from, over a catalog. -/
def Connection.writeState (conn : Connection) (catalog : Catalog) : WriteState :=
  { catalog, lastRowid := conn.lastRowid, priorChanges := conn.changes,
    totalChanges := conn.totalChanges, foreignKeys := conn.foreignKeys, deferAll := conn.deferAll,
    inTransaction := !conn.autocommit, deferredBreaks := conn.deferredBreaks,
    postponedBreaks := conn.postponedBreaks }

/-- A connection after a statement: outside a transaction the statement was a transaction of its
own, so no deferred break is left and keys are no longer all deferred. -/
def Connection.afterStatement (conn : Connection) : Connection :=
  if conn.autocommit then { conn with deferAll := false, deferredBreaks := 0, postponedBreaks := 0 }
  else conn

/-- A statement's result once its foreign keys are settled: it fails, its changes undone, when
it leaves an immediate key broken (also after an `OR FAIL` conflict, whose changes would have
been kept), or when it runs outside a transaction and leaves a deferred key broken. -/
def settleKeys (autocommit : Bool) (result : Except Fault Outcome) (after : WriteState) :
    Except Fault Outcome × WriteState :=
  let kept := match result with
    | .ok _ => true
    | .error _ => after.keepOnFault && !after.rollback
  let deferredLeft := after.deferredBreaks > 0 || after.postponedBreaks > 0
  if kept && (after.immediateBreaks > 0 || (autocommit && deferredLeft)) then
    (.error Fault.foreignKey, { after with keepOnFault := false, rollback := false })
  else (result, after)

/-- Whether a statement counts the rows it changes. -/
def Statement.countsChanges : Statement → Bool
  | .insert .. | .update .. | .delete .. => true
  | _ => false

namespace Host

/-- End a connection's transaction, keeping or undoing its writes. -/
def endTransaction (h : Host) (c : Nat) (keep : Bool) : Host :=
  let conn := h.connection c
  let h := h.setStore c ((h.storeOf c).finish c keep)
  h.setConnection c { conn with autocommit := true, savepoints := [], openedBySavepoint := false,
                                deferAll := false, deferredBreaks := 0, postponedBreaks := 0 }

/-- Run transaction control: `BEGIN`, `COMMIT`, `ROLLBACK` and savepoints. -/
def control (h : Host) (c : Nat) (st : Statement) : Host × Except Fault Reply :=
  let conn := h.connection c
  let s := h.storeOf c
  match st with
  | .begin _ =>
    if !conn.autocommit then (h, .error nestedTransaction)
    else (h.setConnection c { conn with autocommit := false }, .ok .done)
  | .commit =>
    if conn.autocommit then (h, .error (noTransaction true))
    else if conn.keysBroken then (h, .error Fault.foreignKey)
    else (h.endTransaction c true, .ok .done)
  | .rollback none =>
    if conn.autocommit then (h, .error (noTransaction false))
    else (h.endTransaction c false, .ok .done)
  | .rollback (some name) =>
    match conn.savepoints.findIdx? (sameName ·.name name) with
    | none => (h, .error (noSavepoint name))
    | some k =>
      let sp := conn.savepoints.getD k { name, catalog := s.catalog }
      let h := h.setStore c { s with catalog := sp.catalog }
      (h.setConnection c { conn with savepoints := conn.savepoints.drop k,
                                     deferredBreaks := sp.deferredBreaks,
                                     postponedBreaks := sp.postponedBreaks }, .ok .done)
  | .savepoint name =>
    let opened := conn.autocommit
    let s := match s.writer with
      | some _ => s
      | none => { s with writer := some (c, s.catalog) }
    let h := h.setStore c s
    (h.setConnection c { conn with autocommit := false,
                                   openedBySavepoint := conn.openedBySavepoint || opened,
                                   savepoints := { name, catalog := s.catalog,
                                                   deferredBreaks := conn.deferredBreaks,
                                                   postponedBreaks := conn.postponedBreaks } ::
                                                 conn.savepoints }, .ok .done)
  | .release name =>
    match conn.savepoints.findIdx? (sameName ·.name name) with
    | none => (h, .error (noSavepoint name))
    | some k =>
      let rest := conn.savepoints.drop (k + 1)
      if rest.isEmpty && conn.openedBySavepoint then
        if conn.keysBroken then (h, .error Fault.foreignKey)
        else (h.endTransaction c true, .ok .done)
      else (h.setConnection c { conn with savepoints := rest }, .ok .done)
  | _ => (h, .ok .done)

/-- Run a prepared statement with bound values on a connection. -/
def runPrepared (h : Host) (c : Nat) (p : Prepared) (params : Array Datum) : Host × Except Fault Reply :=
  let conn := h.connection c
  let s := h.storeOf c
  let st := p.statement
  match st with
  | .begin _ | .commit | .rollback _ | .savepoint _ | .release _ =>
    if p.explain.isSome then (h, .ok (.rows explainNames []))
    else h.control c st
  | _ =>
    let writes := st.tableWritten?.isSome && p.explain.isNone
    if writes && conn.readOnly then (h, .error Fault.readOnly)
    else
      match s.lockFault? c st with
      | some f =>
        let s := if s.writeWaits c st && (match s.writer with
            | some (w, _) => w == c
            | none => false) then { s with pending := true } else s
        (h.setStore c s, .error f)
      | none =>
        -- take the locks and, for a write, the database's writer slot
        let s := { s with readers := if s.readers.contains c then s.readers else s.readers ++ [c] }
        let s := st.tablesRead.foldl (fun s t => s.addLock c t false) s
        let s := match st.tableWritten? with
          | some t =>
            if p.explain.isSome then s
            else
              let s := s.addLock c t true
              match s.writer with
              | some _ => s
              | none => { s with writer := some (c, s.catalog) }
          | none => s
        let start : WriteState := { conn.writeState s.catalog with params }
        let scope : StatementScope := { prepareOnly := p.explain.isSome }
        let (result, after) := ((runTop scope st).run).run start
        let (result, after) := settleKeys conn.autocommit result after
        let counted := st.countsChanges && p.explain.isNone
        match result with
        | .error f =>
          let kept := after.keepOnFault || after.rollback
          let s := { s with catalog := if kept then after.catalog else s.catalog }
          let changes := if kept then after.changes else 0
          let keepsBreaks := after.keepOnFault && !after.rollback
          let conn := { conn with lastRowid := after.lastRowid,
                                  changes := if counted then changes else conn.changes,
                                  totalChanges := conn.totalChanges + (if counted then changes else 0) +
                                    after.triggerChanges,
                                  deferredBreaks :=
                                    if keepsBreaks then after.deferredBreaks else conn.deferredBreaks,
                                  postponedBreaks :=
                                    if keepsBreaks then after.postponedBreaks else conn.postponedBreaks }
          let conn := conn.afterStatement
          let h := (h.setStore c s).setConnection c conn
          if after.rollback && !conn.autocommit then (h.endTransaction c false, .error f)
          else
            let h := if conn.autocommit then h.setStore c ((h.storeOf c).finish c (kept && !after.rollback)) else h
            (h, .error f)
        | .ok outcome =>
          let s := { s with catalog := after.catalog }
          let s := if conn.autocommit then s.finish c true else s
          let conn := { conn with lastRowid := after.lastRowid,
                                  changes := if counted then after.changes else conn.changes,
                                  totalChanges := conn.totalChanges + (if counted then after.changes else 0) +
                                    after.triggerChanges,
                                  foreignKeys := after.foreignKeys, deferAll := after.deferAll,
                                  deferredBreaks := after.deferredBreaks,
                                  postponedBreaks := after.postponedBreaks }
          let conn := conn.afterStatement
          let reply := match p.explain, outcome with
            | some true, _ => Reply.rows explainNames (explainRows st)
            | some false, _ => Reply.rows ["addr", "opcode", "p1", "p2", "p3", "p4", "p5", "comment"] []
            | none, .rows names rows => Reply.rows names rows
            | none, .done => Reply.done
          ((h.setStore c s).setConnection c conn, .ok reply)

/-- A database error for a statement. -/
def storeError (kind : StoreFault) (sql : String) (message : String) : Error :=
  .database kind (some sql) message none

/-- The kind of store error a result code is reported as. -/
def faultKind (code : Nat) : StoreFault :=
  match code % 256 with
  | 19 => .constraint
  | 5 | 6 => .busy
  | 1 => .invalidStatement
  | _ => .other

/-- The error a failure of a statement is reported as. -/
def faultError (sql : String) (f : Fault) : Error := storeError (faultKind f.code) sql f.message

/-- Whether the schema of a connection's database is locked by another connection's definition
not yet committed. -/
def schemaLocked (h : Host) (c : Nat) : Bool :=
  (h.storeOf c).lockedByOther c schemaTableName true

/-- The fault preparing a statement on a connection would meet: its names bound against the
catalog, and a definition tried on a copy of it. -/
def prepareFault? (h : Host) (c : Nat) (p : Prepared) : Option Fault :=
  let conn := h.connection c
  let start := conn.writeState (h.storeOf c).catalog
  match p.statement with
  | .begin _ | .commit | .rollback _ | .savepoint _ | .release _ => none
  | st =>
    match (((runTop { prepareOnly := true } st).run).run start).1 with
    | .error f => some f
    | .ok _ => none

/-- Prepare the first statement of a text on a connection, bind values to it, and run it. An
empty text runs nothing and fails as the store does when stepping no statement. -/
def step (h : Host) (c : Nat) (sql : String) (params : List Value) : Host × Except Error Reply :=
  if sql.contains '\x00' then (h, .error (storeError .invalidStatement sql "SQL contains null byte"))
  else if h.schemaLocked c then (h, .error (faultError sql .schemaLocked))
  else
    match prepareFirst sql with
    | .error f => (h, .error (faultError sql (.unreadable f)))
    | .ok none =>
      if params.isEmpty then (h, .error (storeError .other sql "not an error"))
      else (h, .error (storeError .other sql "failed to bind parameter 1: not an error"))
    | .ok (some p) =>
      if params.length > p.parameterCount then
        -- names are resolved when the statement is prepared, before values are bound
        match h.prepareFault? c p with
        | some f => (h, .error (faultError sql f))
        | none =>
          (h, .error (storeError .other sql
            ("failed to bind parameter " ++ toString (p.parameterCount + 1) ++ ": column index out of range")))
      else
        let bound := (params.map Datum.ofValue).toArray
        match h.runPrepared c p bound with
        | (h, .ok r) => (h, .ok r)
        | (h, .error f) => (h, .error (faultError sql f))

/-- Run a query and give its column names and rows. -/
def query (h : Host) (c : Nat) (sql : String) (params : List Value) :
    Host × Except Error (List String × List (List Value)) :=
  match h.step c sql params with
  | (h, .ok (.rows names rows)) => (h, .ok (names, rows.map (·.map Datum.toValue)))
  | (h, .ok .done) => (h, .ok ([], []))
  | (h, .error e) => (h, .error e)

/-- Run a statement and give the count of rows the last write changed. -/
def execute (h : Host) (c : Nat) (sql : String) (params : List Value) : Host × Except Error Nat :=
  match h.step c sql params with
  | (h, .ok _) => (h, .ok (h.connection c).changes)
  | (h, .error e) => (h, .error e)

/-- Run an insertion and give the row id of the last row inserted. -/
def insert (h : Host) (c : Nat) (sql : String) (params : List Value) : Host × Except Error Int64 :=
  match h.step c sql params with
  | (h, .ok _) => (h, .ok (h.connection c).lastRowid)
  | (h, .error e) => (h, .error e)

/-- Run every statement of a text in turn, stopping at the first that fails. -/
def executeScript (h : Host) (c : Nat) (sql : String) : Host × Except Error Unit :=
  if sql.contains '\x00' then (h, .error (storeError .invalidStatement sql "SQL contains null byte"))
  else
  let ts := Token.scan sql
  let cs := sql.toList.toArray
  let rec go (h : Host) (pos : Nat) : (fuel : Nat) → Host × Except Error Unit
    | 0 => (h, .ok ())
    | fuel + 1 =>
      if h.schemaLocked c then (h, .error (faultError sql .schemaLocked))
      else
        match readStatementAt ts cs pos with
        | .error f => (h, .error (faultError sql (.unreadable f)))
        | .ok none => (h, .ok ())
        | .ok (some (p, next)) =>
          match h.runPrepared c p #[] with
          | (h, .ok _) => go h next fuel
          | (h, .error f) => (h, .error (faultError sql f))
  go h 0 (ts.size + 1)

/-- Open or close a transaction as the transport does: refuse when its own record says the
transaction is already open (or not open), else run the command and record the new state. -/
def transaction (h : Host) (c : Nat) (command : String) (opening : Bool) : Host × Except Error Unit :=
  let conn := h.connection c
  if conn.inTransaction == opening then
    (h, .error (storeError .other command
      (if opening then "already in a transaction" else "not in a transaction")))
  else
    match h.executeScript c command with
    | (h, .ok ()) => (h.setConnection c { h.connection c with inTransaction := opening }, .ok ())
    | (h, .error e) => (h, .error e)

/-- Open a transaction. -/
def begin (h : Host) (c : Nat) : Host × Except Error Unit := h.transaction c "BEGIN" true

/-- Commit the open transaction. -/
def commit (h : Host) (c : Nat) : Host × Except Error Unit := h.transaction c "COMMIT" false

/-- Undo the open transaction. -/
def rollback (h : Host) (c : Nat) : Host × Except Error Unit := h.transaction c "ROLLBACK" false

/-- Close a connection: an open transaction is undone and its locks released. -/
def close (h : Host) (c : Nat) : Host :=
  let conn := h.connection c
  let s := (h.storeOf c).finish c false
  let h := h.setStore c s
  h.setConnection c { conn with closed := true }

end Host

end Database

end EntityGraph
