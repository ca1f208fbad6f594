import EntityGraph.Service.Value
import EntityGraph.Database.Connection
import EntityGraph.Text.Quoted

/-!
# The request service: connections

Operations that open connections to the store and drive them directly, step by step, and that
report on the store's version and on the texts of its result codes.
-/

namespace EntityGraph

namespace Service

open Database

/-- The store's version. -/
def storeVersion : String := "3.51.3"

/-- The store's version as a number: major, minor and patch in three-digit groups. -/
def storeVersionNumber : Nat := 3051003

/-- The text of a result code. Extended codes read as their low byte; codes 100 and 101 and the
rollback-abort code have texts of their own. -/
def resultCodeText (code : Int) : String :=
  let texts : List (Option String) :=
    [some "not an error", some "SQL logic error", none, some "access permission denied",
     some "query aborted", some "database is locked", some "database table is locked",
     some "out of memory", some "attempt to write a readonly database", some "interrupted",
     some "disk I/O error", some "database disk image is malformed", some "unknown operation",
     some "database or disk is full", some "unable to open database file", some "locking protocol",
     none, some "database schema has changed", some "string or blob too big",
     some "constraint failed", some "datatype mismatch", some "bad parameter or other API misuse",
     none, some "authorization denied", none, some "column index out of range",
     some "file is not a database", some "notification message", some "warning message"]
  if code == 516 then "abort due to ROLLBACK"
  else if code == 100 then "another row available"
  else if code == 101 then "no more rows available"
  else ((texts.getD (code % 256).toNat none).getD "unknown error")

/-- Report on the store's version and on result code texts. -/
def storeInfoReport (req : Json) : Decode Json := do
  let codes ← (← listField req "codes").mapM asInt
  pure (okAnswer (obj [("version", str storeVersion), ("ffi_version", str storeVersion),
    ("version_number", nat storeVersionNumber),
    ("error_strings", .arr (codes.map fun c => str (resultCodeText c)))]))


/-- The open request a connection entry describes. -/
def openRequestOf (j : Json) : Decode OpenRequest := do
  match ← optStrField j "how" with
  | some "memory" => pure { path := ":memory:" }
  | some "file" => pure { path := ← strField j "path" }
  | some other => throw ("unknown open " ++ other)
  | none =>
    let path := (← optStrField j "path").getD ":memory:"
    match field? j "flags" with
    | none => pure { path }
    | some f => do
      let base : OpenRequest ← match ← optStrField f "preset" with
        | some "read_only" => pure { path, readOnly := true, readWrite := false, create := false }
        | some "create_read_write" => pure { path }
        | some other => throw ("unknown preset " ++ other)
        | none => pure { path, readOnly := false, readWrite := false, create := false }
      let flag (name : String) (d : Bool) : Decode Bool := boolField f name d
      pure { base with readOnly := ← flag "read_only" base.readOnly,
                       readWrite := ← flag "read_write" base.readWrite,
                       create := ← flag "create" base.create }

/-- The answer for a store error in a connection step. -/
def stepError (e : Error) : Json := e.toReport

/-- One step on the connections. -/
def connectionStep (slots : List (Option Nat)) (h : Host) (st : Json) : Decode (Json × Host) := do
  let slot := (← optNatField st "c").getD 0
  let c ← match slots[slot]? with
    | some (some c) => pure c
    | _ => throw "no such connection"
  let params ← match field? st "params" with
    | some ps => values ps
    | none => pure []
  let answer {α : Type} (r : Host × Except Error α) (ok : α → Json) : Json × Host :=
    match r with
    | (h, .ok v) => (okAnswer (ok v), h)
    | (h, .error e) => (stepError e, h)
  match ← strField st "do" with
  | "query" => do
    let sql ← strField st "sql"
    pure (answer (h.query c sql params) fun (names, rows) =>
      obj [("columns", if rows.isEmpty then .null
              else obj [("names", .arr (names.map str)), ("len", nat names.length),
                        ("is_empty", .bool names.isEmpty)]),
           ("rows", .arr (rows.map fun r => .arr (r.map Value.toTagged)))])
  | "execute" => do pure (answer (h.execute c (← strField st "sql") params) nat)
  | "insert" => do pure (answer (h.insert c (← strField st "sql") params) fun n => str (int64Text n))
  | "execute_raw" => do pure (answer (h.executeScript c (← strField st "sql")) fun _ => .null)
  | "begin" => pure (answer (h.begin c) fun _ => .null)
  | "commit" => pure (answer (h.commit c) fun _ => .null)
  | "rollback" => pure (answer (h.rollback c) fun _ => .null)
  | "last_insert_rowid" => pure (okAnswer (str (int64Text (h.connection c).lastRowid)), h)
  | "in_transaction" => pure (okAnswer (.bool (h.connection c).inTransaction), h)
  | "path" => pure (okAnswer (str (h.connection c).path), h)
  | "debug" =>
    let conn := h.connection c
    pure (okAnswer (str ("SqliteConnection \x7b path: " ++ Text.quoted conn.path ++
      ", in_transaction: " ++ (if conn.inTransaction then "true" else "false") ++ " \x7d")), h)
  | "close" => pure (okAnswer .null, h.close c)
  | other => throw ("unknown connection step " ++ other)

/-- Open the connections a request lists and run its steps on them. -/
def connectionSteps (req : Json) : Decode Json := do
  let opens ← (← listField req "connections").mapM openRequestOf
  let (h, slots, answers) := opens.foldl (fun (h, slots, answers) r =>
    match h.openConnection r with
    | .ok (h, c) => (h, slots ++ [some c], answers ++ [okAnswer .null])
    | .error f =>
      let e := Error.database (match f with
        | .nulInPath | .misuse | .cannotOpen | .accessMode _ => .connection) none f.message none
      (h, slots ++ [none], answers ++ [e.toReport])) (({} : Host), [], [])
  let (out, _) ← steps (← listField req "steps") h (connectionStep slots)
  pure (okAnswer (obj [("open", .arr answers), ("steps", .arr out)]))

end Service

end EntityGraph
