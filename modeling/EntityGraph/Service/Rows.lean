import EntityGraph.Service.Value
import EntityGraph.Service.Schema
import EntityGraph.Row.ModelRow
import EntityGraph.Row.ResultRow
import EntityGraph.RowCache

/-!
# The request service: rows

Operations that step through a column mask, an entity row, a result row and a row cache,
answering after every step with the state it left.
-/

namespace EntityGraph

namespace Service

/-- The state of an entity row. -/
def rowFields (r : ModelRow) : List (String × Json) :=
  [("id", optStr (r.id.map int64Text)),
   ("values", .arr (r.values.map Value.toTagged)),
   ("modified", .arr (r.modified.toList.map nat)),
   ("is_modified", .bool r.isModified)]

/-- An entity row. -/
def rowReport (r : ModelRow) : Json := obj (rowFields r)

/-- Cache counts. -/
def statsReport (s : CacheStats) : Json :=
  obj [("hits", nat s.hits), ("misses", nat s.misses), ("evictions", nat s.evictions),
    ("len", nat s.len)]

/-- Step through a column mask. -/
def maskSteps (req : Json) : Decode Json := do
  let _ ← natField req "len"
  let step (m : ColumnMask) (st : Json) : Decode (Json × ColumnMask) := do
    let (m, result) ← match ← strField st "do" with
      | "set" => do pure (m.set (← natField st "index"), Json.null)
      | "is_set" => do pure (m, Json.bool (m.isSet (← natField st "index")))
      | "clear" => pure (m.clear, Json.null)
      | _ => throw "bad mask step"
    pure (obj [("result", result), ("bits", .arr (m.toList.map nat)), ("any", .bool m.any)], m)
  let (out, _) ← steps (← asArr (← field req "steps")) ColumnMask.empty step
  pure (okAnswer (.arr out))

/-- Step through an entity row. -/
def modelRowSteps (req : Json) (reg : Registry) : Decode Json := do
  let s := reg.get (← entityOf reg (← strField req "entity"))
  let step (r : ModelRow) (st : Json) : Decode (Json × ModelRow) := do
    let (r, result) ← match ← strField st "do" with
      | "new" => pure (ModelRow.new s, Json.null)
      | "loaded" => do
        pure (ModelRow.loaded s (← int64Field st "id") (← values (← field st "values")), Json.null)
      | "set" => do
        let (r, b) := r.set (← natField st "index") (← Value.ofTagged (← field st "value"))
        pure (r, Json.bool b)
      | "assign" => do
        pure (r.assign (← natField st "index") (← Value.ofTagged (← field st "value")), Json.null)
      | "refresh" => do pure (r.refresh (← values (← field st "values")), Json.null)
      | "set_id" => do pure (r.setId (← int64Field st "id"), Json.null)
      | "copy_for_write" => pure (r.copyForWrite, Json.null)
      | "clear_modified" => pure (r.clearModified, Json.null)
      | "get" => do pure (r, optValue (r.get? (← natField st "index")))
      | "is_column_modified" => do pure (r, Json.bool (r.isColumnModified (← natField st "index")))
      | _ => throw "bad row step"
    pure (obj (rowFields r ++ [("result", result)]), r)
  let (out, _) ← steps (← asArr (← field req "steps")) (ModelRow.new s) step
  pure (okAnswer (.arr out))

/-- Probe a result row. -/
def resultRowReport (req : Json) : Decode Json := do
  let names ← (← asArr (← field req "names")).mapM asStr
  let vs ← values (← field req "values")
  let info ← match field? req "tables" with
    | some ts => do
      let ts ← (← asArr ts).mapM fun t => match t with
        | .null => pure none
        | t => some <$> asStr t
      pure ({ names, tables := ts } : ColumnInfo)
    | none => pure (ColumnInfo.ofNames names)
  let row : ResultRow := { columns := info, values := vs }
  let probes ← (← asArr (← field req "probes")).mapM fun p => do
    match ← strField p "fn" with
    | "get" => do pure (optValue (row.get? (← natField p "index")))
    | "get_by_name" => do pure (optValue (row.getByName? (← strField p "name")))
    | "get_qualified" => do
      pure (optValue (row.getQualified? (← strField p "table") (← strField p "name")))
    | "index_of" => do pure (optNat (info.indexOf? (← strField p "name")))
    | "index_of_qualified" => do
      pure (optNat (info.indexOfQualified? (← strField p "table") (← strField p "name")))
    | "name_at" => do pure (optStr (info.nameAt? (← natField p "index")))
    | "table_at" => do pure (optStr (info.tableAt? (← natField p "index")))
    | _ => throw "bad probe"
  pure (okAnswer (obj [("len", nat vs.length), ("is_empty", .bool vs.isEmpty),
    ("values", .arr (vs.map Value.toTagged)),
    ("info", obj [("len", nat info.size), ("is_empty", .bool (info.size == 0)),
      ("names", .arr (names.map str))]),
    ("default_info_len", nat 0), ("probes", .arr probes),
    ("into_values", .arr (vs.map Value.toTagged))]))

/-- Step through a row cache of entity rows. -/
def rowCacheSteps (req : Json) (r : Registry) : Decode Json := do
  let capacity ← natFieldD req "capacity" 10000
  let keyOf (s : Json) : Decode (Structure × RowKey) := do
    let e ← entityOf r (← strField s "entity")
    pure (r.get e, (e, ← int64Field s "id"))
  let step (c : RowCache ModelRow) (s : Json) : Decode (Json × RowCache ModelRow) := do
    let (result, c) ← match ← strField s "do" with
      | "get" =>
        let (_, key) ← keyOf s
        let (c, row) := c.get key
        pure ((row.map rowReport).getD .null, c)
      | "get_or_insert" =>
        let (st, key) ← keyOf s
        let vs ← values (← field s "values")
        let (c, row, made) := Id.run (c.getOrInsert key (pure (ModelRow.loaded st key.2 vs)))
        pure (obj [("made", .bool made), ("row", rowReport row)], c)
      | "put" =>
        let st := r.get (← entityOf r (← strField s "entity"))
        let vs ← (← listField s "values").mapM Value.ofTagged
        match field? s "id" with
        | some i =>
          let id ← int64Of (← asInt i)
          pure (.null, c.put (st.id, id) (ModelRow.loaded st id vs))
        | none => pure (.null, c)
      | "evict" =>
        let (_, key) ← keyOf s
        let (c, b) := c.evict key
        pure (.bool b, c)
      | "contains" =>
        let (_, key) ← keyOf s
        pure (.bool (c.contains key), c)
      | "clear" => pure (.null, c.clear)
      | "len" => pure (nat c.size, c)
      | "is_empty" => pure (.bool c.isEmpty, c)
      | "capacity" => pure (nat c.capacity, c)
      | other => throw ("unknown row cache step " ++ other)
    pure (obj [("result", result), ("stats", statsReport c.stats)], c)
  let (out, _) ← steps (← listField req "steps") (RowCache.empty capacity) step
  pure (okAnswer (.arr out))

end Service

end EntityGraph
