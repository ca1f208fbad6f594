import EntityGraph.Service.Rows
import EntityGraph.Service.Query
import EntityGraph.Graph.Materialize
import EntityGraph.Graph.Tree

/-!
# The request service: instances and materializing

An instance is reported with its handle, entity, key, flags, the row of every table it spans,
and its materialized relations. Materializing feeds runs of result rows, one scan per run, into
one arena and one row cache, and reports the records found, the instances seen and their trees.
-/

namespace EntityGraph

namespace Service

/-- The state of a relation. -/
def relationalReport (d : RelationalData) : Json :=
  let handles (hs : List InstanceId) : Json := .arr (hs.map fun h => nat h.index)
  match d with
  | .reference target dirty =>
    obj [("reference", obj [("target", optNat (target.map (·.index))), ("dirty", .bool dirty)]),
      ("is_dirty", .bool d.isDirty)]
  | .collection existing added removed =>
    obj [("collection", obj [("existing", handles existing), ("added", handles added),
        ("removed", handles removed)]),
      ("is_dirty", .bool d.isDirty)]

/-- Everything about an instance. -/
def instanceReport (r : Registry) (store : RowStore) (h : InstanceId) (i : Instance) : Json :=
  obj [("handle", nat h.index), ("display", str h.display), ("entity", entityName r i.entity),
    ("id", optStr ((i.id store).map int64Text)),
    ("is_new", .bool (i.isNew store)), ("locked", .bool i.locked), ("deleted", .bool i.deleted),
    ("has_changes", .bool (i.hasChanges store)),
    ("rows", .arr ((i.layout.zipIdx).map fun (t, slot) =>
      obj [("table", entityName r t), ("row", ((i.row? slot).map fun ref =>
        rowReport (store.get ref)).getD .null)])),
    ("relations", obj (i.relations.map fun (n, d) => (n, relationalReport d)))]

/-- The handles reachable from `seen` through materialized relations, `seen` included. -/
def reachable (a : Arena) (seen : List InstanceId) : List InstanceId :=
  let rec close : (fuel : Nat) → List InstanceId → List InstanceId
    | 0, seen => seen
    | fuel + 1, seen =>
      let more := seen.flatMap fun h => ((a.get? h).map fun i => i.relations.flatMap (·.2.members)).getD []
      let next := (seen ++ more).eraseDups
      if next.length == seen.length then seen else close fuel next
  close (a.size + 1) seen.eraseDups

/-- Compile a query once and materialize runs of result rows with it. -/
def materializeReport (req : Json) (r : Registry) : Decode Json := do
  let q ← queryOf r (← field req "query")
  match q.compile r (← optionsOf (req.field? "options")) with
  | .error e => pure e.toAnswer
  | .ok compiled =>
    let lockLoaded ← boolField req "lock_loaded" false
    let capacity ← natFieldD req "cache_capacity" 10000
    let depth ← natFieldD req "depth" 4
    let runs ← (← listField req "runs").mapM fun run => do
      (← asArr run).mapM fun row => do (← asArr row).mapM Value.ofTagged
    let scan : Scan := { reg := r, query := compiled, lockLoaded }
    let step (acc : List (List InstanceId × List Nat) × LoadState) (rows : List (List Value)) :=
      let (found, st) := (scan.records rows).run acc.2
      (acc.1 ++ [found], st)
    let start : LoadState := { pool := { cache := RowCache.empty capacity }, arena := {} }
    let (found, st) := runs.foldl step ([], start)
    let keyed := runs.flatten.flatMap fun row => compiled.nodes.filterMap fun node => do
      let b ← node.identityBlock?
      let id ← Scan.keyAt row b.offset
      st.arena.lookup node.entity id
    let seen := reachable st.arena (found.flatMap (·.1) ++ keyed)
    let seen := ((seen.map (·.index)).mergeSort (· ≤ ·)).map InstanceId.mk
    let store := st.pool.store
    pure (okAnswer (obj [("compiled_sql", str compiled.sql),
      ("runs", .arr (found.map fun (hs, ps) =>
        obj [("records", .arr (hs.map fun h => nat h.index)), ("positions", .arr (ps.map nat))])),
      ("arena_len", nat st.arena.size),
      ("instances", .arr (seen.filterMap fun h => (st.arena.get? h).map (instanceReport r store h))),
      ("trees", .arr (seen.map fun h => (st.arena.tree r store depth h).getD .null)),
      ("cache", statsReport st.pool.cache.stats)]))

end Service

end EntityGraph
