import EntityGraph.Service.Error
import EntityGraph.Schema.Registry.Build

/-!
# The request service: schemas

Entity descriptors as requests give them, and reports on a built registry: every entity with its
columns, relations, inheritance and layout, and answers to name lookups.

A column's `role` is `primary` (a 64-bit key), `reference` (a nullable 64-bit reference to the
entity named by `target`) or `ordinary` (the default, which needs a `type`); a `type` given for
the other roles overrides theirs, and `nullable` and `unique` override the role's defaults.
-/

namespace EntityGraph

namespace Service

/-- A column descriptor. -/
def columnOf (j : Json) : Decode Column := do
  let name ← strField j "name"
  let role := (← optStrField j "role").getD "ordinary"
  let ty ← match ← optStrField j "type" with
    | some t => match ColumnType.ofName? t with
      | some t => pure (some t)
      | none => throw ("unknown column type " ++ t)
    | none => pure none
  let base ← match role with
    | "primary" => pure (Column.primary name)
    | "reference" => do pure (Column.reference name (← strField j "target"))
    | "ordinary" =>
      match ty with
      | some t => pure (Column.ordinary name t)
      | none => throw "ordinary column without type"
    | _ => throw "bad role"
  let base := match ty with
    | some t => { base with type := t }
    | none => base
  let base ← match field? j "nullable" with
    | some v => do pure { base with nullable := ← asBool v }
    | none => pure base
  match field? j "unique" with
  | some v => do pure { base with unique := ← asBool v }
  | none => pure base

/-- A relation descriptor. -/
def relationOf (j : Json) : Decode RelationSpec := do
  let name ← strField j "name"
  match ← strField j "kind" with
  | "reference" => do pure (.reference name (← strField j "column"))
  | "children" => do pure (.children name (← strField j "target") (← strField j "back_reference"))
  | "association" => do
    pure (.association name (← strField j "target") (← strField j "table")
      (← strField j "source_column") (← strField j "target_column"))
  | _ => throw "bad relation kind"

/-- An entity descriptor. -/
def entityOfJson (j : Json) : Decode EntityDescriptor := do
  let columns ← (← listField j "columns").mapM columnOf
  let impls ← (← listField j "implementations").mapM fun i => do
    pure ((← strField i "entity"), (← strField i "link_column"))
  let relations ← (← listField j "relations").mapM relationOf
  pure { name := ← strField j "name", table := ← strField j "table", columns,
         parent := ← optStrField j "parent", implementations := impls, relations,
         sequenced := ← optStrField j "sequenced" }

/-- The registry built from a list of entity descriptors. -/
def registryOf (j : Json) : Decode (Except Error Registry) := do
  pure (Registry.build (← (← asArr j).mapM entityOfJson))

/-- The registry of a request's `entities`. -/
def requestRegistry (req : Json) : Decode (Except Error Registry) := do
  pure (Registry.build (← (← listField req "entities").mapM entityOfJson))

/-- Answer with the registry of the request, or with the error building it gave. -/
def withRegistry (req : Json) (k : Registry → Decode Json) : Decode Json := do
  match ← requestRegistry req with
  | .error e => pure e.toAnswer
  | .ok r => k r

/-- An entity's name. -/
def entityName (r : Registry) (e : EntityId) : Json := str (r.get e).name

/-- An entity by name; an unknown name refuses the request. -/
def entityOf (r : Registry) (name : String) : Decode EntityId :=
  match r.entityId? name with
  | some e => pure e
  | none => throw ("unknown entity " ++ name)

/-- A column of a structure. -/
def columnReport (r : Registry) (s : Structure) (i : Nat) (c : Column) : Json :=
  obj [("name", str c.name), ("type", str c.type.name), ("sql_type", str c.type.sqlName),
    ("role", str (match c.role with
      | .primary => "primary"
      | .reference _ => "reference"
      | .ordinary => "ordinary")),
    ("declared_target", optStr c.declaredTarget?),
    ("target", match s.target? i with
      | some t => entityName r t
      | none => .null),
    ("nullable", .bool c.nullable), ("unique", .bool c.unique),
    ("is_primary", .bool c.isPrimary), ("is_reference", .bool c.isReference)]

/-- A relation of a structure. -/
def relationReport (r : Registry) (rel : Relation) : Json :=
  let base := [("name", str rel.name), ("owner", entityName r rel.owner),
    ("target", entityName r rel.target), ("collection", .bool rel.isCollection)]
  match rel.kind with
  | .reference c => obj (base ++ [("kind", str "reference"), ("column", nat c)])
  | .children pos => obj (base ++ [("kind", str "children"),
      ("back_reference", obj [("entity", entityName r pos.entity), ("index", nat pos.index)])])
  | .association t sc tc => obj (base ++ [("kind", str "association"), ("table", str t),
      ("source_column", str sc), ("target_column", str tc)])

/-- Everything about one registered entity. -/
def structureReport (r : Registry) (s : Structure) : Json :=
  let names (es : List EntityId) : Json := .arr (es.map (entityName r))
  obj [("id", nat s.id.index), ("display_id", str s.id.display), ("name", str s.name),
    ("table", str s.table), ("column_count", nat s.columnCount), ("primary_key", nat s.primaryKey),
    ("primary_key_name", str s.primaryKeyName),
    ("parent", match s.parent? with
      | some p => entityName r p
      | none => .null),
    ("parents", names s.parents),
    ("implementations", .arr (s.implementations.map fun i =>
      obj [("entity", entityName r i.entity), ("link_column", nat i.linkColumn)])),
    ("sequence_column", optNat s.sequenceColumn),
    ("projection", .arr (s.projection.map nat)),
    ("effective_table_count", nat s.effectiveTableCount),
    ("levels", names (r.levels s.id)), ("table_layout", names (r.tableLayout s.id)),
    ("columns", .arr (s.columns.zipIdx.map fun (c, i) => columnReport r s i c)),
    ("relations", .arr (s.relations.map (relationReport r)))]

/-- The answer to one name lookup. -/
def registryLookup (r : Registry) (j : Json) : Decode Json := do
  let fn ← strField j "fn"
  let args ← (← listField j "args").mapM asStr
  match fn, args with
  | "entity_id", [n] => pure (optNat ((r.entityId? n).map (·.index)))
  | "by_name", [n] => pure (optStr ((r.byName? n).map (·.table)))
  | "find_column", [e, f] => do
    let e ← entityOf r e
    pure (match r.findColumn? e f with
      | some p => obj [("entity", entityName r p.entity), ("index", nat p.index)]
      | none => .null)
  | "find_relation", [e, n] => do
    let e ← entityOf r e
    pure (match r.findRelation? e n with
      | some rel => obj [("owner", entityName r rel.owner), ("name", str rel.name),
          ("target", entityName r rel.target)]
      | none => .null)
  | "is_a", [a, b] => do pure (.bool (r.isA (← entityOf r a) (← entityOf r b)))
  | "column_index", [e, f] => do
    let e ← entityOf r e
    pure (optNat ((r.get e).columnIndex? f))
  | "relation", [e, n] => do
    let e ← entityOf r e
    pure (optStr (((r.get e).relation? n).map (·.name)))
  | _, _ => throw "bad lookup"

/-- Build the registry of a request and report on it and on the lookups asked for. -/
def registryReport (req : Json) : Decode Json :=
  withRegistry req fun r => do
    let base := [("len", nat r.size), ("is_empty", .bool (r.size == 0)),
      ("entities", .arr (r.structures.toList.map (structureReport r)))]
    match field? req "lookups" with
    | none => pure (okAnswer (obj base))
    | some ls => do
      let ls ← (← asArr ls).mapM (registryLookup r)
      pure (okAnswer (obj (base ++ [("lookups", .arr ls)])))

end Service

end EntityGraph
