import EntityGraph.Database.BindQuery

/-!
# Definitions

The statements that change the schema, each a function from a catalog to a catalog or a fault:
making tables (`defineTable`), indexes (`defineIndex`), views and triggers, removing them
(`dropObject`).

Rules that fix the results:
- A column declared `INTEGER PRIMARY KEY` (the type exactly `INTEGER`, not descending) in a
  table with row ids is the row id itself. Every other primary key and every `UNIQUE`
  constraint is kept as an index named `sqlite_autoindex_TABLE_N`, numbered from 1 in the order
  the constraints are written (column constraints in column order, then table constraints),
  except that an `INTEGER PRIMARY KEY` of a table without row ids comes after all the others. A
  constraint over the same columns as an earlier one (in any direction) adds no index: the
  earlier one takes its conflict action when it has none, and is the primary key when the later
  one is.
- The columns of the primary key of a table without row ids, or of a strict table (the row id
  apart), are `NOT NULL`.
- A declared type that is one of `ANY`, `BLOB`, `INT`, `INTEGER`, `REAL` and `TEXT` in any
  case is kept in capitals. A strict table takes no other type and no column without one, and
  its `ANY` columns convert nothing.
- `AUTOINCREMENT` needs an `INTEGER PRIMARY KEY`; the first table declared with it makes the
  table `sqlite_sequence(name,seq)`, which keeps the largest row id each such table has used.
- Tables and indexes take pages in the order they are made; the schema table lists objects in
  that order too, a table before its indexes.
- A foreign key on a column names at most one parent column; a foreign key of the table names
  as many parent columns as it has columns, or none.
-/

namespace EntityGraph

namespace Database

/-- A uniqueness constraint of a table definition: its keys, its conflict action, and whether it
is the primary key. -/
structure UniqueSpec where
  keys : List IndexedColumn
  conflict : Option ConflictAction
  origin : IndexOrigin

/-- The column name an indexed column is, when it is a plain name. -/
def IndexedColumn.columnName? (c : IndexedColumn) : Option String :=
  match c.expr.skipCollate with
  | .name n _ => some n
  | .string s => some s
  | _ => none

/-- The types a strict table accepts, in capitals: a declared type is one of them when it is
the same word in any case. -/
def standardTypes : List String := ["ANY", "BLOB", "INT", "INTEGER", "REAL", "TEXT"]

/-- The standard type a declared type is, in capitals. -/
def standardType? (declared : String) : Option String :=
  standardTypes.find? (· == declared.toUpper)

/-- Text without the blanks at its end. -/
def dropTrailingBlanks (cs : List Char) : List Char :=
  (cs.reverse.dropWhile Char.isWhitespace).reverse

/-- Whether text ends with a word, in any case. -/
def endsWithWord (cs : List Char) (w : String) : Bool :=
  cs.length ≥ w.length && (String.ofList (cs.drop (cs.length - w.length))).toLower == w

/-- The type a column definition declares: the words `GENERATED ALWAYS` that the definition of
a generated column leaves at the end of its type are not part of it (the whole type being at
least sixteen characters long), and a standard type is kept in capitals. -/
def ColumnDefinition.declaredType (d : ColumnDefinition) : String :=
  let cs := d.typeName.toList
  let ty :=
    if cs.length ≥ 16 && endsWithWord cs "always" then
      let cs := dropTrailingBlanks (cs.take (cs.length - 6))
      if endsWithWord cs "generated" then String.ofList (dropTrailingBlanks (cs.take (cs.length - 9)))
      else String.ofList cs
    else d.typeName
  (standardType? ty).getD ty

/-- A column of a table from its definition. -/
def columnOf (d : ColumnDefinition) : Except Fault Column := do
  let ty := d.declaredType
  let mut c : Column := { name := d.name, declaredType := ty, affinity := Affinity.ofColumnType ty }
  for k in d.constraints do
    match k with
    | .notNull conflict => c := { c with notNull := some conflict }
    | .collate n =>
      match Collation.ofName? n with
      | some coll => c := { c with collation := coll }
      | none => throw (Fault.error ("no such collation sequence: " ++ n))
    | .default e text => c := { c with default := some (e, text) }
    | .generated e stored => c := { c with generated := some (e, stored) }
    | _ => pure ()
  pure c

/-- Whether a declared type makes an `INTEGER PRIMARY KEY` the row id. -/
def isIntegerType (declared : String) : Bool := declared.toUpper == "INTEGER"

/-- The fault of `AUTOINCREMENT` on a key that is not the row id. -/
def autoincrementFault : Fault := Fault.error "AUTOINCREMENT is only allowed on an INTEGER PRIMARY KEY"

/-- A table from its definition, with the uniqueness constraints it asks for. -/
def buildTable (name : String) (defs : List ColumnDefinition) (cons : List TableConstraint)
    (withoutRowid strict : Bool) (sql : String) : Except Fault (Table × List UniqueSpec) := do
  let mut seen : List String := []
  for d in defs do
    if seen.any (sameName · d.name) then throw (Fault.error ("duplicate column name: " ++ d.name))
    seen := seen ++ [d.name]
  let cols ← defs.mapM columnOf
  let mut t : Table := { name, columns := cols.toArray, withoutRowid, strict, sql }
  let mut specs : List UniqueSpec := []
  -- an integer key of a table without row ids is made into an index after all the others
  let mut lateKey : Option UniqueSpec := none
  let mut hasKey := false
  let twice := Fault.error ("table \"" ++ name ++ "\" has more than one primary key")
  let typeOf (j : Nat) : String := (cols.getD j default).declaredType
  for (d, j) in defs.zipIdx do
    for k in d.constraints do
      match k with
      | .primaryKey desc conflict autoinc =>
        if hasKey then throw twice
        hasKey := true
        if isIntegerType (typeOf j) && !desc then
          if withoutRowid then
            t := { t with primaryKey := [j], primaryKeyConflict := conflict, autoincrement := autoinc }
            lateKey := some { keys := [{ expr := .name d.name false }], conflict, origin := .primaryKey }
          else
            t := { t with rowidColumn := some j, primaryKey := [j], primaryKeyConflict := conflict,
                          autoincrement := autoinc }
        else
          if autoinc then throw autoincrementFault
          t := { t with primaryKey := [j], primaryKeyConflict := conflict }
          specs := specs ++ [{ keys := [{ expr := .name d.name false, descending := desc }], conflict,
                               origin := .primaryKey }]
      | .unique conflict =>
        specs := specs ++ [{ keys := [{ expr := .name d.name false }], conflict, origin := .unique }]
      | .check e label => t := { t with checks := t.checks ++ [(e, label)] }
      | .references fk =>
        if fk.columns.length > 1 then
          throw (Fault.error ("foreign key on " ++ d.name ++ " should reference only one column of table " ++
            fk.table))
        t := { t with foreignKeys := t.foreignKeys ++ [{ columns := [j], target := fk }] }
      | _ => pure ()
  let position (c : IndexedColumn) : Option Nat :=
    c.columnName?.bind fun n => cols.findIdx? (sameName ·.name n)
  for k in cons do
    match k with
    | .primaryKey keys conflict autoinc =>
      if hasKey then throw twice
      hasKey := true
      match keys with
      | [c] =>
        match position c with
        | some j =>
          if isIntegerType (typeOf j) && !c.descending then
            if withoutRowid then
              t := { t with primaryKey := [j], primaryKeyConflict := conflict, autoincrement := autoinc }
              lateKey := some { keys, conflict, origin := .primaryKey }
            else
              t := { t with rowidColumn := some j, primaryKey := [j], primaryKeyConflict := conflict,
                            autoincrement := autoinc }
          else
            if autoinc then throw autoincrementFault
            t := { t with primaryKey := [j], primaryKeyConflict := conflict }
            specs := specs ++ [{ keys, conflict, origin := .primaryKey }]
        | none =>
          throw (Fault.error ("no such column: " ++ (c.columnName?.getD "?")))
      | _ =>
        if autoinc then throw autoincrementFault
        let positions ← keys.mapM fun c => match position c with
          | some j => pure j
          | none => throw (Fault.error ("no such column: " ++ (c.columnName?.getD "?")))
        t := { t with primaryKey := positions, primaryKeyConflict := conflict }
        specs := specs ++ [{ keys, conflict, origin := .primaryKey }]
    | .unique keys conflict => specs := specs ++ [{ keys, conflict, origin := .unique }]
    | .check e label => t := { t with checks := t.checks ++ [(e, label)] }
    | .foreignKey names fk =>
      if !fk.columns.isEmpty && fk.columns.length != names.length then
        throw (Fault.error ("number of columns in foreign key does not match the number of columns " ++
          "in the referenced table"))
      let positions ← names.mapM fun n => match cols.findIdx? (sameName ·.name n) with
        | some j => pure j
        | none => throw (Fault.error ("unknown column \"" ++ n ++ "\" in foreign key definition"))
      t := { t with foreignKeys := t.foreignKeys ++ [{ columns := positions, target := fk }] }
  if strict then
    for c in t.columns do
      if (standardType? c.declaredType).isNone then
        if c.declaredType.isEmpty then
          throw (Fault.error ("missing datatype for " ++ name ++ "." ++ c.name))
        throw (Fault.error ("unknown datatype for " ++ name ++ "." ++ c.name ++ ": \"" ++
          c.declaredType ++ "\""))
    t := { t with columns := t.columns.map fun c =>
      if c.declaredType == "ANY" then { c with affinity := .blob } else c }
  if withoutRowid then
    if t.autoincrement then throw (Fault.error "AUTOINCREMENT not allowed on WITHOUT ROWID tables")
    if !hasKey then throw (Fault.error ("PRIMARY KEY missing on table " ++ name))
  if withoutRowid || strict then
    let key := t.primaryKey
    t := { t with columns := t.columns.mapIdx fun j c =>
      if key.contains j && t.rowidColumn != some j && c.notNull.isNone then
        { c with notNull := some none }
      else c }
  pure (t, specs ++ lateKey.toList)

/-- The keys of an index over a table: each a column with its collation, or an expression. -/
def indexKeys (t : Table) (cols : List IndexedColumn) : Except Fault (List IndexKey) :=
  cols.mapM fun c => do
    let written ← match c.collation with
      | some n =>
        match Collation.ofName? n with
        | some coll => pure (some coll)
        | none => throw (Fault.error ("no such collation sequence: " ++ n))
      | none => pure none
    let inner := c.expr.skipCollate
    let fromExpr := c.expr.writtenCollation?
    match c.columnName? with
    | some n =>
      match t.columnIndex? n with
      | some j =>
        pure { column := some j, expr := inner,
               collation := (written.orElse fun _ => fromExpr).getD (t.column j).collation,
               descending := c.descending }
      | none =>
        match inner with
        | .string _ =>
          pure { column := none, expr := inner,
                 collation := (written.orElse fun _ => fromExpr).getD .binary,
                 descending := c.descending }
        | _ => throw (Fault.noSuchColumn n)
    | none =>
      pure { column := none, expr := inner,
             collation := (written.orElse fun _ => fromExpr).getD .binary,
             descending := c.descending }

/-- Whether two indexes of a table's constraints have the same keys: the same columns in the
same order under the same collations, whatever their directions. -/
def sameKeys (a b : List IndexKey) : Bool :=
  a.length == b.length && (a.zip b).all fun (x, y) =>
    x.column.isSome && x.column == y.column && x.collation == y.collation

/-- The schema a definition goes in: `temp` when asked for or qualified so, else `main`. -/
def definitionSchema (temp : Bool) (q : QualifiedName) : Except Fault SchemaId :=
  match q.schema with
  | none => pure (if temp then .temp else .main)
  | some s =>
    match Catalog.schemaOf? s with
    | some .temp => pure .temp
    | some .main =>
      if temp then throw (Fault.error "temporary table name must be unqualified") else pure .main
    | none => throw (Fault.error ("unknown database " ++ s))

/-- The fault of a name the store keeps for itself. -/
def reservedName (name : String) : Option Fault :=
  if name.toLower.startsWith "sqlite_" then
    some (Fault.error ("object name reserved for internal use: " ++ name))
  else none

/-- The table that keeps the largest row ids of `AUTOINCREMENT` tables. -/
def sequenceTable : Table :=
  { name := "sqlite_sequence",
    columns := #[{ name := "name", declaredType := "", affinity := .blob },
                 { name := "seq", declaredType := "", affinity := .blob }],
    sql := "CREATE TABLE sqlite_sequence(name,seq)" }

namespace Schema

/-- Whether a table, view or index has a name. -/
def nameTaken? (s : Schema) (name : String) : Option String :=
  if (s.table? name).isSome then some "table"
  else if (s.view? name).isSome then some "view"
  else if (s.index? name).isSome then some "index"
  else none

/-- Add a table with a new page, listed in the schema table. -/
def addTable (s : Schema) (t : Table) : Schema :=
  let (s, page) := s.takePage
  { s with tables := s.tables ++ [{ t with rootPage := page }],
           entries := s.entries ++ [{ kind := .table, name := t.name }] }

/-- Add an index with a new page, listed in the schema table. -/
def addIndex (s : Schema) (i : Index) : Schema :=
  let (s, page) := s.takePage
  { s with indexes := s.indexes ++ [{ i with rootPage := page }],
           entries := s.entries ++ [{ kind := .index, name := i.name }] }

/-- Remove an entry of the schema table. -/
def removeEntry (s : Schema) (kind : ObjectKind) (name : String) : Schema :=
  { s with entries := s.entries.filter fun e => !(e.kind == kind && sameName e.name name) }

end Schema

/-- Make the automatic indexes of a new table's uniqueness constraints. -/
def autoIndexes (t : Table) (specs : List UniqueSpec) : Except Fault (List Index) := do
  let mut out : List Index := []
  for spec in specs do
    let keys ← indexKeys t spec.keys
    match out.findIdx? (fun i => sameKeys i.keys keys) with
    | some k =>
      let prior := out.getD k default
      if prior.conflict.isSome && spec.conflict.isSome && prior.conflict != spec.conflict then
        throw (Fault.error "conflicting ON CONFLICT clauses specified")
      -- the earlier index stands for both
      out := out.set k { prior with
        conflict := prior.conflict.orElse fun _ => spec.conflict,
        origin := if spec.origin == .primaryKey then .primaryKey else prior.origin }
    | none =>
      let n := out.length + 1
      out := out ++ [{ name := "sqlite_autoindex_" ++ t.name ++ "_" ++ toString n, table := t.name,
                       keys, unique := true, conflict := spec.conflict,
                       origin := if spec.origin == .primaryKey then .primaryKey else .unique }]
  pure out

/-- Make a table from its definition. -/
def defineTable (c : Catalog) (temp ifNotExists : Bool) (target : QualifiedName)
    (defs : List ColumnDefinition) (cons : List TableConstraint) (withoutRowid strict : Bool)
    (text : String) : Except Fault Catalog := do
  let id ← definitionSchema temp target
  let s := c.schema id
  if let some kind := s.nameTaken? target.name then
    if kind == "index" then throw (Fault.error ("there is already an index named " ++ target.name))
    else if ifNotExists then return c
    else throw (Fault.error (kind ++ " " ++ target.name ++ " already exists"))
  if let some f := reservedName target.name then throw f
  let (t, specs) ← buildTable target.name defs cons withoutRowid strict text
  let idxs ← autoIndexes t specs
  let idxs := if withoutRowid then idxs.filter (·.origin != .primaryKey) else idxs
  let s := idxs.foldl Schema.addIndex (s.addTable t)
  let s := if t.autoincrement && (s.table? "sqlite_sequence").isNone then s.addTable sequenceTable else s
  pure (c.setSchema id s)

/-- Make an index over a table, checking existing rows when it is unique. -/
def defineIndex (c : Catalog) (unique ifNotExists : Bool) (target : QualifiedName) (table : String)
    (cols : List IndexedColumn) (filter : Option Expr) (text : String) : Except Fault Catalog := do
  let id ← definitionSchema false target
  let s := c.schema id
  if let some f := reservedName target.name then throw f
  match s.table? table with
  | none =>
    if (s.view? table).isSome then throw (Fault.error "views may not be indexed")
    else throw (Fault.noSuchTable (id.name ++ "." ++ table))
  | some t =>
    if (s.index? target.name).isSome then
      if ifNotExists then return c
      else throw (Fault.error ("index " ++ target.name ++ " already exists"))
    if (s.table? target.name).isSome || (s.view? target.name).isSome then
      throw (Fault.error ("there is already a table named " ++ target.name))
    let keys ← indexKeys t cols
    let idx : Index := { name := target.name, table := t.name, keys, unique, filter, sql := some text }
    pure (c.setSchema id (s.addIndex idx))

/-- Make a view. -/
def defineView (c : Catalog) (temp ifNotExists : Bool) (target : QualifiedName)
    (columns : Option (List String)) (q : Select) (text : String) : Except Fault Catalog := do
  let id ← definitionSchema temp target
  let s := c.schema id
  if let some kind := s.nameTaken? target.name then
    if kind == "index" then throw (Fault.error ("there is already an index named " ++ target.name))
    else if ifNotExists then return c
    else throw (Fault.error (kind ++ " " ++ target.name ++ " already exists"))
  if let some f := reservedName target.name then throw f
  let v : View := { name := target.name, columns, query := q, sql := text }
  pure (c.setSchema id { s with views := s.views ++ [v],
                                 entries := s.entries ++ [{ kind := .view, name := v.name }] })

/-- Make a trigger. -/
def defineTrigger (c : Catalog) (temp ifNotExists : Bool) (target : QualifiedName)
    (time : TriggerTime) (event : TriggerEvent) (table : String) (condition : Option Expr)
    (body : List Statement) (text : String) : Except Fault Catalog := do
  let id ← definitionSchema temp target
  let s := c.schema id
  if (s.trigger? target.name).isSome then
    if ifNotExists then return c
    else throw (Fault.error ("trigger " ++ target.name ++ " already exists"))
  if let some f := reservedName target.name then throw f
  let onTable := (c.findTable? (if id == .temp then none else some id) table)
  let onView := (c.findView? (if id == .temp then none else some id) table)
  match onTable, onView with
  | some (_, t), _ =>
    if time == .insteadOf then
      throw (Fault.error ("cannot create INSTEAD OF trigger on table: " ++ t.name))
    let tr : Trigger := { name := target.name, table := t.name, time, event, condition, body, sql := text }
    pure (c.setSchema id { s with triggers := s.triggers ++ [tr],
                                   entries := s.entries ++ [{ kind := .trigger, name := tr.name }] })
  | none, some (vid, v) =>
    if time != .insteadOf then
      throw (Fault.error ("cannot create " ++ (if time == .before then "BEFORE" else "AFTER") ++
        " trigger on view: " ++ vid.name ++ "." ++ v.name))
    let tr : Trigger := { name := target.name, table := v.name, time, event, condition, body, sql := text }
    pure (c.setSchema id { s with triggers := s.triggers ++ [tr],
                                   entries := s.entries ++ [{ kind := .trigger, name := tr.name }] })
  | none, none => throw (Fault.noSuchTable (id.name ++ "." ++ table))

/-- The schemas searched for an object a statement names. -/
def searchSchemas (q : QualifiedName) : Except Fault (List SchemaId) :=
  match q.schema with
  | none => pure Catalog.searchOrder
  | some s =>
    match Catalog.schemaOf? s with
    | some id => pure [id]
    | none => throw (Fault.error ("unknown database " ++ s))

/-- Remove a table, index, view or trigger. -/
def dropObject (c : Catalog) (kind : ObjectKind) (ifExists : Bool) (q : QualifiedName) :
    Except Fault Catalog := do
  let ids ← searchSchemas q
  let written := match q.schema with
    | some s => s ++ "." ++ q.name
    | none => q.name
  match kind with
  | .table =>
    match ids.findSome? (fun id => ((c.schema id).table? q.name).map (id, ·)) with
    | some (id, t) =>
      if t.name.toLower.startsWith "sqlite_" && !sameName t.name "sqlite_sequence" then
        throw (Fault.error ("table " ++ t.name ++ " may not be dropped"))
      let s := c.schema id
      let gone := (s.indexes.filter fun i => sameName i.table t.name)
      let s := gone.foldl (fun s i => (s.removeEntry .index i.name).freePage i.rootPage) s
      let trig := s.triggers.filter fun tr => sameName tr.table t.name
      let s := trig.foldl (fun s tr => s.removeEntry .trigger tr.name) s
      let s := (s.removeEntry .table t.name).freePage t.rootPage
      let s := { s with tables := s.tables.filter (!sameName ·.name t.name),
                        indexes := s.indexes.filter (!sameName ·.table t.name),
                        triggers := s.triggers.filter (!sameName ·.table t.name) }
      pure (c.setSchema id s)
    | none =>
      if (ids.findSome? fun id => (c.schema id).view? q.name).isSome then
        throw (Fault.error ("use DROP VIEW to delete view " ++ q.name))
      if ifExists then pure c else throw (Fault.noSuchTable written)
  | .view =>
    match ids.findSome? (fun id => ((c.schema id).view? q.name).map (id, ·)) with
    | some (id, v) =>
      let s := c.schema id
      let trig := s.triggers.filter fun tr => sameName tr.table v.name
      let s := trig.foldl (fun s tr => s.removeEntry .trigger tr.name) s
      let s := s.removeEntry .view v.name
      pure (c.setSchema id { s with views := s.views.filter (!sameName ·.name v.name),
                                     triggers := s.triggers.filter (!sameName ·.table v.name) })
    | none =>
      if (ids.findSome? fun id => (c.schema id).table? q.name).isSome then
        throw (Fault.error ("use DROP TABLE to delete table " ++ q.name))
      if ifExists then pure c else throw (Fault.error ("no such view: " ++ written))
  | .index =>
    match ids.findSome? (fun id => ((c.schema id).index? q.name).map (id, ·)) with
    | some (id, i) =>
      if i.origin != .created then
        throw (Fault.error "index associated with UNIQUE or PRIMARY KEY constraint cannot be dropped")
      let s := c.schema id
      let s := (s.removeEntry .index i.name).freePage i.rootPage
      pure (c.setSchema id { s with indexes := s.indexes.filter (!sameName ·.name i.name) })
    | none => if ifExists then pure c else throw (Fault.error ("no such index: " ++ written))
  | .trigger =>
    match ids.findSome? (fun id => ((c.schema id).trigger? q.name).map (id, ·)) with
    | some (id, tr) =>
      let s := (c.schema id).removeEntry .trigger tr.name
      pure (c.setSchema id { s with triggers := s.triggers.filter (!sameName ·.name tr.name) })
    | none => if ifExists then pure c else throw (Fault.error ("no such trigger: " ++ written))

/-- A name written as the store writes names it puts in definitions: in double quotes. -/
def quoteName (n : String) : String := "\"" ++ n.replace "\"" "\"\"" ++ "\""

end Database

end EntityGraph
