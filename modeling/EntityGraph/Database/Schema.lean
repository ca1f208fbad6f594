import EntityGraph.Database.Grammar.Statement

/-!
# Schemas

What a database holds: tables with their rows, indexes, views and triggers, in two schemas: the
main one, and the temporary one whose objects are seen first and vanish with the connection.

Rules that fix the results:
- Names of objects and columns are matched without regard to the case of ASCII letters.
- A column declared `INTEGER PRIMARY KEY` (and not descending) is the row id itself. Any other
  primary key, and every `UNIQUE` constraint, is kept as a unique index named
  `sqlite_autoindex_TABLE_N`, numbered in the order the constraints are written.
- Uniqueness is checked index by index, the index made last first, except that indexes that
  replace conflicting rows come after all others.
- Rows of a table with a row id are kept in ascending row id; those of a table without one in the
  order of its primary key.
- Every table and index takes a page of the database, numbered from 2 in the order they are made;
  the schema table lists objects in the order they were made.
-/

namespace EntityGraph

namespace Database

/-- Whether two names are the same, ignoring the case of ASCII letters. -/
def sameName (a b : String) : Bool := a.toLower == b.toLower

/-- A column of a table. -/
structure Column where
  name : String
  /-- The type as declared, possibly empty. -/
  declaredType : String
  affinity : Affinity
  collation : Collation := .binary
  /-- Whether nulls are refused, and how a conflict is resolved. -/
  notNull : Option (Option ConflictAction) := none
  /-- The default value and the text it was written as. -/
  default : Option (Expr × String) := none
  /-- A generated column's expression, and whether it is stored. -/
  generated : Option (Expr × Bool) := none
  deriving Inhabited

/-- A stored row: its row id (zero in a table without one) and one datum per column. -/
structure StoredRow where
  rowid : Int64
  values : Array Datum
  deriving Inhabited

/-- A foreign key of a table: its columns and what they reference. -/
structure TableForeignKey where
  columns : List Nat
  target : ForeignKey
  deriving Inhabited

/-- A table. -/
structure Table where
  name : String
  columns : Array Column
  /-- The column that is the row id, if one is declared. -/
  rowidColumn : Option Nat := none
  /-- The columns of the primary key, in key order (empty for none). -/
  primaryKey : List Nat := []
  primaryKeyConflict : Option ConflictAction := none
  autoincrement : Bool := false
  withoutRowid : Bool := false
  strict : Bool := false
  /-- Checks with the text they report when violated. -/
  checks : List (Expr × String) := []
  foreignKeys : List TableForeignKey := []
  rows : List StoredRow := []
  sql : String := ""
  rootPage : Nat := 0
  deriving Inhabited

/-- One key of an index: a column or an expression, its collation and direction. -/
structure IndexKey where
  /-- The column, or none for an expression. -/
  column : Option Nat
  expr : Expr
  collation : Collation
  descending : Bool := false
  deriving Inhabited

/-- Where an index comes from. -/
inductive IndexOrigin where
  | created
  | unique
  | primaryKey
  deriving DecidableEq, Inhabited, Repr

/-- An index over a table. -/
structure Index where
  name : String
  table : String
  keys : List IndexKey
  unique : Bool
  conflict : Option ConflictAction := none
  origin : IndexOrigin := .created
  filter : Option Expr := none
  sql : Option String := none
  rootPage : Nat := 0
  deriving Inhabited

/-- A view: its column names when given, and its query. -/
structure View where
  name : String
  columns : Option (List String)
  query : Select
  sql : String
  deriving Inhabited

/-- A trigger. -/
structure Trigger where
  name : String
  table : String
  time : TriggerTime
  event : TriggerEvent
  condition : Option Expr
  body : List Statement
  sql : String
  deriving Inhabited

/-- An entry of the schema table, in the order objects were made. -/
structure SchemaEntry where
  kind : ObjectKind
  name : String
  deriving Inhabited, Repr

/-- The objects of one schema. -/
structure Schema where
  tables : List Table := []
  indexes : List Index := []
  views : List View := []
  triggers : List Trigger := []
  entries : List SchemaEntry := []
  /-- The highest row id ever used by each table with `AUTOINCREMENT`. -/
  sequence : List (String × Int) := []
  /-- Pages freed by dropped objects, reused before new ones. -/
  freePages : List Nat := []
  nextPage : Nat := 2
  deriving Inhabited

namespace Table

/-- The position of a column by name. -/
def columnIndex? (t : Table) (name : String) : Option Nat :=
  t.columns.toList.findIdx? (fun c => sameName c.name name)

/-- A column by position. -/
def column (t : Table) (i : Nat) : Column := t.columns.getD i default

/-- The columns' names. -/
def columnNames (t : Table) : List String := t.columns.toList.map (·.name)

/-- Whether rows have row ids. -/
def hasRowid (t : Table) : Bool := !t.withoutRowid

/-- The largest row id in use. -/
def maxRowid (t : Table) : Option Int64 := t.rows.getLast?.map (·.rowid)

/-- The row with a row id. -/
def row? (t : Table) (rowid : Int64) : Option StoredRow := t.rows.find? (·.rowid == rowid)

/-- The key of a row of a table without row ids: its primary key values. -/
def keyOf (t : Table) (r : StoredRow) : List Datum := t.primaryKey.map fun i => r.values.getD i .null

/-- The order of two rows of a table without row ids, by primary key under the key columns'
collations. -/
def compareKeys (t : Table) (a b : List Datum) : Ordering :=
  let colls := t.primaryKey.map fun i => (t.column i).collation
  let rec go : List Collation → List Datum → List Datum → Ordering
    | c :: cs, x :: xs, y :: ys =>
      match Datum.compareWith c x y with
      | .eq => go cs xs ys
      | o => o
    | _, _, _ => .eq
  go colls a b

/-- Put a row in its place, replacing a row with the same id (or key). -/
def putRow (t : Table) (r : StoredRow) : Table :=
  if t.withoutRowid then
    let k := t.keyOf r
    let before := t.rows.filter fun x => t.compareKeys (t.keyOf x) k == .lt
    let after := t.rows.filter fun x => t.compareKeys (t.keyOf x) k == .gt
    { t with rows := before ++ [r] ++ after }
  else
    let before := t.rows.filter (·.rowid.toInt < r.rowid.toInt)
    let after := t.rows.filter (·.rowid.toInt > r.rowid.toInt)
    { t with rows := before ++ [r] ++ after }

/-- Remove a row: by row id, or by key in a table without row ids. -/
def removeRow (t : Table) (r : StoredRow) : Table :=
  if t.withoutRowid then
    { t with rows := t.rows.filter fun x => t.compareKeys (t.keyOf x) (t.keyOf r) != .eq }
  else { t with rows := t.rows.filter (·.rowid != r.rowid) }

end Table

namespace Index

/-- The column positions of an index over plain columns. -/
def columnPositions (i : Index) : List (Option Nat) := i.keys.map (·.column)

end Index

namespace Schema

/-- A table by name. -/
def table? (s : Schema) (name : String) : Option Table :=
  s.tables.find? fun t => sameName t.name name

/-- An index by name. -/
def index? (s : Schema) (name : String) : Option Index :=
  s.indexes.find? fun i => sameName i.name name

/-- A view by name. -/
def view? (s : Schema) (name : String) : Option View :=
  s.views.find? fun v => sameName v.name name

/-- A trigger by name. -/
def trigger? (s : Schema) (name : String) : Option Trigger :=
  s.triggers.find? fun t => sameName t.name name

/-- Replace the table of the same name. -/
def setTable (s : Schema) (t : Table) : Schema :=
  { s with tables := s.tables.map fun u => if sameName u.name t.name then t else u }

/-- The indexes of a table, in the order uniqueness is checked: the latest made first, those
that replace conflicting rows after all others. -/
def indexesOf (s : Schema) (table : String) : List Index :=
  let own := (s.indexes.filter fun i => sameName i.table table).reverse
  own.filter (·.conflict != some .replace) ++ own.filter (·.conflict == some .replace)

/-- The indexes of a table in the order they were made. -/
def indexesMadeOf (s : Schema) (table : String) : List Index :=
  s.indexes.filter fun i => sameName i.table table

/-- The triggers on a table. -/
def triggersOn (s : Schema) (table : String) : List Trigger :=
  s.triggers.filter fun t => sameName t.table table

/-- Take a page for a new table or index. -/
def takePage (s : Schema) : Schema × Nat :=
  match s.freePages with
  | p :: rest => ({ s with freePages := rest }, p)
  | [] => ({ s with nextPage := s.nextPage + 1 }, s.nextPage)

/-- Give a page back. -/
def freePage (s : Schema) (p : Nat) : Schema :=
  if p == 0 then s else { s with freePages := (p :: s.freePages).mergeSort (· ≤ ·) }

end Schema

/-- The two schemas of a database connection. -/
structure Catalog where
  main : Schema := {}
  temp : Schema := {}
  deriving Inhabited

/-- Which schema an object lives in. -/
inductive SchemaId where
  | main | temp
  deriving DecidableEq, Inhabited, Repr

/-- The name of a schema. -/
def SchemaId.name : SchemaId → String
  | .main => "main"
  | .temp => "temp"

namespace Catalog

/-- A schema by its id. -/
def schema (c : Catalog) : SchemaId → Schema
  | .main => c.main
  | .temp => c.temp

/-- Replace a schema. -/
def setSchema (c : Catalog) : SchemaId → Schema → Catalog
  | .main, s => { c with main := s }
  | .temp, s => { c with temp := s }

/-- Change a schema. -/
def modifySchema (c : Catalog) (id : SchemaId) (f : Schema → Schema) : Catalog :=
  c.setSchema id (f (c.schema id))

/-- The schema a name qualifies with: `main`, `temp` (or `temporary`), or none for another. -/
def schemaOf? (name : String) : Option SchemaId :=
  if sameName name "main" then some .main
  else if sameName name "temp" || sameName name "temporary" then some .temp
  else none

/-- The schemas searched for an unqualified name, temporary first. -/
def searchOrder : List SchemaId := [.temp, .main]

/-- A table by name, temporary first; with its schema. -/
def findTable? (c : Catalog) (schema : Option SchemaId) (name : String) : Option (SchemaId × Table) :=
  let ids := match schema with
    | some s => [s]
    | none => searchOrder
  ids.findSome? fun id => ((c.schema id).table? name).map (id, ·)

/-- A view by name, temporary first; with its schema. -/
def findView? (c : Catalog) (schema : Option SchemaId) (name : String) : Option (SchemaId × View) :=
  let ids := match schema with
    | some s => [s]
    | none => searchOrder
  ids.findSome? fun id => ((c.schema id).view? name).map (id, ·)

/-- An index by name, temporary first; with its schema. -/
def findIndex? (c : Catalog) (schema : Option SchemaId) (name : String) : Option (SchemaId × Index) :=
  let ids := match schema with
    | some s => [s]
    | none => searchOrder
  ids.findSome? fun id => ((c.schema id).index? name).map (id, ·)

/-- A trigger by name, temporary first; with its schema. -/
def findTrigger? (c : Catalog) (schema : Option SchemaId) (name : String) :
    Option (SchemaId × Trigger) :=
  let ids := match schema with
    | some s => [s]
    | none => searchOrder
  ids.findSome? fun id => ((c.schema id).trigger? name).map (id, ·)

/-- Replace a table in its schema. -/
def setTable (c : Catalog) (id : SchemaId) (t : Table) : Catalog :=
  c.modifySchema id (·.setTable t)

end Catalog

end Database

end EntityGraph
