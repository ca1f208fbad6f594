import EntityGraph.Database.Write

/-!
# Foreign keys

A foreign key ties columns of a child table to a key of a parent table in the same schema: a
child row whose key columns are all non-null must find a parent row with the same key.

The parent key is resolved when a write is prepared (`resolveKey`): a single column naming the
parent's integer primary key (or naming none, when there is one) is the row id; any other key
must be a unique index over exactly the named columns (or the primary key when none are
named), not partial, each column under its declared collation. Otherwise preparing a write that
needs the key fails: `no such table` when the parent is missing, `foreign key mismatch` when its
key is not unique.

Writes do not fail at once when they break a key; they count the rows that break it, and rows
that mend a break take one off (`countBreaks`):
- a child row written without a parent adds one; a child row removed without a parent takes
  one off, but only while some break is counted;
- a parent row removed adds one for each child row referring to it; a parent row written takes
  one off for each child row referring to its key, again only while some break is counted.

Immediate keys count over the statement, which fails with `FOREIGN KEY constraint failed` if
the count is above zero at its end; deferred keys count over the transaction, which cannot
commit while its count is above zero. The one exception is an insertion of a single row of
values outside a trigger into a table with no insertion triggers: a missing parent fails it at
once, before the row is written, and it does not look at keys referring to the table.

Rules that fix the results:
- Looking up a parent by row id takes the child value as an integer (a value that is not one
  finds nothing); looking up through an index takes it under the parent column's affinity
  (numeric for numeric columns) and compares it under the index's collation.
- Child rows referring to a parent row compare as `parent = child` would, the parent side
  having the parent column's affinity and collation; a parent row does not refer to itself.
- A row written to a table that refers to itself may be its own parent.
- An update looks only at keys whose columns it assigns; a key of a table referring to the
  same table is looked at whenever the update looks at any key.
- The actions of a key run after the parent row is removed or updated, as statements of a
  trigger on the parent (`actionStatement`): `CASCADE` deletes the child rows or copies the
  new key into them, `SET NULL` and `SET DEFAULT` assign the child columns, and `RESTRICT`
  fails at once if any child row refers to the parent row. An update runs them only when the
  key changed. `RESTRICT` does nothing while every key is deferred.
-/

namespace EntityGraph

namespace Database

/-! ## Resolving parent keys -/

/-- How a foreign key finds its parent rows. -/
structure ParentKey where
  /-- The parent table's name as declared. -/
  parent : String
  /-- Whether the key is the parent's row id (its integer primary key). -/
  byRowid : Bool
  /-- Each child column with the parent column it refers to, in key order. -/
  pairs : List (Nat × Nat)
  deriving Inhabited

/-- What resolving a foreign key found. -/
inductive KeyLookup where
  | found (k : ParentKey)
  /-- The schema has no parent table of that name. -/
  | noTable
  /-- The parent table has no unique key over the columns named. -/
  | mismatch
  deriving Inhabited

/-- The unique keys of a table that a foreign key may refer to: the columns of each (none for
an expression) with their collations, and whether it is the primary key. Partial indexes are
left out. -/
def Schema.uniqueKeys (s : Schema) (t : Table) : List (List (Option Nat × Collation) × Bool) :=
  let own := (s.indexesOf t.name).filter fun i => i.unique && i.filter.isNone
  let keys := own.map fun i => (i.keys.map fun k => (k.column, k.collation), i.origin == .primaryKey)
  if t.withoutRowid then keys ++ [(t.primaryKey.map fun j => (some j, (t.column j).collation), true)]
  else keys

/-- The child and parent columns of a foreign key through a unique key of its parent, if the
key fits: as many columns as the foreign key, and either the primary key when the foreign key
names no parent columns, or each a plain column under its declared collation that the foreign
key names. -/
def keyPairs (p : Table) (fk : TableForeignKey) (key : List (Option Nat × Collation) × Bool) :
    Option (List (Nat × Nat)) :=
  let names := fk.target.columns
  if key.1.length != fk.columns.length then none
  else if names.isEmpty then
    if key.2 then
      (key.1.mapM fun (k : Option Nat × Collation) => k.1).map fun cols => fk.columns.zip cols
    else none
  else
    key.1.mapM fun (k : Option Nat × Collation) => do
      let j ← k.1
      guard (k.2 == (p.column j).collation)
      let pos ← names.findIdx? (sameName · (p.column j).name)
      fk.columns[pos]?.map (·, j)

/-- Resolve a foreign key of a table in a schema against its parent table. -/
def resolveKey (c : Catalog) (id : SchemaId) (fk : TableForeignKey) : KeyLookup :=
  let s := c.schema id
  match s.table? fk.target.table with
  | none => if (s.view? fk.target.table).isSome then .mismatch else .noTable
  | some p =>
    let rowidKey := if fk.columns.length == 1 then
        p.rowidColumn.filter fun j => match fk.target.columns with
          | [] => true
          | n :: _ => sameName (p.column j).name n
      else none
    match rowidKey with
    | some j => .found { parent := p.name, byRowid := true, pairs := fk.columns.map (·, j) }
    | none =>
      match (s.uniqueKeys p).findSome? (keyPairs p fk) with
      | some pairs => .found { parent := p.name, byRowid := false, pairs }
      | none => .mismatch

/-- A name inside double quotes in a message, its double quotes doubled. -/
def quotedInMessage (name : String) : String := "\"" ++ name.replace "\"" "\"\"" ++ "\""

/-- The fault of a foreign key of a child table that cannot be resolved. -/
def keyFault? (c : Catalog) (id : SchemaId) (child : Table) (fk : TableForeignKey) : Option Fault :=
  match resolveKey c id fk with
  | .found _ => none
  | .noTable => some (Fault.noSuchTable (id.name ++ "." ++ fk.target.table))
  | .mismatch =>
    some (Fault.error ("foreign key mismatch - " ++ quotedInMessage child.name ++ " referencing " ++
      quotedInMessage fk.target.table))

/-- The foreign keys of a schema that refer to a table, with their child tables: the latest
made first. -/
def Schema.referencesTo (s : Schema) (table : String) : List (Table × TableForeignKey) :=
  ((s.tables.flatMap fun t => t.foreignKeys.map (t, ·)).reverse).filter fun (_, fk) =>
    sameName fk.target.table table

/-- Whether an update assigning some columns (`assigned`) changes the parent key a foreign key
refers to: a column it names, or a primary key column when it names none. -/
def parentModified (t : Table) (fk : TableForeignKey) (assigned : Nat → Bool) : Bool :=
  (List.range t.columns.size).any fun j => assigned j &&
    match fk.target.columns with
    | [] => t.primaryKey.contains j
    | names => names.any (sameName · (t.column j).name)

/-- The foreign keys a write to a table looks at: the table's own keys, the latest declared
first, and the keys referring to it with their child tables. An update (`change`, the columns
it assigns) looks at none unless it assigns a column of one; then at the own keys whose columns
it assigns or that refer to the same table, and at the referring keys whose parent key it
assigns. A single-row insertion (`single`) skips the referring keys that are immediate. -/
def keysToCheck (s : Schema) (t : Table) (change : Option (Nat → Bool)) (single deferAll : Bool) :
    List TableForeignKey × List (Table × TableForeignKey) :=
  let own := t.foreignKeys.reverse
  let refs := s.referencesTo t.name
  match change with
  | none => (own, refs.filter fun (_, fk) => !(single && !fk.target.deferred && !deferAll))
  | some assigned =>
    let childTouched (fk : TableForeignKey) : Bool := fk.columns.any assigned
    let parentTouched (fk : TableForeignKey) : Bool := parentModified t fk assigned
    if !(own.any childTouched || refs.any (parentTouched ·.2)) then ([], [])
    else (own.filter (fun fk => sameName fk.target.table t.name || childTouched fk),
          refs.filter (parentTouched ·.2))

/-- The fault preparing a write to a table meets when one of the foreign keys it looks at cannot
be resolved; none when foreign keys are not enforced. -/
def writeKeyFault? (st : WriteState) (id : SchemaId) (t : Table) (change : Option (Nat → Bool))
    (single : Bool) : Option Fault :=
  if !st.foreignKeys then none
  else
    let (own, refs) := keysToCheck (st.catalog.schema id) t change single st.deferAll
    (own.findSome? (keyFault? st.catalog id t)).orElse fun _ =>
      refs.findSome? fun (child, fk) => keyFault? st.catalog id child fk

/-! ## Matching keys -/

/-- The affinity a value takes before it is looked up in an index: numeric for a numeric
column. -/
def Affinity.forIndex : Affinity → Affinity
  | .integer | .real => .numeric
  | a => a

/-- Whether a parent table holds a row with the key values of a child row. A row id key takes
the value as an integer, and finds nothing if it is not one; another key takes each value under
the affinity of its parent column and compares it under the column's collation. -/
def ParentKey.holds (k : ParentKey) (parent : Table) (values : List Datum) : Bool :=
  if k.byRowid then
    match values with
    | [v] =>
      match Affinity.integer.store v with
      | .integer n => parent.rows.any (·.rowid == n)
      | _ => false
    | _ => false
  else
    parent.rows.any fun r => (k.pairs.zip values).all fun ((_, j), v) =>
      let col := parent.column j
      Datum.compareBy .eq none col.collation (r.values.getD j .null) (col.affinity.forIndex.store v)
        == some true

/-- Whether a row written to a table that refers to itself holds the key values it refers to:
its row id, or the values of its own parent key columns compared exactly. -/
def ParentKey.matchesRow (k : ParentKey) (t : Table) (row : StoredRow) (values : List Datum) : Bool :=
  if k.byRowid then
    match values with
    | [v] =>
      match Affinity.integer.store v with
      | .integer n => n == row.rowid
      | _ => false
    | _ => false
  else
    (k.pairs.zip values).all fun ((_, j), v) =>
      let own := if t.rowidColumn == some j then Datum.integer row.rowid else row.values.getD j .null
      Datum.compareBy .eq none .binary v own == some true

/-- Whether a child row refers to a parent row: each parent key value equals the child's value
as `parent = child` compares them, the parent side having the parent column's affinity and
collation (the row id has integer affinity and no collation of its own). -/
def ParentKey.refers (k : ParentKey) (parent child : Table) (prow crow : StoredRow) : Bool :=
  k.pairs.all fun (c, j) =>
    let ccol := child.column c
    let (pv, aff, coll) :=
      if parent.rowidColumn == some j then (Datum.integer prow.rowid, Affinity.integer, ccol.collation)
      else
        let pcol := parent.column j
        (prow.values.getD j .null, pcol.affinity, pcol.collation)
    Datum.compareBy .eq (compareAffinity (some aff) (some ccol.affinity)) coll pv (crow.values.getD c .null)
      == some true

/-- Whether a row of a table is a given row of it: the same row id, or in a table without row
ids the same parent key values. -/
def ParentKey.sameRow (k : ParentKey) (t : Table) (prow r : StoredRow) : Bool :=
  if t.withoutRowid then
    k.pairs.all fun (_, j) =>
      let col := t.column j
      Datum.compareBy .is (compareAffinity (some col.affinity) (some col.affinity)) col.collation
        (prow.values.getD j .null) (r.values.getD j .null) == some true
  else r.rowid == prow.rowid

/-! ## Counting breaks -/

/-- Whether no break is counted that a key's checks could mend. -/
def noBreaks (deferred : Bool) : WriteM Bool := do
  let s ← get
  pure ((if deferred then s.deferredBreaks == 0 else s.immediateBreaks == 0) && s.postponedBreaks == 0)

/-- Count rows breaking a key, or mending breaks when `n` is negative. -/
def countBreaks (deferred : Bool) (n : Int) : WriteM Unit :=
  modify fun s =>
    if s.deferAll then { s with postponedBreaks := s.postponedBreaks + n }
    else if deferred then { s with deferredBreaks := s.deferredBreaks + n }
    else { s with immediateBreaks := s.immediateBreaks + n }

/-- Look up the parent of a child row for one key: for a row being written (`written`) a missing
parent is a break, failing at once when `halt`; for a row being removed it mends one. -/
def checkParentOf (id : SchemaId) (t : Table) (fk : TableForeignKey) (k : ParentKey) (row : StoredRow)
    (written halt : Bool) : WriteM Unit := do
  if !written && (← noBreaks fk.target.deferred) then return
  let values := fk.columns.map (row.values.getD · .null)
  if values.any (·.isNull) then return
  let parent ← currentTable id k.parent
  let found := (written && sameName k.parent t.name && k.matchesRow t row values) ||
    k.holds parent values
  if !found then
    if halt then throw Fault.foreignKey
    countBreaks fk.target.deferred (if written then 1 else -1)

/-- Count the child rows referring to a parent row for one key: each is a break when the row is
being removed, and mends one when it is being written. -/
def countChildren (id : SchemaId) (t : Table) (child : String) (fk : TableForeignKey) (k : ParentKey)
    (row : StoredRow) (written : Bool) : WriteM Unit := do
  if written && (← noBreaks fk.target.deferred) then return
  let c ← currentTable id child
  let selfRef := sameName c.name t.name
  let n := (c.rows.filter fun r => k.refers t c row r && !(!written && selfRef && k.sameRow t row r)).length
  if n > 0 then countBreaks fk.target.deferred (if written then -(n : Int) else n)

/-- Check the foreign keys of a row being removed from a table, or written to it (`written`):
the table's own keys, then the keys referring to it. `change` gives the columns an update
assigns, `single` marks a single-row insertion, and `lenient` a removal that ignores keys that
cannot be resolved, a missing parent table counting as an empty one. -/
def checkForeignKeys (id : SchemaId) (t : Table) (row : StoredRow) (written : Bool)
    (change : Option (Nat → Bool)) (single lenient : Bool) : WriteM Unit := do
  let s ← get
  if !s.foreignKeys then return
  let (own, refs) := keysToCheck (s.catalog.schema id) t change single s.deferAll
  for fk in own do
    match resolveKey (← get).catalog id fk with
    | .found k =>
      checkParentOf id t fk k row written (single && !fk.target.deferred && !(← get).deferAll)
    | .noTable =>
      if lenient && !(fk.columns.any fun j => (row.values.getD j .null).isNull) then
        countBreaks fk.target.deferred (-1)
    | .mismatch => pure ()
  for (child, fk) in refs do
    match resolveKey (← get).catalog id fk with
    | .found k => countChildren id t child.name fk k row written
    | _ => pure ()

/-! ## Actions -/

/-- The conjunction of some conditions. -/
def allOf : List Expr → Expr
  | [] => .integer "1"
  | e :: rest => rest.foldl (.binary .and) e

/-- The statement a foreign key's action runs for a parent row, as a statement of a trigger on
the parent with the row as `old` (and the updated row as `new`), and the condition it runs
under: for an update, that the key changed. Child rows are those whose key equals the old
parent key; `RESTRICT` selects `RAISE(ABORT)` over them, `CASCADE` deletes them (or copies the
new key into them), `SET NULL` and `SET DEFAULT` assign their key columns. -/
def actionStatement (parent child : Table) (k : ParentKey) (action : ForeignAction) (onUpdate : Bool) :
    Statement × Option Expr :=
  let names := k.pairs.map fun (c, p) => (c, (child.column c).name, (parent.column p).name)
  let found := allOf (names.map fun (_, c, p) => .binary .eq (.qualified none "old" p) (.name c false))
  let unchanged := allOf (names.map fun (_, _, p) =>
    .binary .is (.qualified none "old" p) (.qualified none "new" p))
  let cond := if onUpdate then some (Expr.unary .not unchanged) else none
  let target : QualifiedName := { name := child.name }
  let assign (value : Nat → String → Expr) : Statement :=
    .update false [] (some .abort) target none
      (names.map fun (j, c, p) => { columns := [c], value := value j p }) [] (some found) []
  let st : Statement := match action with
    | .cascade =>
      if onUpdate then assign fun _ p => .qualified none "new" p
      else .delete false [] target none (some found) []
    | .setNull => assign fun _ _ => .null
    | .setDefault => assign fun j _ =>
      let col := child.column j
      if col.generated.isSome then .null
      else match col.default with
        | some (e, _) => e
        | none => .null
    | _ =>
      let failed := Expr.raise "ABORT" (some (.string "FOREIGN KEY constraint failed"))
      .select (Select.ofCore (.select false [.expr failed none "RAISE"]
        [.mk {} (.table none child.name none none) none []] (some found) [] none []))
  (st, cond)

/-- Run the statement of a foreign key action for one parent row of a table in a schema, when
its condition holds. The last inserted row id and the count of changed rows are put back after
it. -/
def runAction (run : StatementRunner) (id : SchemaId) (t : Table) (st : Statement) (cond : Option Expr)
    (old : SourceRow) (new : Option SourceRow) : WriteM Unit := do
  let saved ← get
  let level : Level :=
    { sources := #[pseudoScope t "old", pseudoScope t (if new.isSome then "new" else "")] }
  let scope : StatementScope :=
    { levels := [level], env := [{ sources := #[some old, new] }],
      fixedSchema := if id == .main then some .main else none, inTrigger := true }
  let fires ← match cond with
    | some c => do
      let term ← bindTermOver scope {} {} c
      pure ((← evalIn ({ sources := #[] } :: scope.env) term).truth false)
    | none => pure true
  if fires then
    let _ ← run scope st
  modify fun s => { s with lastRowid := saved.lastRowid, changes := saved.changes,
                           triggerChanges := s.triggerChanges + (s.changes - saved.changes) }

/-- Carry out the actions of the keys referring to a parent row just removed from a table
(`new` none) or updated; an update (`change`, the columns it assigns) runs those of the keys
whose parent key it assigns. -/
def runKeyActions (run : StatementRunner) (id : SchemaId) (t : Table) (old : StoredRow)
    (new : Option StoredRow) (change : Option (Nat → Bool)) : WriteM Unit := do
  if !(← get).foreignKeys then return
  for (child, fk) in ((← get).catalog.schema id).referencesTo t.name do
    let relevant := match change with
      | some assigned => parentModified t fk assigned
      | none => true
    let action := if new.isSome then fk.target.onUpdate else fk.target.onDelete
    if relevant && action != .noAction && !(action == .restrict && (← get).deferAll) then
      match resolveKey (← get).catalog id fk with
      | .found k =>
        let (st, cond) := actionStatement t child k action new.isSome
        runAction run id t st cond (t.sourceRow old) (new.map t.sourceRow)
      | _ => pure ()

/-- Remove a row from a table on the way of a foreign key check: its keys checked, the row
removed, and the actions of the keys referring to it carried out. No trigger fires and nothing
is counted as changed. -/
def removeChecked (run : StatementRunner) (id : SchemaId) (t : Table) (old : StoredRow)
    (lenient : Bool) : WriteM Unit := do
  checkForeignKeys id t old false none false lenient
  let cur ← currentTable id t.name
  saveTable id (cur.removeRow old)
  runKeyActions run id t old none none

end Database

end EntityGraph
