import EntityGraph.Database.Rename

/-!
# Adding and dropping columns

`ALTER TABLE ... ADD COLUMN` and `ALTER TABLE ... DROP COLUMN` edit the text of the table's
definition where its parts are (`tableLayout`): the first token of each column definition, and
the place the table's constraints start.

Rules that fix the results:
- Adding a column puts its definition, after a comma, where the table's constraints start (or
  before the closing parenthesis), and gives every existing row the column's default. A table
  that has rows refuses a column that is `NOT NULL` without a default, whose default is not a
  plain value, that is a stored generated column, or (with foreign keys enforced) that refers
  to another table and has a default other than `NULL`.
- Dropping a column removes its definition up to the next one; the last column's definition
  goes from the comma before it to where the constraints start. A column of the primary key, a
  column declared `UNIQUE`, and the only column cannot be dropped.
- After a column is dropped every definition must still read: the table's own checks,
  generated columns and constraints, the indexes on it, and the views and triggers reading it
  may not name the column. The first definition that does, in the order of the schema table,
  names the fault.
-/

namespace EntityGraph

namespace Database

/-- The parts of a table's text: the first token of each column definition, and where the
table's constraints start (the comma before the first of them), or where its closing
parenthesis is when it has none. -/
structure TableLayout where
  columnStarts : List Token := []
  constraintsAt : Nat := 0

/-- The layout of a table's text from its tokens. -/
def tableLayout (ts : Array Token) : TableLayout := Id.run do
  let starters := ["CONSTRAINT", "PRIMARY", "UNIQUE", "CHECK", "FOREIGN"]
  let mut depth := 0
  let mut itemStart := false
  let mut inConstraints := false
  let mut closed := false
  let mut lastComma := 0
  let mut out : TableLayout := {}
  for t in ts do
    if closed then
      pure ()
    else if t.isSym "(" then
      depth := depth + 1
      if depth == 1 then itemStart := true
    else if t.isSym ")" then
      if depth == 1 then
        if !inConstraints then out := { out with constraintsAt := t.start }
        closed := true
      depth := depth - 1
    else if t.isSym "," && depth == 1 then
      itemStart := true
      lastComma := t.start
    else if itemStart then
      itemStart := false
      if starters.any t.isKw then
        if !inConstraints then
          inConstraints := true
          out := { out with constraintsAt := lastComma }
      else if !inConstraints then
        out := { out with columnStarts := out.columnStarts ++ [t] }
  pure out

/-- The table a statement adding a column names: a view takes no columns, and the store's own
tables are not altered. -/
def addTarget (c : Catalog) (q : QualifiedName) : Except Fault (SchemaId × Table) := do
  match ← alterObject c q with
  | (_, .inr _) => throw (Fault.error "Cannot add a column to a view")
  | (id, .inl t) =>
    if let some f := alterableFault? t.name then throw f
    pure (id, t)

/-- Add a column to a table, giving existing rows its default. -/
def addColumn (c : Catalog) (q : QualifiedName) (d : ColumnDefinition) (text : String)
    (defaultValue : Option Datum) (foreignKeys : Bool) : Except Fault Catalog := do
  let (id, t) ← addTarget c q
  if (t.columnIndex? d.name).isSome then throw (Fault.error ("duplicate column name: " ++ d.name))
  let keys := d.constraints.filterMap fun k => match k with
    | .references fk => some fk
    | _ => none
  if let some fk := keys.find? (·.columns.length > 1) then
    throw (Fault.error ("foreign key on " ++ d.name ++ " should reference only one column of table " ++
      fk.table))
  if d.constraints.any (· matches .primaryKey ..) then
    throw (Fault.error "Cannot add a PRIMARY KEY column")
  if d.constraints.any (· matches .unique _) then throw (Fault.error "Cannot add a UNIQUE column")
  let col ← columnOf d
  -- what a table with rows refuses
  let filled := !t.rows.isEmpty
  let givenDefault := match col.default with
    | some (e, _) => !(e matches .null)
    | none => false
  match col.generated with
  | none =>
    if filled && foreignKeys && !keys.isEmpty && givenDefault then
      throw (Fault.error "Cannot add a REFERENCES column with non-NULL default value")
    if filled && col.notNull.isSome && !givenDefault then
      throw (Fault.error "Cannot add a NOT NULL column with default value NULL")
    if filled && defaultValue.isNone then
      throw (Fault.error "Cannot add a column with non-constant default")
  | some (_, stored) =>
    if filled && stored then throw (Fault.error "cannot add a STORED column")
  let checks := d.constraints.filterMap fun k => match k with
    | .check e label => some (e, label)
    | _ => none
  let stored := defaultValue.getD .null
  let cs := t.sql.toList
  let cut := (tableLayout (Token.scan t.sql)).constraintsAt
  let sql := String.ofList (cs.take cut ++ ", ".toList ++ text.toList ++ cs.drop cut)
  let t' := { t with columns := t.columns.push col, checks := t.checks ++ checks, sql,
                     foreignKeys := t.foreignKeys ++ keys.map fun fk => { columns := [t.columns.size], target := fk },
                     rows := t.rows.map fun r => { r with values := r.values.push stored } }
  pure (c.setTable id t')

/-- Whether the definition of a table declares its column at a position `UNIQUE`. -/
def declaredUnique (sql : String) (j : Nat) : Bool :=
  match prepareFirst sql with
  | .ok (some p) =>
    match p.statement with
    | .createTable _ _ _ (.columns defs _ _ _) _ =>
      (defs.getD j default).constraints.any (· matches .unique _)
    | _ => false
  | _ => false

/-- A table's text without the definition of its column at a position. -/
def withoutColumn (sql : String) (j : Nat) : String :=
  let layout := tableLayout (Token.scan sql)
  let cs := sql.toList
  match layout.columnStarts[j]?, layout.columnStarts[j + 1]? with
  | some a, some b => String.ofList (cs.take a.start ++ cs.drop b.start)
  | some a, none =>
    let comma := ((List.range a.start).reverse.find? (cs.getD · ' ' == ',')).getD a.start
    String.ofList (cs.take comma ++ cs.drop layout.constraintsAt)
  | none, _ => sql

/-- A column name as a token of a text writes it, with the name qualifying it if any. -/
def writtenColumn (ts : Array Token) (tok : Token) : String :=
  match ts.findIdx? (·.start == tok.start) with
  | some i =>
    if i ≥ 2 && (tokenAt ts (i - 1)).isSym "." then (tokenAt ts (i - 2)).value ++ "." ++ tok.value
    else tok.value
  | none => tok.value

/-- Whether a token of a text stands in the list of columns of a foreign key. -/
def inForeignKeyList (ts : Array Token) (tok : Token) : Bool :=
  match ts.findIdx? (·.start == tok.start) with
  | some i =>
    ((List.range i).reverse.find? fun k => (tokenAt ts k).isSym "(" || (tokenAt ts k).isSym ")").any
      fun k => (tokenAt ts k).isSym "(" && k ≥ 1 && (tokenAt ts (k - 1)).isKw "KEY"
  | none => false

/-- Why a definition no longer reads once the column `col` of the table `table` is dropped,
given the table's edited text: the first place the definition names the column. -/
def droppedColumnFault? (kind : ObjectKind) (name sql table col : String) (onTable : Bool) :
    Option Fault :=
  let ts := Token.scan sql
  let found := match kind with
    | .table => ownColumnTokens ts table col
    | .index => if onTable then indexColumnTokens ts table col else []
    | .view => readerColumnTokens ts table col
    | .trigger =>
      let beginAt := ((ts.findIdx? (fun (t : Token) => t.isKw "BEGIN")).map fun i => (tokenAt ts i).start).getD 0
      (triggerColumnTokens ts onTable table col).filter (·.start > beginAt)
  match found.head? with
  | some tok =>
    let message :=
      if kind == ObjectKind.table && inForeignKeyList ts tok then
        "unknown column \"" ++ tok.value ++ "\" in foreign key definition"
      else "no such column: " ++ writtenColumn ts tok
    some (Fault.error ("error in " ++ kind.word ++ " " ++ name ++ " after drop column: " ++ message))
  | none => none

/-- The first definition of a schema, in the order of the schema table, that no longer reads
once the column `col` of `t` is dropped; `sql` is the table's edited text. -/
def Schema.dropFault? (s : Schema) (t : Table) (col sql : String) : Option Fault :=
  s.entries.findSome? fun e =>
    match e.kind with
    | .table =>
      if sameName e.name t.name then droppedColumnFault? .table t.name sql t.name col true
      else none
    | .index =>
      match s.index? e.name with
      | some i =>
        match i.sql with
        | some text => droppedColumnFault? .index i.name text t.name col (sameName i.table t.name)
        | none => none
      | none => none
    | .view =>
      (s.view? e.name).bind fun v => droppedColumnFault? .view v.name v.sql t.name col false
    | .trigger =>
      (s.trigger? e.name).bind fun tr =>
        droppedColumnFault? .trigger tr.name tr.sql t.name col (sameName tr.table t.name)

/-- Remove a column from a table, with its values in every row. -/
def dropColumn (c : Catalog) (q : QualifiedName) (name : String) : Except Fault Catalog := do
  let (id, obj) ← alterObject c q
  if let some f := alterableFault? (objectName obj) then throw f
  let t ← match obj with
    | .inl t => pure t
    | .inr v => throw (Fault.error ("cannot drop column from view \"" ++ v.name ++ "\""))
  let j ← match t.columnIndex? name with
    | some j => pure j
    | none => throw (Fault.error ("no such column: \"" ++ name ++ "\""))
  if t.primaryKey.contains j || t.rowidColumn == some j then
    throw (Fault.error ("cannot drop PRIMARY KEY column: \"" ++ name ++ "\""))
  if declaredUnique t.sql j then
    throw (Fault.error ("cannot drop UNIQUE column: \"" ++ name ++ "\""))
  if t.columns.size ≤ 1 then
    throw (Fault.error ("cannot drop column \"" ++ name ++ "\": no other columns exist"))
  let colName := (t.column j).name
  let sql := withoutColumn t.sql j
  let s := c.schema id
  if let some f := s.dropFault? t colName sql then throw f
  if id == .main then
    let temp := c.schema .temp
    if let some f := { temp with entries := temp.entries.filter (·.kind != ObjectKind.table) }.dropFault? t colName sql then
      throw f
  let shift (k : Nat) : Nat := if k > j then k - 1 else k
  let base : Table := { t with
    columns := t.columns.eraseIdxIfInBounds j,
    rowidColumn := t.rowidColumn.map shift,
    primaryKey := t.primaryKey.map shift,
    foreignKeys := t.foreignKeys.map fun fk => { fk with columns := fk.columns.map shift },
    rows := t.rows.map fun r => { r with values := r.values.eraseIdxIfInBounds j } }
  let s := s.setTable (base.reread sql)
  let shiftKeys (i : Index) : Index :=
    if sameName i.table t.name then
      { i with keys := i.keys.map fun k => { k with column := k.column.map shift } }
    else i
  pure (c.setSchema id { s with indexes := s.indexes.map shiftKeys })

end Database

end EntityGraph
