import EntityGraph.Database.ForeignKeys

/-!
# Writes

Insertions, updates and deletions of rows, run in the write monad (`WriteM`).

A row to be written is checked (`checkRow`) in this order: `NOT NULL` columns in column order,
`CHECK` constraints in the order written, the row id, then the unique indexes from the latest
made to the first (those that replace conflicting rows last). Each check fails, skips the row,
or (for `REPLACE`) removes the rows in the way, as the statement's `OR` clause says, else the
constraint's own `ON CONFLICT` clause, else `ABORT`. An `ON CONFLICT` clause of an insertion
(an upsert) takes over conflicts on the index it names. Foreign keys are checked after the
other constraints, as `ForeignKeys` describes.

Rules that fix the results:
- A new row id is one more than the largest in use (one for an empty table); with
  `AUTOINCREMENT` one more than the largest ever used, which `sqlite_sequence` keeps.
- An update finds its rows first, then changes them one by one in row order, each against the
  table as the rows before it left it.
- The count of changed rows counts the rows the statement itself wrote, not those its triggers
  or foreign key actions wrote nor those `REPLACE` removed.
-/

namespace EntityGraph

namespace Database

/-! ## Checking rows -/

/-- An upsert once bound: the index it is for (none for any), and what it does. -/
structure BoundUpsert where
  /-- The index (`none` inside for the row id) the clause is for, or none for every one. -/
  target : Option (Option String)
  /-- Assignments: the column (none for the row id) and value, and the condition; none for
  `DO NOTHING`. -/
  update : Option (List (Option Nat × Term) × Option Term)

/-- What checking a row decided. -/
inductive Verdict where
  /-- Write the row, after removing the rows in its way. -/
  | write (row : StoredRow) (replaced : List StoredRow)
  | skip
  /-- Hand the conflict with a row to an upsert clause. -/
  | upsert (clause : BoundUpsert) (existing : StoredRow)

/-- The key of a row under an index: its columns, or its expressions evaluated. -/
def indexKey (t : Table) (keyTerms : List (Option Term)) (r : StoredRow) : WriteM (List Datum) :=
  keyTerms.mapM fun k => match k with
    | some term => evalIn [t.frame r] term
    | none => pure .null

/-- The term reading a column of the only source of a level (the row id when it is the row id
column). -/
def columnTerm (rowidColumn : Option Nat) (j : Nat) : Term :=
  .column { depth := 0, source := 0, column := if rowidColumn == some j then none else some j }

/-- The terms of an index's keys bound over its table: none for a plain column. -/
def bindIndexKeys (id : SchemaId) (t : Table) (i : Index) : WriteM (List (Option Term)) :=
  i.keys.mapM fun k => match k.column with
    | some j => pure (some (columnTerm t.rowidColumn j))
    | none => do
      let term ← bindTermOver {} { sources := #[tableScope id t none] }
        { restriction := some "index expressions" } k.expr
      pure (some term)

/-- Whether a row is in a partial index. -/
def inIndex (id : SchemaId) (t : Table) (i : Index) (r : StoredRow) : WriteM Bool := do
  match i.filter with
  | none => pure true
  | some f =>
    let term ← bindTermOver {} { sources := #[tableScope id t none] } {} f
    pure ((← evalIn [t.frame r] term).truth false)

/-- The fault of a uniqueness conflict on an index. -/
def uniqueFault (t : Table) (i : Index) : Fault :=
  if i.keys.all (·.column.isSome) then
    Fault.unique t.name (i.keys.map fun k => (t.column (k.column.getD 0)).name)
  else Fault.constraint ("UNIQUE constraint failed: index '" ++ i.name ++ "'")

/-- The upsert clause that takes a conflict on an index (none inside for the row id). -/
def upsertFor (ups : List BoundUpsert) (index : Option String) : Option BoundUpsert :=
  ups.find? fun u => match u.target with
    | none => true
    | some tgt => match tgt, index with
      | none, none => true
      | some a, some b => sameName a b
      | _, _ => false

/-- The name of a value's kind in the faults of strict tables. -/
def Datum.kindName : Datum → String
  | .null => "NULL"
  | .integer _ => "INT"
  | .real _ => "REAL"
  | .text _ => "TEXT"
  | .blob _ => "BLOB"

/-- Whether a column of a strict table takes a value of its kind: an `INT` or `INTEGER` column
takes integers, a `REAL` column numbers, a `TEXT` column text, a `BLOB` column byte strings,
and an `ANY` column everything; every column takes null. -/
def Column.takes (c : Column) (v : Datum) : Bool :=
  match c.declaredType, v with
  | _, .null => true
  | "ANY", _ => true
  | "INT", .integer _ | "INTEGER", .integer _ => true
  | "REAL", .integer _ | "REAL", .real _ => true
  | "TEXT", .text _ => true
  | "BLOB", .blob _ => true
  | _, _ => false

/-- The first value of a row about to be written that its column of a strict table does not
take, as a fault. The row id column is not looked at, nor are generated columns that are not
stored, nor any generated column when `generated` is false. -/
def Table.datatypeFault? (t : Table) (row : StoredRow) (generated : Bool) : Option Fault :=
  if !t.strict then none
  else
    t.columns.toList.zipIdx.findSome? fun (c, j) =>
      let skip := t.rowidColumn == some j || match c.generated with
        | some (_, stored) => !stored || !generated
        | none => false
      let v := row.values.getD j .null
      if skip || c.takes v then none
      else some (Fault.datatype v.kindName c.declaredType t.name c.name)

/-- Check a row about to be written; `self` is the row it replaces in an update, `changed` the
columns an update assigns.

In a strict table the kinds of the values are checked once the generated columns are to be
computed (in a table that has some, before anything else), and again, generated columns
included, before the first `CHECK` constraint or else once the row id is known to be free. -/
def checkRow (id : SchemaId) (t : Table) (row : StoredRow) (self : Option StoredRow)
    (changed : Option (List Nat)) (rowidChanged : Bool) (action : Option ConflictAction)
    (ups : List BoundUpsert) : WriteM Verdict := do
  let mut row := row
  if t.columns.any (·.generated.isSome) then
    if let some f := t.datatypeFault? row false then failUnder .abort f
  -- NOT NULL, column by column
  for (c, j) in t.columns.toList.zipIdx do
    let assigned := match changed with
      | some cs => cs.contains j
      | none => true
    if assigned && t.rowidColumn != some j && (row.values.getD j .null).isNull then
      match c.notNull with
      | none => pure ()
      | some own =>
        let act := (action.orElse fun _ => own).getD .abort
        match act with
        | .ignore => return .skip
        | .replace =>
          match c.default with
          | some (e, _) =>
            let term ← bindTermOver {} {} {} e
            let v := c.affinity.store (← evalIn [{ sources := #[] }] term)
            if v.isNull then failUnder .abort (Fault.notNull t.name c.name)
            row := { row with values := row.values.set! j v }
          | none => failUnder .abort (Fault.notNull t.name c.name)
        | a => failUnder a (Fault.notNull t.name c.name)
  -- CHECK constraints
  if !t.checks.isEmpty then
    if let some f := t.datatypeFault? row true then failUnder .abort f
  for (e, label) in t.checks do
    let term ← bindTermOver {} { sources := #[tableScope id t none] } {} e
    let v ← evalIn [t.frame row] term
    if v.truth? == some false then
      match action.getD .abort with
      | .ignore => return .skip
      | .replace => failUnder .abort (Fault.check label)
      | a => failUnder a (Fault.check label)
  let mut replaced : List StoredRow := []
  let cur ← currentTable id t.name
  let isSelf (r : StoredRow) : Bool := match self with
    | some s => if t.withoutRowid then t.compareKeys (t.keyOf s) (t.keyOf r) == .eq else s.rowid == r.rowid
    | none => false
  -- the row id
  if !t.withoutRowid && rowidChanged then
    match cur.rows.find? (fun r => r.rowid == row.rowid && !isSelf r) with
    | some other =>
      match upsertFor ups none with
      | some u => return .upsert u other
      | none =>
        match (action.orElse fun _ => t.primaryKeyConflict).getD .abort with
        | .ignore => return .skip
        | .replace => replaced := replaced ++ [other]
        | a => failUnder a (Fault.unique t.name [t.rowidName])
    | none => pure ()
  if t.checks.isEmpty then
    if let some f := t.datatypeFault? row true then failUnder .abort f
  -- the primary key of a table without row ids
  if t.withoutRowid then
    let key := t.keyOf row
    let keyChanged := match changed with
      | some cs => t.primaryKey.any cs.contains
      | none => true
    if keyChanged then
      match cur.rows.find? (fun r => t.compareKeys (t.keyOf r) key == .eq && !isSelf r) with
      | some other =>
        let pkIndex := "sqlite_autoindex_" ++ t.name ++ "_1"
        match upsertFor ups (some pkIndex) with
        | some u => return .upsert u other
        | none =>
          match (action.orElse fun _ => t.primaryKeyConflict).getD .abort with
          | .ignore => return .skip
          | .replace => replaced := replaced ++ [other]
          | a => failUnder a (Fault.unique t.name (t.primaryKey.map fun j => (t.column j).name))
      | none => pure ()
  -- unique indexes
  for i in ((← get).catalog.schema id).indexesOf t.name do
    if i.unique then
      let relevant := match changed with
        | some cs => rowidChanged || i.keys.any fun k => match k.column with
          | some j => cs.contains j
          | none => true
        | none => true
      if relevant && (← inIndex id t i row) then
        let terms ← bindIndexKeys id t i
        let key ← indexKey t terms row
        if !key.any (·.isNull) then
          let colls := i.keys.map (·.collation)
          let mut clash : Option StoredRow := none
          for r in cur.rows do
            if clash.isNone && !isSelf r && !(replaced.any fun x => x.rowid == r.rowid && !t.withoutRowid) then
              if ← inIndex id t i r then
                let k ← indexKey t terms r
                if compareUnder colls k key == .eq then clash := some r
          match clash with
          | some other =>
            match upsertFor ups (some i.name) with
            | some u => return .upsert u other
            | none =>
              let own := if i.origin == .primaryKey then t.primaryKeyConflict.orElse fun _ => i.conflict
                else i.conflict
              match (action.orElse fun _ => own).getD .abort with
              | .ignore => return .skip
              | .replace => replaced := replaced ++ [other]
              | a => failUnder a (uniqueFault t i)
          | none => pure ()
  pure (.write row replaced)

/-! ## Row identifiers and the sequence table -/

/-- The largest row id `sqlite_sequence` records for a table. -/
def sequenceOf (c : Catalog) (id : SchemaId) (table : String) : Int :=
  match (c.schema id).table? "sqlite_sequence" with
  | some s =>
    (s.rows.find? fun r => match r.values.getD 0 .null with
      | .text b => sameName (Bytes.lossy b) table
      | _ => false).map (fun r => (r.values.getD 1 .null).toInt) |>.getD 0
  | none => 0

/-- Record a row id in `sqlite_sequence` when it is the largest yet. -/
def recordSequence (id : SchemaId) (table : String) (rowid : Int) : WriteM Unit := do
  let c := (← get).catalog
  match (c.schema id).table? "sqlite_sequence" with
  | none => pure ()
  | some s =>
    let isRow (r : StoredRow) : Bool := match r.values.getD 0 .null with
      | .text b => sameName (Bytes.lossy b) table
      | _ => false
    match s.rows.find? isRow with
    | some r =>
      if (r.values.getD 1 .null).toInt < rowid then
        saveTable id (s.putRow { r with values := r.values.set! 1 (Datum.ofInt rowid) })
    | none =>
      let next : Int64 := match s.maxRowid with
        | some m => m + 1
        | none => 1
      saveTable id (s.putRow { rowid := next, values := #[Datum.ofString table, Datum.ofInt rowid] })

/-- A row id for a new row. -/
def newRowid (id : SchemaId) (t : Table) : WriteM Int64 := do
  let c := (← get).catalog
  let top : Int := match t.maxRowid with
    | some m => m.toInt
    | none => 0
  let top := if t.autoincrement then max top (sequenceOf c id t.name) else top
  if top ≥ 2 ^ 63 - 1 then throw { code := 13, message := "database or disk is full" }
  pure (Int64.ofInt (top + 1))

/-- The row id a value given for it stands for. -/
def rowidOf (d : Datum) : WriteM Int64 :=
  match Affinity.integer.store d with
  | .integer n => pure n
  | _ => throw Fault.mismatch

/-! ## Removing and writing rows -/

/-- Remove rows in the way of a row being written, counting nothing: each with its foreign keys
checked and their actions carried out, but no trigger fired. -/
def removeRows (run : StatementRunner) (id : SchemaId) (t : Table) (rows : List StoredRow) :
    WriteM Unit := do
  for r in rows do
    removeChecked run id t r false

/-- Compute the generated columns of a row. -/
def withGenerated (id : SchemaId) (t : Table) (r : StoredRow) : WriteM StoredRow := do
  let mut r := r
  for (c, j) in t.columns.toList.zipIdx do
    if let some (e, _) := c.generated then
      let term ← bindTermOver {} { sources := #[tableScope id t none] }
        { restriction := some "generated columns" } e
      let v := c.affinity.store (← evalIn [t.frame r] term)
      r := { r with values := r.values.set! j v }
  pure r

/-- Apply an update's assignments to a row: the new row and whether its row id changed. -/
def assignRow (t : Table) (old : StoredRow) (values : List (Option Nat × Datum)) :
    WriteM (StoredRow × Bool) := do
  let mut row := old
  let mut rowidChanged := false
  for (col, v) in values do
    match col with
    | some j =>
      let stored := (t.column j).affinity.store v
      if t.rowidColumn == some j then
        let n ← if stored.isNull then pure old.rowid else rowidOf stored
        row := { row with rowid := n, values := row.values.set! j (.integer n) }
        rowidChanged := rowidChanged || n != old.rowid
      else row := { row with values := row.values.set! j stored }
    | none =>
      let n ← if v.isNull then pure old.rowid else rowidOf v
      row := { row with rowid := n }
      if let some k := t.rowidColumn then row := { row with values := row.values.set! k (.integer n) }
      rowidChanged := rowidChanged || n != old.rowid
  pure (row, rowidChanged)

/-- The columns an update assigns, given the column each assignment is to (none for the row id):
the row id column also when the row id is assigned by name. -/
def assignedBy (t : Table) (targets : List (Option Nat)) (j : Nat) : Bool :=
  let keyAssigned := targets.any fun c => c.isNone || (c.isSome && c == t.rowidColumn)
  targets.contains (some j) || (t.rowidColumn == some j && keyAssigned)

/-- Update one row to new values: triggers, checks, the write. False when the row was left
alone. -/
def updateRow (run : StatementRunner) (id : SchemaId) (t : Table) (old : StoredRow)
    (values : List (Option Nat × Datum)) (action : Option ConflictAction) : WriteM (Option StoredRow) := do
  let (row, rowidChanged) ← assignRow t old values
  let assigned := assignedBy t (values.map (·.1))
  let row ← withGenerated id t row
  let changedCols := values.filterMap (·.1)
  let changedCols := if rowidChanged then changedCols ++ (t.rowidColumn.toList) else changedCols
  let go ← fireTriggers run t .before (.update changedCols) (some (t.sourceRow old)) (some (t.sourceRow row))
  if !go then return none
  -- the row as the triggers left it
  let cur ← currentTable id t.name
  let still := if t.withoutRowid then cur.rows.find? (fun r => t.compareKeys (t.keyOf r) (t.keyOf old) == .eq)
    else cur.rows.find? (·.rowid == old.rowid)
  match still with
  | none => return none
  | some _ =>
    match ← checkRow id t row (some old) (some changedCols) rowidChanged action [] with
    | .skip => return none
    | .upsert _ _ => return none
    | .write row replaced =>
      removeRows run id t replaced
      checkForeignKeys id t old false (some assigned) false false
      let cur ← currentTable id t.name
      saveTable id (cur.removeRow old)
      checkForeignKeys id t row true (some assigned) false false
      let cur ← currentTable id t.name
      saveTable id (cur.putRow row)
      if t.autoincrement && rowidChanged then recordSequence id t.name row.rowid.toInt
      modify fun s => { s with changes := s.changes + 1 }
      runKeyActions run id t old (some row) (some assigned)
      let _ ← fireTriggers run t .after (.update changedCols) (some (t.sourceRow old)) (some (t.sourceRow row))
      pure (some row)

/-- Insert one row of full values: triggers, checks, upserts, the write. The row written, if
any. -/
def insertRow (run : StatementRunner) (id : SchemaId) (t : Table) (row : StoredRow)
    (rowidGiven : Bool) (action : Option ConflictAction) (ups : List BoundUpsert) (single : Bool) :
    WriteM (Option StoredRow) := do
  let row ← withGenerated id t row
  let before : StoredRow := if rowidGiven || t.withoutRowid then row else { row with rowid := -1 }
  let go ← fireTriggers run t .before .insert none (some (t.sourceRow before))
  if !go then return none
  -- a row id taken after the triggers ran
  let t ← currentTable id t.name
  let row ← if rowidGiven || t.withoutRowid then pure row
    else do
      let n ← newRowid id t
      pure { row with rowid := n,
                      values := match t.rowidColumn with
                        | some k => row.values.set! k (.integer n)
                        | none => row.values }
  match ← checkRow id t row none none true action ups with
  | .skip => pure none
  | .upsert u existing =>
    match u.update with
    | none => pure none
    | some (sets, filter) =>
      let excluded := t.sourceRow row
      let env : Env := [{ sources := #[some (t.sourceRow existing), some excluded] }]
      let ok ← match filter with
        | some f => do pure ((← evalIn env f).truth false)
        | none => pure true
      if !ok then return none
      let values ← sets.mapM fun (c, term) => do pure (c, ← evalIn env term)
      updateRow run id t existing values action
  | .write row replaced =>
    removeRows run id t replaced
    checkForeignKeys id t row true none single false
    let cur ← currentTable id t.name
    saveTable id (cur.putRow row)
    if t.autoincrement then recordSequence id t.name row.rowid.toInt
    modify fun s => { s with changes := s.changes + 1,
                             lastRowid := if t.withoutRowid then s.lastRowid else row.rowid }
    let _ ← fireTriggers run t .after .insert none (some (t.sourceRow row))
    pure (some row)

/-- Delete one row: triggers and the removal. Whether it was removed. -/
def deleteRow (run : StatementRunner) (id : SchemaId) (t : Table) (old : StoredRow) : WriteM Bool := do
  let go ← fireTriggers run t .before .delete (some (t.sourceRow old)) none
  if !go then return false
  let cur ← currentTable id t.name
  let present := if t.withoutRowid then cur.rows.any (fun r => t.compareKeys (t.keyOf r) (t.keyOf old) == .eq)
    else cur.rows.any (·.rowid == old.rowid)
  if !present then return false
  checkForeignKeys id t old false none false false
  let cur ← currentTable id t.name
  saveTable id (cur.removeRow old)
  modify fun s => { s with changes := s.changes + 1 }
  runKeyActions run id t old none none
  let _ ← fireTriggers run t .after .delete (some (t.sourceRow old)) none
  pure true

/-! ## Statements -/

/-- The results of `RETURNING`, bound over the table written. -/
structure BoundReturning where
  names : List String
  terms : List Term

/-- Bind a `RETURNING` clause over a table. -/
def bindReturning (scope : StatementScope) (id : SchemaId) (t : Table) (aliasName : Option String)
    (cols : List ResultColumn) : WriteM (Option BoundReturning) := do
  if cols.isEmpty then return none
  let src := tableScope id t aliasName
  let items ← bindOver scope { sources := #[src] } (do
    let mut out : List (String × Term) := []
    for rc in cols do
      match rc with
      | .all | .allOf _ =>
        for (c, j) in src.columns.zipIdx do
          out := out ++ [(c.name, columnTerm src.rowidColumn j)]
      | .expr e asName span =>
        let (term, info) ← bindExprTerm {} e
        out := out ++ [((asName.orElse fun _ => info.columnName).getD span, term)]
    pure out)
  pure (some { names := items.map (·.1), terms := items.map (·.2) })

/-- The rows `RETURNING` gives for written rows. -/
def returningRows (r : BoundReturning) (scope : StatementScope) (t : Table) (rows : List StoredRow) :
    WriteM (List (List Datum)) :=
  rows.mapM fun row => r.terms.mapM (evalIn (t.frame row :: scope.env))

/-- Run an insertion. -/
def runInsert (run : StatementRunner) (scope : StatementScope) (action : Option ConflictAction)
    (target : QualifiedName) (aliasName : Option String) (columns : Option (List String))
    (source : InsertSource) (upserts : List Upsert) (returning : List ResultColumn) :
    WriteM Outcome := do
  let (table?, view?) ← writeTarget scope target
  let (id, t) ← match table?, view? with
    | some x, _ => pure x
    | none, some (_, v) => throw (Fault.error ("cannot modify " ++ v.name ++ " because it is a view"))
    | none, none => throw (Fault.noSuchTable (match target.schema with
        | some s => s ++ "." ++ target.name
        | none => target.name))
  if t.name.toLower.startsWith "sqlite_" && !sameName t.name "sqlite_sequence" then
    throw (Fault.error ("table " ++ t.name ++ " may not be modified"))
  -- the columns written: positions, none for the row id
  let positions : List (Option Nat) ← match columns with
    | some cs => cs.mapM fun n => match t.columnIndex? n with
      | some j => pure (some j)
      | none =>
        if isRowidName n && !t.withoutRowid then pure none
        else throw (Fault.error ("table " ++ t.name ++ " has no column named " ++ n))
    | none => pure ((List.range t.columns.size).filterMap fun j =>
        if (t.column j).generated.isSome then none else some (some j))
  let width (n : Nat) : WriteM Unit := do
    if n != positions.length then
      match columns with
      | some _ => throw (Fault.error (toString n ++ " values for " ++ toString positions.length ++ " columns"))
      | none => throw (Fault.error ("table " ++ t.name ++ " has " ++ toString positions.length ++
          " columns but " ++ toString n ++ " values were supplied"))
  -- the rows, as terms to evaluate one by one or as a query's rows
  let rowsSource : Sum (List (List Term)) Plan ← match source with
    | .values rows => do
      let w := (rows.headD []).length
      if rows.any (·.length != w) then throw (Fault.error "all VALUES must have the same number of terms")
      width w
      let bound ← bindOver scope {} (rows.mapM fun r => r.mapM fun e => do
        pure (← bindExprTerm {} e).1)
      pure (.inl bound)
    | .select q => do
      let bq ← bindIn scope (bindSelect queryFuel q)
      width bq.columns.length
      pure (.inr bq.plan)
    | .defaults => pure (.inl [[]])
  let positions := match source with
    | .defaults => []
    | _ => positions
  -- upserts
  let src := tableScope id t aliasName
  let indexes := ((← get).catalog.schema id).indexesOf t.name
  let ups ← upserts.mapM fun u => do
    let tgt : Option (Option String) ← match u.target with
      | none => pure none
      | some (cols, _) =>
        let names := cols.filterMap (·.columnName?)
        let isRowidTarget := match names with
          | [n] => (t.rowidColumn.map fun j => sameName (t.column j).name n).getD false
          | _ => false
        if isRowidTarget then pure (some none)
        else
          let wanted := names.filterMap t.columnIndex?
          let fits (i : Index) : Bool := i.unique && i.keys.length == wanted.length &&
            i.keys.all (fun k => match k.column with
              | some j => wanted.contains j
              | none => false)
          let pk := if t.withoutRowid && wanted.length == t.primaryKey.length &&
              t.primaryKey.all wanted.contains then some ("sqlite_autoindex_" ++ t.name ++ "_1") else none
          match pk.orElse fun _ => (indexes.find? fits).map (·.name) with
          | some n => pure (some (some n))
          | none => throw (Fault.error "ON CONFLICT clause does not match any PRIMARY KEY or UNIQUE constraint")
    match u.action with
    | .nothing => pure ({ target := tgt, update := none } : BoundUpsert)
    | .update sets filter =>
      let excludedSrc : ScopeSource := { src with name := "excluded", pseudo := true }
      let level : Level := { sources := #[src, excludedSrc] }
      let (bsets, bfilter) ← bindOver scope level (do
        let mut out : List (Option Nat × Term) := []
        for a in sets do
          let (term, _) ← bindExprTerm {} a.value
          for n in a.columns do
            match t.columnIndex? n with
            | some j => out := out ++ [(some j, term)]
            | none =>
              if isRowidName n then out := out ++ [(none, term)]
              else throw (Fault.noSuchColumn n)
        let f ← filter.mapM fun e => do pure (← bindExprTerm {} e).1
        pure (out, f))
      pure { target := tgt, update := some (bsets, bfilter) }
  -- a single row of values outside a trigger, with nothing else that writes, fails at once
  -- on a missing parent
  let replaces := action == some .replace || (action.isNone &&
    (t.primaryKeyConflict == some .replace || indexes.any (·.conflict == some .replace)))
  let single := !scope.inTrigger && returning.isEmpty && upserts.isEmpty && !replaces &&
    (match source with
      | .values rows => rows.length == 1
      | .defaults => true
      | .select _ => false) &&
    !((triggersFor (← get).catalog t.name).any fun (_, tr) => tr.event matches .insert)
  if let some f := writeKeyFault? (← get) id t none single then throw f
  let ret ← bindReturning scope id t aliasName returning
  if scope.prepareOnly then return .done
  -- the rows
  let given : List (List Datum) ← match rowsSource with
    | .inr plan => planRows scope.env plan
    | .inl _ => pure []
  let count := match rowsSource with
    | .inl rows => rows.length
    | .inr _ => given.length
  let mut written : List StoredRow := []
  for k in List.range count do
    let values ← match rowsSource with
      | .inl rows => (rows.getD k []).mapM (evalIn ({ sources := #[] } :: scope.env))
      | .inr _ => pure (given.getD k [])
    let t ← currentTable id t.name
    -- full values: given ones under the column's affinity, defaults for the rest
    let mut full : Array Datum := Array.replicate t.columns.size .null
    let mut rowid : Option Int64 := none
    for (c, j) in t.columns.toList.zipIdx do
      match positions.findIdx? (· == some j) with
      | some _ => pure ()
      | none =>
        match c.default with
        | some (e, _) =>
          let term ← bindTermOver {} {} {} e
          full := full.set! j (c.affinity.store (← evalIn [{ sources := #[] }] term))
        | none => pure ()
    for (p, v) in positions.zip values do
      match p with
      | some j =>
        if t.rowidColumn == some j then
          if !v.isNull then rowid := some (← rowidOf v)
        else full := full.set! j ((t.column j).affinity.store v)
      | none => if !v.isNull then rowid := some (← rowidOf v)
    if let some n := rowid then
      if let some k := t.rowidColumn then full := full.set! k (.integer n)
    let row : StoredRow := { rowid := rowid.getD 0, values := full }
    match ← insertRow run id t row rowid.isSome action ups single with
    | some r => written := written ++ [r]
    | none => pure ()
  match ret with
  | some r => pure (.rows r.names (← returningRows r scope t written))
  | none => pure .done

/-- Run an update. -/
def runUpdate (run : StatementRunner) (scope : StatementScope) (action : Option ConflictAction)
    (target : QualifiedName) (aliasName : Option String) (sets : List Assignment)
    (filter : Option Expr) (returning : List ResultColumn) : WriteM Outcome := do
  let (table?, view?) ← writeTarget scope target
  let (id, t) ← match table?, view? with
    | some x, _ => pure x
    | none, some (_, v) => throw (Fault.error ("cannot modify " ++ v.name ++ " because it is a view"))
    | none, none => throw (Fault.noSuchTable (match target.schema with
        | some s => s ++ "." ++ target.name
        | none => target.name))
  if t.name.toLower.startsWith "sqlite_" && !sameName t.name "sqlite_sequence" then
    throw (Fault.error ("table " ++ t.name ++ " may not be modified"))
  let src := tableScope id t aliasName
  let (bsets, bfilter) ← bindOver scope { sources := #[src] } (do
    let mut targets : List (Option Nat × Nat) := []
    for (a, k) in sets.zipIdx do
      for n in a.columns do
        match t.columnIndex? n with
        | some j => targets := targets ++ [(some j, k)]
        | none =>
          if isRowidName n && !t.withoutRowid then targets := targets ++ [(none, k)]
          else throw (Fault.noSuchColumn n)
    let mut terms : List Term := []
    for a in sets do
      let (term, _) ← bindExprTerm {} a.value
      terms := terms ++ [term]
    let f ← filter.mapM fun e => do pure (← bindExprTerm {} e).1
    pure (targets.map (fun (c, k) => (c, terms.getD k (.const .null))), f))
  if let some f := writeKeyFault? (← get) id t (some (assignedBy t (bsets.map (·.1)))) false then
    throw f
  let ret ← bindReturning scope id t aliasName returning
  if scope.prepareOnly then return .done
  -- the rows to change, found first
  let mut found : List StoredRow := []
  for r in t.rows do
    let keep ← match bfilter with
      | some f => do pure ((← evalIn (t.frame r :: scope.env) f).truth false)
      | none => pure true
    if keep then found := found ++ [r]
  let mut written : List StoredRow := []
  let mut sets := bsets
  let mut settled := false
  for old in found do
    let cur ← currentTable id t.name
    let now := if t.withoutRowid then cur.rows.find? (fun r => t.compareKeys (t.keyOf r) (t.keyOf old) == .eq)
      else cur.rows.find? (·.rowid == old.rowid)
    match now with
    | none => pure ()
    | some row =>
      let env := cur.frame row :: scope.env
      if !settled then
        sets ← sets.mapM fun (c, term) => do pure (c, ← settleFixed exprFuel env term)
        settled := true
      let values ← sets.mapM fun (c, term) => do pure (c, ← evalIn env term)
      match ← updateRow run id cur row values action with
      | some r => written := written ++ [r]
      | none => pure ()
  match ret with
  | some r => pure (.rows r.names (← returningRows r scope t written))
  | none => pure .done

/-- Run a deletion. -/
def runDelete (run : StatementRunner) (scope : StatementScope) (target : QualifiedName)
    (aliasName : Option String) (filter : Option Expr) (returning : List ResultColumn) :
    WriteM Outcome := do
  let (table?, view?) ← writeTarget scope target
  let (id, t) ← match table?, view? with
    | some x, _ => pure x
    | none, some (_, v) => throw (Fault.error ("cannot modify " ++ v.name ++ " because it is a view"))
    | none, none => throw (Fault.noSuchTable (match target.schema with
        | some s => s ++ "." ++ target.name
        | none => target.name))
  if t.name.toLower.startsWith "sqlite_" && !sameName t.name "sqlite_sequence" then
    throw (Fault.error ("table " ++ t.name ++ " may not be modified"))
  let src := tableScope id t aliasName
  let bfilter ← bindOver scope { sources := #[src] } (do
    filter.mapM fun e => do pure (← bindExprTerm {} e).1)
  if let some f := writeKeyFault? (← get) id t none false then throw f
  let ret ← bindReturning scope id t aliasName returning
  if scope.prepareOnly then return .done
  let mut found : List StoredRow := []
  for r in t.rows do
    let keep ← match bfilter with
      | some f => do pure ((← evalIn (t.frame r :: scope.env) f).truth false)
      | none => pure true
    if keep then found := found ++ [r]
  let outRows ← match ret with
    | some r => returningRows r scope t found
    | none => pure []
  let mut gone : List (List Datum) := []
  for (old, k) in found.zipIdx do
    if ← deleteRow run id t old then gone := gone ++ [outRows.getD k []]
  match ret with
  | some r => pure (.rows r.names gone)
  | none => pure .done

end Database

end EntityGraph
