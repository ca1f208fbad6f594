import EntityGraph.Database.Modify
import EntityGraph.Database.Alter

/-!
# Running statements

A statement runs against the catalog of its connection in the write monad: queries give their
rows, writes go through `Modify`, definitions through `Define`, and settings answer from the
catalog. Statements inside triggers are run by the same function, with the trigger's rows
around them; the depth of triggers firing triggers is bounded by fuel.

Rules that fix the results:
- A table made from a query takes the query's column names, and a declared type named after
  each column's affinity (none for no affinity); its text is written out from those, with names
  quoted when they are not plain words.
- A unique index made over a table that already holds two rows with the same key fails as an
  insertion of the second would.
- `PRAGMA table_info` gives each column's position, name, declared type, whether it is
  `NOT NULL`, its default as written and its place in the primary key.
- `PRAGMA foreign_keys` turns the enforcement of foreign keys on or off, except inside a
  transaction, where it does nothing; connections start with it on. `PRAGMA defer_foreign_keys`
  defers every key until the transaction ends. A flag's value is true when it is `on`, `yes`
  or `true`, or a number whose low byte is not zero.
- `PRAGMA foreign_key_list` gives a row per column of each foreign key of a table, the key
  declared last first.
- Dropping a table that foreign keys refer to first deletes its rows, without its triggers but
  with the keys' actions, and fails if that leaves an immediate key broken.
-/

namespace EntityGraph

namespace Database

/-! ## The tables a statement names -/

mutual

/-- The tables named in the `FROM` clauses of an expression's subqueries. -/
def Expr.tablesNamed : Nat → Expr → List String
  | 0, _ => []
  | fuel + 1, e =>
    let list (es : List Expr) : List String := es.flatMap (Expr.tablesNamed fuel)
    match e with
    | .unary _ a | .truth a _ _ | .isNull _ a | .cast a _ | .collate a _ => Expr.tablesNamed fuel a
    | .binary _ a b => list [a, b]
    | .pattern _ _ a b esc => list ([a, b] ++ esc.toList)
    | .between _ a lo hi => list [a, lo, hi]
    | .inList _ a items => list (a :: items)
    | .inSelect _ a q => Expr.tablesNamed fuel a ++ Select.tablesNamed fuel q
    | .exists q | .subquery q => Select.tablesNamed fuel q
    | .call _ _ _ args _ filter _ => list (args ++ filter.toList)
    | .case o bs w => list (o.toList ++ bs.flatMap (fun (c, r) => [c, r]) ++ w.toList)
    | .vector items => list items
    | .raise _ m => list m.toList
    | _ => []

/-- The tables named in the `FROM` clauses of a query. -/
def Select.tablesNamed : Nat → Select → List String
  | 0, _ => []
  | fuel + 1, .mk _ ctes first rest orderBy limit offset =>
    (ctes.flatMap fun (.mk _ _ _ q) => Select.tablesNamed fuel q) ++
      (first :: rest.map (·.2)).flatMap (SelectCore.tablesNamed fuel) ++
      (orderBy.map (·.expr) ++ limit.toList ++ offset.toList).flatMap (Expr.tablesNamed fuel)

/-- The tables named in the `FROM` clause of a core. -/
def SelectCore.tablesNamed : Nat → SelectCore → List String
  | 0, _ => []
  | fuel + 1, .select _ columns sources filter groupBy having _ =>
    let results := columns.filterMap fun c => match c with
      | .expr e _ _ => some e
      | _ => none
    sources.flatMap (JoinItem.tablesNamed fuel) ++
      (results ++ filter.toList ++ groupBy ++ having.toList).flatMap (Expr.tablesNamed fuel)
  | fuel + 1, .values rows => rows.flatten.flatMap (Expr.tablesNamed fuel)

/-- The tables a joined source names. -/
def JoinItem.tablesNamed : Nat → JoinItem → List String
  | 0, _ => []
  | fuel + 1, .mk _ src on _ =>
    let inSource := match src with
      | .table _ n _ _ => [n]
      | .select q _ => Select.tablesNamed fuel q
      | .nested items _ => items.flatMap (JoinItem.tablesNamed fuel)
      | .function _ args _ => args.flatMap (Expr.tablesNamed fuel)
    inSource ++ on.toList.flatMap (Expr.tablesNamed fuel)

end

/-- The fuel of walking a statement for the tables it names. -/
def walkFuel : Nat := 10000

/-- The name the schema table is locked under. -/
def schemaTableName : String := "sqlite_master"

namespace Statement

/-- The tables a statement reads, by name. -/
def tablesRead : Statement → List String
  | .select q => q.tablesNamed walkFuel
  | .insert _ ctes _ _ _ _ src _ _ =>
    (ctes.flatMap fun (.mk _ _ _ q) => q.tablesNamed walkFuel) ++
      match src with
      | .select q => q.tablesNamed walkFuel
      | .values rows => rows.flatten.flatMap (Expr.tablesNamed walkFuel)
      | .defaults => []
  | .update _ ctes _ target _ sets sources filter _ =>
    target.name :: (ctes.flatMap fun (.mk _ _ _ q) => q.tablesNamed walkFuel) ++
      sources.flatMap (JoinItem.tablesNamed walkFuel) ++
      (sets.map (·.value) ++ filter.toList).flatMap (Expr.tablesNamed walkFuel)
  | .delete _ ctes target _ filter _ =>
    target.name :: (ctes.flatMap fun (.mk _ _ _ q) => q.tablesNamed walkFuel) ++
      filter.toList.flatMap (Expr.tablesNamed walkFuel)
  | .createTable _ _ _ (.query q) _ => q.tablesNamed walkFuel
  | _ => []

/-- The table a statement writes, by name: the schema table for a definition. -/
def tableWritten? : Statement → Option String
  | .insert _ _ _ target .. | .update _ _ _ target .. | .delete _ _ target .. => some target.name
  | .createTable .. | .createIndex .. | .createView .. | .createTrigger .. | .drop ..
  | .renameTable .. | .renameColumn .. | .addColumn .. | .dropColumn .. => some schemaTableName
  | _ => none

end Statement

/-! ## Queries and writes -/

/-- How deep triggers may fire triggers. -/
def triggerFuel : Nat := 64

/-- Run a query, a write, or a statement of a trigger. With `prepareOnly` in the scope, only
bind it. -/
def runStatement : Nat → StatementScope → Statement → WriteM Outcome
  | 0, _, _ => throw Fault.tooDeep
  | fuel + 1, scope, st =>
    let run := runStatement fuel
    match st with
    | .select q => do
      let bq ← bindIn scope (bindSelect queryFuel q)
      if scope.prepareOnly then return .done
      pure (.rows bq.names (← planRows scope.env bq.plan))
    | .insert _ ctes action target aliasName cols src ups ret =>
      runInsert run { scope with ctes } action target aliasName cols src ups ret
    | .update _ ctes action target aliasName sets _ filter ret =>
      runUpdate run { scope with ctes } action target aliasName sets filter ret
    | .delete _ ctes target aliasName filter ret =>
      runDelete run { scope with ctes } target aliasName filter ret
    | _ => pure .done

/-! ## Definitions -/

/-- Change the catalog by a definition. -/
def define (f : Catalog → Except Fault Catalog) : WriteM Outcome := do
  let c ← liftFault (f (← get).catalog)
  modify fun s => { s with catalog := c }
  pure .done

/-- Whether a name must be quoted to be read back as the same name. -/
def needsQuotes (name : String) : Bool :=
  let cs := name.toList
  cs.isEmpty || (cs.headD ' ').isDigit || !(cs.all fun c => c.isAlphanum || c == '_' || c.toNat ≥ 128) ||
    keywords.contains name.toUpper

/-- A name as written into the text of a definition. -/
def writtenName (name : String) : String :=
  if needsQuotes name then "\"" ++ name.replace "\"" "\"\"" ++ "\"" else name

/-- The declared type a column of a table made from a query takes from its affinity. -/
def Affinity.typeName : Option Affinity → String
  | some .text => "TEXT"
  | some .numeric => "NUM"
  | some .integer => "INT"
  | some .real => "REAL"
  | _ => ""

/-- The text of a table made from a query. -/
def queryTableText (name : String) (cols : List ColumnInfo) : String :=
  let width := cols.foldl (fun n c => n + (c.name.toList.filter (· == '"')).length + 7) 0 +
    (name.toList.filter (· == '"')).length + name.length + 2
  let (sep, sep2, close) := if width < 50 then ("", ",", ")") else ("\n  ", ",\n  ", "\n)")
  let col (c : ColumnInfo) : String :=
    let t := Affinity.typeName c.affinity
    writtenName c.name ++ (if t.isEmpty then "" else " " ++ t)
  let body := match cols with
    | [] => ""
    | c :: rest => sep ++ col c ++ String.join (rest.map fun c => sep2 ++ col c)
  "CREATE TABLE " ++ writtenName name ++ "(" ++ body ++ close

/-- Make a table from a query, filled with its rows. -/
def createTableAs (temp ifNotExists : Bool) (target : QualifiedName) (q : Select) :
    WriteM Outcome := do
  let id ← liftFault (definitionSchema temp target)
  let s := (← get).catalog.schema id
  if let some kind := s.nameTaken? target.name then
    if kind == "index" then throw (Fault.error ("there is already an index named " ++ target.name))
    else if ifNotExists then return .done
    else throw (Fault.error (kind ++ " " ++ target.name ++ " already exists"))
  if let some f := reservedName target.name then throw f
  let bq ← bindIn {} (bindSelect queryFuel q)
  let rows ← planRows [] bq.plan
  let cols : Array Column := (bq.columns.map fun c =>
    ({ name := c.name, declaredType := Affinity.typeName c.affinity,
       affinity := c.affinity.getD .blob } : Column)).toArray
  let t : Table := { name := target.name, columns := cols, sql := queryTableText target.name bq.columns }
  let stored := rows.zipIdx.map fun (r, k) =>
    ({ rowid := Int64.ofNat (k + 1),
       values := (r.zipIdx.map fun (v, j) => (cols.getD j default).affinity.store v).toArray } : StoredRow)
  let c := (← get).catalog
  let s := (c.schema id).addTable { t with rows := stored }
  modify fun st => { st with catalog := c.setSchema id s }
  pure .done

/-- Make an index; a unique one is checked against the rows already there. -/
def createIndex (unique ifNotExists : Bool) (target : QualifiedName) (table : String)
    (cols : List IndexedColumn) (filter : Option Expr) (text : String) : WriteM Outcome := do
  let before := (← get).catalog
  let _ ← define fun c => defineIndex c unique ifNotExists target table cols filter text
  let after := (← get).catalog
  let id := if target.schema.isSome then (Catalog.schemaOf? (target.schema.getD "")).getD .main else .main
  match (after.schema id).index? target.name, (after.schema id).table? table with
  | some i, some t =>
    if ((before.schema id).index? target.name).isSome then return .done
    -- the key expressions and the condition must bind over the table
    let terms ← bindIndexKeys id t i
    let mut seen : List (List Datum) := []
    for r in t.rows do
      if ← inIndex id t i r then
        let key ← indexKey t terms r
        if unique && !key.any (·.isNull) then
          let colls := i.keys.map (·.collation)
          if seen.any (fun k => compareUnder colls k key == .eq) then
            modify fun st => { st with catalog := before }
            throw (uniqueFault t i)
          seen := key :: seen
    pure .done
  | _, _ => pure .done

/-- Whether a default is a value as written: a literal, possibly under signs and casts. Only
such a default fills the rows a table already has when a column is added. -/
def Expr.isPlainValue : Nat → Expr → Bool
  | 0, _ => false
  | fuel + 1, e =>
    match e with
    | .null | .integer _ | .float _ | .string _ | .blob _ => true
    | .name n _ => sameName n "true" || sameName n "false"
    | .unary .neg a | .unary .plus a | .cast a _ => Expr.isPlainValue fuel a
    | _ => false

/-- Add a column, its default evaluated for the rows already there. -/
def addColumnTo (target : QualifiedName) (d : ColumnDefinition) (text : String) : WriteM Outcome := do
  let dflt := d.constraints.findSome? fun k => match k with
    | .default e _ => some e
    | _ => none
  let value ← match dflt with
    | some e =>
      if e.isPlainValue exprFuel then
        let term ← bindTermOver {} {} {} e
        let v ← evalIn [{ sources := #[] }] term
        let aff := Affinity.ofColumnType d.declaredType
        pure (some (aff.store v))
      else pure none
    | none => pure (some .null)
  let keysOn := (← get).foreignKeys
  let _ ← define fun c => addColumn c target d text value keysOn
  -- a generated column takes its value in the rows already there
  if d.constraints.any (· matches .generated ..) then
    let (id, t) ← liftFault (addTarget (← get).catalog target)
    let rows ← t.rows.mapM (withGenerated id t)
    saveTable id { t with rows }
  pure .done

/-- Drop a table. With foreign keys enforced, a table that keys refer to is first emptied as a
deletion would empty it, without its triggers but with the keys' actions, and the drop fails if
that leaves an immediate key broken; a table with a deferred key is emptied while deferred
breaks are counted, so that its rows stop counting. Keys that cannot be resolved are ignored. -/
def dropTable (ifExists : Bool) (q : QualifiedName) : WriteM Outcome := do
  let c := (← get).catalog
  let _ ← liftFault (dropObject c .table ifExists q)
  let s ← get
  let ids ← liftFault (searchSchemas q)
  if s.foreignKeys then
    if let some (id, t) := ids.findSome? (fun id => ((c.schema id).table? q.name).map (id, ·)) then
      let referred := !((c.schema id).referencesTo t.name).isEmpty
      let pending := t.foreignKeys.any (fun fk => fk.target.deferred || s.deferAll) &&
        (s.deferredBreaks != 0 || s.postponedBreaks != 0)
      if referred || pending then
        for r in t.rows do
          let cur ← currentTable id t.name
          if cur.rows.any (·.rowid == r.rowid) || t.withoutRowid then
            removeChecked (runStatement triggerFuel) id t r true
        if !(← get).deferAll && (← get).immediateBreaks != 0 then throw Fault.foreignKey
  define fun c => dropObject c .table ifExists q

/-! ## Settings -/

/-- The columns of `PRAGMA table_info`. -/
def tableInfoNames : List String := ["cid", "name", "type", "notnull", "dflt_value", "pk"]

/-- The rows of `PRAGMA table_info` for a table. -/
def tableInfoRows (t : Table) : List (List Datum) :=
  t.columns.toList.zipIdx.map fun (c, j) =>
    [Datum.ofInt j, Datum.ofString c.name, Datum.ofString c.declaredType,
     Datum.ofBool c.notNull.isSome,
     (match c.default with
      | some (_, txt) => Datum.ofString txt
      | none => .null),
     Datum.ofInt (match t.primaryKey.findIdx? (· == j) with
      | some k => k + 1
      | none => 0)]

/-- The value of a number as a flag pragma reads it: as a 32-bit integer (zero when it does not
fit), of which only the low byte counts. -/
def flagOfNumber (n : Int) : Bool :=
  0 < n && n ≤ 2147483647 && n % 256 != 0

/-- Whether a pragma's value turns a flag on: a number (or a word starting with a digit, read
up to its first character that is not one) as `flagOfNumber` says, or one of the words `on`,
`yes` and `true` in any case. -/
def PragmaValue.flag : PragmaValue → Bool
  | .number n => flagOfNumber n
  | .word w =>
    let cs := w.toList
    match cs with
    | c :: _ =>
      if c.isDigit then
        let digits := (cs.dropWhile (· == '0')).takeWhile Char.isDigit
        digits.length ≤ 10 && flagOfNumber (digits.foldl (fun n d => n * 10 + (d.toNat - 48)) 0)
      else ["on", "yes", "true"].contains w.toLower
    | [] => false

/-- The columns of `PRAGMA foreign_key_list`. -/
def foreignKeyListNames : List String :=
  ["id", "seq", "table", "from", "to", "on_update", "on_delete", "match"]

/-- The name of a foreign key action. -/
def ForeignAction.name : ForeignAction → String
  | .setNull => "SET NULL"
  | .setDefault => "SET DEFAULT"
  | .cascade => "CASCADE"
  | .restrict => "RESTRICT"
  | .noAction => "NO ACTION"

/-- The rows of `PRAGMA foreign_key_list` for a table: one per column of each key, the key
declared last first, with the parent column when one is named. -/
def foreignKeyListRows (t : Table) : List (List Datum) :=
  t.foreignKeys.reverse.zipIdx.flatMap fun (fk, i) =>
    fk.columns.zipIdx.map fun (c, j) =>
      [Datum.ofInt i, Datum.ofInt j, Datum.ofString fk.target.table, Datum.ofString (t.column c).name,
       (match fk.target.columns[j]? with
        | some n => Datum.ofString n
        | none => .null),
       Datum.ofString fk.target.onUpdate.name, Datum.ofString fk.target.onDelete.name,
       Datum.ofString "NONE"]

/-- The answer to a `PRAGMA`. -/
def runPragma (schema : Option String) (name : String) (value : Option PragmaValue) : WriteM Outcome := do
  let c := (← get).catalog
  let key := name.toLower
  if key == "table_info" || key == "table_xinfo" then
    match value with
    | some (.word w) =>
      let sid := schema.bind Catalog.schemaOf?
      match c.findTable? sid w with
      | some (_, t) => pure (.rows tableInfoNames (tableInfoRows t))
      | none => pure (.rows tableInfoNames [])
    | _ => pure (.rows tableInfoNames [])
  else if key == "foreign_key_list" then
    match value with
    | some (.word w) =>
      match c.findTable? (schema.bind Catalog.schemaOf?) w with
      | some (_, t) => pure (.rows foreignKeyListNames (foreignKeyListRows t))
      | none => pure (.rows foreignKeyListNames [])
    | _ => pure (.rows foreignKeyListNames [])
  else if key == "foreign_keys" then
    match value with
    | none => pure (.rows ["foreign_keys"] [[Datum.ofBool (← get).foreignKeys]])
    | some v =>
      if !(← get).inTransaction then modify fun s => { s with foreignKeys := v.flag }
      pure .done
  else if key == "defer_foreign_keys" then
    match value with
    | none => pure (.rows ["defer_foreign_keys"] [[Datum.ofBool (← get).deferAll]])
    | some v =>
      let on := v.flag
      modify fun s => { s with deferAll := on, postponedBreaks := if on then s.postponedBreaks else 0 }
      pure .done
  else pure .done

/-- The plan of a query as `EXPLAIN QUERY PLAN` lists it: one line per source scanned, or a
constant row. -/
def explainRows (st : Statement) : List (List Datum) :=
  let named := st.tablesRead
  if named.isEmpty then [[Datum.ofInt 1, Datum.ofInt 0, Datum.ofInt 0, Datum.ofString "SCAN CONSTANT ROW"]]
  else named.zipIdx.map fun (n, k) =>
    [Datum.ofInt (k + 2), Datum.ofInt 0, Datum.ofInt 0, Datum.ofString ("SCAN " ++ n)]

/-- Run a statement of a connection other than transaction control. -/
def runTop (scope : StatementScope) (st : Statement) : WriteM Outcome :=
  match st with
  | .createTable temp ine target (.columns defs cons wr strict) text =>
    define fun c => defineTable c temp ine target defs cons wr strict text
  | .createTable temp ine target (.query q) _ => createTableAs temp ine target q
  | .createIndex unique ine name table cols filter text => createIndex unique ine name table cols filter text
  | .createView temp ine name cols q text => define fun c => defineView c temp ine name cols q text
  | .createTrigger temp ine name time event table _ cond body text =>
    define fun c => defineTrigger c temp ine name time event table cond body text
  | .drop .table ifExists name => dropTable ifExists name
  | .drop kind ifExists name => define fun c => dropObject c kind ifExists name
  | .renameTable t n => define fun c => renameTable c t n
  | .renameColumn t o n q => define fun c => renameColumn c t o n q
  | .addColumn t d text => addColumnTo t d text
  | .dropColumn t col => define fun c => dropColumn c t col
  | .pragma schema name value => runPragma schema name value
  | _ => runStatement triggerFuel scope st

/-- The column names of `EXPLAIN QUERY PLAN`. -/
def explainNames : List String := ["id", "parent", "notused", "detail"]

end Database

end EntityGraph
