import EntityGraph.Database.Define

/-!
# Renaming tables and columns

`ALTER TABLE ... RENAME` changes a name everywhere the schema uses it. The text of every
definition that uses the name is edited token by token (`replaceTokens`), and each object whose
text changed is read again from it (`Table.reread`, `Index.reread`, `View.reread`,
`Trigger.reread`), so that what the object holds (a table's checks and foreign keys, a view's
query, a trigger's statements) keeps matching its text.

* `tableTokens`: where a definition names a table: after `TABLE`, `ON`, `REFERENCES`, `FROM`,
  `JOIN`, `INTO`, `UPDATE` or a schema name, between the sources of a `FROM` clause, or before
  `.`. A common table expression of the same name hides the table, and an alias of the same
  name keeps `name.` qualifiers to itself.
* `ownColumnTokens`, `parentColumnTokens`, `indexColumnTokens`, `readerColumnTokens`,
  `triggerColumnTokens`: where a definition names a column of a table: in the table's own
  definition (the column, its constraints, checks and generated values, but not the columns of
  other tables its foreign keys refer to), in the lists of columns other tables' foreign keys
  refer to, in indexes on the table, in views reading the table, and in triggers.

Rules that fix the results:
- A renamed table is written in double quotes wherever its name is replaced.
- A renamed column is written as the new name was written in the statement, in quotes if it was
  quoted there or if the name it replaces was quoted.
- Foreign keys referring to a renamed table follow it, as does its row of `sqlite_sequence`.
- Renaming a column to the name of another column of the table fails as reading the edited
  table would.
-/

namespace EntityGraph

namespace Database

/-! ## Editing text by tokens -/

/-- Whether a token names something called `n`, without regard to case: a name, a keyword that
may be one, or a string. -/
def Token.names (t : Token) (n : String) : Bool :=
  (t.isNameLike || t.kind == .string) && sameName t.value n

/-- Whether a token names a column called `n`: a name or a keyword that may be one. -/
def Token.namesColumn (t : Token) (n : String) : Bool := t.isNameLike && sameName t.value n

/-- A text with some of its tokens replaced, each by the text given for it; a token given twice
is replaced once. -/
def replaceTokens (text : String) (edits : List (Token × String)) : String :=
  let cs := text.toList
  let sorted := edits.mergeSort fun a b => a.1.start ≤ b.1.start
  let (out, pos) := sorted.foldl (fun (acc : List Char × Nat) (e : Token × String) =>
      if e.1.start < acc.2 then acc
      else (acc.1 ++ (cs.drop acc.2).take (e.1.start - acc.2) ++ e.2.toList, e.1.stop)) ([], 0)
  String.ofList (out ++ cs.drop pos)

/-- A name in double quotes, replacing a token of a text; a blank follows when the token is
followed by a double quote, so that the two quotes do not run together. -/
def quotedFor (text : String) (tok : Token) (n : String) : String :=
  if text.toList.getD tok.stop ' ' == '"' then quoteName n ++ " " else quoteName n

/-- The token at a position of a text's tokens, or a default one past either end. -/
def tokenAt (ts : Array Token) (i : Nat) : Token := ts.getD i default

/-- For each token of a text, whether it is a comma between the sources of a `FROM` clause. -/
def sourceCommas (ts : Array Token) : Array Bool :=
  let ends := ["WHERE", "GROUP", "ORDER", "HAVING", "LIMIT", "ON", "USING", "WINDOW", "UNION",
    "INTERSECT", "EXCEPT", "SELECT", "VALUES", "SET", "RETURNING", "BEGIN", "END", "WHEN", "THEN"]
  let step (acc : List Bool × Array Bool) (t : Token) : List Bool × Array Bool :=
    let (stack, out) := acc
    match t.kind with
    | .symbol "(" => (false :: stack, out.push false)
    | .symbol ")" => (stack.tail, out.push false)
    | .symbol "," => (stack, out.push (stack.headD false))
    | .symbol ";" => (false :: stack.tail, out.push false)
    | .keyword w =>
      if w == "FROM" || w == "JOIN" then (true :: stack.tail, out.push false)
      else if ends.contains w then (false :: stack.tail, out.push false)
      else (stack, out.push false)
    | _ => (stack, out.push false)
  (ts.foldl step ([false], #[])).2

/-- The tokens of a definition's text that name the table `old`. -/
def tableTokens (ts : Array Token) (old : String) : List Token :=
  let tok := tokenAt ts
  let idx := List.range ts.size
  let commas := sourceCommas ts
  let between (i : Nat) : Bool := commas.getD i false
  let hidden := idx.any fun i => (tok i).names old &&
    (((tok (i + 1)).isKw "AS" && (tok (i + 2)).isSym "(") || (tok (i + 1)).isSym "(" &&
      (tok (i - 1)).isKw "WITH")
  let aliased := idx.any fun i => i ≥ 1 && (tok i).names old &&
    ((tok (i - 1)).isKw "AS" || (i ≥ 2 && (tok (i - 1)).isNameLike &&
      ((tok (i - 2)).isKw "FROM" || (tok (i - 2)).isKw "JOIN" || between (i - 2))))
  let after := ["FROM", "JOIN", "INTO", "UPDATE", "TABLE", "REFERENCES", "ON", "EXISTS"]
  let conflicts := ["ROLLBACK", "ABORT", "REPLACE", "FAIL", "IGNORE"]
  if hidden then []
  else idx.filterMap fun i =>
    let t := tok i
    if i == 0 || !t.names old then none
    else
      let prev := tok (i - 1)
      let afterKeyword := after.any prev.isKw
      let afterSchema := prev.isSym "." && i ≥ 2 &&
        ((tok (i - 2)).names "main" || (tok (i - 2)).names "temp")
      let afterConflict := i ≥ 3 && conflicts.any prev.isKw && (tok (i - 2)).isKw "OR" &&
        (tok (i - 3)).isKw "UPDATE"
      let qualifier := (tok (i + 1)).isSym "." && !prev.isSym "." && !aliased
      if afterKeyword || afterSchema || afterConflict || (prev.isSym "," && between (i - 1)) ||
          qualifier then some t
      else none

/-- Whether a token stands where a column may be named: not before `(` (a function) or `.` (a
qualifier), and not after `.`, `AS` (a type or an alias) or `COLLATE`. -/
def columnSpot (ts : Array Token) (i : Nat) : Bool :=
  let tok := tokenAt ts
  let prev := if i == 0 then default else tok (i - 1)
  !(tok (i + 1)).isSym "(" && !(tok (i + 1)).isSym "." && !prev.isKw "AS" &&
    !prev.isKw "COLLATE" && !prev.isSym "."

/-- Whether a token is a column qualified by one of some names: `name.column`. -/
def qualifiedBy (ts : Array Token) (i : Nat) (qualifiers : List String) : Bool :=
  i ≥ 2 && (tokenAt ts (i - 1)).isSym "." && qualifiers.any (tokenAt ts (i - 2)).names

/-- The tokens of a table's own definition that name its column `col`: where the column is
defined, and wherever the table's constraints, checks and generated values name it, but not in
the lists of columns of other tables that its foreign keys refer to. -/
def ownColumnTokens (ts : Array Token) (table col : String) : List Token := Id.run do
  let tok := tokenAt ts
  let starters := ["CONSTRAINT", "PRIMARY", "UNIQUE", "CHECK", "FOREIGN"]
  let mut depth := 0
  let mut defStart := false
  let mut parentOpen : Option (Nat × Bool) := none
  let mut parentList : Option (Nat × Bool) := none
  let mut out : List Token := []
  for i in List.range ts.size do
    let t := tok i
    if t.isSym "(" then
      depth := depth + 1
      if depth == 1 then defStart := true
      if let some (opening, self) := parentOpen then
        if opening == i then parentList := some (depth, self)
    else if t.isSym ")" then
      if (parentList.map (·.1)) == some depth then parentList := none
      depth := depth - 1
    else if t.isSym "," then
      if depth == 1 then defStart := true
    else
      if t.isKw "REFERENCES" && (tok (i + 2)).isSym "(" then
        parentOpen := some (i + 2, (tok (i + 1)).names table)
      if depth == 1 && defStart then
        defStart := false
        if !(starters.any t.isKw) && t.namesColumn col then out := t :: out
      else if depth ≥ 2 && t.namesColumn col then
        match parentList with
        | some (_, self) => if self then out := t :: out
        | none =>
          if columnSpot ts i || qualifiedBy ts i [table] then out := t :: out
  pure out.reverse

/-- The tokens of a table's definition that name the column `col` of `table` in the lists of
columns its foreign keys refer to. -/
def parentColumnTokens (ts : Array Token) (table col : String) : List Token :=
  let tok := tokenAt ts
  (List.range ts.size).flatMap fun i =>
    if (tok i).isKw "REFERENCES" && (tok (i + 1)).names table && (tok (i + 2)).isSym "(" then
      ((List.range (ts.size - (i + 3))).map (· + i + 3)
        |>.takeWhile (fun j => !(tok j).isSym ")")).filterMap fun j =>
          if (tok j).namesColumn col then some (tok j) else none
    else []

/-- The tokens of an index's definition that name the column `col` of the table it is on. -/
def indexColumnTokens (ts : Array Token) (table col : String) : List Token :=
  let tok := tokenAt ts
  let start := ((List.range ts.size).find? fun i => (tok i).isKw "ON").getD ts.size
  (List.range ts.size).filterMap fun i =>
    if i > start + 1 && (tok i).namesColumn col && (columnSpot ts i || qualifiedBy ts i [table]) then
      some (tok i)
    else none

/-- The names a definition's text gives the table `table` in its sources: the table's own name
and its aliases. -/
def sourceNames (ts : Array Token) (table : String) : List String :=
  let tok := tokenAt ts
  let named := tableTokens ts table
  table :: named.filterMap fun t =>
    match (List.range ts.size).find? (fun i => (tok i).start == t.start) with
    | some i =>
      if (tok (i + 1)).isKw "AS" && (tok (i + 2)).isNameLike then some (tok (i + 2)).value
      else if (tok (i + 1)).isNameLike then some (tok (i + 1)).value
      else none
    | none => none

/-- The tokens of a view's definition that name the column `col` of a table it reads: the
column unqualified, or qualified by the table or one of its aliases. A view that does not read
the table names none of its columns. -/
def readerColumnTokens (ts : Array Token) (table col : String) : List Token :=
  if (tableTokens ts table).isEmpty then []
  else
    let quals := sourceNames ts table
    (List.range ts.size).filterMap fun i =>
      let t := tokenAt ts i
      if t.namesColumn col && (columnSpot ts i || qualifiedBy ts i quals) then some t else none

/-- The tokens of a trigger's definition that name the column `col` of `table`: in `UPDATE OF`
and as `new.` or `old.` columns when the trigger is on the table, qualified by the table or one
of its aliases, in the list of columns of an insertion into the table, and as the columns an
update of the table assigns. -/
def triggerColumnTokens (ts : Array Token) (onTable : Bool) (table col : String) : List Token :=
  let tok := tokenAt ts
  let quals := sourceNames ts table ++ (if onTable then ["new", "old"] else [])
  let beginAt := ((List.range ts.size).find? fun i => (tok i).isKw "BEGIN").getD ts.size
  (List.range ts.size).filterMap fun i =>
    let t := tok i
    if !t.namesColumn col then none
    else
      -- in `UPDATE OF a, b ON` before the body
      let inUpdateOf := onTable && i < beginAt &&
        ((List.range i).reverse.find? fun j => (tok j).isKw "OF" || (tok j).isKw "ON").any
          fun j => (tok j).isKw "OF"
      -- in `INSERT INTO table (a, b)`
      let inInsertList :=
        ((List.range i).reverse.find? fun j => (tok j).isSym "(" || (tok j).isSym ")").any fun j =>
          (tok j).isSym "(" && j ≥ 2 && (tok (j - 1)).names table && (tok (j - 2)).isKw "INTO"
      -- `UPDATE table SET a = ...`
      let assigned := (tok (i + 1)).isSym "=" &&
        ((List.range i).reverse.find? fun j => (tok j).isKw "SET" || (tok j).isSym ";" ||
            (tok j).isKw "BEGIN").any fun j =>
          (tok j).isKw "SET" && j ≥ 1 && (tok (j - 1)).names table
      if inUpdateOf || inInsertList || assigned || qualifiedBy ts i quals then some t else none

/-! ## Reading objects again -/

/-- A table read again from its edited text, keeping its rows and page; the table with only its
text changed if the text does not read as a table. -/
def Table.reread (t : Table) (sql : String) : Table :=
  match prepareFirst sql with
  | .ok (some p) =>
    match p.statement with
    | .createTable _ _ target (.columns defs cons wr strict) _ =>
      match buildTable target.name defs cons wr strict sql with
      | .ok (nt, _) => { nt with rows := t.rows, rootPage := t.rootPage }
      | .error _ => { t with sql }
    | _ => { t with sql }
  | _ => { t with sql }

/-- An index read again from its edited text, over the table it is on. -/
def Index.reread (i : Index) (t : Table) (sql : String) : Index :=
  match prepareFirst sql with
  | .ok (some p) =>
    match p.statement with
    | .createIndex _ _ _ _ cols filter _ =>
      match indexKeys t cols with
      | .ok keys => { i with table := t.name, keys, filter, sql := some sql }
      | .error _ => { i with table := t.name, sql := some sql }
    | _ => { i with table := t.name, sql := some sql }
  | _ => { i with table := t.name, sql := some sql }

/-- A view read again from its edited text. -/
def View.reread (v : View) (sql : String) : View :=
  match prepareFirst sql with
  | .ok (some p) =>
    match p.statement with
    | .createView _ _ _ columns query _ => { v with columns, query, sql }
    | _ => { v with sql }
  | _ => { v with sql }

/-- A trigger read again from its edited text. -/
def Trigger.reread (tr : Trigger) (sql : String) : Trigger :=
  match prepareFirst sql with
  | .ok (some p) =>
    match p.statement with
    | .createTrigger _ _ _ time event table _ condition body _ =>
      { tr with time, event, table, condition, body, sql }
    | _ => { tr with sql }
  | _ => { tr with sql }

/-- Apply edits to a text, or none when there are none. -/
def editText (sql : String) (edits : List (Token × String)) : Option String :=
  if edits.isEmpty then none else some (replaceTokens sql edits)

/-! ## Renaming a table -/

/-- The table or view a statement altering a table names, in the schemas searched for it. -/
def alterObject (c : Catalog) (q : QualifiedName) :
    Except Fault (SchemaId × Sum Table View) := do
  let ids ← searchSchemas q
  match ids.findSome? (fun id => ((c.schema id).table? q.name).map (id, ·)) with
  | some (id, t) => pure (id, .inl t)
  | none =>
    match ids.findSome? (fun id => ((c.schema id).view? q.name).map (id, ·)) with
    | some (id, v) => pure (id, .inr v)
    | none =>
      throw (Fault.noSuchTable (match q.schema with
        | some s => s ++ "." ++ q.name
        | none => q.name))

/-- The name of a table or view. -/
def objectName : Sum Table View → String
  | .inl t => t.name
  | .inr v => v.name

/-- The fault of altering one of the store's own tables. -/
def alterableFault? (name : String) : Option Fault :=
  if name.toLower.startsWith "sqlite_" then some (Fault.error ("table " ++ name ++ " may not be altered"))
  else none

/-- Rename the table `old` to `new` in the definitions of a schema: the edited texts read
again, foreign keys following the table. -/
def Schema.renameTableIn (s : Schema) (old new : String) (own : Bool) : Schema :=
  let edit (sql : String) : Option String :=
    editText sql ((tableTokens (Token.scan sql) old).map fun tok => (tok, quotedFor sql tok new))
  let tables := s.tables.map fun t =>
    if !own then t
    else
      match edit t.sql with
      | some sql => t.reread sql
      | none => t
  let tableOf (name : String) : Option Table := tables.find? (sameName ·.name name)
  { s with
    tables,
    indexes := s.indexes.map fun i =>
      if own && sameName i.table old then
        match i.sql, tableOf new with
        | some sql, some t =>
          match edit sql with
          | some sql' => i.reread t sql'
          | none => { i with table := new }
        | _, _ => { i with table := new }
      else i,
    views := s.views.map fun v =>
      match edit v.sql with
      | some sql => v.reread sql
      | none => v,
    triggers := s.triggers.map fun tr =>
      match edit tr.sql with
      | some sql => tr.reread sql
      | none => tr }

/-- A row of `sqlite_sequence` with the table `old` called `new`. -/
def renameSequenceRow (old new : String) (r : StoredRow) : StoredRow :=
  match r.values.getD 0 Datum.null with
  | .text b =>
    if sameName (Bytes.lossy b) old then { r with values := r.values.set! 0 (Datum.ofString new) }
    else r
  | _ => r

/-- Rename a table, with the definitions that name it. -/
def renameTable (c : Catalog) (q : QualifiedName) (newName : String) : Except Fault Catalog := do
  let (id, obj) ← alterObject c q
  let s := c.schema id
  if (s.nameTaken? newName).isSome then
    throw (Fault.error ("there is already another table or index with this name: " ++ newName))
  if let some f := alterableFault? (objectName obj) then throw f
  if let some f := reservedName newName then throw f
  let t ← match obj with
    | .inl t => pure t
    | .inr v => throw (Fault.error ("view " ++ v.name ++ " may not be altered"))
  let s : Schema := s.renameTableIn t.name newName true
  let s : Schema := { s with
    indexes := s.indexes.map fun i =>
      if sameName i.table newName && i.origin != .created then
        { i with name := "sqlite_autoindex_" ++ newName ++
            (i.name.drop ("sqlite_autoindex_" ++ t.name).length).toString }
      else i,
    triggers := s.triggers.map fun tr =>
      if sameName tr.table t.name then { tr with table := newName } else tr,
    entries := s.entries.map fun e =>
      if e.kind == .table && sameName e.name t.name then { e with name := newName }
      else if e.kind == .index && e.name.startsWith ("sqlite_autoindex_" ++ t.name ++ "_") then
        { e with name := "sqlite_autoindex_" ++ newName ++
            (e.name.drop ("sqlite_autoindex_" ++ t.name).length).toString }
      else e }
  -- the largest row id used follows the table
  let s := match s.table? "sqlite_sequence" with
    | some sequence => s.setTable { sequence with rows := sequence.rows.map (renameSequenceRow t.name newName) }
    | none => s
  let c := c.setSchema id s
  -- views and triggers of the temporary schema may read a table of the main one
  if id == .main then
    let temp := c.schema .temp
    pure (c.setSchema .temp { temp.renameTableIn t.name newName false with tables := temp.tables })
  else pure c

/-! ## Renaming a column -/

/-- Rename a column of a table, with the definitions that name it. `quoted` tells whether the
new name was written in quotes. -/
def renameColumn (c : Catalog) (q : QualifiedName) (old new : String) (quoted : Bool) :
    Except Fault Catalog := do
  let (id, obj) ← alterObject c q
  if let some f := alterableFault? (objectName obj) then throw f
  let t ← match obj with
    | .inl t => pure t
    | .inr v => throw (Fault.error ("cannot rename columns of view \"" ++ v.name ++ "\""))
  let j ← match t.columnIndex? old with
    | some j => pure j
    | none => throw (Fault.error ("no such column: \"" ++ old ++ "\""))
  if (t.columns.toList.zipIdx.any fun (col, k) => k != j && sameName col.name new) then
    throw (Fault.error ("error in table " ++ t.name ++ " after rename: duplicate column name: " ++ new))
  let oldName := (t.column j).name
  let written (sql : String) (tok : Token) : String :=
    if !quoted && Token.isWordChar (tok.text.toList.headD '"') then new else quotedFor sql tok new
  let edit (sql : String) (find : Array Token → List Token) : Option String :=
    editText sql ((find (Token.scan sql)).map fun tok => (tok, written sql tok))
  let editIn (s : Schema) (own : Bool) : Schema :=
    let tables := s.tables.map fun u =>
      if !own then u
      else
        let u := if sameName u.name t.name then
            { u with columns := u.columns.set! j { u.column j with name := new } }
          else u
        let found := if sameName u.name t.name then
            fun ts => ownColumnTokens ts t.name oldName ++ parentColumnTokens ts t.name oldName
          else fun ts => parentColumnTokens ts t.name oldName
        match edit u.sql found with
        | some sql => u.reread sql
        | none => u
    let tableOf (name : String) : Option Table := tables.find? (sameName ·.name name)
    { s with
      tables,
      indexes := s.indexes.map fun i =>
        if own && sameName i.table t.name then
          match i.sql, tableOf t.name with
          | some sql, some nt =>
            match edit sql (indexColumnTokens · t.name oldName) with
            | some sql' => i.reread nt sql'
            | none => i
          | _, _ => i
        else i,
      views := s.views.map fun v =>
        match edit v.sql (readerColumnTokens · t.name oldName) with
        | some sql => v.reread sql
        | none => v,
      triggers := s.triggers.map fun tr =>
        match edit tr.sql (triggerColumnTokens · (sameName tr.table t.name) t.name oldName) with
        | some sql => tr.reread sql
        | none => tr }
  let c := c.setSchema id (editIn (c.schema id) true)
  if id == .main then
    let temp := c.schema .temp
    pure (c.setSchema .temp { editIn temp false with tables := temp.tables })
  else pure c

end Database

end EntityGraph
