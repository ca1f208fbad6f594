import EntityGraph.Database.Grammar.Query

/-!
# Reading statements

Statements other than queries: writes, definitions, changes of definitions, transaction control
and settings, and the text around them. A text holds statements separated by semicolons;
`Read.statementAt` reads the one starting at a token and gives the token after it, so that a
script runs statement by statement and a statement that fails stops the rest unread.

After a statement is read, the nesting of its expressions is measured: an expression whose tree
is more than 1000 deep is refused (`Expr.height`). An operand under `COLLATE` counts afresh.
-/

namespace EntityGraph

namespace Database

/-- The deepest expression tree a statement may hold. -/
def maxExprHeight : Nat := 1000

mutual

/-- The height of an expression's tree and the greatest height of any tree inside it. -/
def Expr.heights : Nat → Expr → Nat × Nat
  | 0, _ => (0, 0)
  | fuel + 1, e =>
    let node (hs : List (Nat × Nat)) : Nat × Nat :=
      let h := (hs.map (·.1)).foldl max 0 + 1
      (h, (hs.map (·.2)).foldl max h)
    let list (es : List Expr) : List (Nat × Nat) := es.map (Expr.heights fuel)
    match e with
    | .null | .integer _ | .float _ | .string _ | .blob _ | .param _ | .name _ _ => (1, 1)
    | .qualified none _ _ => (2, 2)
    | .qualified (some _) _ _ => (3, 3)
    | .unary _ a => node [a.heights fuel]
    | .binary _ a b => node [a.heights fuel, b.heights fuel]
    | .truth a _ _ => node [a.heights fuel]
    | .pattern _ _ a b esc => node (list ([b, a] ++ esc.toList))
    | .isNull _ a => node [a.heights fuel]
    | .between _ a lo hi => node (list [a, lo, hi])
    | .inList _ a items => node (list (a :: items))
    | .inSelect _ a q => node [a.heights fuel, q.heights fuel]
    | .exists q => node [q.heights fuel]
    | .subquery q => node [q.heights fuel]
    | .call _ _ _ args _ filter _ =>
      let (h, w) := node (list args)
      (h, max w ((filter.map (fun f => (f.heights fuel).2)).getD 0))
    | .cast a _ => node [a.heights fuel]
    | .case operand branches otherwise =>
      node (list (operand.toList ++ branches.flatMap (fun (c, r) => [c, r]) ++ otherwise.toList))
    | .collate a _ => (1, max 1 (a.heights fuel).2)
    | .vector items => node (list items)
    | .raise _ m => node (list m.toList)

/-- The height a query lends an expression holding it, and the greatest height of any tree
inside it. -/
def Select.heights : Nat → Select → Nat × Nat
  | 0, _ => (0, 0)
  | fuel + 1, .mk _ ctes first rest orderBy limit offset =>
    let cores := first :: rest.map (·.2)
    let coreHeights := cores.map (SelectCore.heights fuel)
    let own : List (Nat × Nat) :=
      orderBy.map (fun t => t.expr.heights fuel) ++
      (match limit with
        | some l =>
          let hl := l.heights fuel
          let ho := (offset.map (Expr.heights fuel)).getD (0, 0)
          [(max hl.1 ho.1 + 1, max (max hl.2 ho.2) (max hl.1 ho.1 + 1))]
        | none => [])
    let cteWorst := (ctes.map fun (.mk _ _ _ q) => (q.heights fuel).2).foldl max 0
    let all := coreHeights ++ own
    ((all.map (·.1)).foldl max 0, max cteWorst ((all.map (·.2)).foldl max 0))

/-- The height a core lends, and the greatest height inside it. -/
def SelectCore.heights : Nat → SelectCore → Nat × Nat
  | 0, _ => (0, 0)
  | fuel + 1, .select _ columns sources filter groupBy having _ =>
    let cols := columns.filterMap fun c =>
      match c with
      | .expr e _ _ => some (e.heights fuel)
      | _ => none
    let hs := cols ++ (filter.toList ++ groupBy ++ having.toList).map (Expr.heights fuel)
    let srcWorst := (sources.map (JoinItem.worst fuel)).foldl max 0
    ((hs.map (·.1)).foldl max 0, max srcWorst ((hs.map (·.2)).foldl max 0))
  | fuel + 1, .values rows =>
    let hs := rows.flatten.map (Expr.heights fuel)
    ((hs.map (·.1)).foldl max 0, (hs.map (·.2)).foldl max 0)

/-- The greatest height of any tree inside a joined source. -/
def JoinItem.worst : Nat → JoinItem → Nat
  | 0, _ => 0
  | fuel + 1, .mk _ src on _ =>
    let inSource := match src with
      | .select q _ => (q.heights fuel).2
      | .nested items _ => (items.map (JoinItem.worst fuel)).foldl max 0
      | .function _ args _ => (args.map (fun a => (a.heights fuel).2)).foldl max 0
      | .table .. => 0
    max inSource ((on.map (fun e => (e.heights fuel).2)).getD 0)

end

namespace Read

/-- An optional `OR` conflict clause after `INSERT` or `UPDATE`. -/
def orConflict : Read (Option ConflictAction) := do
  if ← acceptKw "OR" then some <$> conflictAction else pure none
where
  conflictAction : Read ConflictAction := do
    let t ← take
    match t.kind with
    | .keyword "ROLLBACK" => pure .rollback
    | .keyword "ABORT" => pure .abort
    | .keyword "FAIL" => pure .fail
    | .keyword "IGNORE" => pure .ignore
    | .keyword "REPLACE" => pure .replace
    | _ => failAt t

/-- An optional `ON CONFLICT` clause of a constraint. -/
def onConflict : Read (Option ConflictAction) := do
  if (← atKw "ON") && (← peekAt 1).isKw "CONFLICT" then
    advance; advance
    some <$> orConflict.conflictAction
  else pure none

/-- `IF NOT EXISTS`, if present. -/
def ifNotExists : Read Bool := do
  if (← atKw "IF") && (← peekAt 1).isKw "NOT" then
    advance; advance; expectKw "EXISTS"; pure true
  else pure false

/-- `IF EXISTS`, if present. -/
def ifExists : Read Bool := do
  if (← atKw "IF") && (← peekAt 1).isKw "EXISTS" then advance; advance; pure true
  else pure false

/-- A table named as the target of a write, with an optional alias after `AS`. -/
def writeTarget : Read (QualifiedName × Option String) := do
  let n ← qualifiedName
  let a ← if ← acceptKw "AS" then some <$> name else pure none
  pure (n, a)

/-- `INDEXED BY name` or `NOT INDEXED`, read and dropped. -/
def indexedOpt : Read Unit := do
  if ← atKw "INDEXED" then advance; expectKw "BY"; let _ ← name
  else if (← atKw "NOT") && (← peekAt 1).isKw "INDEXED" then advance; advance

/-- `RETURNING` columns, if present. -/
def returning (fuel : Nat) : Read (List ResultColumn) := do
  if ← acceptKw "RETURNING" then resultColumns fuel else pure []

/-- Assignments of `UPDATE`: `name = expr` or `(names) = expr`. -/
def assignments : (fuel : Nat) → Read (List Assignment)
  | 0 => tooDeep
  | fuel + 1 => do
    let cols ← if ← acceptSym "(" then
        let cs ← idList fuel
        expectSym ")"
        pure cs
      else pure [← name]
    expectSym "="
    let e ← expr fuel 0
    let a : Assignment := { columns := cols, value := e }
    if ← acceptSym "," then pure (a :: (← assignments fuel)) else pure [a]

/-- Indexed columns in parentheses: names or expressions with collation and direction. -/
def indexedColumns : (fuel : Nat) → Read (List IndexedColumn)
  | 0 => tooDeep
  | fuel + 1 => do
    let e ← expr fuel 0
    let (e, coll) := match e with
      | .collate inner c => (inner, some c)
      | _ => (e, none)
    let descending ← if ← acceptKw "DESC" then pure true
      else do let _ ← acceptKw "ASC"; pure false
    if ← acceptKw "NULLS" then
      if ← acceptKw "FIRST" then pure () else expectKw "LAST"
    let c : IndexedColumn := { expr := e, collation := coll, descending }
    if ← acceptSym "," then pure (c :: (← indexedColumns fuel)) else pure [c]

/-- `ON CONFLICT` clauses of an insertion, then its `RETURNING` columns. -/
def upserts : (fuel : Nat) → Read (List Upsert × List ResultColumn)
  | 0 => tooDeep
  | fuel + 1 => do
    if (← atKw "ON") && (← peekAt 1).isKw "CONFLICT" then
      advance; advance
      let target ← if ← acceptSym "(" then
          let cols ← indexedColumns fuel
          expectSym ")"
          let w ← if ← acceptKw "WHERE" then some <$> expr fuel 0 else pure none
          pure (some (cols, w))
        else pure none
      expectKw "DO"
      let action ← if ← acceptKw "NOTHING" then pure UpsertAction.nothing
        else
          expectKw "UPDATE"
          expectKw "SET"
          let sets ← assignments fuel
          let w ← if ← acceptKw "WHERE" then some <$> expr fuel 0 else pure none
          pure (.update sets w)
      let u : Upsert := { target, action }
      if target.isNone then
        pure ([u], ← returning fuel)
      else
        let (more, ret) ← upserts fuel
        pure (u :: more, ret)
    else pure ([], ← returning fuel)

/-- A foreign key clause after `REFERENCES`. -/
def referencesClause (fuel : Nat) : Read ForeignKey := do
  let table ← name
  let columns ← if ← acceptSym "(" then
      let cs ← idList fuel
      expectSym ")"
      pure cs
    else pure []
  let rec actions : (fuel : Nat) → ForeignKey → Read ForeignKey
    | 0, fk => pure fk
    | fuel + 1, fk => do
      if (← atKw "ON") then
        advance
        let t ← take
        let act ← do
          if ← acceptKw "SET" then
            if ← acceptKw "NULL" then pure ForeignAction.setNull
            else expectKw "DEFAULT"; pure .setDefault
          else if ← acceptKw "CASCADE" then pure .cascade
          else if ← acceptKw "RESTRICT" then pure .restrict
          else expectKw "NO"; expectKw "ACTION"; pure .noAction
        if t.isKw "DELETE" then actions fuel { fk with onDelete := act }
        else if t.isKw "UPDATE" then actions fuel { fk with onUpdate := act }
        else if t.isKw "INSERT" then actions fuel fk
        else failAt t
      else if ← acceptKw "MATCH" then let _ ← name; actions fuel fk
      else pure fk
  let fk ← actions 32 { table, columns }
  let deferred ← deferClause
  pure { fk with deferred }
where
  deferClause : Read Bool := do
    if (← atKw "NOT") && (← peekAt 1).isKw "DEFERRABLE" then
      advance; advance
      let _ ← initially
      pure false
    else if ← acceptKw "DEFERRABLE" then initially
    else pure false
  initially : Read Bool := do
    if ← acceptKw "INITIALLY" then
      if ← acceptKw "DEFERRED" then pure true else expectKw "IMMEDIATE"; pure false
    else pure false

/-- The text inside parentheses just read: from after the opening one to before the closing
one, blanks at both ends removed. -/
def innerSpan (openStop closeStart : Nat) : Read String := spanBetween openStop closeStart

/-- The constraints after a column's name and type; `label` is the constraint name in force. -/
def columnConstraints : (fuel : Nat) → Option String → List ColumnConstraint →
    Read (List ColumnConstraint)
  | 0, _, acc => pure acc
  | fuel + 1, label, acc => do
    let t ← peek
    match t.kind with
    | .keyword "CONSTRAINT" =>
      advance
      let n ← name
      columnConstraints fuel (some n) acc
    | .keyword "DEFAULT" =>
      advance
      let t1 ← peek
      let (e, text) ← if t1.isSym "(" then
          advance
          let start ← here
          let e ← expr fuel 0
          let stop ← here
          expectSym ")"
          pure (e, ← spanBetween start stop)
        else if t1.isSym "+" || t1.isSym "-" then
          advance
          let t2 ← take
          let e ← match t2.kind with
            | .integer | .float | .separated => numberExpr t2
            | _ => failAt t2
          let e := if t1.isSym "-" then Expr.unary .neg e else e
          pure (e, ← spanBetween t1.start t2.stop)
        else
          let t2 ← take
          let e ← match t2.kind with
            | .integer | .float | .separated => numberExpr t2
            | .string => pure (Expr.string t2.value)
            | .blob => pure (Expr.blob (blobOf t2))
            | .keyword "NULL" => pure Expr.null
            | .keyword "CURRENT_TIME" | .keyword "CURRENT_DATE" | .keyword "CURRENT_TIMESTAMP" =>
              pure (Expr.call t2.text.toLower false false [] [] none none)
            | _ =>
              if NameKinds.inExpr.admits t2 then
                let v := t2.value
                if t2.kind == .name none && v.toLower == "true" then pure (Expr.integer "1")
                else if t2.kind == .name none && v.toLower == "false" then pure (Expr.integer "0")
                else pure (Expr.string v)
              else failAt t2
          pure (e, t2.text)
      columnConstraints fuel label (acc ++ [.default e text])
    | .keyword "NULL" =>
      advance
      let _ ← onConflict
      columnConstraints fuel label (acc ++ [.nullable])
    | .keyword "NOT" =>
      advance
      expectKw "NULL"
      let c ← onConflict
      columnConstraints fuel label (acc ++ [.notNull c])
    | .keyword "PRIMARY" =>
      advance
      expectKw "KEY"
      let descending ← if ← acceptKw "DESC" then pure true
        else do let _ ← acceptKw "ASC"; pure false
      let c ← onConflict
      let autoinc ← acceptKw "AUTOINCREMENT"
      columnConstraints fuel label (acc ++ [.primaryKey descending c autoinc])
    | .keyword "UNIQUE" =>
      advance
      let c ← onConflict
      columnConstraints fuel label (acc ++ [.unique c])
    | .keyword "CHECK" =>
      advance
      let lp ← take
      if !lp.isSym "(" then failAt lp
      let e ← expr fuel 0
      let rp ← peek
      expectSym ")"
      let text ← innerSpan lp.stop rp.start
      columnConstraints fuel label (acc ++ [.check e (label.getD text)])
    | .keyword "REFERENCES" =>
      advance
      let fk ← referencesClause fuel
      columnConstraints fuel label (acc ++ [.references fk])
    | .keyword "COLLATE" =>
      advance
      let c ← nameOf .orString
      columnConstraints fuel label (acc ++ [.collate c])
    | .keyword "GENERATED" =>
      advance
      expectKw "ALWAYS"
      expectKw "AS"
      let (e, stored) ← generated fuel
      columnConstraints fuel label (acc ++ [.generated e stored])
    | .keyword "AS" =>
      advance
      let (e, stored) ← generated fuel
      columnConstraints fuel label (acc ++ [.generated e stored])
    | .keyword "DEFERRABLE" =>
      let _ ← referencesClause.deferClause
      columnConstraints fuel label acc
    | _ =>
      if t.isKw "NOT" && (← peekAt 1).isKw "DEFERRABLE" then
        let _ ← referencesClause.deferClause
        columnConstraints fuel label acc
      else pure acc
where
  generated (fuel : Nat) : Read (Expr × Bool) := do
    expectSym "("
    let e ← expr fuel 0
    expectSym ")"
    match (← peek) with
    | t =>
      if t.kind == .name none then
        advance
        pure (e, t.text.toUpper == "STORED")
      else pure (e, false)

/-- A column definition: its name, type and constraints. -/
def columnDefinition (fuel : Nat) : Read ColumnDefinition := do
  let n ← name
  let ty ← typeName
  let cs ← columnConstraints fuel none []
  pure { name := n, typeName := ty, constraints := cs }

/-- Whether a token starts a table constraint. -/
def startsTableConstraint (t : Token) : Bool :=
  t.isKw "CONSTRAINT" || t.isKw "PRIMARY" || t.isKw "UNIQUE" || t.isKw "CHECK" || t.isKw "FOREIGN"

/-- Column definitions separated by commas, up to the first table constraint; with the
constraint name in force after the last column. -/
def columnList : (fuel : Nat) → List ColumnDefinition →
    Read (List ColumnDefinition × Option String)
  | 0, acc => pure (acc, none)
  | fuel + 1, acc => do
    let n ← name
    let ty ← typeName
    let (cs, label) ← labelledConstraints fuel none []
    let acc := acc ++ [{ name := n, typeName := ty, constraints := cs }]
    if (← atSym ",") && startsTableConstraint (← peekAt 1) then
      advance
      pure (acc, label)
    else if ← acceptSym "," then columnList fuel acc
    else pure (acc, none)
where
  /-- A column's constraints and the constraint name in force after them. -/
  labelledConstraints (fuel : Nat) (label : Option String) (acc : List ColumnConstraint) :
      Read (List ColumnConstraint × Option String) := do
    let before := (← get).pos
    let cs ← columnConstraints fuel label acc
    -- the name in force is the last one written among this column's constraints
    let s ← get
    let toks := (s.tokens.extract before s.pos).toList
    let rec lastName : List Token → Option String → Option String
      | a :: b :: rest, cur =>
        if a.isKw "CONSTRAINT" then lastName rest (some b.value) else lastName (b :: rest) cur
      | _, cur => cur
    pure (cs, lastName toks label)

/-- Table constraints, up to the closing parenthesis; `label` is the constraint name in
force. -/
def constraintList : (fuel : Nat) → Option String → List TableConstraint →
    Read (List TableConstraint)
  | 0, _, acc => pure acc
  | fuel + 1, label, acc => do
    let t ← peek
    let (label, item) ← match t.kind with
      | .keyword "CONSTRAINT" =>
        advance
        let n ← name
        pure (some n, none)
      | .keyword "PRIMARY" =>
        advance
        expectKw "KEY"
        expectSym "("
        let cs ← indexedColumns fuel
        let autoinc ← acceptKw "AUTOINCREMENT"
        expectSym ")"
        let c ← onConflict
        pure (label, some (TableConstraint.primaryKey cs c autoinc))
      | .keyword "UNIQUE" =>
        advance
        expectSym "("
        let cs ← indexedColumns fuel
        expectSym ")"
        let c ← onConflict
        pure (label, some (.unique cs c))
      | .keyword "CHECK" =>
        advance
        let lp ← take
        if !lp.isSym "(" then failAt lp
        let e ← expr fuel 0
        let rp ← peek
        expectSym ")"
        let text ← innerSpan lp.stop rp.start
        let _ ← onConflict
        pure (label, some (.check e (label.getD text)))
      | .keyword "FOREIGN" =>
        advance
        expectKw "KEY"
        expectSym "("
        let cs ← idList fuel
        expectSym ")"
        expectKw "REFERENCES"
        let fk ← referencesClause fuel
        pure (label, some (.foreignKey cs fk))
      | _ => failAt t
    let acc := acc ++ item.toList
    match item with
    | none => constraintList fuel label acc
    | some _ =>
      if ← acceptSym "," then constraintList fuel none acc
      else if startsTableConstraint (← peek) then constraintList fuel label acc
      else pure acc

/-- The columns and constraints of `CREATE TABLE`, after the opening parenthesis, up to and
including the closing one. -/
def tableElements (fuel : Nat) : Read (List ColumnDefinition × List TableConstraint) := do
  let (cols, carried) ← columnList fuel []
  let cons ← if ← atSym ")" then pure [] else constraintList fuel carried []
  expectSym ")"
  pure (cols, cons)

/-- The text of a definition as the schema keeps it: `CREATE`, the kind of object, and the
statement's text from the object's name on. -/
def definitionText (kind : String) (nameStart : Nat) : Read String := do
  let stop ← lastStop
  pure ("CREATE " ++ kind ++ " " ++ (← textBetween nameStart stop))

/-- The body of a trigger: statements each ended by a semicolon, up to `END`. -/
def triggerBody : (fuel : Nat) → Read (List Statement)
  | 0 => tooDeep
  | fuel + 1 => do
    let st ← triggerStatement fuel
    expectSym ";"
    if ← atKw "END" then pure [st] else pure (st :: (← triggerBody fuel))
where
  triggerStatement (fuel : Nat) : Read Statement := do
    let t ← peek
    if t.isKw "UPDATE" then
      advance
      let conflict ← orConflict
      let target ← name
      if ← atSym "." then
        throw (.other "qualified table names are not allowed on INSERT, UPDATE, and DELETE statements within triggers")
      expectKw "SET"
      let sets ← assignments fuel
      let sources ← if ← acceptKw "FROM" then sourceList fuel else pure []
      let filter ← if ← acceptKw "WHERE" then some <$> expr fuel 0 else pure none
      pure (.update false [] conflict { name := target } none sets sources filter [])
    else if t.isKw "DELETE" then
      advance
      expectKw "FROM"
      let target ← name
      if ← atSym "." then
        throw (.other "qualified table names are not allowed on INSERT, UPDATE, and DELETE statements within triggers")
      let filter ← if ← acceptKw "WHERE" then some <$> expr fuel 0 else pure none
      pure (.delete false [] { name := target } none filter [])
    else if t.isKw "INSERT" || t.isKw "REPLACE" then
      advance
      let conflict ← if t.isKw "REPLACE" then pure (some ConflictAction.replace) else orConflict
      expectKw "INTO"
      let target ← name
      if ← atSym "." then
        throw (.other "qualified table names are not allowed on INSERT, UPDATE, and DELETE statements within triggers")
      let columns ← if ← acceptSym "(" then
          let cs ← idList fuel
          expectSym ")"
          pure (some cs)
        else pure none
      let q ← select fuel
      let (ups, _) ← upserts fuel
      let src := match q with
        | .mk false [] (.values rows) [] [] none none => InsertSource.values rows
        | _ => .select q
      pure (.insert false [] conflict { name := target } none columns src ups [])
    else pure (.select (← select fuel))

/-- One statement. -/
def statement (fuel : Nat) : Read Statement := do
  let t ← peek
  match t.kind with
  | .keyword "SELECT" | .keyword "VALUES" => pure (.select (← select fuel))
  | .keyword "WITH" =>
    -- a query, or a write preceded by common table expressions
    let save ← get
    advance
    let recursive ← acceptKw "RECURSIVE"
    let ctes ← commonTables fuel
    let u ← peek
    if u.isKw "INSERT" || u.isKw "REPLACE" || u.isKw "UPDATE" || u.isKw "DELETE" then
      write fuel recursive ctes
    else
      set save
      pure (.select (← select fuel))
  | .keyword "INSERT" | .keyword "REPLACE" | .keyword "UPDATE" | .keyword "DELETE" =>
    write fuel false []
  | .keyword "CREATE" =>
    advance
    let temp ← acceptKw "TEMP"
    let u ← peek
    if u.isKw "TABLE" then
      advance
      let ine ← ifNotExists
      let target ← qualifiedName
      let nameStart := ((← get).tokens.getD ((← get).pos - 1) default).start
      if ← acceptKw "AS" then
        let q ← select fuel
        pure (.createTable temp ine target (.query q) "")
      else
        expectSym "("
        let (cols, cons) ← tableElements fuel
        let (withoutRowid, strict) ← tableOptions
        let text ← definitionText "TABLE" nameStart
        pure (.createTable temp ine target (.columns cols cons withoutRowid strict) text)
    else if u.isKw "VIEW" then
      advance
      let ine ← ifNotExists
      let target ← qualifiedName
      let nameStart := ((← get).tokens.getD ((← get).pos - 1) default).start
      let cols ← if ← acceptSym "(" then
          let cs ← idList fuel
          expectSym ")"
          pure (some cs)
        else pure none
      expectKw "AS"
      let q ← select fuel
      let text ← definitionText "VIEW" nameStart
      pure (.createView temp ine target cols q text)
    else if u.isKw "TRIGGER" then
      advance
      let ine ← ifNotExists
      let target ← qualifiedName
      let nameStart := ((← get).tokens.getD ((← get).pos - 1) default).start
      let time ← if ← acceptKw "BEFORE" then pure TriggerTime.before
        else if ← acceptKw "AFTER" then pure .after
        else if ← acceptKw "INSTEAD" then expectKw "OF"; pure .insteadOf
        else pure .before
      let ev ← take
      let event ← if ev.isKw "INSERT" then pure TriggerEvent.insert
        else if ev.isKw "DELETE" then pure .delete
        else if ev.isKw "UPDATE" then
          if ← acceptKw "OF" then pure (.update (some (← idList fuel))) else pure (.update none)
        else failAt ev
      expectKw "ON"
      let table ← qualifiedName
      let forEach ← if ← acceptKw "FOR" then expectKw "EACH"; expectKw "ROW"; pure true else pure false
      let condition ← if ← acceptKw "WHEN" then some <$> expr fuel 0 else pure none
      expectKw "BEGIN"
      let body ← triggerBody fuel
      expectKw "END"
      let text ← definitionText "TRIGGER" nameStart
      pure (.createTrigger temp ine target time event table.name forEach condition body text)
    else if u.isKw "VIRTUAL" then
      advance
      expectKw "TABLE"
      let _ ← ifNotExists
      let _ ← qualifiedName
      expectKw "USING"
      let m ← name
      throw (.other ("no such module: " ++ m))
    else
      let unique ← acceptKw "UNIQUE"
      expectKw "INDEX"
      let ine ← ifNotExists
      let target ← qualifiedName
      let nameStart := ((← get).tokens.getD ((← get).pos - 1) default).start
      expectKw "ON"
      let table ← name
      expectSym "("
      let cols ← indexedColumns fuel
      expectSym ")"
      let filter ← if ← acceptKw "WHERE" then some <$> expr fuel 0 else pure none
      let stop ← lastStop
      let text := (if unique then "CREATE UNIQUE INDEX " else "CREATE INDEX ") ++ (← textBetween nameStart stop)
      pure (.createIndex unique ine target table cols filter text)
  | .keyword "DROP" =>
    advance
    let k ← take
    let kind ← if k.isKw "TABLE" then pure ObjectKind.table
      else if k.isKw "INDEX" then pure .index
      else if k.isKw "VIEW" then pure .view
      else if k.isKw "TRIGGER" then pure .trigger
      else failAt k
    let ie ← ifExists
    pure (.drop kind ie (← qualifiedName))
  | .keyword "ALTER" =>
    advance
    expectKw "TABLE"
    let target ← qualifiedName
    if ← acceptKw "RENAME" then
      if ← acceptKw "TO" then pure (.renameTable target (← name))
      else
        let _ ← acceptKw "COLUMN"
        let old ← name
        expectKw "TO"
        let quoted := ['"', '\'', '\x60', '['].contains ((← peek).text.toList.headD ' ')
        pure (.renameColumn target old (← name) quoted)
    else if ← acceptKw "ADD" then
      let _ ← acceptKw "COLUMN"
      let start := (← peek).start
      let c ← columnDefinition fuel
      let text ← textBetween start (← lastStop)
      pure (.addColumn target c text)
    else if ← acceptKw "DROP" then
      let _ ← acceptKw "COLUMN"
      pure (.dropColumn target (← name))
    else fail
  | .keyword "BEGIN" =>
    advance
    let kind ← if ← acceptKw "DEFERRED" then pure BeginKind.deferred
      else if ← acceptKw "IMMEDIATE" then pure .immediate
      else if ← acceptKw "EXCLUSIVE" then pure .exclusive
      else pure .deferred
    transOpt
    pure (.begin kind)
  | .keyword "COMMIT" | .keyword "END" =>
    advance
    transOpt
    pure .commit
  | .keyword "ROLLBACK" =>
    advance
    transOpt
    if ← acceptKw "TO" then
      let _ ← acceptKw "SAVEPOINT"
      pure (.rollback (some (← name)))
    else pure (.rollback none)
  | .keyword "SAVEPOINT" => advance; pure (.savepoint (← name))
  | .keyword "RELEASE" =>
    advance
    let _ ← acceptKw "SAVEPOINT"
    pure (.release (← name))
  | .keyword "PRAGMA" =>
    advance
    let n ← qualifiedName
    let value ← if ← acceptSym "=" then some <$> pragmaValue
      else if ← acceptSym "(" then
        let v ← pragmaValue
        expectSym ")"
        pure (some v)
      else pure none
    pure (.pragma n.schema n.name value)
  | .keyword "VACUUM" =>
    advance
    let _ ← nameToken? .object
    pure .vacuum
  | .keyword "ANALYZE" =>
    advance
    if (← nameToken? .object).isSome then
      if ← acceptSym "." then let _ ← name
    pure .analyze
  | .keyword "REINDEX" =>
    advance
    if (← nameToken? .object).isSome then
      if ← acceptSym "." then let _ ← name
    pure .reindex
  | _ => failAt t
where
  tableOption (acc : Bool × Bool) : Read (Option (Bool × Bool)) := do
    let o ← peek
    if o.isKw "WITHOUT" then
      advance
      let n ← take
      if NameKinds.object.admits n && n.value.toLower == "rowid" then pure (some (true, acc.2))
      else if NameKinds.object.admits n then throw (.other ("unknown table option: " ++ n.text))
      else failAt n
    else if NameKinds.object.admits o then
      advance
      if o.value.toLower == "strict" then pure (some (acc.1, true))
      else throw (.other ("unknown table option: " ++ o.text))
    else pure none
  tableOptions : Read (Bool × Bool) := do
    match ← tableOption (false, false) with
    | none => pure (false, false)
    | some acc =>
      let rec loop : (fuel : Nat) → Bool × Bool → Read (Bool × Bool)
        | 0, acc => pure acc
        | fuel + 1, acc => do
          if ← acceptSym "," then
            match ← tableOption acc with
            | some acc' => loop fuel acc'
            | none => fail
          else pure acc
      loop 64 acc
  transOpt : Read Unit := do
    if ← acceptKw "TRANSACTION" then
      let _ ← nameToken? .object
  pragmaValue : Read PragmaValue := do
    let t ← take
    match t.kind with
    | .symbol "-" | .symbol "+" =>
      let n ← take
      match n.kind with
      | .integer => pure (.number ((if t.isSym "-" then -1 else 1) * (n.text.toNat!)))
      | .float => pure (.word (if t.isSym "-" then "-" ++ n.text else n.text))
      | _ => failAt n
    | .integer => pure (.number t.text.toNat!)
    | .float => pure (.word t.text)
    | .keyword "ON" => pure (.word "ON")
    | .keyword "DELETE" => pure (.word "DELETE")
    | .keyword "DEFAULT" => pure (.word "DEFAULT")
    | _ => if NameKinds.object.admits t then pure (.word t.value) else failAt t
  write (fuel : Nat) (recursive : Bool) (ctes : List CommonTable) : Read Statement := do
    let t ← take
    if t.isKw "INSERT" || t.isKw "REPLACE" then
      let conflict ← if t.isKw "REPLACE" then pure (some ConflictAction.replace) else orConflict
      expectKw "INTO"
      let (target, asName) ← writeTarget
      let columns ← if ← acceptSym "(" then
          let cs ← idList fuel
          expectSym ")"
          pure (some cs)
        else pure none
      if ← acceptKw "DEFAULT" then
        expectKw "VALUES"
        let ret ← returning fuel
        pure (.insert recursive ctes conflict target asName columns .defaults [] ret)
      else
        let q ← select fuel
        let (ups, ret) ← upserts fuel
        let src := match q with
          | .mk false [] (.values rows) [] [] none none => InsertSource.values rows
          | _ => .select q
        pure (.insert recursive ctes conflict target asName columns src ups ret)
    else if t.isKw "UPDATE" then
      let conflict ← orConflict
      let (target, asName) ← writeTarget
      indexedOpt
      expectKw "SET"
      let sets ← assignments fuel
      let sources ← if ← acceptKw "FROM" then sourceList fuel else pure []
      let filter ← if ← acceptKw "WHERE" then some <$> expr fuel 0 else pure none
      let ret ← returning fuel
      pure (.update recursive ctes conflict target asName sets sources filter ret)
    else
      expectKw "FROM"
      let (target, asName) ← writeTarget
      indexedOpt
      let filter ← if ← acceptKw "WHERE" then some <$> expr fuel 0 else pure none
      let ret ← returning fuel
      pure (.delete recursive ctes target asName filter ret)

end Read

/-- The greatest expression height inside a statement. -/
def Statement.worstHeight (fuel : Nat) : Statement → Nat
  | .select q => (q.heights fuel).2
  | .insert _ ctes _ _ _ _ src ups ret =>
    let inSrc := match src with
      | .values rows => (rows.flatten.map fun e => (e.heights fuel).2).foldl max 0
      | .select q => (q.heights fuel).2
      | .defaults => 0
    let inUps := (ups.map fun u => match u.action with
      | .update sets w => ((sets.map fun a => (a.value.heights fuel).2) ++
          (w.toList.map fun e => (e.heights fuel).2)).foldl max 0
      | .nothing => 0).foldl max 0
    max (max inSrc inUps) (max (ctesWorst ctes) (columnsWorst ret))
  | .update _ ctes _ _ _ sets sources filter ret =>
    let inSets := (sets.map fun a => (a.value.heights fuel).2).foldl max 0
    let inSrc := (sources.map (JoinItem.worst fuel)).foldl max 0
    let inFilter := (filter.map fun e => (e.heights fuel).2).getD 0
    max (max inSets inSrc) (max inFilter (max (ctesWorst ctes) (columnsWorst ret)))
  | .delete _ ctes _ _ filter ret =>
    max ((filter.map fun e => (e.heights fuel).2).getD 0) (max (ctesWorst ctes) (columnsWorst ret))
  | .createTable _ _ _ (.query q) _ => (q.heights fuel).2
  | .createView _ _ _ _ q _ => (q.heights fuel).2
  | _ => 0
where
  ctesWorst (ctes : List CommonTable) : Nat :=
    (ctes.map fun (.mk _ _ _ q) => (q.heights fuel).2).foldl max 0
  columnsWorst (cols : List ResultColumn) : Nat :=
    (cols.map fun c => match c with
      | .expr e _ _ => (e.heights fuel).2
      | _ => 0).foldl max 0

/-- The position of the next token that is not a semicolon, at or after `pos`. -/
def skipSemicolons (ts : Array Token) : (fuel : Nat) → Nat → Nat
  | 0, pos => pos
  | fuel + 1, pos =>
    match ts[pos]? with
    | some t => if t.kind == .symbol ";" then skipSemicolons ts fuel (pos + 1) else pos
    | none => pos

/-- Read the statement that starts at token `pos` (after any semicolons): the statement and the
position after it and its semicolon, or `none` when only the end of the text is left. -/
def readStatementAt (ts : Array Token) (text : Array Char) (pos : Nat) :
    Except SyntaxFault (Option (Prepared × Nat)) := do
  let pos := skipSemicolons ts ts.size pos
  match ts[pos]? with
  | none => pure none
  | some t =>
    if t.kind == .finish then pure none
    else
      let fuel := 16 * (ts.size + 1)
      let body : Read (Option Bool × Statement) := do
        let explain ← if ← Read.acceptKw "EXPLAIN" then
            if (← Read.atKw "QUERY") && (← Read.peekAt 1).isKw "PLAN" then
              Read.advance; Read.advance; pure (some true)
            else pure (some false)
          else pure none
        let s ← Read.statement fuel
        let t ← Read.peek
        if t.kind == .symbol ";" then Read.advance
        else if t.kind != .finish then Read.failAt t
        pure (explain, s)
      let ((explain, stmt), st) ← body.run { tokens := ts, text, pos }
      if stmt.worstHeight fuel > maxExprHeight then
        throw (.other ("Expression tree is too large (maximum depth " ++ toString maxExprHeight ++ ")"))
      let startPos := (ts[pos]?.map (·.start)).getD 0
      let stopPos := (ts[st.pos - 1]?.map (·.stop)).getD startPos
      pure (some ({ statement := stmt, explain, parameterCount := st.parameterCount,
                    parameterNames := st.names.map (fun (n, i) => (i, n)),
                    text := String.ofList (text.extract startPos stopPos).toList }, st.pos))

/-- The first statement of a text, if it has one. -/
def prepareFirst (text : String) : Except SyntaxFault (Option Prepared) := do
  let ts := Token.scan text
  match ← readStatementAt ts text.toList.toArray 0 with
  | some (p, _) => pure (some p)
  | none => pure none

end Database

end EntityGraph
