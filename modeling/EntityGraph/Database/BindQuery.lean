import EntityGraph.Database.BindExpr
import EntityGraph.Database.Planner
import EntityGraph.Database.OuterJoin

/-!
# Binding queries

A query as written becomes a plan (`bindSelect`). Each query of a compound is bound in the
order names are settled: its sources (`bindFrom`) with the levels around it only, its results,
then `HAVING`, `WHERE` and the join conditions, then its ordering and grouping, which see no
level around it. The queries of a compound are bound from the last to the first, and the
compound's ordering after all of them.

Sources are stored tables, views (bound afresh where they are used, seeing nothing of the
statement around them), common table expressions (bound where they are used, with the levels
around their definition), and subqueries. A common table expression whose last queries name it
in their `FROM` is recursive: the queries before them start it, and the queries naming it are
run on the rows it found last.

Rules that fix the results:
- A result column is named by its alias, else by the column it reads, else by its text; as a
  column of a subquery or view it is named the same way (a column read under `COLLATE` still
  by the column), `true` and `false` become `columnN`, and repeated names get `:1`, `:2`, ...
- An `ORDER BY` term is a result alias, else a result position, else an expression, which is
  the result it equals if there is one. In a compound it must be one of the results.
- A query is an aggregate query when it groups or its results hold an aggregate; `HAVING`
  needs one. The values of its other columns come from the row the last `min` or `max`
  aggregate chose, else from the first row of the group.
- Outer joins are reduced against the `WHERE` clause before the query is planned
  (`reduceJoins`). With a `RIGHT` join left, the conditions of the `WHERE` clause are checked
  once its loop has noted its matched row, and a star stands for the `USING` columns of the
  sources before it by name.
-/

namespace EntityGraph

namespace Database

/-- A result column of a query being bound. -/
structure ResultItem where
  term : Term
  info : TermInfo
  /-- Its alias: written with `AS`, or the name of the column a star stands for. -/
  aliasName : Option String := none
  /-- The text it was written as. -/
  span : Option String := none
  hasAggregate : Bool := false
  hasWindow : Bool := false

/-- A source of a query once bound. -/
structure BoundSource where
  scope : ScopeSource
  rows : RowSource
  outer : Bool := false
  /-- Joined by a `RIGHT` or `FULL` join, which keeps its rows that nothing matched. -/
  keepsUnmatched : Bool := false
  /-- Joined with `CROSS JOIN`, which keeps it after every source before it. -/
  cross : Bool := false
  on : Option Expr := none
  /-- The equalities of its `USING` columns: the earlier source and its column, and its own
  column. -/
  usingPairs : List ((Nat × Nat) × Nat) := []
  /-- The arguments of a table-valued function, bound once every source is in scope. -/
  arguments : List Expr := []
  /-- The sources of the query its bound arguments read. -/
  argumentReads : List Nat := []

/-- One query of a compound once bound. -/
structure BoundCore where
  block : Block
  items : List ResultItem
  /-- Its level as binding left it, to match a compound's ordering against. -/
  level : Level
  isValues : Bool := false
  /-- Its ordering, when it is the only query. -/
  orderBy : List SortKey := []

/-! ## Names of result columns -/

/-- The name a statement reports for a result column. -/
def ResultItem.outputName (it : ResultItem) (i : Nat) : String :=
  match it.aliasName with
  | some a => a
  | none =>
    match it.info.columnName with
    | some n => n
    | none => it.span.getD ("column" ++ toString (i + 1))

/-- The name of a result column as a column of a subquery or view, before repeats are told
apart. -/
def ResultItem.sourceName (it : ResultItem) (i : Nat) : String :=
  let n := match it.aliasName with
    | some a => some a
    | none =>
      match it.info.baseName with
      | some b => some b
      | none => it.span
  match n with
  | some s => if sameName s "true" || sameName s "false" then "column" ++ toString (i + 1) else s
  | none => "column" ++ toString (i + 1)

/-- A name without a `:N` suffix. -/
def stripCounter (n : String) : String :=
  let cs := n.toList.reverse
  let digits := cs.takeWhile Char.isDigit
  match cs.drop digits.length with
  | ':' :: rest => if digits.isEmpty || rest.isEmpty then n else String.ofList rest.reverse
  | _ => n

/-- Names made distinct, ignoring case, by suffixes `:1`, `:2`, ... -/
def uniqueNames (names : List String) : List String :=
  let step (acc : List String) (n : String) : List String :=
    let taken (m : String) : Bool := acc.any (sameName · m)
    if !taken n then acc ++ [n]
    else
      let base := stripCounter n
      let candidates := (List.range (acc.length + 2)).map fun k => base ++ ":" ++ toString (k + 1)
      acc ++ [(candidates.find? (fun m => !taken m)).getD n]
  names.foldl step []

/-- The columns of a query as a source sees them. -/
def columnsOf (items : List ResultItem) : List ColumnInfo :=
  let names := uniqueNames (items.zipIdx.map fun (it, i) => it.sourceName i)
  (names.zip items).map fun (n, it) =>
    { name := n, affinity := it.info.affinity, collation := it.info.collationOr }

/-! ## Helpers -/

/-- The conjuncts of a condition. -/
def Expr.conjuncts : Nat → Expr → List Expr
  | 0, e => [e]
  | fuel + 1, .binary .and a b => Expr.conjuncts fuel a ++ Expr.conjuncts fuel b
  | _, e => [e]

/-- A result position written as an integer, possibly signed. -/
def Expr.ordinal? : Expr → Option Int
  | .integer t =>
    match t.toNat? with
    | some n => if n < 2 ^ 31 then some n else none
    | none => none
  | .unary .plus e => e.ordinal?
  | .unary .neg e => e.ordinal?.map (- ·)
  | _ => none

/-- The collation written outermost on an expression. -/
def Expr.writtenCollation? : Expr → Option Collation
  | .collate _ c => Collation.ofName? c
  | _ => none

/-- The result column an alias names. -/
def aliasIndex (items : List ResultItem) (e : Expr) : Option Nat :=
  match e with
  | .name n _ => items.findIdx? fun it => (it.aliasName.map (sameName · n)).getD false
  | _ => none

/-- The last result column equal to a term. -/
def matchingResult (items : List ResultItem) (t : Term) : Option Nat :=
  items.zipIdx.foldl (fun acc (it, i) => if it.term == t then some i else acc) none

/-- The rows of a schema table: one per object, in the order they were made. -/
def schemaRows (c : Catalog) (id : SchemaId) : List (List Datum) :=
  let s := c.schema id
  let text (x : String) : Datum := Datum.ofString x
  s.entries.filterMap fun e =>
    match e.kind with
    | .table => (s.table? e.name).map fun t =>
        [text "table", text t.name, text t.name, Datum.ofInt t.rootPage, text t.sql]
    | .index => (s.index? e.name).map fun i =>
        [text "index", text i.name, text i.table, Datum.ofInt i.rootPage,
          match i.sql with
          | some q => text q
          | none => .null]
    | .view => (s.view? e.name).map fun v =>
        [text "view", text v.name, text v.name, .integer 0, text v.sql]
    | .trigger => (s.trigger? e.name).map fun t =>
        [text "trigger", text t.name, text t.table, .integer 0, text t.sql]

/-- The columns of a schema table. -/
def schemaColumns : List ColumnInfo :=
  [{ name := "type", affinity := some .text }, { name := "name", affinity := some .text },
   { name := "tbl_name", affinity := some .text }, { name := "rootpage", affinity := some .integer },
   { name := "sql", affinity := some .text }]

/-- The schema whose schema table a name stands for, given the schema it is qualified with. -/
def schemaTableOf? (qualifier : Option SchemaId) (name : String) : Option SchemaId :=
  let n := name.toLower
  match qualifier with
  | some .temp =>
    if n == "sqlite_master" || n == "sqlite_schema" || n == "sqlite_temp_master" ||
      n == "sqlite_temp_schema" then some .temp else none
  | some .main => if n == "sqlite_master" || n == "sqlite_schema" then some .main else none
  | none =>
    if n == "sqlite_master" || n == "sqlite_schema" then some .main
    else if n == "sqlite_temp_master" || n == "sqlite_temp_schema" then some .temp
    else none

/-- A stored table as a source. -/
def tableScope (id : SchemaId) (t : Table) (aliasName : Option String) : ScopeSource :=
  { name := aliasName.getD t.name, schema := some id,
    columns := t.columns.toList.map fun c =>
      { name := c.name, affinity := some c.affinity, collation := c.collation },
    hasRowid := !t.withoutRowid, rowidColumn := t.rowidColumn, table := some t }

/-- A table-valued function as a source: its columns, of no affinity, and the rows it gives,
whose arguments are bound later. -/
def documentScope (walk : DocumentWalk) (aliasName : Option String) : ScopeSource × RowSource :=
  ({ name := aliasName.getD walk.name,
     columns := DocumentWalk.columnNames.map fun n => { name := n, affinity := some .blob },
     hasRowid := true, starWidth := some DocumentWalk.shownColumns }, .document walk [])

/-- The common table expression a name stands for, innermost first. -/
def findCte (name : String) : BindM (Option CteDef) := do
  pure ((← get).ctes.findSome? fun g => g.find? fun d => sameName d.name name)

/-- Run an action with the common table expressions of a `WITH` clause in scope. -/
def withCtes {α : Type} (ctes : List CommonTable) (act : BindM α) : BindM α := do
  if ctes.isEmpty then act
  else
    let names := ctes.map fun (CommonTable.mk n _ _ _) => n
    let rec dup : List String → Option String
      | [] => none
      | n :: rest => if rest.any (sameName · n) then some n else dup rest
    -- a repeated name is reported at its second occurrence
    match dup names with
    | some n => throw (Fault.error ("duplicate WITH table name: " ++ n))
    | none => pure ()
    let s ← get
    let group := ctes.map fun (CommonTable.mk n cols _ q) =>
      ({ name := n, columns := cols, query := q, depth := s.levels.length,
         scope := s.ctes.length + 1 } : CteDef)
    modify fun s => { s with ctes := group :: s.ctes }
    let r ← act
    modify fun s => { s with ctes := s.ctes.drop 1 }
    pure r

/-- The fault of compound queries of different widths. -/
def widthFault (op : CompoundOp) (rightIsValues : Bool) : Fault :=
  if rightIsValues then Fault.error "all VALUES must have the same number of terms"
  else Fault.error ("SELECTs to the left and right of " ++ op.text ++
    " do not have the same number of result columns")

/-- Record reads of columns of the innermost level. -/
def recordRefs (refs : List (Nat × Option Nat)) : BindM Unit :=
  modify fun s =>
    let cur := s.levels.length - 1
    { s with refs := refs.map (fun (i, c) => (cur, i, c)) ++ s.refs }

/-- The sources of the innermost level read since a point. -/
def sourcesReadSince (before : Nat) : BindM (List Nat × Bool) := do
  let s ← get
  let cur := s.levels.length - 1
  let fresh := s.refs.take (s.refs.length - before)
  let own := (fresh.filter (·.1 == cur)).map (·.2.1)
  let outer := fresh.any (·.1 < cur)
  pure (own.eraseDups, outer)

/-- A condition of a query's filter with the sources it reads. -/
structure Conjunct where
  term : Term
  sources : List Nat
  /-- Whether it reads nothing: no column of any level. -/
  constant : Bool
  /-- The source whose inner join condition it is, when it is one. -/
  innerJoin : Option Nat := none

/-- Whether a term may be computed once for the whole query: it reads no column and calls no
function whose value varies. -/
def Term.steady : Nat → Term → Bool
  | 0, _ => false
  | fuel + 1, t =>
    match t with
    | .const _ | .param _ => true
    | .neg a | .not a | .bitNot a | .truth a _ _ | .isNull _ a | .cast _ a => Term.steady fuel a
    | .and a b | .or a b | .arith _ a b | .bits _ a b | .concat a b | .compare _ _ _ a b =>
      Term.steady fuel a && Term.steady fuel b
    | .call fn _ args =>
      !(fn == .random || fn == .randomblob) && args.all (Term.steady fuel)
    | .coalesce args => args.all (Term.steady fuel)
    | .inList _ a _ _ items => Term.steady fuel a && items.all (Term.steady fuel)
    | .case bs o => bs.all (fun (c, v) => Term.steady fuel c && Term.steady fuel v) &&
        o.all (Term.steady fuel)
    | _ => false

/-- A key of an ordering as the planner reads it. -/
def SortKey.planKey (k : SortKey) : OrderKey :=
  { term := k.term, collation := k.collation, descending := k.descending,
    bigNull := match k.nullsFirst with
      | some first => first == k.descending
      | none => false }

/-- Whether two terms are the same column of this query. -/
def sameColumn (a b : Term) : Bool :=
  match a.sourceColumn?, b.sourceColumn? with
  | some x, some y => x == y
  | _, _ => false

/-- The result a star gives for a column of a source. A column of a source before a `RIGHT`
join that a later join names in its `USING` clause stands for what its name stands for, the
right source's column or the first of the joined columns that is not null. -/
def starItem (srcs : List BoundSource) (b : BoundSource) (i : Nat) (name : String) (j : Nat) :
    BindM ResultItem := do
  let later := srcs.drop (i + 1)
  let byName := later.any (·.keepsUnmatched) && later.any (·.scope.hidden.any (sameName · name))
  let direct : BindM ResultItem := do
    let col := if b.scope.rowidColumn == some j then none else some j
    recordRefs [(i, col)]
    pure { term := .column { depth := 0, source := i, column := col },
           info := b.scope.columnInfo j, aliasName := some name }
  if byName then
    match ← lookupName none none name with
    | .term t info => pure { term := t, info, aliasName := some name }
    | _ => direct
  else direct

/-- What the planner needs to know of a query: its sources with the columns it reads, its
conditions, and the order it wants rows in, for an ordering, a grouping or `DISTINCT`. -/
def sourcePlan (catalog : Catalog) (srcs : List BoundSource) (shapes : List JoinShape)
    (refs : List (Nat × Nat × Option Nat))
    (written : List WrittenCondition) (items : List ResultItem) (keys : List SortKey)
    (groups : List (Term × Collation)) (grouped distinct windowed : Bool) (limitEst : Option Int)
    (startRows : Int) : PlanQuery :=
  let joinedBy := srcs.zipIdx.flatMap fun (b, k) =>
    b.usingPairs.flatMap fun ((li, lj), rj) => [(li, lj), (k, rj)]
  let used (i : Nat) : List Nat :=
    let cols := (refs.filterMap fun (_, s, c) => if s == i then c else none) ++
      (joinedBy.filterMap fun (s, c) => if s == i then some c else none)
    cols.foldl (fun acc c => if acc.contains c then acc else acc ++ [c]) []
  let follows := mustFollow shapes
  let sources := srcs.zipIdx.map fun (b, i) =>
    let base := match b.rows, b.scope.table with
      | .table id name _, some t => PlanSource.ofTable t ((catalog.schema id).indexesOf name) (used i)
      | .current _, _ => PlanSource.ofRows b.scope.columns 200 false (used i)
      | .document _ args, _ =>
        { columns := b.scope.columns, indexable := false, ephemeral := true, used := used i,
          function := some (SourceSet.ofList b.argumentReads,
                            if args.isEmpty then functionScanCost else 0) }
      | _, _ => PlanSource.ofRows b.scope.columns 200 true (used i)
    { base with ownConditionsOnly := (shapes.getD i default).ownConditionsOnly,
                follows := follows.getD i 0 }
  let lookup : ColumnLookup := fun (s, c) => match c with
    | none => (some .integer, .binary)
    | some j => match srcs[s]? with
      | some b =>
        let ci := b.scope.columns.getD j default
        (ci.affinity, ci.collation)
      | none => (none, .binary)
  let q : PlanQuery :=
    { sources := sources.toArray, conds := analyzeConditions lookup written,
      written := written.length, resultCount := items.length,
      limit := if grouped then none else limitEst, startRows }
  let resultKeys : List OrderKey := items.map fun it =>
    { term := it.term, collation := it.info.collationOr }
  let (order, wantDistinct) : Option OrderRequest × Bool :=
    if windowed then (none, false)
    else if grouped then
      if groups.isEmpty then (none, false)
      else
        let same := keys.length == groups.length
        let groupKeys := groups.zipIdx.map fun ((t, c), i) =>
          ({ term := t, collation := c,
             descending := same && ((keys[i]?.map (·.descending)).getD false) } : OrderKey)
        let sortByGroup := same && (keys.zip groups).all fun (k, (t, c)) =>
          sameColumn k.term t && k.collation == c && !k.planKey.bigNull
        (some { keys := groupKeys, mode := .groupBy, sortByGroup }, false)
    else if distinct then
      let asResults := keys.length == items.length && keys.zipIdx.all fun (k, i) =>
        k.output == some i && !k.descending && k.nullsFirst.isNone &&
          k.collation == ((items[i]?.map (·.info.collationOr)).getD .binary)
      if !keys.isEmpty && asResults then
        (some { keys := resultKeys, mode := .distinctBy, sortByGroup := true }, false)
      else if !keys.isEmpty then (some { keys := keys.map (·.planKey), mode := .orderBy }, true)
      else if distinctRedundant q (items.map fun it => (it.term, it.info.collationOr)) then
        (none, true)
      else (some { keys := resultKeys, mode := .distinctBy }, true)
    else if keys.isEmpty then (none, false)
    else (some { keys := keys.map (·.planKey), mode := .orderBy }, false)
  { q with order, wantDistinct }

/-- The loops of a query in the order the planner chose, each reading its source in the order
chosen, and each condition checked at the first loop where every source it reads is known. When
a `RIGHT` join keeps the rows nothing matched, the conditions of the query wait for its loop,
and the condition of an inner join before it for that join's own source. -/
def plannedJoins (srcs : List BoundSource) (shapes : List JoinShape) (ons : List (Option Term))
    (conjuncts : List Conjunct) (choice : PlanChoice) : List JoinStep × List Term :=
  let n := srcs.length
  let position (i : Nat) : Nat := (choice.loops.findIdx? (·.source == i)).getD 0
  let lastRight := (choice.loops.zipIdx.filter fun (pl, _) =>
    (shapes.getD pl.source default).keepsUnmatched).getLast?.map (·.2)
  let place (c : Conjunct) : Nat :=
    let p := c.sources.foldl (fun m i => max m (position i)) 0
    match lastRight, c.innerJoin with
    | some r, none => max p r
    | some r, some k => if p < r then max p (position k) else p
    | none, _ => p
  let early := if n == 0 then conjuncts.map (·.term)
    else (conjuncts.filter (·.constant)).map (·.term)
  let steps := choice.loops.zipIdx.filterMap fun (pl, pos) =>
    srcs[pl.source]?.map fun bs =>
      let shape := shapes.getD pl.source default
      ({ source := bs.rows, slot := pl.source, width := bs.scope.columns.length,
         outer := shape.nullable, keepsUnmatched := shape.keepsUnmatched,
         on := ons.getD pl.source none,
         filters := (conjuncts.filter fun c => !c.constant && place c == pos).map (·.term),
         order := pl.order.map fun sc =>
           { term := .column { depth := 0, source := 0, column := sc.column },
             collation := sc.collation, descending := sc.descending } } : JoinStep)
  (steps, early)

/-- Bind `LIMIT` or `OFFSET`, which sees no names. -/
def bindPaging (sub : QueryBinder) (e : Expr) : BindM Term := do
  let ((t, _), _) ← withLevel { sealed := true } (bindExpr sub exprFuel {} e)
  pure t

mutual

/-- Bind the sources of a `FROM` clause. -/
def bindFrom (sub : QueryBinder) : Nat → List JoinItem → BindM (List BoundSource)
  | 0, _ => throw Fault.tooDeep
  | fuel + 1, items => do
    let mut out : List BoundSource := []
    for item in items do
      let (kind, src, onClause, usingCols) := match item with
        | JoinItem.mk k s o u => (k, s, o, u)
      match src with
      | .nested inner none =>
        -- joined sources in parentheses without an alias join as if written in place
        let more ← bindFrom sub fuel inner
        out := out ++ more
      | _ =>
        let (scope, rows) ← bindSource sub fuel src
        let usingCols ← if kind.natural then do
            if onClause.isSome || !usingCols.isEmpty then
              throw (Fault.error "a NATURAL join may not have an ON or USING clause")
            pure (((scope.starColumns.map (·.1)).filter fun c =>
              out.any fun b => b.scope.starColumns.any (sameName ·.1.name c.name)).map (·.name))
          else pure usingCols
        let pairs ← usingCols.mapM fun c => do
          let missing := Fault.error ("cannot join using column " ++ c ++
            " - column not present in both tables")
          match scope.columns.findIdx? (sameName ·.name c) with
          | none => throw missing
          | some rj =>
            match out.zipIdx.findSome? (fun (b, li) =>
                (b.scope.columns.findIdx? (sameName ·.name c)).map (li, ·)) with
            | some (li, lj) => pure ((li, lj), rj)
            | none => throw missing
        let arguments := match src with
          | .function _ args _ => args
          | _ => []
        out := out ++ [{ scope := { scope with hidden := usingCols, rightJoined := kind.right,
                                               leftJoined := kind.left },
                         rows, outer := kind.left, keepsUnmatched := kind.right,
                         cross := kind.cross, on := onClause, usingPairs := pairs, arguments }]
    pure out

/-- Bind one source. -/
def bindSource (sub : QueryBinder) : Nat → Source → BindM (ScopeSource × RowSource)
  | 0, _ => throw Fault.tooDeep
  | fuel + 1, src => do
    match src with
    | .table schema name aliasName indexedBy =>
      let cte ← if schema.isNone then findCte name else pure none
      match cte with
      | some d => bindCteRef sub fuel d aliasName
      | none =>
        let catalog ← read
        let fixed := (← get).fixedSchema
        let qualifier : Option (Option SchemaId) := match schema with
          | some s => (Catalog.schemaOf? s).map some
          | none => some fixed
        let written := match schema, fixed with
          | some s, _ => s ++ "." ++ name
          | none, some id => id.name ++ "." ++ name
          | none, none => name
        match qualifier with
        | none => throw (Fault.noSuchTable written)
        | some q =>
          if let some (some idx) := indexedBy then
            if (catalog.findIndex? q idx).isNone then throw (Fault.error ("no such index: " ++ idx))
          match schemaTableOf? q name with
          | some id =>
            pure ({ name := aliasName.getD name, schema := some id, columns := schemaColumns },
              .rows (schemaRows catalog id))
          | none =>
            match catalog.findTable? q name with
            | some (id, t) => pure (tableScope id t aliasName, .table id t.name [])
            | none =>
              match catalog.findView? q name with
              | some (id, v) => bindViewRef sub fuel id v aliasName
              | none =>
                match DocumentWalk.ofName? name with
                | some walk => pure (documentScope walk aliasName)
                | none => throw (Fault.noSuchTable written)
    | .function name _ aliasName =>
      match DocumentWalk.ofName? name with
      | some walk => pure (documentScope walk aliasName)
      | none => throw (Fault.noSuchTable name)
    | .select q aliasName => do
      let bq ← sub q
      let keep := (← get).levels.length
      pure ({ name := aliasName.getD "", columns := bq.columns }, .plan bq.plan keep)
    | .nested items aliasName => do
      let q := Select.ofCore (.select false [.all] items none [] none [])
      let bq ← sub q
      let keep := (← get).levels.length
      pure ({ name := aliasName.getD "", columns := bq.columns }, .plan bq.plan keep)

/-- Bind a view where it is used: its query sees nothing of the statement around it. -/
def bindViewRef (sub : QueryBinder) : Nat → SchemaId → View → Option String →
    BindM (ScopeSource × RowSource)
  | 0, _, _, _ => throw Fault.tooDeep
  | _ + 1, id, v, aliasName => do
    let key := "view " ++ v.name.toLower
    if (← get).expanding.any (· == key) then
      throw (Fault.error ("view " ++ v.name ++ " is circularly defined"))
    let s ← get
    set { s with levels := [], ctes := [], recursing := [], expanding := key :: s.expanding,
                 fixedSchema := if id == SchemaId.main then some SchemaId.main else none }
    let bq ← sub v.query
    modify fun s' => { s' with levels := s.levels, ctes := s.ctes, recursing := s.recursing,
                               expanding := s.expanding, fixedSchema := s.fixedSchema,
                               refs := s.refs }
    let names ← match v.columns with
      | some cs =>
        if cs.length != bq.columns.length then
          throw (Fault.error ("expected " ++ toString cs.length ++ " columns for '" ++ v.name ++
            "' but got " ++ toString bq.columns.length))
        else pure cs
      | none => pure (bq.columns.map (·.name))
    let cols := (names.zip bq.columns).map fun (n, c) => { c with name := n }
    pure ({ name := aliasName.getD v.name, schema := some id, columns := cols }, .plan bq.plan 0)

/-- Bind a reference to a common table expression: the rows of the one being built when it
names itself, else its query, bound with the levels and expressions around its definition. -/
def bindCteRef (sub : QueryBinder) : Nat → CteDef → Option String →
    BindM (ScopeSource × RowSource)
  | 0, _, _ => throw Fault.tooDeep
  | fuel + 1, d, aliasName => do
    let s ← get
    match s.recursing.zipIdx.find? (fun (r, _) => sameName r.name d.name) with
    | some (r, idx) =>
      modify fun s => { s with selfRefs := s.selfRefs + 1 }
      pure ({ name := aliasName.getD d.name, columns := r.columns }, .current idx)
    | none =>
      if s.expanding.any (sameName · d.name) then
        throw (Fault.error ("circular reference: " ++ d.name))
      let inner := s.levels.take (s.levels.length - d.depth)
      set { s with levels := s.levels.drop (s.levels.length - d.depth),
                   ctes := s.ctes.drop (s.ctes.length - d.scope),
                   expanding := d.name :: s.expanding }
      let (cols, rows) ← bindCteBody sub fuel d
      modify fun s' => { s' with levels := inner ++ s'.levels, ctes := s.ctes,
                                 expanding := s.expanding, refs := s.refs }
      pure ({ name := aliasName.getD d.name, columns := cols }, rows)

/-- Bind the query of a common table expression, recursive or not. -/
def bindCteBody (sub : QueryBinder) : Nat → CteDef → BindM (List ColumnInfo × RowSource)
  | 0, _ => throw Fault.tooDeep
  | fuel + 1, d => do
    let .mk _ ctes first rest orderBy limit offset := d.query
    let names (cols : List ColumnInfo) : BindM (List ColumnInfo) := do
      match d.columns with
      | some cs =>
        if cs.length != cols.length then
          throw (Fault.error ("table " ++ d.name ++ " has " ++ toString cols.length ++
            " values for " ++ toString cs.length ++ " columns"))
        else pure ((cs.zip cols).map fun (n, c) => { c with name := n })
      | none => pure cols
    let namesItself (c : SelectCore) : Bool :=
      match c with
      | .select _ _ sources _ _ _ _ =>
        sources.any fun (JoinItem.mk _ s _ _) =>
          match s with
          | .table none n _ _ => sameName n d.name
          | _ => false
      | .values _ => false
    let lastOp := rest.getLast?.map (·.1)
    let recursiveCount :=
      match lastOp with
      | some op =>
        if op == .union || op == .unionAll then
          ((rest.reverse.takeWhile fun (o, c) => o == op && namesItself c)).length
        else 0
      | none => 0
    if recursiveCount == 0 then
      let bq ← sub d.query
      pure (← names bq.columns, .plan bq.plan d.depth)
    else
      withCtes ctes do
        let members := (CompoundOp.unionAll, first) :: rest
        let setupCount := members.length - recursiveCount
        let mut setup : List (CompoundOp × BoundCore) := []
        for (op, c) in members.take setupCount do
          let bc ← bindCore sub fuel c [] none
          match setup.getLast? with
          | some (_, prev) =>
            if prev.items.length != bc.items.length then throw (widthFault op bc.isValues)
          | none => pure ()
          setup := setup ++ [(op, bc)]
        let firstCore := (setup.headD (.unionAll, { block := .values [], items := [], level := {} })).2
        let cols ← names (columnsOf firstCore.items)
        let width := cols.length
        modify fun s => { s with recursing := { name := d.name, columns := cols } :: s.recursing }
        let mut steps : List BoundCore := []
        for (op, c) in members.drop setupCount do
          let before := (← get).selfRefs
          let bc ← bindCore sub fuel c [] none
          if (← get).selfRefs > before + 1 then
            throw (Fault.error ("multiple references to recursive table: " ++ d.name))
          if bc.items.length != width then throw (widthFault op bc.isValues)
          match bc.block with
          | .select body =>
            if body.grouped then throw (Fault.error "recursive aggregate queries not supported")
          | .values _ => pure ()
          steps := steps ++ [bc]
        modify fun s => { s with recursing := s.recursing.drop 1 }
        let keys ← compoundOrderBy sub fuel (setup.map (·.2) ++ steps) orderBy
        let lim ← limit.mapM (bindPaging sub)
        let off ← offset.mapM (bindPaging sub)
        let r : Recursion :=
          { setup := setup.map fun (op, bc) => (op, bc.block), steps := steps.map (·.block),
            unionAll := lastOp == some .unionAll, orderBy := keys, limit := lim, offset := off,
            width }
        pure (cols, .recursive r d.depth)

/-- Bind the ordering of a compound: each term a result position, a result alias, or an
expression equal to a result of one of the queries, tried from the first query on. -/
def compoundOrderBy (sub : QueryBinder) : Nat → List BoundCore → List OrderTerm →
    BindM (List SortKey)
  | 0, _, _ => throw Fault.tooDeep
  | fuel + 1, cores, orderBy => do
    if orderBy.isEmpty then return []
    let mut done : Array (Option Nat) := Array.replicate orderBy.length none
    for core in cores do
      for (ot, idx) in orderBy.zipIdx do
        if (done.getD idx none).isNone then
          let e := ot.expr.skipCollate
          match e.ordinal? with
          | some n =>
            if n < 1 || n > core.items.length then
              throw (Fault.termRange (idx + 1) "ORDER" core.items.length)
            done := done.set! idx (some (n.toNat - 1))
          | none =>
            match aliasIndex core.items e with
            | some i => done := done.set! idx (some i)
            | none =>
              let saved ← get
              let trial ← try
                  let ((t, _), _) ← withOuterLevels 0 (withLevel
                    { core.level with aliasesOn := true, sealed := true }
                    (bindExpr sub fuel { aggregates := true } e))
                  pure (some t)
                catch _ => pure none
              set saved
              match trial.bind (matchingResult core.items) with
              | some i => done := done.set! idx (some i)
              | none => pure ()
    let mut keys : List SortKey := []
    for (ot, idx) in orderBy.zipIdx do
      match done.getD idx none with
      | none =>
        throw (Fault.error (Fault.ordinal (idx + 1) ++
          " ORDER BY term does not match any column in the result set"))
      | some i =>
        let coll := match ot.expr.writtenCollation? with
          | some c => c
          | none =>
            ((cores.findSome? fun c => (c.items.getD i { term := default, info := {} }).info.collation)).getD
              .binary
        keys := keys ++ [{ term := .const .null, output := some i, collation := coll,
                           descending := ot.descending, nullsFirst := ot.nullsFirst }]
    pure keys

/-- Bind one query of a compound, with its ordering when it is the only one. -/
def bindCore (sub : QueryBinder) : Nat → SelectCore → List OrderTerm → Option Int →
    BindM BoundCore
  | 0, _, _, _ => throw Fault.tooDeep
  | fuel + 1, core, orderBy, limitEst => do
    match core with
    | .values rows =>
      let width := (rows.headD []).length
      if rows.any (·.length != width) then
        throw (Fault.error "all VALUES must have the same number of terms")
      let (bound, level) ← withLevel {} (rows.mapM fun r => r.mapM (bindExpr sub fuel {}))
      let items := (bound.headD []).map fun (t, i) =>
        ({ term := t, info := { i with columnName := none, baseName := none } } : ResultItem)
      pure { block := .values (bound.map (·.map (·.1))), items, level, isValues := true }
    | .select distinct columns sources filter groupBy having windows =>
      let srcs ← bindFrom sub fuel sources
      let level0 : Level := { sources := (srcs.map (·.scope)).toArray, windowDefs := windows,
                              clause := 0 }
      let refsStart := (← get).refs.length
      let levelIndex := (← get).levels.length
      let enclosing := (← get).levels.head?
      let ((items, grouped, conjuncts, written, ons, having, keys, groups, arguments, shapes), level) ←
          withLevel level0 do
        -- stars are checked before any expression is bound
        for rc in columns do
          match rc with
          | .all => if srcs.isEmpty then throw (Fault.error "no tables specified")
          | .allOf t =>
            if !(srcs.any fun b => sameName b.scope.name t) then throw (Fault.noSuchTable t)
          | .expr _ _ _ => pure ()
        -- results
        let mut items : List ResultItem := []
        for rc in columns do
          match rc with
          | .all =>
            for (b, i) in srcs.zipIdx do
              for (c, j) in b.scope.starColumns do
                if !(b.scope.hidden.any (sameName · c.name)) then
                  items := items ++ [← starItem srcs b i c.name j]
          | .allOf t =>
            for (b, i) in srcs.zipIdx do
              if sameName b.scope.name t then
                for (c, j) in b.scope.starColumns do
                  items := items ++ [← starItem srcs b i c.name j]
          | .expr e asName span =>
            let l ← topLevel
            let (t, info) ← bindExpr sub fuel { aggregates := true, windows := true } e
            let l' ← topLevel
            items := items ++ [{ term := t, info, aliasName := asName, span := some span,
                                 hasAggregate := l'.aggregateUses > l.aggregateUses,
                                 hasWindow := l'.windows.size > l.windows.size }]
        let grouped := !groupBy.isEmpty || (← topLevel).aggregateUses > 0
        let aliases := items.filterMap fun it => it.aliasName.map fun a =>
          ({ name := a, term := it.term, info := it.info, hasAggregate := it.hasAggregate,
             hasWindow := it.hasWindow } : ResultAlias)
        modifyTop fun l => { l with aliases, aliasesOn := true, clause := 2 }
        -- HAVING
        let having ← match having with
          | some h =>
            if !grouped then throw (Fault.error "HAVING clause on a non-aggregate query")
            else do pure (some (← bindExpr sub fuel { aggregates := true } h).1)
          | none => pure none
        -- WHERE, then the join conditions
        modifyTop fun l => { l with clause := 3 }
        let whereCtx : ExprCtx := { aggregates := grouped, lateAggregates := grouped }
        let mut conjuncts : List Conjunct := []
        for e in (filter.map (Expr.conjuncts 256)).getD [] do
          let before := (← get).refs.length
          let (t, _) ← bindExpr sub fuel whereCtx e
          let (own, outer) ← sourcesReadSince before
          conjuncts := conjuncts ++ [{ term := t, sources := own,
                                        constant := own.isEmpty && !outer && Term.steady 64 t }]
        -- the conditions of each join: its USING equalities, then its ON clause
        let mut joinTerms : List (List (Term × List Nat × Bool)) := []
        for (b, k) in srcs.zipIdx do
          let usingTerms := b.usingPairs.map fun ((li, lj), rj) =>
            let lb := (srcs.getD li b).scope
            let li' := lb.columnInfo lj
            let ri := b.scope.columnInfo rj
            let lcol := if lb.rowidColumn == some lj then none else some lj
            let rcol := if b.scope.rowidColumn == some rj then none else some rj
            (Term.compare .eq (compareAffinity li'.affinity ri.affinity) (compareCollation li' ri)
              (.column { depth := 0, source := li, column := lcol })
              (.column { depth := 0, source := k, column := rcol }), [li, k])
          let mut onTerms : List (Term × List Nat × Bool) :=
            usingTerms.map fun (t, ss) => (t, ss, false)
          for e in (b.on.map (Expr.conjuncts 256)).getD [] do
            let before := (← get).refs.length
            let (t, _) ← bindExpr sub fuel whereCtx e
            let (own, outer) ← sourcesReadSince before
            onTerms := onTerms ++ [(t, own, own.isEmpty && !outer && Term.steady 64 t)]
          joinTerms := joinTerms ++ [onTerms]
        -- outer joins that the WHERE clause makes inner
        let shapes := reduceJoins
          (JoinShape.ofKinds (srcs.map fun b => (b.outer, b.keepsUnmatched, b.cross)))
          (conjuncts.map (·.term)) (joinTerms.map (·.map (·.1)))
        let mut conditions : List WrittenCondition :=
          conjuncts.map fun c => { term := c.term, sources := c.sources }
        let mut ons : List (Option Term) := []
        for ((onTerms, shape), k) in (joinTerms.zip shapes).zipIdx do
          if shape.outer then
            conditions := conditions ++ onTerms.map fun (t, ss, _) =>
              { term := t, sources := ss, join := some k }
            ons := ons ++ [onTerms.foldl (fun acc (t, _, _) => match acc with
              | some a => some (Term.and a t)
              | none => some t) none]
          else
            conditions := conditions ++ onTerms.map fun (t, ss, _) =>
              { term := t, sources := ss, innerJoin := some k }
            ons := ons ++ [none]
            conjuncts := conjuncts ++ onTerms.map fun (t, ss, c) =>
              { term := t, sources := ss, constant := c, innerJoin := some k }
        -- the arguments of table-valued functions
        let mut arguments : List (List Term × List Nat) := []
        for b in srcs do
          let mut ts : List Term := []
          let mut reads : List Nat := []
          for e in b.arguments do
            let before := (← get).refs.length
            let (t, _) ← bindExpr sub fuel whereCtx e
            let (own, _) ← sourcesReadSince before
            ts := ts ++ [t]
            reads := reads ++ own
          arguments := arguments ++ [(ts, reads.eraseDups)]
        -- ORDER BY and GROUP BY see no level around this one
        modifyTop fun l => { l with sealed := true, clause := 1 }
        let orderCtx : ExprCtx := { aggregates := true, windows := true, lateAggregates := !grouped }
        let mut keys : List SortKey := []
        for (ot, idx) in orderBy.zipIdx do
          let e := ot.expr.skipCollate
          let written := ot.expr.writtenCollation?
          let outputKey (i : Nat) : SortKey :=
            let it := items.getD i { term := default, info := {} }
            { term := it.term, output := some i, collation := written.getD it.info.collationOr,
              descending := ot.descending, nullsFirst := ot.nullsFirst }
          match aliasIndex items e with
          | some i => keys := keys ++ [outputKey i]
          | none =>
            match e.ordinal? with
            | some n =>
              if n < 1 || n > items.length then
                throw (Fault.termRange (idx + 1) "ORDER" items.length)
              keys := keys ++ [outputKey (n.toNat - 1)]
            | none =>
              let (t, info) ← bindExpr sub fuel orderCtx ot.expr
              match matchingResult items t with
              | some i => keys := keys ++ [outputKey i]
              | none => keys := keys ++ [{ term := t, collation := info.collationOr,
                                            descending := ot.descending, nullsFirst := ot.nullsFirst }]
        modifyTop fun l => { l with clause := 3 }
        let mut groups : List (Term × Collation) := []
        let mut aggregated := false
        for (e, idx) in groupBy.zipIdx do
          let inner := e.skipCollate
          let written := e.writtenCollation?
          match inner.ordinal? with
          | some n =>
            if n < 1 || n > items.length then
              throw (Fault.termRange (idx + 1) "GROUP" items.length)
            let it := items.getD (n.toNat - 1) { term := default, info := {} }
            if it.hasAggregate then aggregated := true
            groups := groups ++ [(it.term, written.getD it.info.collationOr)]
          | none =>
            let before := (← topLevel).aggregateUses
            let (t, info) ← bindExpr sub fuel { aggregates := true } e
            if (← topLevel).aggregateUses > before then aggregated := true
            groups := groups ++ [(t, info.collationOr)]
        if aggregated then
          throw (Fault.error "aggregate functions are not allowed in the GROUP BY clause")
        pure (items, grouped, conjuncts, conditions, ons, having, keys, groups, arguments, shapes)
      for b in srcs do
        if let .document walk _ := b.rows then
          if b.arguments.length > DocumentWalk.maxArguments then
            throw (Fault.error ("too many arguments on " ++ walk.name ++ "() - max " ++
              toString DocumentWalk.maxArguments))
      let srcs := (srcs.zip arguments).map fun (b, (ts, reads)) =>
        match b.rows with
        | .document walk _ => { b with rows := .document walk ts, argumentReads := reads }
        | _ => b
      let chooser := (level.aggregates.toList.zipIdx.filter (·.1.fn.choosesRow)).foldl
        (fun (best : Option (Nat × Nat)) (_, i) =>
          let r := level.ranks.getD i 3
          match best with
          | some (j, rj) => if r > rj || (r == rj && i > j) then some (i, r) else best
          | none => some (i, r)) none
      let catalog ← read
      let refs := ((← get).refs.take ((← get).refs.length - refsStart)).filter (·.1 == levelIndex)
      let startRows : Int := match enclosing with
        | some l => if l.sources.any (fun x => !x.pseudo) then 48 else 0
        | none => 0
      let choice := planQuery (sourcePlan catalog srcs shapes refs written items keys groups
        grouped distinct (!level.windows.isEmpty) limitEst startRows)
      let (joins, early) := plannedJoins srcs shapes ons conjuncts choice
      let body : SelectBody :=
        { joins, sourceCount := srcs.length, filter := early, groupBy := groups, having,
          aggregates := level.aggregates.toList, windows := level.windows.toList,
          results := items.map (·.term), distinct, grouped, chooser := chooser.map (·.1),
          collations := items.map (·.info.collationOr) }
      pure { block := .select body, items, level, orderBy := keys }

/-- Bind a query with its common table expressions, compound, ordering and paging. -/
def bindSelectWith (sub : QueryBinder) : Nat → Select → BindM BoundQuery
  | 0, _ => throw Fault.tooDeep
  | fuel + 1, q => do
    let .mk _ ctes first rest orderBy limit offset := q
    withCtes ctes do
      let lim ← limit.mapM (bindPaging sub)
      let off ← offset.mapM (bindPaging sub)
      if rest.isEmpty && !(first matches .values _) then
        -- a constant LIMIT tells the planner how many rows are wanted
        let limitEst : Option Int := match lim with
          | some (.const (.integer n)) => if n.toInt > 0 then some (logEst n.toInt.toNat) else none
          | _ => none
        let bc ← bindCore sub fuel first orderBy limitEst
        let plan : Plan := { first := bc.block, orderBy := bc.orderBy, limit := lim, offset := off }
        pure { plan, columns := columnsOf bc.items,
               names := bc.items.zipIdx.map (fun (it, i) => it.outputName i),
               infos := bc.items.map (·.info) }
      else
        let members := (CompoundOp.unionAll, first) :: rest
        let mut cores : List BoundCore := []
        for ((_, c), i) in members.zipIdx.reverse do
          let bc ← bindCore sub fuel c [] none
          match cores.head? with
          | some next =>
            if next.items.length != bc.items.length then
              throw (widthFault (members.getD (i + 1) (.unionAll, c)).1 next.isValues)
          | none => pure ()
          cores := bc :: cores
        let keys ← compoundOrderBy sub fuel cores orderBy
        let c0 := cores.headD { block := .values [], items := [], level := {} }
        let width := c0.items.length
        let colls := (List.range width).map fun i =>
          (cores.findSome? fun c => (c.items.getD i { term := default, info := {} }).info.collation).getD
            .binary
        let plan : Plan :=
          { first := c0.block, rest := (rest.map (·.1)).zip ((cores.drop 1).map (·.block)),
            orderBy := keys, limit := lim, offset := off, collations := colls }
        pure { plan, columns := columnsOf c0.items,
               names := c0.items.zipIdx.map (fun (it, i) => it.outputName i),
               infos := c0.items.map (·.info) }

end

/-- The deepest nesting of subqueries a statement may have. -/
def queryFuel : Nat := 250

/-- The fuel of the binding of one query's sources and compound. -/
def sourceFuel : Nat := 1000

/-- Bind a query, its subqueries bound the same way. -/
def bindSelect : Nat → Select → BindM BoundQuery
  | 0, _ => throw Fault.tooDeep
  | fuel + 1, q => bindSelectWith (bindSelect fuel) sourceFuel q

/-- Bind an expression whose subqueries are bound as queries. -/
def bindExprTerm (ctx : ExprCtx) (e : Expr) : BindM (Term × TermInfo) :=
  bindTerm (bindSelect queryFuel) ctx e

end Database

end EntityGraph
