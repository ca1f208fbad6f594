import EntityGraph.Database.Engine

/-!
# Scopes of names

Binding settles every name of a statement against the schema and the queries around it. This
module holds what binding keeps while it works:

- the query levels a name can be found in (`Level`), innermost first, each with its sources
  (`ScopeSource`), the aliases of its results once they may be used, and the aggregates and
  window functions its expressions have asked for;
- the common table expressions in scope (`CteDef`), in the groups their `WITH` clauses made;
- what binding knows of an expression besides its term (`TermInfo`): its affinity and
  collation, which decide how it compares, and the column name it carries into a result;
- the built-in functions by name and number of arguments (`lookupFunction`).

Rules that fix the results:
- A name is looked for in the innermost level first; within a level in every source, a name
  found twice being ambiguous unless the later source joined on it with `USING`. Such a name
  stands for the leftmost source's column, the right source's column after a `RIGHT` join, and
  the first of the joined columns that is not null after a `FULL` join. `rowid`, `oid`
  and `_rowid_` stand for the row id when no column has that name and exactly one source has
  row ids. A bare name may then be a result alias of the level, where aliases are visible
  (`HAVING`, `WHERE`, `ORDER BY`, `GROUP BY`). The level of an `ORDER BY` or `GROUP BY` is the
  last one searched.
- A comparison takes the affinity of its operands: numeric when both have one and either is
  numeric, none when both have one and neither is numeric, and otherwise the one that has one.
  Its collation is that of the left operand if written with `COLLATE`, else of the right if so
  written, else of the left column, else of the right column, else binary.
- A function name matches an entry with exactly its number of arguments before one that takes
  a range of counts.
-/

namespace EntityGraph

namespace Database

/-- What binding knows of an expression besides its term. -/
structure TermInfo where
  affinity : Option Affinity := none
  /-- The collation it carries: a column's own, or one written with `COLLATE`. -/
  collation : Option Collation := none
  /-- Whether the collation was written with `COLLATE` somewhere inside. -/
  explicit : Bool := false
  /-- The column's name when the expression is a plain column reference. -/
  columnName : Option String := none
  /-- The column's name when the expression is a column reference, possibly under `COLLATE`
  or `likely`. -/
  baseName : Option String := none
  deriving Inhabited

namespace TermInfo

/-- What an operator's result keeps of its operands: the collation of the first operand that
was written with `COLLATE`, if any. -/
def inherit (infos : List TermInfo) : TermInfo :=
  match infos.find? (·.explicit) with
  | some i => { collation := i.collation, explicit := true }
  | none => {}

/-- The collation an expression sorts and compares under when alone. -/
def collationOr (i : TermInfo) : Collation := i.collation.getD .binary

end TermInfo

/-- The affinity a comparison of two operands applies. -/
def compareAffinity (a b : Option Affinity) : Option Affinity :=
  match a, b with
  | some x, some y => if x.isNumeric || y.isNumeric then some .numeric else some .blob
  | some x, none => some x
  | none, y => y

/-- The collation a comparison of two operands uses. -/
def compareCollation (a b : TermInfo) : Collation :=
  if a.explicit then a.collationOr
  else if b.explicit then b.collationOr
  else
    match a.collation with
    | some c => c
    | none => b.collationOr

/-- A source of a query level as names see it. -/
structure ScopeSource where
  /-- Its alias, else the table's name; empty for a subquery without an alias. -/
  name : String
  /-- The schema of a stored table or view. -/
  schema : Option SchemaId := none
  columns : List ColumnInfo
  hasRowid : Bool := false
  /-- The column that is the row id. -/
  rowidColumn : Option Nat := none
  /-- The columns of its `USING` clause, which an earlier source already shows. -/
  hidden : List String := []
  /-- Joined by `RIGHT` or `FULL` join: a name of its `USING` clause stands for its own column
  under `RIGHT`, and for the first of the joined columns that is not null under `FULL`. -/
  rightJoined : Bool := false
  /-- Joined by `LEFT` or `FULL` join. -/
  leftJoined : Bool := false
  /-- How many of its leading columns a star stands for, when not all: a table-valued function's
  arguments are columns that a star leaves out. -/
  starWidth : Option Nat := none
  /-- Found only by a qualified name, after the ordinary sources: `new`, `old`, `excluded`. -/
  pseudo : Bool := false
  /-- The stored table read, for choosing how to read it. -/
  table : Option Table := none
  deriving Inhabited

/-- A result column that names may stand for. -/
structure ResultAlias where
  name : String
  term : Term
  info : TermInfo
  hasAggregate : Bool := false
  hasWindow : Bool := false

/-- A query level being bound. -/
structure Level where
  sources : Array ScopeSource := #[]
  aliases : List ResultAlias := []
  aliasesOn : Bool := false
  aggregates : Array AggregateCall := #[]
  /-- For each aggregate, the earliest clause it was written in: results, ordering, `HAVING`. -/
  ranks : Array Nat := #[]
  /-- How many aggregate calls this level has been asked for, repeated ones included. -/
  aggregateUses : Nat := 0
  windows : Array WindowCall := #[]
  windowDefs : List (String × Window) := []
  /-- Names are not looked for beyond this level. -/
  sealed : Bool := false
  /-- The clause being bound, which orders the aggregates asked for in it: 0 for the results,
  1 for the ordering, 2 for `HAVING`, 3 for the others. -/
  clause : Nat := 3

/-- A common table expression in scope. -/
structure CteDef where
  name : String
  columns : Option (List String)
  query : Select
  /-- The number of query levels around its definition. -/
  depth : Nat
  /-- The number of `WITH` groups visible to it, its own included. -/
  scope : Nat

/-- A recursive common table expression being bound: its name and columns. -/
structure Recursing where
  name : String
  columns : List ColumnInfo

/-- What binding keeps while it works. -/
structure BindState where
  /-- The query levels, innermost first. -/
  levels : List Level := []
  /-- The groups of common table expressions, innermost first. -/
  ctes : List (List CteDef) := []
  recursing : List Recursing := []
  /-- Common table expressions and views being bound, which may not refer to themselves. -/
  expanding : List String := []
  /-- Every column read: the level counted from the outermost, the source and the column. -/
  refs : List (Nat × Nat × Option Nat) := []
  /-- How many times a recursive common table expression has named itself. -/
  selfRefs : Nat := 0
  /-- A fault found while binding that is reported only if nothing else fails. -/
  deferred : Option Fault := none
  /-- Tables are looked up in this schema only: inside a view or trigger of the main one. -/
  fixedSchema : Option SchemaId := none
  /-- Whether `RAISE` may be used: inside a trigger. -/
  inTrigger : Bool := false

/-- The binding monad: the catalog to read, the binding state, and faults. -/
abbrev BindM := ReaderT Catalog (StateT BindState (Except Fault))

/-- Record a fault for the end of binding, unless one is recorded already. -/
def deferFault (f : Fault) : BindM Unit :=
  modify fun s => if s.deferred.isSome then s else { s with deferred := some f }

/-- Change the innermost level. -/
def modifyTop (f : Level → Level) : BindM Unit :=
  modify fun s => match s.levels with
    | l :: rest => { s with levels := f l :: rest }
    | [] => s

/-- The innermost level. -/
def topLevel : BindM Level := do
  pure ((← get).levels.headD {})

/-- Run an action with a level pushed, giving the level as the action left it. -/
def withLevel {α : Type} (l : Level) (act : BindM α) : BindM (α × Level) := do
  modify fun s => { s with levels := l :: s.levels }
  let r ← act
  let s ← get
  let top := s.levels.headD {}
  set { s with levels := s.levels.drop 1 }
  pure (r, top)

/-- Run an action with only the outermost `keep` levels in scope, restoring the others after. -/
def withOuterLevels {α : Type} (keep : Nat) (act : BindM α) : BindM α := do
  let s ← get
  let inner := s.levels.take (s.levels.length - keep)
  set { s with levels := s.levels.drop (s.levels.length - keep) }
  let r ← act
  modify fun s' => { s' with levels := inner ++ s'.levels }
  pure r

/-- Whether a name is one of the names of the row id. -/
def isRowidName (n : String) : Bool :=
  sameName n "rowid" || sameName n "oid" || sameName n "_rowid_"

/-- Whether a schema name as written denotes a schema. -/
def schemaMatches (written : String) (id : SchemaId) : Bool :=
  Catalog.schemaOf? written == some id

/-- What a column of a source is as an expression. -/
def ScopeSource.columnInfo (src : ScopeSource) (j : Nat) : TermInfo :=
  let c := src.columns.getD j { name := "" }
  if src.rowidColumn == some j then
    { affinity := some .integer, columnName := some c.name, baseName := some c.name }
  else
    { affinity := c.affinity, collation := some c.collation, columnName := some c.name,
      baseName := some c.name }

/-- What the row id of a source is as an expression. -/
def ScopeSource.rowidInfo (src : ScopeSource) : TermInfo :=
  let name := match src.rowidColumn with
    | some j => (src.columns.getD j { name := "rowid" }).name
    | none => "rowid"
  { affinity := some .integer, columnName := some name, baseName := some name }

/-- The columns a star stands for, with their places. -/
def ScopeSource.starColumns (src : ScopeSource) : List (ColumnInfo × Nat) :=
  match src.starWidth with
  | some w => src.columns.zipIdx.take w
  | none => src.columns.zipIdx

/-- How a name was found in one level. -/
inductive NameMatch where
  | none
  /-- A column of a source (none for the row id), with what it is. -/
  | column (source : Nat) (column : Option Nat) (info : TermInfo)
  | ambiguous
  | aliasName (a : ResultAlias)
  /-- A column of a `USING` clause of `FULL` joins: the first of the joined columns that is not
  null. -/
  | merged (columns : List (Nat × Option Nat))

/-- Look a column name up in the sources of one level. -/
def Level.find (level : Level) (schema table : Option String) (col : String) : NameMatch := Id.run do
  let mut count := 0
  let mut found : NameMatch := .none
  -- the columns found before, which a FULL join's USING column merges
  let mut merged : List (Nat × Option Nat) := []
  let mut rowidCount := 0
  let mut rowidAt : Option Nat := none
  let srcs := level.sources.toList.zipIdx
  for (src, i) in srcs do
    let visible := !src.pseudo &&
      (match table with
        | some t => sameName t src.name &&
          (match schema with
            | some s => (src.schema.map (schemaMatches s)).getD false
            | none => true)
        | none => true)
    if visible then
      match src.columns.findIdx? (fun c => sameName c.name col) with
      | some j =>
        let joined := src.hidden.any (sameName · col)
        -- an inner or left join on the column keeps the leftmost source's column
        if !(count > 0 && joined && !src.rightJoined) then
          if count > 0 then
            if !joined then merged := []
            else if !src.leftJoined then
              count := 0
              merged := []
            else
              match found with
              | .column pi pc _ => merged := merged ++ [(pi, pc)]
              | _ => pure ()
          count := count + 1
          let ref := if src.rowidColumn == some j then none else some j
          found := .column i ref (src.columnInfo j)
      | none =>
        if count == 0 && src.hasRowid then
          rowidCount := rowidCount + 1
          rowidAt := some i
  if count == 0 && schema.isNone then
    if let some t := table then
      for (src, i) in srcs do
        if count == 0 && src.pseudo && sameName t src.name then
          match src.columns.findIdx? (fun c => sameName c.name col) with
          | some j =>
            count := 1
            found := .column i (if src.rowidColumn == some j then none else some j) (src.columnInfo j)
          | none =>
            if isRowidName col && src.hasRowid then
              count := 1
              found := .column i none src.rowidInfo
  if count == 0 && rowidCount ≥ 1 && isRowidName col then
    count := rowidCount
    if let some i := rowidAt then
      found := .column i none ((level.sources.toList.getD i { name := "", columns := [] }).rowidInfo)
  if count == 0 && level.aliasesOn && table.isNone then
    match level.aliases.find? (fun a => sameName a.name col) with
    | some a => return NameMatch.aliasName a
    | none => pure ()
  if count > 1 then
    match found with
    | .column i c _ =>
      if merged.length + 1 == count then return NameMatch.merged (merged ++ [(i, c)])
      else return NameMatch.ambiguous
    | _ => return NameMatch.ambiguous
  else return found

/-- What a name stands for. -/
inductive Resolved where
  | term (t : Term) (info : TermInfo)
  | aliasName (a : ResultAlias)
  | missing

/-- The text of a name as written, for messages. -/
def nameText (schema table : Option String) (col : String) : String :=
  match schema, table with
  | some s, some t => s ++ "." ++ t ++ "." ++ col
  | _, some t => t ++ "." ++ col
  | _, none => col

/-- Find what a column name stands for, innermost level first, recording the column read. -/
def lookupName (schema table : Option String) (col : String) : BindM Resolved := do
  let levels := (← get).levels
  let n := levels.length
  let rec go : List Level → Nat → BindM Resolved
    | [], _ => pure .missing
    | l :: rest, d =>
      match l.find schema table col with
      | .column i c info => do
        modify fun s => { s with refs := (n - 1 - d, i, c) :: s.refs }
        pure (.term (.column { depth := d, source := i, column := c }) info)
      | .merged cols => do
        modify fun s => { s with refs := (cols.map fun (i, c) => (n - 1 - d, i, c)) ++ s.refs }
        pure (.term (.coalesce (cols.map fun (i, c) => .column { depth := d, source := i, column := c }))
          {})
      | .ambiguous => throw (Fault.error ("ambiguous column name: " ++ nameText schema table col))
      | .aliasName a => if d == 0 then pure (.aliasName a) else if l.sealed then pure .missing else go rest (d + 1)
      | .none => if l.sealed then pure .missing else go rest (d + 1)
  go levels 0

/-! ## Built-in functions -/

/-- What a function name stands for at a number of arguments. -/
inductive FunctionKind where
  | scalar (b : Builtin)
  | aggregate (f : AggregateFn)
  | window (f : RankFn)
  /-- `coalesce` and `ifnull`. -/
  | coalesce
  /-- `iif` and `if`. -/
  | choice
  /-- `likely`, `unlikely` and `likelihood`: the first argument. -/
  | passThrough
  deriving Inhabited, BEq

/-- The numbers of arguments a function entry takes. -/
inductive Arity where
  | exactly (n : Nat)
  | atLeast (n : Nat)
  deriving BEq

/-- The entries of a function name, in lower case. -/
def functionEntries (name : String) : List (Arity × FunctionKind) :=
  let one (b : Builtin) (ns : List Nat) := ns.map fun n => (Arity.exactly n, FunctionKind.scalar b)
  match name with
  | "ltrim" => one .ltrim [1, 2]
  | "rtrim" => one .rtrim [1, 2]
  | "trim" => one .trim [1, 2]
  | "min" => [(.atLeast 1, .scalar .min), (.exactly 1, .aggregate .min)]
  | "max" => [(.atLeast 1, .scalar .max), (.exactly 1, .aggregate .max)]
  | "typeof" => one .typeof [1]
  | "subtype" => one .subtype [1]
  | "length" => one .length [1]
  | "octet_length" => one .octetLength [1]
  | "instr" => one .instr [2]
  | "printf" | "format" => [(.atLeast 0, .scalar .printf)]
  | "unicode" => one .unicode [1]
  | "char" => [(.atLeast 0, .scalar .char)]
  | "abs" => one .abs [1]
  | "sign" => one .sign [1]
  | "round" => one .round [1, 2]
  | "upper" => one .upper [1]
  | "lower" => one .lower [1]
  | "hex" => one .hex [1]
  | "unhex" => one .unhex [1, 2]
  | "concat" => [(.atLeast 1, .scalar .concat)]
  | "concat_ws" => [(.atLeast 2, .scalar .concatWs)]
  | "ifnull" => [(.exactly 2, .coalesce)]
  | "coalesce" => [(.atLeast 2, .coalesce)]
  | "iif" | "if" => [(.atLeast 2, .choice)]
  | "random" => one .random [0]
  | "randomblob" => one .randomblob [1]
  | "nullif" => one .nullif [2]
  | "sqlite_version" => one .version [0]
  | "sqlite_source_id" => one .sourceId [0]
  | "sqlite_log" => one .log [2]
  | "quote" => one .quote [1]
  | "last_insert_rowid" => one .lastInsertRowid [0]
  | "changes" => one .changes [0]
  | "total_changes" => one .totalChanges [0]
  | "replace" => one .replace [3]
  | "zeroblob" => one .zeroblob [1]
  | "substr" | "substring" => one .substr [2, 3]
  | "like" => one .like [2, 3]
  | "glob" => one .glob [2]
  | "soundex" => one .soundex [1]
  | "sqlite_compileoption_used" => one .compileOptionUsed [1]
  | "sqlite_compileoption_get" => one .compileOptionGet [1]
  | "julianday" => [(.atLeast 0, .scalar .julianday)]
  | "unixepoch" => [(.atLeast 0, .scalar .unixepoch)]
  | "date" => [(.atLeast 0, .scalar .date)]
  | "time" => [(.atLeast 0, .scalar .time)]
  | "datetime" => [(.atLeast 0, .scalar .datetime)]
  | "strftime" => [(.atLeast 0, .scalar .strftime)]
  | "timediff" => one .timediff [2]
  | "current_date" => one .currentDate [0]
  | "current_time" => one .currentTime [0]
  | "current_timestamp" => one .currentTimestamp [0]
  | "json" => one (.json .json false) [1]
  | "json_array" => [(.atLeast 0, .scalar (.json .array false))]
  | "json_array_length" => one (.json .arrayLength false) [1, 2]
  | "json_error_position" => one (.json .errorPosition false) [1]
  | "json_extract" => [(.atLeast 0, .scalar (.json .extract false))]
  | "json_insert" => [(.atLeast 0, .scalar (.json .insert false))]
  | "json_object" => [(.atLeast 0, .scalar (.json .object false))]
  | "json_patch" => one (.json .patch false) [2]
  | "json_pretty" => one (.json .pretty false) [1, 2]
  | "json_quote" => one (.json .quote false) [1]
  | "json_remove" => [(.atLeast 0, .scalar (.json .remove false))]
  | "json_replace" => [(.atLeast 0, .scalar (.json .replace false))]
  | "json_set" => [(.atLeast 0, .scalar (.json .set false))]
  | "json_type" => one (.json .type false) [1, 2]
  | "json_valid" => one (.json .valid false) [1, 2]
  | "->" => one (.json .arrow false) [2]
  | "->>" => one (.json .arrowValue false) [2]
  | "json_group_array" => [(.exactly 1, .aggregate (.jsonArray false false))]
  | "json_group_object" => [(.exactly 2, .aggregate (.jsonObject false false))]
  | "jsonb" => one (.json .json true) [1]
  | "jsonb_array" => [(.atLeast 0, .scalar (.json .array true))]
  | "jsonb_extract" => [(.atLeast 0, .scalar (.json .extract true))]
  | "jsonb_insert" => [(.atLeast 0, .scalar (.json .insert true))]
  | "jsonb_object" => [(.atLeast 0, .scalar (.json .object true))]
  | "jsonb_patch" => one (.json .patch true) [2]
  | "jsonb_remove" => [(.atLeast 0, .scalar (.json .remove true))]
  | "jsonb_replace" => [(.atLeast 0, .scalar (.json .replace true))]
  | "jsonb_set" => [(.atLeast 0, .scalar (.json .set true))]
  | "jsonb_group_array" => [(.exactly 1, .aggregate (.jsonArray false true))]
  | "jsonb_group_object" => [(.exactly 2, .aggregate (.jsonObject false true))]
  | "likely" | "unlikely" => [(.exactly 1, .passThrough)]
  | "likelihood" => [(.exactly 2, .passThrough)]
  | "count" => [(.exactly 0, .aggregate .countAll), (.exactly 1, .aggregate .count)]
  | "sum" => [(.exactly 1, .aggregate .sum)]
  | "total" => [(.exactly 1, .aggregate .total)]
  | "avg" => [(.exactly 1, .aggregate .avg)]
  | "group_concat" => [(.exactly 1, .aggregate .groupConcat), (.exactly 2, .aggregate .groupConcat)]
  | "string_agg" => [(.exactly 2, .aggregate .groupConcat)]
  | "row_number" => [(.exactly 0, .window .rowNumber)]
  | "rank" => [(.exactly 0, .window .rank)]
  | "dense_rank" => [(.exactly 0, .window .denseRank)]
  | "percent_rank" => [(.exactly 0, .window .percentRank)]
  | "cume_dist" => [(.exactly 0, .window .cumeDist)]
  | "ntile" => [(.exactly 1, .window .ntile)]
  | "lead" => [(.exactly 1, .window .lead), (.exactly 2, .window .lead), (.exactly 3, .window .lead)]
  | "lag" => [(.exactly 1, .window .lag), (.exactly 2, .window .lag), (.exactly 3, .window .lag)]
  | "first_value" => [(.exactly 1, .window .firstValue)]
  | "last_value" => [(.exactly 1, .window .lastValue)]
  | "nth_value" => [(.exactly 2, .window .nthValue)]
  | _ => []

/-- How a function name and number of arguments were found. -/
inductive FunctionLookup where
  | found (kind : FunctionKind)
  /-- The name exists, but not for this number of arguments; the kind of its first entry. -/
  | wrongCount (kind : FunctionKind)
  | missing

/-- Look a function up by name and number of arguments. -/
def lookupFunction (name : String) (argc : Nat) : FunctionLookup :=
  let entries := functionEntries name.toLower
  match entries.find? (fun (a, _) => a == .exactly argc) with
  | some (_, k) => .found k
  | none =>
    match entries.find? (fun (a, _) => match a with
        | .atLeast n => n ≤ argc
        | .exactly _ => false) with
    | some (_, k) => .found k
    | none =>
      match entries with
      | (_, k) :: _ => .wrongCount k
      | [] => .missing

/-- Whether a term gives text that carries the JSON mark: a call of a JSON function that always
marks what it gives. -/
def Term.givesJson : Term → Bool
  | .call (.json f false) _ args => f.marks args.length
  | _ => false

/-- An aggregate with what its arguments give noted: whether the value of `json_group_array` or
`json_group_object` is JSON text. -/
def AggregateFn.withArgs (f : AggregateFn) (args : List Term) : AggregateFn :=
  match f with
  | .jsonArray _ binary => .jsonArray (args.headD (.const .null)).givesJson binary
  | .jsonObject _ binary => .jsonObject (args.getD 1 (.const .null)).givesJson binary
  | f => f

/-- Whether an aggregate's value carries the JSON mark. -/
def AggregateFn.givesJson : AggregateFn → Bool
  | .jsonArray _ _ | .jsonObject _ _ => true
  | _ => false

/-- Whether an aggregate gives its document in the binary form. -/
def AggregateFn.givesBinary : AggregateFn → Bool
  | .jsonArray _ binary | .jsonObject _ binary => binary
  | _ => false

/-- Whether a function's collation comes from its arguments: `min`, `max` and `nullif`. -/
def FunctionKind.needsCollation : FunctionKind → Bool
  | .scalar .min | .scalar .max | .scalar .nullif | .aggregate .min | .aggregate .max => true
  | _ => false

/-- Whether a function always gives the same result for the same arguments, so that it may be
used in an index or a generated column. -/
def FunctionKind.deterministic : FunctionKind → Bool
  | .scalar b =>
    match b with
    | .random | .randomblob | .lastInsertRowid | .changes | .totalChanges | .version
    | .sourceId | .currentDate | .currentTime | .currentTimestamp | .julianday | .unixepoch
    | .date | .time | .datetime | .strftime | .timediff => false
    | _ => true
  | _ => true

/-! ## Literals -/

/-- The value of a hexadecimal digit. -/
def hexDigit (c : Char) : Nat :=
  if '0' ≤ c && c ≤ '9' then c.toNat - '0'.toNat
  else if 'a' ≤ c && c ≤ 'f' then c.toNat - 'a'.toNat + 10
  else if 'A' ≤ c && c ≤ 'F' then c.toNat - 'A'.toNat + 10
  else 0

/-- The value of an integer literal, negated when written after a minus sign: a 64-bit integer
when it fits (hexadecimal ones as 64-bit patterns), a real otherwise. -/
def integerLiteral (text : String) (negated : Bool) : Except Fault Datum :=
  let cs := text.toList
  match cs with
  | '0' :: x :: hex =>
    if x == 'x' || x == 'X' then
      let digits := hex.dropWhile (· == '0')
      let v := hex.foldl (fun acc c => acc * 16 + hexDigit c) 0
      let i : Int := if v ≥ 2 ^ 63 then (v : Int) - 2 ^ 64 else v
      if digits.length > 16 || (negated && i == -(2 ^ 63)) then
        throw (Fault.error ("hex literal too big: " ++ (if negated then "-" else "") ++ text))
      else pure (Datum.ofInt (if negated then -i else i))
    else decimal cs
  | _ => decimal cs
where
  decimal (cs : List Char) : Except Fault Datum :=
    let b := Bytes.ofString (String.ofList cs)
    let (n, code) := readInteger b
    if code == 0 then pure (Datum.ofInt (if negated then -n else n))
    else if code == 3 && negated then pure (Datum.ofInt (-(2 ^ 63)))
    else
      let x := (readReal b).1
      pure (.real (if negated then x.negate else x))

/-- The value of a real literal, negated when written after a minus sign. -/
def realLiteral (text : String) (negated : Bool) : Datum :=
  let x := (readReal (Bytes.ofString text)).1
  .real (if negated then x.negate else x)

end Database

end EntityGraph
