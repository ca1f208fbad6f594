import EntityGraph.Database.Datum

/-!
# Statements

The abstract syntax of the statements the store runs: queries with common table expressions,
compounds, joins, grouping, windows, ordering and paging; the three kinds of writes with their
conflict handling and returned rows; definitions of tables, indexes, views and triggers and
their removal; changes of a table's definition; transaction control; settings.

Expressions and queries nest in each other, so they are one mutual family. An expression keeps
names as written: which table and column a name stands for is settled later, against the
definitions in force when the statement runs.
-/

namespace EntityGraph

namespace Database

/-- Operators between two operands. -/
inductive BinaryOp where
  | or | and
  | eq | ne | lt | le | gt | ge
  /-- Equality under which null equals null. -/
  | is
  | isNot
  | add | sub | mul | div | rem
  | concat
  | bitAnd | bitOr | shiftLeft | shiftRight
  deriving DecidableEq, Inhabited, Repr

/-- Operators before one operand. -/
inductive UnaryOp where
  | neg | plus | not | bitNot
  deriving DecidableEq, Inhabited, Repr

/-- The pattern-matching operators, each a call of the function of the same name. -/
inductive PatternOp where
  | like | glob | regexp | matches
  deriving DecidableEq, Inhabited, Repr

/-- The function a pattern operator calls. -/
def PatternOp.functionName : PatternOp → String
  | .like => "like"
  | .glob => "glob"
  | .regexp => "regexp"
  | .matches => "match"

/-- How the rows of a window frame are counted. -/
inductive FrameUnit where
  | rows | range | groups
  deriving DecidableEq, Inhabited, Repr

/-- Which rows of a frame are left out. -/
inductive FrameExclusion where
  | noOthers | currentRow | group | ties
  deriving DecidableEq, Inhabited, Repr

/-- The ways two queries combine. -/
inductive CompoundOp where
  | union | unionAll | intersect | except
  deriving DecidableEq, Inhabited, Repr

/-- The text of a compound operator. -/
def CompoundOp.text : CompoundOp → String
  | .union => "UNION"
  | .unionAll => "UNION ALL"
  | .intersect => "INTERSECT"
  | .except => "EXCEPT"

/-- How a source joins the ones before it. -/
structure JoinKind where
  natural : Bool := false
  left : Bool := false
  right : Bool := false
  /-- Written as `CROSS JOIN`, which keeps the order of the sources. -/
  cross : Bool := false
  deriving DecidableEq, Inhabited, Repr

mutual

/-- An expression as written. -/
inductive Expr where
  | null
  /-- An integer literal, as written without digit separators. -/
  | integer (text : String)
  /-- A real literal, as written without digit separators. -/
  | float (text : String)
  | string (s : String)
  | blob (b : Bytes)
  /-- A parameter, by its 1-based position. -/
  | param (index : Nat)
  /-- A bare name; `doubleQuoted` when written in double quotes, so that it may stand for a
  string when no column has that name. -/
  | name (n : String) (doubleQuoted : Bool)
  /-- A name qualified by a table, and possibly by a schema before that. -/
  | qualified (schema : Option String) (table : String) (column : String)
  | unary (op : UnaryOp) (e : Expr)
  | binary (op : BinaryOp) (a b : Expr)
  /-- `e IS [NOT] TRUE` or `FALSE`. -/
  | truth (e : Expr) (value : Bool) (negated : Bool)
  | pattern (op : PatternOp) (negated : Bool) (subject pattern : Expr) (escape : Option Expr)
  | isNull (negated : Bool) (e : Expr)
  | between (negated : Bool) (e low high : Expr)
  | inList (negated : Bool) (e : Expr) (items : List Expr)
  | inSelect (negated : Bool) (e : Expr) (q : Select)
  | exists (q : Select)
  /-- A query giving one value: the first column of its first row. -/
  | subquery (q : Select)
  /-- A function call; `star` for a call written with `*`, and the order an aggregate takes
  its rows in. -/
  | call (name : String) (distinct : Bool) (star : Bool) (args : List Expr)
      (orderBy : List OrderTerm) (filter : Option Expr) (windowSpec : Option Window)
  | cast (e : Expr) (typeName : String)
  | case (operand : Option Expr) (branches : List (Expr × Expr)) (otherwise : Option Expr)
  | collate (e : Expr) (collation : String)
  /-- A row value: several expressions in parentheses. -/
  | vector (items : List Expr)
  /-- `RAISE(...)` in a trigger: the action, and the message for all but `IGNORE`. -/
  | raise (action : String) (message : Option Expr)

/-- A window: a named one, or one written out on top of an optional named one. -/
inductive Window where
  | named (name : String)
  | spec (base : Option String) (partitionBy : List Expr) (orderBy : List OrderTerm)
      (frame : Option Frame)

/-- A window frame. -/
inductive Frame where
  | mk (unit : FrameUnit) (start finish : FrameBound) (exclusion : FrameExclusion)

/-- One end of a window frame. -/
inductive FrameBound where
  | unboundedPreceding
  | preceding (e : Expr)
  | currentRow
  | following (e : Expr)
  | unboundedFollowing

/-- One key of an ordering: the expression, descending or not, and where nulls go when said. -/
inductive OrderTerm where
  | mk (e : Expr) (descending : Bool) (nullsFirst : Option Bool)

/-- One entry of a query's result list. -/
inductive ResultColumn where
  /-- `*`: every column of every source. -/
  | all
  /-- `t.*`: every column of one source. -/
  | allOf (table : String)
  /-- An expression with its alias and the text it was written as. -/
  | expr (e : Expr) (asName : Option String) (span : String)

/-- A source of rows in `FROM`. -/
inductive Source where
  /-- A table, view or common table expression, with its alias and the index it must use. -/
  | table (schema : Option String) (name : String) (asName : Option String)
      (indexedBy : Option (Option String))
  /-- A table-valued function. -/
  | function (name : String) (args : List Expr) (asName : Option String)
  | select (q : Select) (asName : Option String)
  /-- Joined sources in parentheses. -/
  | nested (items : List JoinItem) (asName : Option String)

/-- A source and how it joins the ones before it. -/
inductive JoinItem where
  | mk (kind : JoinKind) (source : Source) (on : Option Expr) (usingColumns : List String)

/-- One query of a compound, or a list of literal rows. -/
inductive SelectCore where
  | select (distinct : Bool) (columns : List ResultColumn) (sources : List JoinItem)
      (filter : Option Expr) (groupBy : List Expr) (having : Option Expr)
      (windows : List (String × Window))
  | values (rows : List (List Expr))

/-- A common table expression: its name, column names, whether it must be materialized, and
its query. -/
inductive CommonTable where
  | mk (name : String) (columns : Option (List String)) (materialized : Option Bool) (q : Select)

/-- A query: common table expressions, a compound of cores, ordering and paging. -/
inductive Select where
  | mk (recursive : Bool) (ctes : List CommonTable) (first : SelectCore)
      (rest : List (CompoundOp × SelectCore)) (orderBy : List OrderTerm) (limit : Option Expr)
      (offset : Option Expr)

end

instance : Inhabited Expr := ⟨.null⟩

instance : Inhabited SelectCore := ⟨.values []⟩

instance : Inhabited Select := ⟨.mk false [] default [] [] none none⟩

namespace OrderTerm

/-- The expression of an ordering key. -/
def expr : OrderTerm → Expr
  | .mk e _ _ => e

/-- Whether an ordering key is descending. -/
def descending : OrderTerm → Bool
  | .mk _ d _ => d

/-- Where nulls go, when said. -/
def nullsFirst : OrderTerm → Option Bool
  | .mk _ _ n => n

end OrderTerm

/-- A query of one core without ordering or paging. -/
def Select.ofCore (c : SelectCore) : Select := .mk false [] c [] [] none none

/-- How a statement resolves a conflict with a constraint. -/
inductive ConflictAction where
  | rollback | abort | fail | ignore | replace
  deriving DecidableEq, Inhabited, Repr

/-- A table or other object named in a statement, with the schema it is qualified by. -/
structure QualifiedName where
  schema : Option String := none
  name : String
  deriving Inhabited, Repr

/-- A column of an index or key: a name or expression, its collation and direction. -/
structure IndexedColumn where
  expr : Expr
  collation : Option String := none
  descending : Bool := false
  deriving Inhabited

/-- What happens to referencing rows when a referenced row is deleted or updated. -/
inductive ForeignAction where
  | noAction | restrict | setNull | setDefault | cascade
  deriving DecidableEq, Inhabited, Repr

/-- A foreign key: the referenced table and columns, the actions, and whether checks wait for
the end of the transaction. -/
structure ForeignKey where
  table : String
  columns : List String
  onDelete : ForeignAction := .noAction
  onUpdate : ForeignAction := .noAction
  deferred : Bool := false
  deriving Inhabited, Repr

/-- A constraint on one column. -/
inductive ColumnConstraint where
  | primaryKey (descending : Bool) (conflict : Option ConflictAction) (autoincrement : Bool)
  | notNull (conflict : Option ConflictAction)
  | nullable
  | unique (conflict : Option ConflictAction)
  /-- A check, with its name (or its text when unnamed). -/
  | check (e : Expr) (label : String)
  /-- A default value, with the text it was written as. -/
  | default (e : Expr) (text : String)
  | collate (name : String)
  | references (fk : ForeignKey)
  | generated (e : Expr) (stored : Bool)
  deriving Inhabited

/-- A column of a table definition. -/
structure ColumnDefinition where
  name : String
  typeName : String := ""
  constraints : List ColumnConstraint := []
  deriving Inhabited

/-- A constraint on a table. -/
inductive TableConstraint where
  | primaryKey (columns : List IndexedColumn) (conflict : Option ConflictAction) (autoincrement : Bool)
  | unique (columns : List IndexedColumn) (conflict : Option ConflictAction)
  | check (e : Expr) (label : String)
  | foreignKey (columns : List String) (fk : ForeignKey)
  deriving Inhabited

/-- The body of `CREATE TABLE`: columns and constraints, or a query. -/
inductive TableBody where
  | columns (cols : List ColumnDefinition) (constraints : List TableConstraint)
      (withoutRowid : Bool) (strict : Bool)
  | query (q : Select)
  deriving Inhabited

/-- The rows an insertion writes. -/
inductive InsertSource where
  | values (rows : List (List Expr))
  | select (q : Select)
  | defaults
  deriving Inhabited

/-- An assignment of `UPDATE`: one column, or several from a row value. -/
structure Assignment where
  columns : List String
  value : Expr
  deriving Inhabited

/-- What an insertion does when a row conflicts with a uniqueness constraint. -/
inductive UpsertAction where
  | nothing
  | update (sets : List Assignment) (filter : Option Expr)
  deriving Inhabited

/-- An `ON CONFLICT` clause: the constraint it is for (columns and a condition), and what to
do. -/
structure Upsert where
  target : Option (List IndexedColumn × Option Expr)
  action : UpsertAction
  deriving Inhabited

/-- When a trigger fires relative to its event. -/
inductive TriggerTime where
  | before | after | insteadOf
  deriving DecidableEq, Inhabited, Repr

/-- The event of a trigger. -/
inductive TriggerEvent where
  | insert | delete
  | update (columns : Option (List String))
  deriving Inhabited, Repr

/-- The kinds of schema objects. -/
inductive ObjectKind where
  | table | index | view | trigger
  deriving DecidableEq, Inhabited, Repr

/-- The word for a kind of object. -/
def ObjectKind.word : ObjectKind → String
  | .table => "table"
  | .index => "index"
  | .view => "view"
  | .trigger => "trigger"

/-- The value given to a setting. -/
inductive PragmaValue where
  | word (w : String)
  | number (n : Int)
  deriving Inhabited, Repr

/-- How an explicit transaction takes its locks. -/
inductive BeginKind where
  | deferred | immediate | exclusive
  deriving DecidableEq, Inhabited, Repr

/-- A statement. -/
inductive Statement where
  | select (q : Select)
  | insert (recursive : Bool) (ctes : List CommonTable) (conflict : Option ConflictAction)
      (target : QualifiedName) (asName : Option String) (columns : Option (List String))
      (source : InsertSource) (upserts : List Upsert) (returning : List ResultColumn)
  | update (recursive : Bool) (ctes : List CommonTable) (conflict : Option ConflictAction)
      (target : QualifiedName) (asName : Option String) (sets : List Assignment)
      (sources : List JoinItem) (filter : Option Expr) (returning : List ResultColumn)
  | delete (recursive : Bool) (ctes : List CommonTable) (target : QualifiedName)
      (asName : Option String) (filter : Option Expr) (returning : List ResultColumn)
  | createTable (temp : Bool) (ifNotExists : Bool) (target : QualifiedName) (body : TableBody)
      (text : String)
  | createIndex (unique : Bool) (ifNotExists : Bool) (name : QualifiedName) (table : String)
      (columns : List IndexedColumn) (filter : Option Expr) (text : String)
  | createView (temp : Bool) (ifNotExists : Bool) (name : QualifiedName)
      (columns : Option (List String)) (q : Select) (text : String)
  | createTrigger (temp : Bool) (ifNotExists : Bool) (name : QualifiedName) (time : TriggerTime)
      (event : TriggerEvent) (table : String) (forEachRow : Bool) (condition : Option Expr)
      (body : List Statement) (text : String)
  | drop (kind : ObjectKind) (ifExists : Bool) (name : QualifiedName)
  | renameTable (table : QualifiedName) (newName : String)
  /-- Rename a column; whether the new name is written in quotes. -/
  | renameColumn (table : QualifiedName) (old new : String) (quoted : Bool)
  | addColumn (table : QualifiedName) (column : ColumnDefinition) (text : String)
  | dropColumn (table : QualifiedName) (column : String)
  | begin (kind : BeginKind)
  | commit
  | rollback (savepoint : Option String)
  | savepoint (name : String)
  | release (name : String)
  | pragma (schema : Option String) (name : String) (value : Option PragmaValue)
  | vacuum
  | analyze
  | reindex
  deriving Inhabited

/-- A statement ready to run: the statement, whether it is to be explained (and whether as a
query plan), and the number of parameters it takes. -/
structure Prepared where
  statement : Statement
  explain : Option Bool := none
  parameterCount : Nat
  /-- The names of named parameters, by position. -/
  parameterNames : List (Nat × String) := []
  /-- The text of the statement. -/
  text : String := ""
  deriving Inhabited

end Database

end EntityGraph
