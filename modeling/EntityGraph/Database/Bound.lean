import EntityGraph.Database.Aggregate
import EntityGraph.Database.DocumentRows
import EntityGraph.Database.Clock
import EntityGraph.Database.Schema

/-!
# Bound queries

A statement's expressions and queries once every name in them has been settled against the
schema: a column is a position in a row of some source of some query (`ColumnRef`), a function
is one of the built-in ones, and each comparison carries the affinity and collation it is made
under. This is what the evaluator runs; nothing in it is looked up by name any more.

A query (`Plan`) is a compound of blocks (`Block`), each reading the rows of its sources
(`JoinStep`) through nested loops, filtering, grouping and projecting them, with an ordering and
paging over the whole. Terms and plans nest in each other through subqueries, so they are one
mutual family.

Column references count query levels outwards: depth 0 is the block the term belongs to, depth 1
the block around the subquery it sits in, and so on. Aggregates are computed by the block that
owns them and read back by depth and slot.
-/

namespace EntityGraph

namespace Database

/-- A column as a query sees it: its name, affinity (none for a column of a query whose
expression has none) and collation. -/
structure ColumnInfo where
  name : String
  affinity : Option Affinity := none
  collation : Collation := .binary
  deriving Inhabited, Repr

/-- Where a term reads a column: how many query levels out, which source of that level, and
which column (none for the row id). -/
structure ColumnRef where
  depth : Nat
  source : Nat
  column : Option Nat
  deriving DecidableEq, Inhabited, Repr

/-- The bit operators. -/
inductive BitOp where
  | and | or | shiftLeft | shiftRight
  deriving DecidableEq, Inhabited, Repr

/-- The built-in scalar functions. -/
inductive Builtin where
  | ltrim | rtrim | trim | min | max | typeof | subtype | length | octetLength | instr
  | printf | unicode | char | abs | sign | round | upper | lower | hex | unhex | concat | concatWs
  | random | randomblob | nullif | version | sourceId | log | quote | lastInsertRowid
  | changes | totalChanges | replace | zeroblob | substr | like | glob | soundex
  | compileOptionUsed | compileOptionGet | julianday | unixepoch | date | time | datetime
  | strftime | timediff | currentDate | currentTime | currentTimestamp
  /-- A function over JSON documents, and whether it gives them in the binary form. -/
  | json (f : JsonFn) (binary : Bool)
  deriving DecidableEq, Inhabited, Repr

/-- Functions that are only window functions. -/
inductive RankFn where
  | rowNumber | rank | denseRank | percentRank | cumeDist | ntile | lag | lead
  | firstValue | lastValue | nthValue
  deriving DecidableEq, Inhabited, Repr

/-- What a window function computes: a ranking function, or an aggregate over the frame. -/
inductive WindowFn where
  | rank (f : RankFn)
  | aggregate (f : AggregateFn)
  deriving Inhabited, Repr, BEq

mutual

/-- A bound expression. -/
inductive Term where
  | const (d : Datum)
  | param (index : Nat)
  | column (ref : ColumnRef)
  /-- The value of an aggregate of the block `depth` levels out. -/
  | aggregate (depth : Nat) (slot : Nat)
  /-- The value of a window function of this block. -/
  | window (slot : Nat)
  | neg (t : Term)
  | not (t : Term)
  | bitNot (t : Term)
  | and (a b : Term)
  | or (a b : Term)
  | arith (op : Datum.ArithOp) (a b : Term)
  | bits (op : BitOp) (a b : Term)
  | concat (a b : Term)
  | compare (op : Datum.CompareOp) (aff : Option Affinity) (coll : Collation) (a b : Term)
  /-- A comparison of two row values, element by element. -/
  | compareRows (op : Datum.CompareOp) (affs : List (Option Affinity)) (colls : List Collation)
      (a b : List Term)
  | truth (t : Term) (value : Bool) (negated : Bool)
  | isNull (negated : Bool) (t : Term)
  | inList (negated : Bool) (t : Term) (aff : Option Affinity) (coll : Collation) (items : List Term)
  | inPlan (negated : Bool) (ts : List Term) (affs : List (Option Affinity))
      (colls : List Collation) (p : Plan)
  | exists (p : Plan)
  | scalar (p : Plan)
  /-- A subquery term that reads nothing of the queries around it. Its value does not change
  with the row; a statement that changes rows takes it once, when it first needs it. -/
  | fixed (t : Term)
  | call (fn : Builtin) (coll : Collation) (args : List Term)
  /-- `coalesce` and `ifnull`: the first argument that is not null, later ones not evaluated. -/
  | coalesce (args : List Term)
  | case (branches : List (Term × Term)) (otherwise : Option Term)
  | cast (aff : Affinity) (t : Term)
  /-- `RAISE` in a trigger: the action and its message. -/
  | raise (action : ConflictAction) (message : String)
  /-- `RAISE(IGNORE)`. -/
  | ignore

/-- A key an ordering sorts by: a term, or a result column of a compound. -/
structure SortKey where
  term : Term
  /-- The result column for a compound's ordering. -/
  output : Option Nat := none
  collation : Collation := .binary
  descending : Bool := false
  nullsFirst : Option Bool := none

/-- An aggregate call owned by a block. -/
structure AggregateCall where
  fn : AggregateFn
  args : List Term
  distinct : Bool := false
  filter : Option Term := none
  orderBy : List SortKey := []
  collation : Collation := .binary

/-- One end of a window frame. -/
inductive FrameEdge where
  | unboundedPreceding
  | preceding (t : Term)
  | currentRow
  | following (t : Term)
  | unboundedFollowing

/-- A window function call of a block. -/
structure WindowCall where
  fn : WindowFn
  args : List Term
  partitionBy : List (Term × Collation)
  orderBy : List SortKey
  unit : FrameUnit
  start : FrameEdge
  finish : FrameEdge
  exclusion : FrameExclusion
  filter : Option Term := none
  distinct : Bool := false
  collation : Collation := .binary
  /-- Whether the frame was written; without one the frame runs to the last peer row. -/
  framed : Bool := false

/-- Where the rows of a source come from. -/
inductive RowSource where
  /-- A stored table, read in the order of the keys (then of row id). -/
  | table (schema : SchemaId) (name : String) (order : List SortKey)
  /-- A subquery, view or common table expression, run with the outermost `keep` levels of the
  enclosing scope. -/
  | plan (p : Plan) (keep : Nat)
  /-- A recursive common table expression. -/
  | recursive (r : Recursion) (keep : Nat)
  /-- The rows of the recursive common table expression being built, `level` counting
  recursions outwards. -/
  | current (level : Nat)
  /-- One row of no columns, for a query without sources. -/
  | single
  /-- Rows known when the statement is bound, such as those of the schema table. -/
  | rows (rows : List (List Datum))
  /-- The values of a document, given by `json_each` or `json_tree` over arguments that may read
  the sources looped over before it. -/
  | document (walk : DocumentWalk) (args : List Term)

/-- A recursive common table expression: the queries that start it, the queries that take the
rows found last and give more, whether duplicates are kept, and its ordering and paging. -/
structure Recursion where
  setup : List (CompoundOp × Block)
  steps : List Block
  unionAll : Bool
  orderBy : List SortKey
  limit : Option Term
  offset : Option Term
  width : Nat

/-- One source of a block in the order it is looped over: where its rows come from, its place in
the block's row, its width, whether it is the right side of a left join, whether its rows that
nothing matched are kept (a right join), the condition of its join, and the conditions of the
block's filter that can be checked once it is reached. -/
structure JoinStep where
  source : RowSource
  slot : Nat
  width : Nat
  outer : Bool := false
  keepsUnmatched : Bool := false
  on : Option Term := none
  filters : List Term := []
  /-- The order its rows are read in, with its own row as the only source. -/
  order : List SortKey := []

/-- One query of a compound. -/
inductive Block where
  | select (body : SelectBody)
  | values (rows : List (List Term))

/-- A query over sources: its loops, the conditions checked once before them, grouping,
aggregates, windows and results. -/
structure SelectBody where
  joins : List JoinStep
  sourceCount : Nat
  filter : List Term := []
  groupBy : List (Term × Collation) := []
  having : Option Term := none
  aggregates : List AggregateCall := []
  windows : List WindowCall := []
  results : List Term
  distinct : Bool := false
  grouped : Bool := false
  /-- The aggregate whose steps choose the row the other columns of a group come from. -/
  chooser : Option Nat := none
  /-- The collations of the result columns, for `DISTINCT`. -/
  collations : List Collation := []

/-- A query: a compound of blocks, its ordering and its paging. -/
structure Plan where
  first : Block
  rest : List (CompoundOp × Block) := []
  orderBy : List SortKey := []
  limit : Option Term := none
  offset : Option Term := none
  /-- The collations of the result columns, for compounds. -/
  collations : List Collation := []

end

deriving instance BEq for Term, SortKey, AggregateCall, FrameEdge, WindowCall, RowSource, Recursion,
  JoinStep, Block, SelectBody, Plan

instance : Inhabited Term := ⟨.const .null⟩

instance : Inhabited Block := ⟨.values []⟩

instance : Inhabited Plan := ⟨{ first := .values [] }⟩

end Database

end EntityGraph
