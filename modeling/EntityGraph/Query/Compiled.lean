import EntityGraph.Query.Filter
import EntityGraph.Schema.Registry

/-!
# Compiled queries

What compiling a query produces: the statement text, its parameters in placeholder order, and
the layout of the result columns. The layout lists, per node of the plan, one block per table
the node spans: the alias of the table, where its columns start in a result row, and which
columns of the table they are (the primary key first).

Binding fills the slot parameters from arguments by position, each encoded for the type of the
column it is compared with.
-/

namespace EntityGraph

/-- The columns of one table occurrence in a result row. -/
structure ProjectionBlock where
  entity : EntityId
  tableAlias : String
  /-- Position of the block's first column in a result row. -/
  offset : Nat
  /-- The table's columns in the order they appear: primary key first. -/
  columns : List Nat
  deriving DecidableEq, Inhabited, Repr

/-- One node of a compiled query's layout. -/
structure CompiledNode where
  entity : EntityId
  parent : Option Nat
  /-- The name of the relation the node was joined through. -/
  relation : Option String
  blocks : List ProjectionBlock
  deriving DecidableEq, Inhabited, Repr

/-- The block of the node's own table, which carries its identity. -/
def CompiledNode.identityBlock? (n : CompiledNode) : Option ProjectionBlock :=
  n.blocks.find? (·.entity == n.entity)

/-- A statement parameter: a value fixed at compile time, or a slot with the type of the column
it is compared with. -/
inductive CompiledParam where
  | value (v : Value)
  | slot (index : Nat) (type : ColumnType)
  deriving Inhabited, Repr

/-- A compiled query. -/
structure CompiledQuery where
  sql : String
  params : List CompiledParam
  nodes : List CompiledNode
  /-- The number of result columns. -/
  width : Nat
  deriving Inhabited, Repr

namespace CompiledQuery

/-- The number of placeholders. -/
def parameterCount (c : CompiledQuery) : Nat := c.params.length

/-- One more than the largest slot, `0` without slots. -/
def slotCount (c : CompiledQuery) : Nat :=
  c.params.foldl (fun m p => match p with
    | .slot i _ => max m (i + 1)
    | .value _ => m) 0

/-- The statement parameters for the given slot arguments: fixed values as they are, slots from
the argument at their position, encoded for their column type. -/
def bind (c : CompiledQuery) (args : List Value) : Except Error (List Value) :=
  c.params.mapM fun
    | .value v => pure v
    | .slot i t =>
      match args[i]? with
      | some v => pure (t.encode v)
      | none => throw (.buildPlain .unboundParameter
          ("parameter slot " ++ toString i ++ " has no value"))

end CompiledQuery

end EntityGraph
