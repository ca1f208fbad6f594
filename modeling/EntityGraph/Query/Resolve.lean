import EntityGraph.Query.Plan

/-!
# Resolving field names in a plan

A field name in a filter or an ordering denotes a column of some node of the plan. On a node,
a field is the column of the nearest inheritance level that has it, else the column of the
first implementation table that has it. A name `relation.field` looks in the first node joined
through `relation`; a bare name looks in the node that owns the filter or ordering first, then
in every node in plan order.
-/

namespace EntityGraph

/-- A resolved column: its qualified text, its type, and the node it belongs to. -/
structure Resolved where
  sql : String
  type : ColumnType
  node : Nat
  deriving Inhabited, Repr

/-- The text before and after the first `.` of a name. -/
def splitAtDot (s : String) : Option (String × String) :=
  let cs := s.toList
  match cs.findIdx? (· == '.') with
  | some i => some (String.ofList (cs.take i), String.ofList (cs.drop (i + 1)))
  | none => none

/-- The column a field denotes on the node at `index`. -/
def resolveIn (reg : Registry) (nodes : Array PlannedNode) (index : Nat) (field : String) :
    Option Resolved := do
  let node ← nodes[index]?
  let (table, col) ← match reg.findColumn? node.entity field with
    | some p => some (p.entity, p.index)
    | none => (reg.get node.entity).implementations.findSome? fun i =>
        ((reg.get i.entity).columnIndex? field).map fun c => (i.entity, c)
  let aliasName ← node.aliasOf? table
  let column ← (reg.get table).column? col
  pure { sql := aliasName ++ "." ++ column.name, type := column.type, node := index }

/-- The column a field name denotes for the filter or ordering of node `owner`. -/
def resolveField (reg : Registry) (nodes : Array PlannedNode) (owner : Nat) (column : String) :
    Except Error Resolved :=
  let ownerName := (reg.get ((nodes[owner]?.map (·.entity)).getD default)).name
  let unknown : Error := .build .unknownColumn (some ownerName) (some column)
    "column is not reachable from the query"
  match splitAtDot column with
  | some (relation, field) =>
    match nodes.findIdx? (fun n => n.relation.any (·.name == relation)) with
    | some i =>
      match resolveIn reg nodes i field with
      | some r => pure r
      | none => throw unknown
    | none => throw (.build .unknownRelation (some ownerName) (some column)
        ("relation '" ++ relation ++ "' is not joined"))
  | none =>
    let order := owner :: (List.range nodes.size).filter (· != owner)
    match order.findSome? (resolveIn reg nodes · column) with
    | some r => pure r
    | none => throw unknown

end EntityGraph
