import EntityGraph.Schema.Descriptor

/-!
# Entity structures

A registered entity: its descriptor with every name of another entity resolved to that entity's
number, the primary key and sequence column resolved to column positions, and its ancestors
listed root first.
-/

namespace EntityGraph

/-- The number of a registered entity, its position in registration order. -/
structure EntityId where
  index : Nat
  deriving DecidableEq, Inhabited, Repr, Hashable

instance : Ord EntityId := ⟨fun a b => compare a.index b.index⟩

/-- `#n`, the way an entity number is shown. -/
def EntityId.display (e : EntityId) : String := "#" ++ toString e.index

/-- A column of some entity's table. -/
structure ColumnPosition where
  entity : EntityId
  index : Nat
  deriving DecidableEq, Inhabited, Repr

/-- How a registered relation is stored. -/
inductive RelationKind where
  /-- The target's key sits in the owner's column `column`. -/
  | reference (column : Nat)
  /-- Each child holds the owner's key in `backReference`, a column of the target or of one of
  its ancestors. -/
  | children (backReference : ColumnPosition)
  /-- Rows of `table` pair the owner's key (`sourceColumn`) with the target's (`targetColumn`). -/
  | association (table sourceColumn targetColumn : String)
  deriving DecidableEq, Inhabited, Repr

/-- A registered relation. -/
structure Relation where
  name : String
  owner : EntityId
  target : EntityId
  kind : RelationKind
  deriving DecidableEq, Inhabited, Repr

/-- Whether the relation holds many targets. -/
def Relation.isCollection (r : Relation) : Bool :=
  match r.kind with
  | .reference _ => false
  | _ => true

/-- An implementation entity and the owner's column that links to it. -/
structure Implementation where
  entity : EntityId
  linkColumn : Nat
  deriving DecidableEq, Inhabited, Repr

/-- A registered entity. -/
structure Structure where
  id : EntityId
  name : String
  table : String
  columns : List Column
  /-- The resolved target of each column, `none` for columns that are not references. -/
  targets : List (Option EntityId)
  primaryKey : Nat
  /-- Ancestors, root first. -/
  parents : List EntityId
  implementations : List Implementation
  relations : List Relation
  sequenceColumn : Option Nat
  deriving Inhabited, Repr

namespace Structure

/-- The column at a position. -/
def column? (s : Structure) (i : Nat) : Option Column := s.columns[i]?

/-- The position of the column with the given name. -/
def columnIndex? (s : Structure) (name : String) : Option Nat := s.columns.findIdx? (·.name == name)

/-- The number of columns. -/
def columnCount (s : Structure) : Nat := s.columns.length

/-- The name of the primary-key column. -/
def primaryKeyName (s : Structure) : String := (s.columns[s.primaryKey]?.map (·.name)).getD ""

/-- The nearest ancestor. -/
def parent? (s : Structure) : Option EntityId := s.parents.getLast?

/-- The entity's own relation with the given name (ancestors' relations are not searched). -/
def relation? (s : Structure) (name : String) : Option Relation := s.relations.find? (·.name == name)

/-- The resolved target of the column at a position. -/
def target? (s : Structure) (i : Nat) : Option EntityId := (s.targets[i]?).getD none

/-- Column positions with the primary key first, then the others in declared order. -/
def projection (s : Structure) : List Nat :=
  s.primaryKey :: (List.range s.columns.length).filter (· != s.primaryKey)

/-- How many tables one instance spans: its own, its ancestors' and its implementations'. -/
def effectiveTableCount (s : Structure) : Nat := 1 + s.parents.length + s.implementations.length

end Structure

end EntityGraph
