import EntityGraph.Schema.ColumnType

/-!
# Entity descriptors

What a user declares about an entity before it is registered: its name and table, its columns,
an optional parent entity it inherits from, implementation entities joined through a link
column, its relations to other entities, and an optional sequence column that mirrors the
primary key. Names of other entities are plain strings here; registering resolves them.
-/

namespace EntityGraph

/-- The part a column plays. -/
inductive ColumnRole where
  /-- The primary key of the entity's table. -/
  | primary
  /-- A column holding the primary key of an instance of the named entity. -/
  | reference (target : String)
  | ordinary
  deriving DecidableEq, Inhabited, Repr

/-- A declared column. -/
structure Column where
  name : String
  type : ColumnType
  role : ColumnRole
  nullable : Bool
  unique : Bool
  deriving DecidableEq, Inhabited, Repr

namespace Column

/-- An ordinary column: not nullable, not unique. -/
def ordinary (name : String) (type : ColumnType) : Column :=
  { name, type, role := .ordinary, nullable := false, unique := false }

/-- A primary key: a unique, non-null 64-bit integer. -/
def primary (name : String) : Column :=
  { name, type := .bigInt, role := .primary, nullable := false, unique := true }

/-- A reference to another entity: a nullable 64-bit integer. -/
def reference (name target : String) : Column :=
  { name, type := .bigInt, role := .reference target, nullable := true, unique := false }

/-- Whether the column is the primary key. -/
def isPrimary (c : Column) : Bool := c.role == .primary

/-- Whether the column references another entity. -/
def isReference (c : Column) : Bool :=
  match c.role with
  | .reference _ => true
  | _ => false

/-- The entity name a reference column declares. -/
def declaredTarget? (c : Column) : Option String :=
  match c.role with
  | .reference t => some t
  | _ => none

end Column

/-- A declared relation of an entity. -/
inductive RelationSpec where
  /-- A single target held in one of the entity's own reference columns. -/
  | reference (name column : String)
  /-- The instances of `target` whose back-reference column holds this entity's key. -/
  | children (name target backReference : String)
  /-- Instances of `target` linked through rows of an intermediate table. -/
  | association (name target table sourceColumn targetColumn : String)
  deriving DecidableEq, Inhabited, Repr

/-- The relation's name. -/
def RelationSpec.name : RelationSpec → String
  | .reference n _ | .children n _ _ | .association n _ _ _ _ => n

/-- A declared entity. -/
structure EntityDescriptor where
  name : String
  table : String
  columns : List Column := []
  parent : Option String := none
  /-- Implementation entities with the own column that links to them. -/
  implementations : List (String × String) := []
  relations : List RelationSpec := []
  sequenced : Option String := none
  deriving Inhabited, Repr

end EntityGraph
