import EntityGraph.Query.Filter
import EntityGraph.Schema.Structure

/-!
# Queries

A query names a primary entity, a filter and an ordering on it, joins along its relations
(each join with its own filter, ordering and further joins), and an optional page given by a
limit and an offset. Filters added to a query or a join are joined to the existing filter with
`AND`.

Compile options choose the placeholder dialect (`?` or `$1`, `$2`, ...) and an optional schema
that prefixes every table name.
-/

namespace EntityGraph

/-- How parameters are written in statements. -/
inductive Dialect where
  /-- Every parameter is `?`. -/
  | question
  /-- Parameters are `$1`, `$2`, ... in order. -/
  | numbered
  deriving DecidableEq, Inhabited, Repr

/-- The placeholder of the parameter at 1-based position `index`. -/
def Dialect.placeholder : Dialect → Nat → String
  | .question, _ => "?"
  | .numbered, i => "$" ++ toString i

/-- The name of the dialect in configuration documents. -/
def Dialect.name : Dialect → String
  | .question => "question"
  | .numbered => "numbered"

/-- Options of compilation. -/
structure CompileOptions where
  dialect : Dialect := .question
  schema : Option String := none
  deriving DecidableEq, Inhabited, Repr

/-- Ascending or descending. -/
inductive Direction where
  | asc
  | desc
  deriving DecidableEq, Inhabited, Repr

/-- The SQL keyword of a direction. -/
def Direction.sql : Direction → String
  | .asc => "ASC"
  | .desc => "DESC"

/-- One ordering term: a field name, possibly `relation.field`, and a direction. -/
structure OrderBy where
  column : String
  direction : Direction
  deriving DecidableEq, Inhabited, Repr

/-- A join along a relation, with its own filter, ordering and joins. -/
structure Join where
  relation : String
  filter : Filter := {}
  order : List OrderBy := []
  joins : List Join := []
  deriving Inhabited, Repr

/-- The join along `relation` with nothing else. -/
def Join.new (relation : String) : Join := { relation }

/-- Add a filter, joined to the present one with `AND`. -/
def Join.addFilter (j : Join) (f : Filter) : Join := { j with filter := j.filter.and f }

/-- A query on a primary entity. -/
structure Query where
  entity : EntityId
  filter : Filter := {}
  order : List OrderBy := []
  joins : List Join := []
  limit : Option Nat := none
  offset : Option Nat := none
  deriving Inhabited, Repr

/-- The query for all instances of an entity. -/
def Query.new (entity : EntityId) : Query := { entity }

/-- Add a filter, joined to the present one with `AND`. -/
def Query.addFilter (q : Query) (f : Filter) : Query := { q with filter := q.filter.and f }

end EntityGraph
