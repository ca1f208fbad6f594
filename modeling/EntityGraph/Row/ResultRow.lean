import EntityGraph.Value.Basic

/-!
# Result rows

A row returned by the store for a query: its values, and the names of its columns with the
table each came from where that is known. A column name found twice is looked up at its first
place; a qualified lookup needs both the table and the name to match.
-/

namespace EntityGraph

/-- The column names of a result, with the table of each column where known. -/
structure ColumnInfo where
  names : List String
  /-- The table of each column, by position; positions past the end have no table. -/
  tables : List (Option String) := []
  deriving Inhabited, Repr

namespace ColumnInfo

/-- Column names with no tables. -/
def ofNames (names : List String) : ColumnInfo := { names, tables := names.map fun _ => none }

/-- The number of columns. -/
def size (c : ColumnInfo) : Nat := c.names.length

/-- The first position with the given name. -/
def indexOf? (c : ColumnInfo) (name : String) : Option Nat := c.names.findIdx? (· == name)

/-- The first position with the given name and table. -/
def indexOfQualified? (c : ColumnInfo) (table name : String) : Option Nat :=
  (c.names.zip c.tables).findIdx? fun (n, t) => n == name && t == some table

/-- The name at a position. -/
def nameAt? (c : ColumnInfo) (i : Nat) : Option String := c.names[i]?

/-- The table at a position. -/
def tableAt? (c : ColumnInfo) (i : Nat) : Option String := (c.tables[i]?).getD none

end ColumnInfo

/-- A row of a query result. -/
structure ResultRow where
  columns : ColumnInfo
  values : List Value
  deriving Inhabited, Repr

namespace ResultRow

/-- The value at a position. -/
def get? (r : ResultRow) (i : Nat) : Option Value := r.values[i]?

/-- The value of the first column with the given name. -/
def getByName? (r : ResultRow) (name : String) : Option Value := (r.columns.indexOf? name).bind r.get?

/-- The value of the first column with the given name and table. -/
def getQualified? (r : ResultRow) (table name : String) : Option Value :=
  (r.columns.indexOfQualified? table name).bind r.get?

end ResultRow

end EntityGraph
