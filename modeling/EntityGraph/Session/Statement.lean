import EntityGraph.Row.ModelRow
import EntityGraph.Schema.Identifier
import EntityGraph.Query.Query

/-!
# Row statements

The statements a save or a delete sends: inserting, updating and deleting the row of one table
level, and inserting and deleting the rows of an association table. Tables are named with the
schema of the compile options, parameters are written in their dialect, numbered from one in the
order of the values, and every value is encoded for its column's type.

- An insertion names every column but the primary key, which the store assigns; a level below the
  root is inserted with the root's key given explicitly, the key column first. A table with no
  column to name is inserted with `DEFAULT VALUES`.
- An update sets only the columns marked modified, in column order, the primary key never; it is
  `none` when nothing is left to set. The key is the last parameter.
-/

namespace EntityGraph

/-- A statement and its parameters. -/
structure Statement where
  sql : String
  params : List Value
  deriving Inhabited, Repr

namespace Statement

/-- The placeholders for parameters `from`, `from + 1`, ... of a dialect, `count` of them. -/
def placeholders (options : CompileOptions) (start count : Nat) : List String :=
  (List.range count).map fun i => options.dialect.placeholder (start + i)

/-- The name of a structure's table, with the schema of the options. -/
def tableOf (options : CompileOptions) (s : Structure) : String := qualifyTable options.schema s.table

/-- Insert a row, its key given explicitly or left to the store. -/
def insertRow (options : CompileOptions) (s : Structure) (row : ModelRow) (explicitId : Option Int64) :
    Statement :=
  let items := s.columns.zipIdx.filterMap fun (c, i) =>
    if i == s.primaryKey then explicitId.map fun id => (c.name, Value.bigInt id)
    else some (c.name, c.type.encode ((row.get? i).getD .null))
  let sql :=
    if items.isEmpty then "INSERT INTO " ++ tableOf options s ++ " DEFAULT VALUES"
    else "INSERT INTO " ++ tableOf options s ++ " (" ++ ", ".intercalate (items.map (·.1)) ++
      ") VALUES (" ++ ", ".intercalate (placeholders options 1 items.length) ++ ")"
  { sql, params := items.map (·.2) }

/-- Update the modified columns of a stored row; `none` when there is nothing to set. -/
def updateRow (options : CompileOptions) (s : Structure) (row : ModelRow) : Option Statement := do
  let id ← row.id
  let items := row.modified.toList.filterMap fun i =>
    if i == s.primaryKey then none
    else (s.column? i).map fun c => (c.name, c.type.encode ((row.get? i).getD .null))
  if items.isEmpty then none
  let assignments := items.zipIdx.map fun ((name, _), k) => name ++ " = " ++ options.dialect.placeholder (k + 1)
  let sql := "UPDATE " ++ tableOf options s ++ " SET " ++ ", ".intercalate assignments ++ " WHERE " ++
    s.primaryKeyName ++ " = " ++ options.dialect.placeholder (items.length + 1)
  some { sql, params := items.map (·.2) ++ [.bigInt id] }

/-- Set one column of one row. -/
def updateColumn (options : CompileOptions) (s : Structure) (column : Nat) (v : Value) (id : Int64) :
    Statement :=
  let name := ((s.column? column).map (·.name)).getD ""
  { sql := "UPDATE " ++ tableOf options s ++ " SET " ++ name ++ " = " ++ options.dialect.placeholder 1 ++
      " WHERE " ++ s.primaryKeyName ++ " = " ++ options.dialect.placeholder 2,
    params := [v, .bigInt id] }

/-- Delete one row by key. -/
def deleteRow (options : CompileOptions) (s : Structure) (id : Int64) : Statement :=
  { sql := "DELETE FROM " ++ tableOf options s ++ " WHERE " ++ s.primaryKeyName ++ " = " ++
      options.dialect.placeholder 1,
    params := [.bigInt id] }

/-- Insert one row of an association table. -/
def insertLink (options : CompileOptions) (table sourceColumn targetColumn : String) (source target : Int64) :
    Statement :=
  { sql := "INSERT INTO " ++ qualifyTable options.schema table ++ " (" ++ sourceColumn ++ ", " ++
      targetColumn ++ ") VALUES (" ++ ", ".intercalate (placeholders options 1 2) ++ ")",
    params := [.bigInt source, .bigInt target] }

/-- Delete one row of an association table. -/
def deleteLink (options : CompileOptions) (table sourceColumn targetColumn : String) (source target : Int64) :
    Statement :=
  { sql := "DELETE FROM " ++ qualifyTable options.schema table ++ " WHERE " ++ sourceColumn ++ " = " ++
      options.dialect.placeholder 1 ++ " AND " ++ targetColumn ++ " = " ++ options.dialect.placeholder 2,
    params := [.bigInt source, .bigInt target] }

/-- Delete every row of an association table whose column holds a key. -/
def deleteLinks (options : CompileOptions) (table column : String) (id : Int64) : Statement :=
  { sql := "DELETE FROM " ++ qualifyTable options.schema table ++ " WHERE " ++ column ++ " = " ++
      options.dialect.placeholder 1,
    params := [.bigInt id] }

end Statement

end EntityGraph
