import EntityGraph.Query.Render

/-!
# Compiling queries

`Query.compile` writes one `SELECT` statement for a planned query:

- the projection lists, node by node and table by table, every column of the table with the
  primary key first;
- the primary table is joined to its ancestors with `INNER JOIN`, every joined node to its owner
  and to its own ancestors with `LEFT JOIN`, and implementation tables with `LEFT JOIN` on the
  link column;
- the `WHERE` clause is the conjunction of the node filters in node order, each in parentheses
  when there is more than one clause and it has a connective of its own;
- the `ORDER BY` clause lists every node's ordering terms, each node ending with its primary key
  unless that is already a term.

A page (limit or offset) on a query with joins must count primary instances, not result rows:

- when neither the primary ordering nor the primary filter names a joined column, the primary
  table is paged in a subquery in `FROM`, where the primary filter is applied;
- otherwise the page is chosen among primary keys by a subquery in `WHERE` that groups by the
  primary key and orders joined columns by their `MIN` (ascending) or `MAX` (descending); the
  primary filter is then applied both inside and outside.

Without a limit, an offset is written `LIMIT -1 OFFSET n` for `?` placeholders and `OFFSET n`
for numbered ones.
-/

namespace EntityGraph

/-- How a page is taken. -/
inductive Paging where
  | none
  | subquery
  | keys
  deriving DecidableEq, Inhabited, Repr

/-- The compiler's fixed inputs. -/
structure Compiler where
  reg : Registry
  options : CompileOptions
  nodes : Array PlannedNode

namespace Compiler

/-- The node at a position. -/
def node (c : Compiler) (i : Nat) : PlannedNode := c.nodes[i]?.getD default

/-- A table name with the schema prefix. -/
def tableName (c : Compiler) (e : EntityId) : String :=
  qualifyTable c.options.schema (c.reg.get e).table

/-- The context for rendering the filter of node `owner`. -/
def context (c : Compiler) (owner : Nat) : RenderContext :=
  { reg := c.reg, nodes := c.nodes, options := c.options, owner }

/-- Resolve a field for node `owner`. -/
def resolve (c : Compiler) (owner : Nat) (field : String) : Except Error Resolved :=
  resolveField c.reg c.nodes owner field

/-- The primary-key column of a node's own table, qualified by its alias. -/
def primaryKeyOf (c : Compiler) (n : PlannedNode) : String :=
  n.ownAlias ++ "." ++ (c.reg.get n.entity).primaryKeyName

/-- The projection columns and the layout of every node. -/
def projection (c : Compiler) : List String × List CompiledNode :=
  c.nodes.toList.foldl (fun (columns, compiled) n =>
    let (columns, blocks) := n.tables.foldl (fun (columns, blocks) (table, aliasName) =>
      let s := c.reg.get table
      let proj := s.projection
      let block : ProjectionBlock := { entity := table, tableAlias := aliasName, offset := columns.length, columns := proj }
      (columns ++ proj.map (fun i => aliasName ++ "." ++ ((s.column? i).map (·.name)).getD ""),
        blocks ++ [block])) (columns, [])
    let node : CompiledNode :=
      { entity := n.entity, parent := n.parent, relation := n.relation.map (·.name), blocks }
    (columns, compiled ++ [node])) ([], [])

/-- Joins of a node's ancestors to its anchor, and of its implementations to its own table. -/
def levelJoins (c : Compiler) (n : PlannedNode) (primary : Bool) : String :=
  let keyword := if primary then "INNER JOIN" else "LEFT JOIN"
  let anchor := c.reg.get n.anchor
  let anchorAlias := (n.aliasOf? n.anchor).getD ""
  let levels := (n.tables.take n.levelCount).filter (·.1 != n.anchor)
  let levelSql := String.join (levels.map fun (table, aliasName) =>
    " " ++ keyword ++ " " ++ c.tableName table ++ " " ++ aliasName ++ " ON " ++ aliasName ++ "." ++
      (c.reg.get table).primaryKeyName ++ " = " ++ anchorAlias ++ "." ++ anchor.primaryKeyName)
  let own := c.reg.get n.entity
  let implSql := String.join ((own.implementations.zip (n.tables.drop n.levelCount)).map
    fun (impl, (table, aliasName)) =>
      " LEFT JOIN " ++ c.tableName table ++ " " ++ aliasName ++ " ON " ++ aliasName ++ "." ++
        (c.reg.get table).primaryKeyName ++ " = " ++ n.ownAlias ++ "." ++
        ((own.column? impl.linkColumn).map (·.name)).getD "")
  levelSql ++ implSql

/-- The join of a node to the node it was joined from. -/
def relationJoin (c : Compiler) (n : PlannedNode) : String :=
  match n.relation, n.parent with
  | some rel, some parent =>
    let owner := c.reg.get rel.owner
    let ownerAlias := ((c.node parent).aliasOf? rel.owner).getD ""
    let anchor := c.reg.get n.anchor
    let anchorAlias := (n.aliasOf? n.anchor).getD ""
    let anchorTable := c.tableName n.anchor
    match rel.kind with
    | .reference column =>
      " LEFT JOIN " ++ anchorTable ++ " " ++ anchorAlias ++ " ON " ++ anchorAlias ++ "." ++
        anchor.primaryKeyName ++ " = " ++ ownerAlias ++ "." ++
        ((owner.column? column).map (·.name)).getD ""
    | .children back =>
      " LEFT JOIN " ++ anchorTable ++ " " ++ anchorAlias ++ " ON " ++ anchorAlias ++ "." ++
        (((c.reg.get back.entity).column? back.index).map (·.name)).getD "" ++ " = " ++
        ownerAlias ++ "." ++ owner.primaryKeyName
    | .association table source target =>
      let link := n.linkAlias.getD ""
      " LEFT JOIN " ++ qualifyTable c.options.schema table ++ " " ++ link ++ " ON " ++ link ++
        "." ++ source ++ " = " ++ ownerAlias ++ "." ++ owner.primaryKeyName ++
        " LEFT JOIN " ++ anchorTable ++ " " ++ anchorAlias ++ " ON " ++ anchorAlias ++ "." ++
        anchor.primaryKeyName ++ " = " ++ link ++ "." ++ target
  | _, _ => ""

/-- The `LIMIT` and `OFFSET` text of a page. -/
def paging (c : Compiler) (limit offset : Option Nat) : String :=
  match limit, offset with
  | none, none => ""
  | some l, none => " LIMIT " ++ toString l
  | some l, some o => " LIMIT " ++ toString l ++ " OFFSET " ++ toString o
  | none, some o =>
    match c.options.dialect with
    | .question => " LIMIT -1 OFFSET " ++ toString o
    | .numbered => " OFFSET " ++ toString o

/-- The ordering terms of node `i`: its own terms, then its primary key unless already there. -/
def orderTerms (c : Compiler) (i : Nat) : Except Error (List String) := do
  let n := c.node i
  let resolved ← n.order.mapM fun o => do
    let r ← c.resolve i o.column
    pure (r.sql ++ " " ++ o.direction.sql, r.sql)
  let key := c.primaryKeyOf n
  let terms := resolved.map (·.1)
  pure (if (resolved.map (·.2)).contains key then terms else terms ++ [key])

/-- Grouping and ordering of the key subquery: joined columns are ordered by their minimum
(ascending) or maximum (descending) within each primary key. -/
def pageOrder (c : Compiler) : Except Error (List String × List String) := do
  let root := c.node 0
  let key := c.primaryKeyOf root
  let (group, terms) ← root.order.foldlM (fun (group, terms) o => do
    let r ← c.resolve 0 o.column
    let (group, term) :=
      if r.node == 0 then
        ((if group.contains r.sql then group else group ++ [r.sql]), r.sql)
      else
        (group, match o.direction with
          | .asc => "MIN(" ++ r.sql ++ ")"
          | .desc => "MAX(" ++ r.sql ++ ")")
    pure (group, terms ++ [term ++ " " ++ o.direction.sql])) ([key], ([] : List String))
  let terms := if terms.any (·.startsWith (key ++ " ")) then terms else terms ++ [key]
  pure (group, terms)

mutual
/-- Whether a filter of the primary node names a column of a joined node. -/
def tokensReachJoins (c : Compiler) : List FilterToken → Except Error Bool
  | [] => pure false
  | t :: rest => do
    if ← tokenReachesJoins c t then pure true else tokensReachJoins c rest

/-- Whether one token of the primary filter names a column of a joined node. -/
def tokenReachesJoins (c : Compiler) : FilterToken → Except Error Bool
  | .column name => do pure ((← c.resolve 0 name).node != 0)
  | .nested ts => tokensReachJoins c ts
  | _ => pure false
end

/-- Whether the primary ordering or filter names a column of a joined node. -/
def primaryReachesJoins (c : Compiler) : Except Error Bool := do
  let root := c.node 0
  for o in root.order do
    if (← c.resolve 0 o.column).node != 0 then return true
  tokensReachJoins c root.filter.tokens

/-- Render the filter of node `i`, appending its parameters. -/
def filterOf (c : Compiler) (i : Nat) : RenderM String := renderFilter (c.context i) (c.node i).filter

/-- How a page is taken: a query with joins and a limit or an offset is paged by a subquery over
the primary table, or among primary keys when the primary ordering or filter names a joined
column. -/
def pageMode (c : Compiler) (limit offset : Option Nat) : Except Error Paging :=
  if c.nodes.toList.length > 1 && (limit.isSome || offset.isSome) then do
    if ← c.primaryReachesJoins then pure .keys else pure .subquery
  else pure .none

/-- The primary table with its inheritance levels joined. -/
def rootSource (c : Compiler) : String :=
  let root := c.node 0
  c.tableName root.entity ++ " " ++ root.ownAlias ++ c.levelJoins root true

/-- The joins of every node after the primary one. -/
def joins (c : Compiler) : String :=
  String.join ((c.nodes.toList.drop 1).map fun n => c.relationJoin n ++ c.levelJoins n false)

/-- The primary filter as the `WHERE` clause of a page subquery, when it is not empty. -/
def rootWhere (c : Compiler) : RenderM String :=
  if (c.node 0).filter.isEmpty then pure "" else do pure (" WHERE " ++ (← c.filterOf 0))

/-- The page subquery over the primary table: the primary filter, ordering and page. -/
def pageSubquery (c : Compiler) (limit offset : Option Nat) : RenderM String := do
  let filter ← c.rootWhere
  let order ← c.orderTerms 0
  pure ("SELECT " ++ (c.node 0).ownAlias ++ ".* FROM " ++ c.rootSource ++ filter ++ " ORDER BY " ++
    ", ".intercalate order ++ c.paging limit offset)

/-- The subquery choosing the primary keys of a page among all joined rows that pass the primary
filter. -/
def keySubquery (c : Compiler) (limit offset : Option Nat) : RenderM String := do
  let key := c.primaryKeyOf (c.node 0)
  let filter ← c.rootWhere
  let (group, order) ← c.pageOrder
  pure ("SELECT " ++ key ++ " FROM " ++ c.rootSource ++ c.joins ++ filter ++ " GROUP BY " ++
    ", ".intercalate group ++ " ORDER BY " ++ ", ".intercalate order ++ c.paging limit offset)

/-- The clause keeping the primary keys of a page. -/
def keyClause (c : Compiler) (limit offset : Option Nat) : RenderM String := do
  pure (c.primaryKeyOf (c.node 0) ++ " IN (" ++ (← c.keySubquery limit offset) ++ ")")

/-- The filter clauses of the given nodes, in order, each with whether its filter has a
connective of its own: every non-empty filter, except the primary one when the page subquery
applies it. -/
def filterClauses (c : Compiler) (page : Paging) : List Nat → RenderM (List (String × Bool))
  | [] => pure []
  | i :: is =>
    if (c.node i).filter.isEmpty || (page == .subquery && i == 0) then c.filterClauses page is
    else do
      let rendered ← c.filterOf i
      let rest ← c.filterClauses page is
      pure ((rendered, (c.node i).filter.hasConnective) :: rest)

/-- The `WHERE` clause of the clauses: nothing without clauses, else their conjunction, a clause
with a connective of its own in parentheses when there is more than one. -/
def whereClause (clauses : List (String × Bool)) : String :=
  if clauses.isEmpty then "" else
    " WHERE " ++ " AND ".intercalate (clauses.map fun (clause, connective) =>
      if clauses.length > 1 && connective then "(" ++ clause ++ ")" else clause)

/-- The ordering terms of the given nodes, in order. -/
def orderBy (c : Compiler) : List Nat → Except Error (List String)
  | [] => pure []
  | i :: is => do
    let terms ← c.orderTerms i
    let rest ← c.orderBy is
    pure (terms ++ rest)

/-- The source of the statement: the primary table with its levels, or under subquery paging
the page subquery in its place. -/
def source (c : Compiler) (page : Paging) (limit offset : Option Nat) : RenderM String :=
  if page == .subquery then do
    pure ("(" ++ (← c.pageSubquery limit offset) ++ ") " ++ (c.node 0).ownAlias ++
      c.levelJoins (c.node 0) true)
  else pure c.rootSource

/-- The clauses of the outer `WHERE`: the key clause under key paging, then the node filters. -/
def clauses (c : Compiler) (page : Paging) (limit offset : Option Nat) :
    RenderM (List (String × Bool)) := do
  let keys ← if page == .keys then do pure [(← c.keyClause limit offset, false)] else pure []
  let filters ← c.filterClauses page (List.range c.nodes.size)
  pure (keys ++ filters)

/-- The statement text, with its parameters. -/
def statement (c : Compiler) (limit offset : Option Nat) : RenderM String := do
  let page ← c.pageMode limit offset
  let source ← c.source page limit offset
  let clauses ← c.clauses page limit offset
  let order ← c.orderBy (List.range c.nodes.size)
  pure ("SELECT " ++ ", ".intercalate c.projection.1 ++ " FROM " ++ source ++ c.joins ++
    whereClause clauses ++ " ORDER BY " ++ ", ".intercalate order ++
    (if page == .none then c.paging limit offset else ""))

end Compiler

/-- Compile a query against a registry with the given options. -/
def Query.compile (reg : Registry) (options : CompileOptions) (q : Query) :
    Except Error CompiledQuery := do
  if q.entity.index ≥ reg.size then
    throw (.buildPlain .unknownEntity ("entity " ++ q.entity.display ++ " is not registered"))
  let nodes ← q.plan reg
  let c : Compiler := { reg, options, nodes }
  let (sql, params) ← (c.statement q.limit q.offset).run #[]
  let (columns, layout) := c.projection
  pure { sql, params := params.toList, nodes := layout, width := columns.length }

end EntityGraph
