import EntityGraph.Query.Query
import EntityGraph.Schema.Registry

/-!
# Query plans

Planning turns a query into nodes in depth-first join order: node 0 is the primary entity and
every join adds the node of its target after its owner. Each node lists the tables one instance
spans, each with its alias: its own table, its ancestors root first, then its implementations.
Aliases `t0`, `t1`, ... are handed out once each in that order; a join through an intermediate
table takes the alias of the link table just before its target's own alias.

A node's *anchor* is the table that the join from its owner reaches: the level that holds the
back reference for a children relation, and the node's own table otherwise.
-/

namespace EntityGraph

/-- One entity occurrence in a planned query. -/
structure PlannedNode where
  entity : EntityId
  /-- The node this one was joined from. -/
  parent : Option Nat
  /-- The relation this node was joined through. -/
  relation : Option Relation
  filter : Filter
  order : List OrderBy
  /-- The tables of the node with their aliases: own, ancestors root first, implementations. -/
  tables : List (EntityId × String)
  /-- How many of the tables are inheritance levels (own table and ancestors). -/
  levelCount : Nat
  /-- The table that the join from the owner reaches. -/
  anchor : EntityId
  /-- The alias of the intermediate table of an association. -/
  linkAlias : Option String
  deriving Inhabited, Repr

namespace PlannedNode

/-- The alias of a table of the node (its first occurrence). -/
def aliasOf? (n : PlannedNode) (t : EntityId) : Option String := (n.tables.find? (·.1 == t)).map (·.2)

/-- The alias of the node's own table. -/
def ownAlias (n : PlannedNode) : String := (n.tables.head?.map (·.2)).getD ""

end PlannedNode

/-- Planning state: the next alias number and the nodes so far. -/
abbrev PlanM := StateT (Nat × Array PlannedNode) (Except Error)

/-- A fresh alias `tN`. -/
def freshAlias : PlanM String :=
  modifyGet fun (n, nodes) => ("t" ++ toString n, (n + 1, nodes))

/-- The relation a join names on an entity, or an unknown-relation error naming the entity. -/
def joinRelation (reg : Registry) (owner : EntityId) (name : String) : Except Error Relation :=
  match reg.findRelation? owner name with
  | some r => pure r
  | none => throw (.build .unknownRelation (some (reg.get owner).name) none
      ("no relation named '" ++ name ++ "'"))

/-- The alias of the intermediate table, for a node reached through an association. -/
def linkAliasFor (relation : Option Relation) : PlanM (Option String) :=
  match relation.map Relation.kind with
  | some (RelationKind.association ..) => some <$> freshAlias
  | _ => pure none

mutual
/-- Plan the node of `entity`, reached from `parent` through `relation`, with the filter,
ordering and joins of `j`, then its joins in order. -/
def planNode (reg : Registry) (entity : EntityId) (parent : Option Nat)
    (relation : Option Relation) : Join → PlanM Unit
  | ⟨_, filter, order, joins⟩ => do
  let linkAlias ← linkAliasFor relation
  let s := reg.get entity
  let own ← freshAlias
  let levels ← s.parents.mapM fun l => do pure (l, ← freshAlias)
  let impls ← s.implementations.mapM fun i => do pure (i.entity, ← freshAlias)
  let anchor := match relation.map Relation.kind with
    | some (RelationKind.children back) => back.entity
    | _ => entity
  let index := (← get).2.size
  modify fun (n, nodes) => (n, nodes.push
    { entity, parent, relation, filter, order,
      tables := (entity, own) :: levels ++ impls, levelCount := levels.length + 1, anchor,
      linkAlias })
  planJoins reg entity index joins

/-- Plan the joins of the node at `index`, whose entity is `owner`, in order. -/
def planJoins (reg : Registry) (owner : EntityId) (index : Nat) : List Join → PlanM Unit
  | [] => pure ()
  | j :: rest => do
    let rel ← joinRelation reg owner j.relation
    planNode reg rel.target (some index) (some rel) j
    planJoins reg owner index rest
end

/-- The planned nodes of a query, in depth-first join order. -/
def Query.plan (reg : Registry) (q : Query) : Except Error (Array PlannedNode) := do
  let root : Join := { relation := "", filter := q.filter, order := q.order, joins := q.joins }
  let ((), (_, nodes)) ← (planNode reg q.entity none none root).run (0, #[])
  pure nodes

end EntityGraph
