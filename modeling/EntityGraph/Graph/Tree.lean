import EntityGraph.Graph.Arena
import EntityGraph.Value.Basic

/-!
# Tree export

A tree-shaped document of an instance and the relations already materialized on it, for
presentation. Relations are never loaded to build a tree.

A node is an object with the entity's name (`type`), the primary key (`id`), and the flat
`fields` of every loaded row: the entity's own table first, so that its key wins over columns of
the same name, then the other tables in layout order, the first table having a column giving its
value. References map to a node or `null`, collections to a list of nodes. Relations are followed
at most `depth` levels deep; a node at the limit that has relations is marked `truncated`
instead. `references`, `collections` and `truncated` are left out when empty or false.
-/

namespace EntityGraph

namespace Instance

/-- The flat fields of an instance: every column of every loaded row, the own table first and
then the layout order, the first table with a column giving its value. -/
def treeFields (i : Instance) (reg : Registry) (store : RowStore) : List (String × Json) :=
  let leaf := i.leafSlot
  let order := leaf :: (List.range i.layout.length).filter (· != leaf)
  let addSlot (fields : List (String × Json)) (slot : Nat) : List (String × Json) :=
    if (i.row? slot).isNone then fields
    else
      let s := reg.get ((i.layout[slot]?).getD default)
      s.columns.zipIdx.foldl (fun fs (c, index) =>
        if fs.any (·.1 == c.name) then fs else fs ++ [(c.name, (i.value store slot index).toJson)])
        fields
  order.foldl addSlot []

end Instance

/-- The tree document of the instance with handle `h`, following relations `remaining` more
levels; `none` for a handle the arena does not have. -/
def Arena.tree (a : Arena) (reg : Registry) (store : RowStore) :
    (remaining : Nat) → InstanceId → Option Json
  | remaining, h => do
    let i ← a.get? h
    let base : List (String × Json) :=
      [("type", .str (reg.get i.entity).name),
       ("id", match i.id store with
         | some id => Json.int id.toInt
         | none => .null),
       ("fields", Json.object (i.treeFields reg store))]
    if i.relations.isEmpty then return Json.object base
    match remaining with
    | 0 => return Json.object (base ++ [("truncated", .bool true)])
    | r + 1 =>
      let refs := i.relations.filterMap fun (name, d) => match d with
        | .reference target _ => some (name, (target.bind (a.tree reg store r)).getD .null)
        | .collection .. => none
      let cols := i.relations.filterMap fun (name, d) => match d with
        | .collection .. => some (name, Json.arr (d.members.filterMap (a.tree reg store r)))
        | .reference .. => none
      let extra := (if refs.isEmpty then [] else [("references", Json.object refs)]) ++
        (if cols.isEmpty then [] else [("collections", Json.object cols)])
      return Json.object (base ++ extra)

end EntityGraph
