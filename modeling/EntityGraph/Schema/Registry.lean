import EntityGraph.Schema.Structure
import EntityGraph.Schema.Identifier

/-!
# The registry

All registered entities, numbered in registration order. `Registry.build` checks a list of
descriptors and resolves every name in them; the first fault found is the answer. The checks run
in this order, which decides which of two faults is reported:

1. per descriptor: its name and table are identifiers, the name and the table are new;
2. per descriptor, per column: the name is an identifier and new, at most one primary key, a
   reference names a registered entity; then one primary key exists, and the sequence column
   exists;
3. per descriptor: its parent chain names registered entities and never loops;
4. per descriptor: each implementation is registered, has no parent, and its link column is an
   own column; each relation has an identifier name, is new, and resolves.

Lookups by field name search the inheritance levels nearest first.
-/

namespace EntityGraph

/-- The registered entities, numbered in registration order. -/
structure Registry where
  structures : Array Structure
  deriving Inhabited

namespace Registry

/-- The number of registered entities. -/
def size (r : Registry) : Nat := r.structures.size

/-- The entity with the given number. -/
def get? (r : Registry) (e : EntityId) : Option Structure := r.structures[e.index]?

/-- The entity with the given number, or a blank entity when there is none. -/
def get (r : Registry) (e : EntityId) : Structure := (r.get? e).getD default

/-- The number of the entity with the given name. -/
def entityId? (r : Registry) (name : String) : Option EntityId :=
  (r.structures.findIdx? (·.name == name)).map (⟨·⟩)

/-- The entity with the given name. -/
def byName? (r : Registry) (name : String) : Option Structure := (r.entityId? name).bind r.get?

/-- The inheritance levels of an entity: its ancestors root first, then itself. -/
def levels (r : Registry) (e : EntityId) : List EntityId := (r.get e).parents ++ [e]

/-- The tables one instance of an entity spans: its levels, then its implementations. -/
def tableLayout (r : Registry) (e : EntityId) : List EntityId :=
  r.levels e ++ (r.get e).implementations.map (·.entity)

/-- The column a field name denotes on an entity: the nearest level that has it. -/
def findColumn? (r : Registry) (e : EntityId) (name : String) : Option ColumnPosition :=
  (r.levels e).reverse.findSome? fun level =>
    ((r.get level).columnIndex? name).map fun i => ⟨level, i⟩

/-- The relation a name denotes on an entity: the nearest level that declares it. -/
def findRelation? (r : Registry) (e : EntityId) (name : String) : Option Relation :=
  (r.levels e).reverse.findSome? fun level => (r.get level).relation? name

/-- Whether `e` is `ancestor` or inherits from it. -/
def isA (r : Registry) (e ancestor : EntityId) : Bool :=
  e == ancestor || (r.get e).parents.contains ancestor

end Registry

end EntityGraph
