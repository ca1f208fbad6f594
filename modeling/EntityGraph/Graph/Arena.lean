import EntityGraph.Graph.Instance

/-!
# Arenas

The instances of one session, addressed by their position, with the identity map that sends an
entity and a primary key to the one instance standing for that record, so that two paths to the
same record meet on one instance.
-/

namespace EntityGraph

/-- The instances of a session and its identity map. -/
structure Arena where
  instances : Array Instance := #[]
  /-- The instance of each known record, by entity and primary key. -/
  identities : List ((EntityId × Int64) × InstanceId) := []
  deriving Inhabited

namespace Arena

/-- The number of instances. -/
def size (a : Arena) : Nat := a.instances.size

/-- Whether there are no instances. -/
def isEmpty (a : Arena) : Bool := a.instances.isEmpty

/-- The instance with a handle. -/
def get? (a : Arena) (h : InstanceId) : Option Instance := a.instances[h.index]?

/-- Change the instance with a handle; other handles are ignored. -/
def modify (a : Arena) (h : InstanceId) (f : Instance → Instance) : Arena :=
  { a with instances := a.instances.modify h.index f }

/-- The instance of a record. -/
def lookup (a : Arena) (entity : EntityId) (id : Int64) : Option InstanceId :=
  a.identities.lookup (entity, id)

/-- Add an instance and return its handle. -/
def push (a : Arena) (i : Instance) : Arena × InstanceId :=
  ({ a with instances := a.instances.push i }, ⟨a.instances.size⟩)

/-- Make a record map to an instance, replacing an earlier entry for the record. -/
def bind (a : Arena) (entity : EntityId) (id : Int64) (h : InstanceId) : Arena :=
  { a with identities := (a.identities.filter (·.1 != (entity, id))) ++ [((entity, id), h)] }

/-- Register a stored instance under its primary key. -/
def remember (a : Arena) (store : RowStore) (h : InstanceId) : Arena :=
  match a.get? h with
  | some i =>
    match i.id store with
    | some id => a.bind i.entity id h
    | none => a
  | none => a

/-- Drop a record from the identity map. -/
def forget (a : Arena) (entity : EntityId) (id : Int64) : Arena :=
  { a with identities := a.identities.filter (·.1 != (entity, id)) }

end Arena

end EntityGraph
