import EntityGraph.Schema.Structure

/-!
# The row cache

Stored rows kept per table level and primary key, so that two loads of one record within the
retention window meet the same row. Retention is bounded per entity: when an entity already
holds `capacity` rows and another is added, its least recently used row is dropped first. A
capacity of `0` keeps nothing.

The cache keeps, beside its entries, a recency order per entity: every use of an entry takes a
fresh tick from a counter and moves the entry to the newest end. Hits, misses and evictions are
counted over the cache's whole life; clearing empties the entries but keeps the counts.

The cache is generic in what it holds for a row; an engine keeps references to rows it shares
with instances.
-/

namespace EntityGraph

/-- The key of a cached row: the table level it belongs to and its primary key. -/
abbrev RowKey := EntityId × Int64

/-- Counts since a cache was made, and the number of rows it holds now. -/
structure CacheStats where
  hits : Nat
  misses : Nat
  evictions : Nat
  len : Nat
  deriving DecidableEq, Inhabited, Repr

/-- A cached row with the tick of its last use. -/
structure CacheEntry (ρ : Type) where
  row : ρ
  lastUsed : Nat
  deriving Inhabited, Repr

/-- A per-entity least-recently-used cache of rows. -/
structure RowCache (ρ : Type) where
  /-- Rows kept per entity. -/
  capacity : Nat
  /-- The entries, by key. -/
  entries : List (RowKey × CacheEntry ρ) := []
  /-- Per entity, the ids it keeps with the tick of their last use, oldest first. -/
  recency : List (EntityId × List (Nat × Int64)) := []
  /-- The last tick handed out. -/
  tick : Nat := 0
  hits : Nat := 0
  misses : Nat := 0
  evictions : Nat := 0
  deriving Inhabited, Repr

namespace RowCache

variable {ρ : Type}

/-- An empty cache keeping `capacity` rows per entity. -/
def empty (capacity : Nat) : RowCache ρ := { capacity }

/-- The recency order of an entity, oldest first. -/
def order (c : RowCache ρ) (e : EntityId) : List (Nat × Int64) := (c.recency.lookup e).getD []

/-- Replace the recency order of an entity; an empty order is dropped. -/
def setOrder (c : RowCache ρ) (e : EntityId) (o : List (Nat × Int64)) : RowCache ρ :=
  let rest := c.recency.filter (·.1 != e)
  { c with recency := if o.isEmpty then rest else rest ++ [(e, o)] }

/-- How many rows an entity keeps. -/
def retained (c : RowCache ρ) (e : EntityId) : Nat := (c.order e).length

/-- Take the next tick. -/
def touch (c : RowCache ρ) : RowCache ρ × Nat := ({ c with tick := c.tick + 1 }, c.tick + 1)

/-- The entry kept for a key. -/
def entry? (c : RowCache ρ) (key : RowKey) : Option (CacheEntry ρ) := c.entries.lookup key

/-- Mark a kept entry as used at tick `t` and return its row. -/
def use (c : RowCache ρ) (key : RowKey) (t : Nat) : Option (RowCache ρ × ρ) :=
  match c.entry? key with
  | none => none
  | some e =>
    let entries := c.entries.map fun kv => if kv.1 == key then (key, { e with lastUsed := t }) else kv
    let o := ((c.order key.1).filter (·.1 != e.lastUsed)) ++ [(t, key.2)]
    some ((({ c with entries } : RowCache ρ).setOrder key.1 o), e.row)

/-- Add an entry for a key that is not kept, used at tick `t`. -/
def insert (c : RowCache ρ) (key : RowKey) (row : ρ) (t : Nat) : RowCache ρ :=
  let c' := { c with entries := c.entries ++ [(key, ({ row, lastUsed := t } : CacheEntry ρ))] }
  c'.setOrder key.1 (c.order key.1 ++ [(t, key.2)])

/-- Drop the entry of a key; whether there was one. -/
def remove (c : RowCache ρ) (key : RowKey) : RowCache ρ × Bool :=
  match c.entry? key with
  | none => (c, false)
  | some e =>
    let c' := { c with entries := c.entries.filter (·.1 != key) }
    (c'.setOrder key.1 ((c.order key.1).filter (·.1 != e.lastUsed)), true)

/-- Drop the least recently used entry of an entity; whether there was one. -/
def evictOldest (c : RowCache ρ) (e : EntityId) : RowCache ρ × Bool :=
  match c.order e with
  | (_, id) :: _ => c.remove (e, id)
  | [] => (c, false)

/-- Keep a row for a key that is not kept, dropping the entity's oldest row first when it is
full; nothing is kept at capacity `0`. -/
def retain (c : RowCache ρ) (key : RowKey) (row : ρ) (t : Nat) : RowCache ρ :=
  if c.capacity == 0 then c
  else
    let c :=
      if c.retained key.1 ≥ c.capacity then
        match c.evictOldest key.1 with
        | (c', true) => { c' with evictions := c'.evictions + 1 }
        | (c', false) => c'
      else c
    c.insert key row t

/-- The row kept for a key, counted as a hit or a miss. -/
def get (c : RowCache ρ) (key : RowKey) : RowCache ρ × Option ρ :=
  let (c, t) := c.touch
  match c.use key t with
  | some (c, row) => ({ c with hits := c.hits + 1 }, some row)
  | none => ({ c with misses := c.misses + 1 }, none)

/-- The row kept for a key, or the row `make` gives, which is then kept. The flag says whether
`make` ran. -/
def getOrInsert {m : Type → Type} [Monad m] (c : RowCache ρ) (key : RowKey) (make : m ρ) :
    m (RowCache ρ × ρ × Bool) := do
  let (c, t) := c.touch
  match c.use key t with
  | some (c, row) => pure ({ c with hits := c.hits + 1 }, row, false)
  | none =>
    let row ← make
    let c := { c with misses := c.misses + 1 }
    pure (c.retain key row t, row, true)

/-- Keep a row under its key, replacing the row kept there before. -/
def put (c : RowCache ρ) (key : RowKey) (row : ρ) : RowCache ρ :=
  let (c, t) := c.touch
  match c.use key t with
  | some (c, _) =>
    { c with entries := c.entries.map fun kv => if kv.1 == key then (key, { kv.2 with row }) else kv }
  | none => c.retain key row t

/-- Drop the row of a key; whether one was kept. -/
def evict (c : RowCache ρ) (key : RowKey) : RowCache ρ × Bool := c.remove key

/-- Whether a row is kept for a key. -/
def contains (c : RowCache ρ) (key : RowKey) : Bool := (c.entry? key).isSome

/-- The number of rows kept. -/
def size (c : RowCache ρ) : Nat := c.entries.length

/-- Whether no row is kept. -/
def isEmpty (c : RowCache ρ) : Bool := c.entries.isEmpty

/-- Drop every row; the counts stay. -/
def clear (c : RowCache ρ) : RowCache ρ := { c with entries := [], recency := [] }

/-- The counts and the number of rows kept. -/
def stats (c : RowCache ρ) : CacheStats :=
  { hits := c.hits, misses := c.misses, evictions := c.evictions, len := c.size }

end RowCache

end EntityGraph
