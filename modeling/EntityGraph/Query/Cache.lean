import EntityGraph.Query.Compile

/-!
# Reusing compiled queries

Compiling is pure, so a compiled form can be kept and handed out again as long as the query
and the options are the ones it was made from. Two keepers are defined here:

* `CachedQuery`, a query with the compiled form of its current state. Every edit drops the
  form; compiling with the options it was made for hands it out again (the answer says
  `reused`), and with other options compiles afresh and keeps the new form. A failed compile
  leaves the kept form as it was.
* `UniqueLookups`, one slot per entity and column for the query "the instances whose column
  equals slot 0". A slot is opened on first use, even when that compile fails, and keeps the
  form for the options it was last compiled with.

In both, what is handed out is always what a fresh compile of the same query with the same
options gives.
-/

namespace EntityGraph

/-- A compiled form together with the options it was compiled with. -/
abbrev CompiledFor := CompileOptions × CompiledQuery

/-- A query with the compiled form of its current state, when one was made. -/
structure CachedQuery where
  query : Query
  compiled : Option CompiledFor := none
  deriving Inhabited

namespace CachedQuery

/-- A query with nothing compiled yet. -/
def ofQuery (q : Query) : CachedQuery := { query := q }

/-- Change the query; the compiled form no longer describes it and is dropped. -/
def edit (c : CachedQuery) (f : Query → Query) : CachedQuery := { query := f c.query }

/-- Whether a compiled form is kept. -/
def isCompiled (c : CachedQuery) : Bool := c.compiled.isSome

/-- Compile with the given options. The result carries whether the kept form was handed out
again; on success the result is kept for these options. -/
def compile (reg : Registry) (options : CompileOptions) (c : CachedQuery) :
    Except Error (CompiledQuery × Bool) × CachedQuery :=
  match c.compiled with
  | some (kept, compiled) =>
    if kept == options then (.ok (compiled, true), c)
    else fresh
  | none => fresh
where
  fresh : Except Error (CompiledQuery × Bool) × CachedQuery :=
    match c.query.compile reg options with
    | .ok compiled => (.ok (compiled, false), { c with compiled := some (options, compiled) })
    | .error e => (.error e, c)

end CachedQuery

/-- The query that finds the instances of an entity whose column equals slot 0. -/
def Query.uniqueLookup (entity : EntityId) (column : String) : Query :=
  (Query.new entity).addFilter (Filter.empty.isSlot column 0)

/-- Compiled lookups by one column, a slot per entity and column in the order they were
opened. -/
structure UniqueLookups where
  slots : List ((EntityId × String) × Option CompiledFor) := []
  deriving Inhabited

namespace UniqueLookups

/-- The number of slots opened so far. -/
def size (u : UniqueLookups) : Nat := u.slots.length

/-- Whether no slot was opened. -/
def isEmpty (u : UniqueLookups) : Bool := u.slots.isEmpty

/-- The kept form of a slot. -/
def kept? (u : UniqueLookups) (entity : EntityId) (column : String) : Option CompiledFor :=
  (u.slots.lookup (entity, column)).getD none

/-- Put a form into a slot, opening the slot at the end when it is new. -/
def store (u : UniqueLookups) (key : EntityId × String) (form : Option CompiledFor) :
    UniqueLookups :=
  if u.slots.any (·.1 == key) then
    ⟨u.slots.map fun s => if s.1 == key then (key, form) else s⟩
  else ⟨u.slots ++ [(key, form)]⟩

/-- The compiled lookup of `column` on `entity` for the given options, with whether the slot's
kept form was handed out again. The slot is opened in any case. -/
def compiled (reg : Registry) (entity : EntityId) (column : String) (options : CompileOptions)
    (u : UniqueLookups) : Except Error (CompiledQuery × Bool) × UniqueLookups :=
  let key := (entity, column)
  match u.kept? entity column with
  | some (kept, form) =>
    if kept == options then (.ok (form, true), u) else fresh key
  | none => fresh key
where
  fresh (key : EntityId × String) : Except Error (CompiledQuery × Bool) × UniqueLookups :=
    match (Query.uniqueLookup entity column).compile reg options with
    | .ok form => (.ok (form, false), u.store key (some (options, form)))
    | .error e => (.error e, u.store key (u.kept? entity column))

end UniqueLookups

end EntityGraph
