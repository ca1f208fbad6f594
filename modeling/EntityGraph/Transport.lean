import EntityGraph.Value.Basic
import EntityGraph.Error

/-!
# Transports

A transport is what a session sends its statements to: queries that give rows, writes that give
the number of rows they changed or the key of the row they inserted, and the three transaction
commands. Every operation is a function from the transport's state to its new state and a
result, so that a session runs against any store that provides them, and a failed operation may
still have changed the store (a transaction left open, a row written before a later one failed).

`Recorded` wraps a transport and keeps every call made through it, the failed ones included, in
the order they were made.
-/

namespace EntityGraph

/-- A store reached by statements with positional parameters. -/
class Transport (τ : Type) where
  /-- Run a query and give its rows. -/
  query : τ → String → List Value → τ × Except Error (List (List Value))
  /-- Run a write and give the number of rows it changed. -/
  execute : τ → String → List Value → τ × Except Error Nat
  /-- Run an insertion and give the key of the row it inserted. -/
  insert : τ → String → List Value → τ × Except Error Int64
  /-- Open a transaction. -/
  begin : τ → τ × Except Error Unit
  /-- Commit the open transaction. -/
  commit : τ → τ × Except Error Unit
  /-- Undo the open transaction. -/
  rollback : τ → τ × Except Error Unit

/-- One call made through a transport. -/
inductive TransportCall where
  /-- A query, write or insertion with its parameters. -/
  | statement (sql : String) (params : List Value)
  | begin
  | commit
  | rollback
  deriving Inhabited, Repr

/-- A transport together with the calls made through it, oldest first. -/
structure Recorded (τ : Type) where
  inner : τ
  calls : Array TransportCall := #[]

namespace Recorded

variable {τ : Type}

/-- Make a call on the inner transport and record it, whatever its outcome. -/
def through {α : Type} (r : Recorded τ) (call : TransportCall) (f : τ → τ × α) : Recorded τ × α :=
  let (inner, a) := f r.inner
  ({ inner, calls := r.calls.push call }, a)

/-- The same transport with no calls recorded. -/
def clear (r : Recorded τ) : Recorded τ := { r with calls := #[] }

instance [Transport τ] : Transport (Recorded τ) where
  query r sql ps := r.through (.statement sql ps) (Transport.query · sql ps)
  execute r sql ps := r.through (.statement sql ps) (Transport.execute · sql ps)
  insert r sql ps := r.through (.statement sql ps) (Transport.insert · sql ps)
  begin r := r.through .begin Transport.begin
  commit r := r.through .commit Transport.commit
  rollback r := r.through .rollback Transport.rollback

end Recorded

end EntityGraph
