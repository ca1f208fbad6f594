import EntityGraph.Proofs.Cache.Isolation
import EntityGraph.Session.Load

/-!
# Rolling back and the row cache

Rolling back a transaction forgets the session's unit of work and postponed work and closes the
transaction, whatever the transport answers, but it leaves the engine alone: the row store and
the row cache are exactly as they were (`Session.rollback_keeps_engine`). Rows reach the cache
not only when a unit is published but also when a query materializes them, and a query inside a
transaction sees the transaction's own writes. A row read that way stays cached after the
transaction is rolled back, although the store no longer holds it:
`Session.rollback_keeps_uncommitted_row` runs save, fetch and rollback over a one-table store
with a transaction and finds the cache holding a row the committed table does not.
-/

namespace EntityGraph

namespace Session

variable {τ : Type} [Transport τ]

/-! ## What a rollback changes -/

/-- Rolling back outside a transaction is refused; inside one, the transport is asked, and the
session leaves its transaction and forgets its unit and its postponed work even when the
transport fails. -/
theorem rollback_world (w : World τ) :
    ((rollback : SessionM τ Unit).run.run w).2 =
      if w.session.inTransaction then
        let w' : World τ :=
          { w with transport := (Transport.rollback w.transport).1,
                   session := { w.session with inTransaction := false, deferred := [], changes := {} } }
        match (Transport.rollback w.transport).2 with
        | .ok () => { w' with notices := w'.notices.push .afterRollback }
        | .error _ => w'
      else w := by
  cases hIn : w.session.inTransaction
  case false =>
    simp only [rollback, run_bind, run_get, hIn, Bool.not_false, Bool.false_eq_true, ↓reduceIte,
      run_throw]
  case true =>
    simp only [rollback, run_bind, run_get, hIn, Bool.not_true, Bool.false_eq_true, ↓reduceIte,
      run_set]
    rcases Transport.rollback w.transport with ⟨t, _ | ⟨⟩⟩ <;> simp only [run_ofExcept, run_announce]

/-- A rollback leaves the engine's rows and cache exactly as it found them. -/
theorem rollback_keeps_engine (w : World τ) :
    ((rollback : SessionM τ Unit).run.run w).2.engine = w.engine := by
  rw [rollback_world]
  split
  · split <;> rfl
  · rfl

/-! ## A rolled-back row stays cached -/

/-- A one-table store with a transaction: insertions go to the working table, commit makes the
working table the committed one, and rollback restores the committed table. Queries read the
working table, so a transaction sees its own writes. -/
structure Journal where
  committed : List (List Value) := []
  working : List (List Value) := []

instance : Transport Journal where
  query j _ _ := (j, .ok j.working)
  execute j _ _ := (j, .ok 1)
  insert j _ ps :=
    let id : Int64 := Int64.ofNat (j.working.length + 1)
    ({ j with working := j.working ++ [Value.bigInt id :: ps] }, .ok id)
  begin j := (j, .ok ())
  commit j := ({ j with committed := j.working }, .ok ())
  rollback j := ({ j with working := j.committed }, .ok ())

/-- Teams with a name. -/
def namedTeamsRegistry : Registry :=
  let team : EntityDescriptor :=
    { name := "Team", table := "team", columns := [Column.primary "id", Column.ordinary "name" .text] }
  match Registry.build [team] with
  | .ok r => r
  | .error _ => default

/-- A fresh session over the named teams and an empty journal. -/
def journalWorld : World Journal :=
  { engine := Engine.new namedTeamsRegistry {}, session := Session.new {}, transport := {} }

/-- Save a new team named Red, which opens a transaction, read every team back, and roll back. -/
def saveFetchRollback : SessionM Journal Unit := do
  let team ← create ⟨0⟩
  let _ ← setField team "name" (.text "Red")
  let _ ← save team
  let _ ← fetch (Query.new ⟨0⟩)
  rollback

/-- After the rollback no transaction is open and the committed table is empty, yet the cache
keeps the row of team 1, named Red, for every session of the engine to load. -/
theorem rollback_keeps_uncommitted_row :
    let w := (saveFetchRollback.run.run journalWorld).2
    (saveFetchRollback.run.run journalWorld).1.toBool = true ∧ w.session.inTransaction = false ∧
      w.transport.committed = [] ∧
      ((w.engine.pool.cache.entry? (⟨0⟩, 1)).any fun e =>
        ((w.engine.pool.store.get e.row).get? 1).any (·.same (.text "Red"))) = true := by
  intro w
  exact ⟨by decide +kernel, by decide +kernel, by decide +kernel, by decide +kernel⟩

end Session

end EntityGraph
