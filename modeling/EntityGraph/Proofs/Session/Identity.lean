import EntityGraph.Proofs.Cache.Rollback

/-!
# The identity map after a rollback

A session's identity map sends an entity and a primary key to the one instance standing for that
record, so that every path to the record meets on one instance. A rollback keeps the instances as
they are, ids given by rolled-back insertions included, and keeps the identity map; the store,
on the other hand, forgets the rolled-back rows, so it may hand the same key to the next row it
inserts. Saving a second instance then registers it under that key while the first still
carries it: `Session.rollback_reissues_identity` runs this over a one-table store whose keys
count the rows it holds, where two live instances of one entity end up with the same id.
-/

namespace EntityGraph

namespace Session

/-- Save a new team named Red, roll the transaction back, then save a new team named Blue. -/
def saveRollbackSaveAgain : SessionM Journal (InstanceId × InstanceId) := do
  let red ← create ⟨0⟩
  let _ ← setField red "name" (.text "Red")
  let _ ← save red
  rollback
  let blue ← create ⟨0⟩
  let _ ← setField blue "name" (.text "Blue")
  let _ ← save blue
  pure (red, blue)

/-- Both teams are live and carry id 1, and the identity map sends team 1 to the second one. -/
theorem rollback_reissues_identity :
    let r := saveRollbackSaveAgain.run.run journalWorld
    let arena := r.2.session.arena
    let store := r.2.engine.pool.store
    r.1.toOption = some (⟨0⟩, ⟨1⟩) ∧
      ((arena.get? ⟨0⟩).map fun i => (i.id store, i.deleted)) = some (some 1, false) ∧
      ((arena.get? ⟨1⟩).map fun i => (i.id store, i.deleted)) = some (some 1, false) ∧
      arena.lookup ⟨0⟩ 1 = some ⟨1⟩ := by
  intro r arena store
  exact ⟨by decide +kernel, by decide +kernel, by decide +kernel, by decide +kernel⟩

end Session

end EntityGraph
