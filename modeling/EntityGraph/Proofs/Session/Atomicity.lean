import EntityGraph.Proofs.Session.Failure
import EntityGraph.Proofs.Graph.Scan
import EntityGraph.Proofs.Cache.Rollback

/-!
# Failed reads and edits leave no trace

Editing an instance (`setField`, `setReference`, `addRelated`, `removeRelated`) checks
everything before it writes, and the write cannot fail. Finding and fetching
(`find`, `findUnique`, `fetchWith`, `fetch`, `reference`) can fail only while binding a query or
in the transport, before any row is materialized; what changes before that is engine
bookkeeping: the transport, the compiled lookups, the cache's recency and counts. So each of them
is `Session.Atomic` (`failed_operations_keep_session_data`).

Loading a relation is different. `loadRelation` empties the members it had loaded before it
compiles and runs its query, and a failure there leaves the relation emptied; `related`
delegates to it. What holds is that a failure leaves the session data as it was but for that one
relation, and that much cannot be improved: a filter on a column the members lack fails the
compile after the members are gone (`loadRelation_not_atomic`).
-/

namespace EntityGraph

namespace Session

variable {τ : Type} {α β : Type}

/-! ## Edits -/

theorem setField_atomic (h : InstanceId) (field : String) (v : Value) :
    Atomic (setField h field v : SessionM τ Bool) := by
  unfold setField
  refine Atomic.bind (getInstance_reads h).keepsData fun i =>
    Atomic.bind registry_reads.keepsData fun reg => ?_
  simp only
  -- the checks in order: lock, field, primary key, value type, slot; the write never fails
  split
  · exact Atomic.of_reads (Reads.throw_bind _ _)
  · refine Atomic.bind (ofExcept_reads _).keepsData fun loc => ?_
    obtain ⟨table, index, column⟩ := loc
    simp only
    split
    · exact Atomic.of_reads (Reads.throw_bind _ _)
    · refine Atomic.bind (ofExcept_reads _).keepsData fun _ => ?_
      split
      · refine OnFailure.of_neverFails (NeverFails.bind rows_neverFails fun store => ?_)
        exact NeverFails.bind (setRows_neverFails _) fun _ =>
          NeverFails.bind (modifyInstance_neverFails _ _) fun _ => NeverFails.pure _
      · exact Atomic.of_reads (Reads.throw _)

theorem setReference_atomic (owner : InstanceId) (relation : String) (target : Option InstanceId) :
    Atomic (setReference owner relation target : SessionM τ Unit) :=
  Atomic.bind (relationForUpdate_reads _ _ _ _).keepsData fun _ =>
    OnFailure.of_neverFails (modifyInstance_neverFails _ _)

theorem addRelated_atomic (owner : InstanceId) (relation : String) (child : InstanceId) :
    Atomic (addRelated owner relation child : SessionM τ Unit) :=
  Atomic.bind (relationForUpdate_reads _ _ _ _).keepsData fun _ =>
    Atomic.bind (getInstance_reads _).keepsData fun _ =>
      OnFailure.of_neverFails (modifyInstance_neverFails _ _)

theorem removeRelated_atomic (owner : InstanceId) (relation : String) (child : InstanceId) :
    Atomic (removeRelated owner relation child : SessionM τ Unit) :=
  Atomic.bind (relationForUpdate_reads _ _ _ _).keepsData fun _ =>
    Atomic.bind (idOf_reads _).keepsData fun _ =>
      Atomic.bind (getInstance_reads _).keepsData fun _ =>
        OnFailure.of_neverFails (modifyInstance_neverFails _ _)

/-! ## Finding and fetching -/

/-- A look in the row cache never fails; when it finds nothing it has only counted its
look-ups. -/
theorem findCached_run (e : EntityId) (id : Int64) (w : World τ) :
    ∃ r w', (findCached e id : SessionM τ (Option InstanceId)).run.run w = (.ok r, w') ∧
      (r = none → World.SameData w w') := by
  unfold findCached
  rw [run_bind, run_get]
  dsimp only
  have hRows := Instance.ofCache_keepsRows w.engine.reg w.engine.pool.store e id w.engine.pool.cache
  rcases hc : (Instance.ofCache w.engine.reg w.engine.pool.store e id).run.run w.engine.pool.cache
    with ⟨found, cache⟩
  rw [hc] at hRows
  dsimp only
  rw [run_bind, run_set]
  dsimp only
  split
  · exact ⟨none, _, rfl, fun _ => ⟨rfl, rfl, rfl, rfl, rfl, hRows⟩⟩
  · exact ⟨_, _, rfl, fun h => nomatch h⟩

variable [Transport τ]

/-- Materializing the rows of a query never fails; the query fails only where binding or the
transport does. -/
theorem runQuery_atomic (compiled : CompiledQuery) (args : List Value) :
    Atomic (runQuery compiled args : SessionM τ (List InstanceId)) := by
  unfold runQuery
  refine Atomic.bind (ofExcept_reads _).keepsData fun params => ?_
  refine Atomic.bind (KeepsData.tryCatch (send_keepsData _) fun _ => (Reads.throw _).keepsData)
    fun result => ?_
  refine OnFailure.of_neverFails fun w => ?_
  simp only [run_bind, run_get]
  split
  exact ⟨_, rfl⟩

theorem fetchWith_atomic (q : Query) (args : List Value) :
    Atomic (fetchWith q args : SessionM τ (List InstanceId)) :=
  Atomic.bind (checkEntity_reads _).keepsData fun _ =>
    Atomic.bind Reads.get.keepsData fun _ =>
      Atomic.bind (ofExcept_reads _).keepsData fun compiled => runQuery_atomic compiled args

theorem fetch_atomic (q : Query) : Atomic (fetch q : SessionM τ (List InstanceId)) :=
  fetchWith_atomic q []


/-- The lookup a unique find compiles is kept by the engine; the session data stays. -/
theorem findUnique_atomic (e : EntityId) (column : String) (v : Value) :
    Atomic (findUnique e column v : SessionM τ (Option InstanceId)) := by
  unfold findUnique
  refine Atomic.bind (checkEntity_reads e).keepsData fun _ => ?_
  intro w err hfail
  rw [run_bind, run_get] at hfail ⊢
  dsimp only at hfail ⊢
  rw [run_bind, run_set] at hfail ⊢
  dsimp only at hfail ⊢
  have hLookup : Atomic (do
      let p ← ofExcept (w.engine.unique.compiled w.engine.reg e column w.session.options).1
      let found ← runQuery p.1 [v]
      pure found.head? : SessionM τ (Option InstanceId)) :=
    Atomic.bind (ofExcept_reads _).keepsData fun p =>
      OnFailure.bind_neverFails (runQuery_atomic p.1 [v]) fun found => NeverFails.pure found.head?
  refine World.SameData.trans ?_ (hLookup _ err hfail)
  exact ⟨rfl, rfl, rfl, rfl, rfl, RowCache.SameRows.refl _⟩


theorem find_atomic (e : EntityId) (id : Int64) :
    Atomic (find e id : SessionM τ (Option InstanceId)) := by
  unfold find
  refine Atomic.bind (checkEntity_reads e).keepsData fun _ =>
    Atomic.bind Reads.get.keepsData fun w => ?_
  split
  · exact OnFailure.of_neverFails (NeverFails.pure _)
  · -- the row cache answers without failing, and a miss leaves the rows it holds
    intro w₀ err hfail
    rw [run_bind] at hfail ⊢
    obtain ⟨r, w₁, hr, hMiss⟩ := findCached_run e id w₀
    rw [hr] at hfail ⊢
    dsimp only at hfail ⊢
    cases r with
    | some h => cases hfail
    | none =>
      have hLookup : Atomic (do
          let reg ← registry
          findUnique e (reg.get e).primaryKeyName (Value.bigInt id) : SessionM τ (Option InstanceId)) :=
        Atomic.bind registry_reads.keepsData fun _ => findUnique_atomic _ _ _
      exact (hMiss rfl).trans (hLookup w₁ err hfail)


theorem reference_atomic (owner : InstanceId) (relation : String) :
    Atomic (reference owner relation : SessionM τ (Option InstanceId)) := by
  unfold reference
  refine Atomic.bind (getInstance_reads _).keepsData fun i =>
    Atomic.bind (relationOf_reads _ _).keepsData fun r => ?_
  split
  · split
    · exact OnFailure.of_neverFails (NeverFails.pure _)
    · -- the target is found by the key in the owner's column, if any; recording it never fails
      refine Atomic.bind rows_reads.keepsData fun store => ?_
      have hRecord : ∀ target, NeverFails (do
          modifyInstance owner (·.setRelation relation (RelationalData.reference target false))
          pure target : SessionM τ (Option InstanceId)) := fun _ =>
        NeverFails.bind (modifyInstance_neverFails _ _) fun _ => NeverFails.pure _
      dsimp only
      split
      · exact OnFailure.bind_neverFails (find_atomic _ _) hRecord
      · exact OnFailure.of_neverFails (NeverFails.bind (NeverFails.pure _) hRecord)
  · exact Atomic.of_reads (Reads.bind (entityName_reads _) fun _ => Reads.throw _)


/-! ## Loading a relation -/

/-- A query only adds instances to the arena. -/
theorem runQuery_arena_size (compiled : CompiledQuery) (args : List Value) (n : Nat) :
    Keeps (fun w : World τ => n ≤ w.session.arena.size) (runQuery compiled args) := by
  unfold runQuery
  refine Keeps.bind (Keeps.ofExcept _) fun params => ?_
  refine Keeps.bind (Keeps.tryCatch ?_ fun _ => Keeps.throw _) fun rows => ?_
  · intro w hw
    rw [run_send]
    exact hw
  · intro w hw
    rw [run_bind, run_get]
    dsimp only
    -- the scan's load state, whose arena becomes the session's
    split
    next found _ st hs =>
      have hGrow := Scan.records_arena_size
        { reg := w.engine.reg, query := compiled, lockLoaded := w.session.config.lockLoaded } rows
        { pool := w.engine.pool, arena := w.session.arena }
      rw [hs] at hGrow
      rw [run_bind, run_set]
      exact Nat.le_trans hw hGrow

/-- After a query, reading an instance that was there before never fails: the run fails only
where the query does. The steps after the read are a continuation, so that the statement matches
a program without reducing it. -/
theorem runQuery_getInstance_failsAt (compiled : CompiledQuery) (args : List Value)
    (owner : InstanceId) {k : Instance → SessionM τ β} (hk : ∀ i, NeverFails (k i)) {w : World τ}
    (hOwner : owner.index < w.session.arena.size) :
    FailsAt World.SameData (runQuery compiled args >>= fun _ => getInstance owner >>= k) w := by
  intro e he
  rw [run_bind] at he ⊢
  have hSize := runQuery_arena_size compiled args owner.index.succ w hOwner
  rcases hr : (runQuery compiled args : SessionM τ (List InstanceId)).run.run w with ⟨_ | found, w'⟩
  · have hq := runQuery_atomic compiled args w _ (by rw [hr])
    rw [hr] at hq
    exact hq
  · rw [hr] at he hSize
    dsimp only at he hSize
    have hi : w'.session.arena.get? owner = some _ := Array.getElem?_eq_getElem hSize
    rw [run_bind, run_getInstance, hi] at he
    dsimp only at he
    obtain ⟨b, hb⟩ := hk _ w'
    rw [hb] at he
    cases he

/-- Compiling a query against the session's options, running it and reading an instance that
was there before fails only without a trace. -/
theorem compileThenQuery_failsAt (reg : Registry) (q : Query) (owner : InstanceId)
    {k : Instance → SessionM τ β} (hk : ∀ i, NeverFails (k i)) {w : World τ}
    (hOwner : owner.index < w.session.arena.size) :
    FailsAt World.SameData (do
      let compiled ← ofExcept (q.compile reg (← get).session.options)
      let _ ← runQuery compiled []
      getInstance owner >>= k) w :=
  FailsAt.reads_bind World.SameData.refl Reads.get fun _ _ =>
    FailsAt.reads_bind World.SameData.refl (ofExcept_reads _) fun compiled _ =>
      runQuery_getInstance_failsAt compiled [] owner hk hOwner


/-- Loading a relation empties the members it had loaded before its query is compiled and run;
when it fails, the session data is as before but for that one relation. -/
theorem loadRelation_fails_within (owner : InstanceId) (relation : String)
    (filter : Option Filter) :
    OnFailure (World.SameDataBut owner relation)
      (loadRelation owner relation filter : SessionM τ (List InstanceId)) := by
  unfold loadRelation
  intro w
  refine FailsAt.reads_bind sameDataBut_refl (getInstance_reads owner) fun i hi => ?_
  refine FailsAt.reads_bind sameDataBut_refl registry_reads fun reg _ => ?_
  refine FailsAt.reads_bind sameDataBut_refl rows_reads fun store _ => ?_
  split
  · refine FailsAt.reads_bind sameDataBut_refl (relationOf_reads _ _) fun r _ => ?_
    dsimp only
    refine FailsAt.setRelation_bind ?_
    -- from here on the world is the one with the relation emptied, and the owner is still there
    have hOwner : ∀ d, owner.index < (w.withRelation owner relation d).session.arena.size := by
      intro d
      rw [World.withRelation, Arena.size_modify]
      exact (Array.getElem?_eq_some_iff.1 (getInstance_ok hi)).1
    exact compileThenQuery_failsAt reg _ owner (fun _ => NeverFails.pure _) (hOwner _)
  · exact fun e _ => sameDataBut_refl w


/-- Reading a relation that is not materialized loads it: a failure leaves the session data as
before but for that relation. -/
theorem related_fails_within (owner : InstanceId) (relation : String) :
    OnFailure (World.SameDataBut owner relation)
      (related owner relation : SessionM τ (List InstanceId)) := by
  unfold related
  refine OnFailure.within_bind (getInstance_reads _).keepsData fun i => ?_
  split
  · exact OnFailure.of_neverFails (NeverFails.pure _)
  · refine OnFailure.within_bind (relationOf_reads _ _).keepsData fun r => ?_
    split
    · -- a reference loads through its key, which fails without a trace
      exact OnFailure.bind_neverFails ((reference_atomic _ _).mono fun _ _ h => Or.inl h)
        fun _ => NeverFails.pure _
    · refine OnFailure.within_bind rows_reads.keepsData fun store => ?_
      split
      · exact OnFailure.of_neverFails (NeverFails.pure _)
      · exact loadRelation_fails_within _ _ _

/-! ## Every read and edit -/

/-- A failed `setField`, `setReference`, `addRelated`, `removeRelated`, `reference`,
`fetchWith`, `fetch`, `find` or `findUnique` leaves the session data as it was; a failed
`loadRelation` or `related` leaves it so but for the relation it was loading. -/
theorem failed_operations_keep_session_data :
    (∀ h field v, Atomic (setField h field v : SessionM τ Bool)) ∧
    (∀ owner relation target, Atomic (setReference owner relation target : SessionM τ Unit)) ∧
    (∀ owner relation child, Atomic (addRelated owner relation child : SessionM τ Unit)) ∧
    (∀ owner relation child, Atomic (removeRelated owner relation child : SessionM τ Unit)) ∧
    (∀ owner relation, Atomic (reference owner relation : SessionM τ (Option InstanceId))) ∧
    (∀ q args, Atomic (fetchWith q args : SessionM τ (List InstanceId))) ∧
    (∀ q, Atomic (fetch q : SessionM τ (List InstanceId))) ∧
    (∀ e id, Atomic (find e id : SessionM τ (Option InstanceId))) ∧
    (∀ e column v, Atomic (findUnique e column v : SessionM τ (Option InstanceId))) ∧
    (∀ owner relation filter, OnFailure (World.SameDataBut owner relation)
      (loadRelation owner relation filter : SessionM τ (List InstanceId))) ∧
    (∀ owner relation, OnFailure (World.SameDataBut owner relation)
      (related owner relation : SessionM τ (List InstanceId))) :=
  ⟨setField_atomic, setReference_atomic, addRelated_atomic, removeRelated_atomic,
    reference_atomic, fetchWith_atomic, fetch_atomic, find_atomic, findUnique_atomic,
    loadRelation_fails_within, related_fails_within⟩

end Session

/-! ## A failed load empties the relation -/

/-- The members an instance has materialized for a relation, if it has. -/
def World.loadedMembers {τ : Type} (w : World τ) (h : InstanceId) (relation : String) :
    Option (List InstanceId) :=
  ((w.session.arena.get? h).bind (·.relation? relation)).map (·.members)

theorem World.SameData.loadedMembers {τ : Type} {w w' : World τ} (hSame : World.SameData w w')
    (h : InstanceId) (relation : String) :
    w'.loadedMembers h relation = w.loadedMembers h relation := by
  rw [World.loadedMembers, World.loadedMembers, hSame.arena]

namespace Session

/-- A fresh session over teams with members and an empty journal. -/
def teamsJournalWorld : World Journal :=
  { engine := Engine.new teamsRegistry {}, session := Session.new {}, transport := {} }

/-- The session after saving a new team with one new member. -/
def savedTeamWorld : World Journal :=
  let saveTeam : SessionM Journal Bool := do
    let team ← create ⟨0⟩
    let member ← create ⟨1⟩
    addRelated team "members" member
    save team
  (saveTeam.run.run teamsJournalWorld).2

/-- Loading the saved team's members again through a filter on `rank`, a column members lack,
fails after the member it had loaded is gone. -/
theorem loadRelation_not_atomic :
    ¬ Atomic (loadRelation ⟨0⟩ "members" (some (Filter.empty.is "rank" (.int 1))) :
      SessionM Journal (List InstanceId)) := by
  intro hAtomic
  -- the member is loaded before; the load fails and leaves none
  have hBefore : savedTeamWorld.loadedMembers ⟨0⟩ "members" = some [⟨1⟩] := by
    decide +kernel
  have hFails : ((loadRelation ⟨0⟩ "members" (some (Filter.empty.is "rank" (.int 1))) :
      SessionM Journal (List InstanceId)).run.run savedTeamWorld).1.toBool = false := by
    decide +kernel
  have hAfter : ((loadRelation ⟨0⟩ "members" (some (Filter.empty.is "rank" (.int 1))) :
      SessionM Journal (List InstanceId)).run.run savedTeamWorld).2.loadedMembers ⟨0⟩ "members" =
        some [] := by
    decide +kernel
  rcases hr : ((loadRelation ⟨0⟩ "members" (some (Filter.empty.is "rank" (.int 1))) :
      SessionM Journal (List InstanceId)).run.run savedTeamWorld).1 with e | found
  · rw [(hAtomic savedTeamWorld e hr).loadedMembers, hBefore] at hAfter
    cases hAfter
  · rw [hr] at hFails
    cases hFails

end Session

end EntityGraph
