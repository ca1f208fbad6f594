import EntityGraph.Proofs.Session.Run
import EntityGraph.Proofs.Graph.Store
import EntityGraph.Schema.Registry.Build

/-!
# Isolation of the shared rows

The row cache hands the same row object to every session that loads a record. Writing a field
copies a clean row before changing it (`Instance.write_get_of_clean`), so a session can change
a row others read only if that row already carries unsaved changes. Sessions are therefore
isolated from each other's unsaved edits exactly as long as the cache keeps unmodified rows only.

The cache takes its rows from a unit of work when the unit is published. This module proves:

* `RowCache.EveryRow`: a property of every kept row survives every cache operation that adds
  rows having it;
* `ChangeSet.publish_clean`: publishing keeps the cache clean when every row the unit recorded
  is unmodified;
* `Session.setField_keeps_isolation`: in an isolated world, setting a field changes no cached
  row and leaves the world isolated;
* `Session.commit_keeps_isolation`: committing keeps a world isolated.

A save that fails after inserting a row leaves that row recorded and still modified, so the
world is no longer isolated; `Session.failed_save_shares_modified_row` runs such a save over a
store that refuses the second insertion, commits, and shows the cached row changing under a
later `setField`.
-/

namespace EntityGraph

namespace RowCache

variable {ρ : Type} {Q : ρ → Prop}

/-! ## Properties of every kept row -/

/-- Every row the cache keeps satisfies `Q`. -/
def EveryRow (Q : ρ → Prop) (c : RowCache ρ) : Prop := ∀ kv ∈ c.entries, Q kv.2.row

theorem EveryRow.setOrder {c : RowCache ρ} (h : c.EveryRow Q) (e : EntityId)
    (o : List (Nat × Int64)) : (c.setOrder e o).EveryRow Q := h

theorem EveryRow.touch {c : RowCache ρ} (h : c.EveryRow Q) : c.touch.1.EveryRow Q := h

theorem EveryRow.of_entry {c : RowCache ρ} (h : c.EveryRow Q) {key : RowKey} {e : CacheEntry ρ}
    (he : c.entry? key = some e) : Q e.row := by
  obtain ⟨l₁, l₂, hl, _⟩ := List.lookup_eq_some_iff.mp he
  exact h (key, e) (by simp [hl])

/-- Using an entry only renews its tick: the rows are the same, and the row handed out is one of
them. -/
theorem EveryRow.use {c c' : RowCache ρ} {row : ρ} (h : c.EveryRow Q) {key : RowKey} {t : Nat}
    (hu : c.use key t = some (c', row)) : c'.EveryRow Q ∧ Q row := by
  unfold RowCache.use at hu
  cases he : c.entry? key with
  | none => simp [he] at hu
  | some e =>
    simp only [he, Option.some.injEq, Prod.mk.injEq] at hu
    obtain ⟨rfl, rfl⟩ := hu
    have hRow := h.of_entry he
    refine ⟨EveryRow.setOrder (fun kv hkv => ?_) _ _, hRow⟩
    obtain ⟨kv₀, hkv₀, rfl⟩ := List.mem_map.mp hkv
    split
    · exact hRow
    · exact h kv₀ hkv₀

theorem EveryRow.insert {c : RowCache ρ} (h : c.EveryRow Q) {row : ρ} (hr : Q row) (key : RowKey)
    (t : Nat) : (c.insert key row t).EveryRow Q := by
  refine EveryRow.setOrder (fun kv hkv => ?_) _ _
  rcases List.mem_append.mp hkv with hOld | hNew
  · exact h kv hOld
  · simp only [List.mem_singleton] at hNew
    subst hNew
    exact hr

theorem EveryRow.remove {c : RowCache ρ} (h : c.EveryRow Q) (key : RowKey) :
    (c.remove key).1.EveryRow Q := by
  unfold RowCache.remove
  split
  · exact h
  · exact EveryRow.setOrder (fun kv hkv => h kv (List.mem_filter.mp hkv).1) _ _

theorem EveryRow.evictOldest {c : RowCache ρ} (h : c.EveryRow Q) (e : EntityId) :
    (c.evictOldest e).1.EveryRow Q := by
  unfold RowCache.evictOldest
  split
  · exact h.remove _
  · exact h

theorem EveryRow.retain {c : RowCache ρ} (h : c.EveryRow Q) {row : ρ} (hr : Q row) (key : RowKey)
    (t : Nat) : (c.retain key row t).EveryRow Q := by
  unfold RowCache.retain
  split
  · exact h
  · -- an eviction first, when the entity is full
    refine EveryRow.insert ?_ hr key t
    split
    · split
      · rename_i heq
        have := h.evictOldest key.1
        rw [heq] at this
        exact this
      · rename_i heq
        have := h.evictOldest key.1
        rw [heq] at this
        exact this
    · exact h

/-- Keeping a row having `Q` keeps every row having `Q`. -/
theorem EveryRow.put {c : RowCache ρ} (h : c.EveryRow Q) {row : ρ} (hr : Q row) (key : RowKey) :
    (c.put key row).EveryRow Q := by
  unfold RowCache.put
  simp only
  split
  · rename_i c' _ hu
    have hc' := (h.touch.use hu).1
    intro kv hkv
    obtain ⟨kv₀, hkv₀, rfl⟩ := List.mem_map.mp hkv
    split
    · exact hr
    · exact hc' kv₀ hkv₀
  · exact h.touch.retain hr key _

theorem EveryRow.evict {c : RowCache ρ} (h : c.EveryRow Q) (key : RowKey) :
    (c.evict key).1.EveryRow Q :=
  h.remove key

end RowCache

/-! ## Clean caches and settled units -/

namespace RowPool

/-- Every row the cache keeps is unmodified in the store. -/
def Clean (p : RowPool) : Prop := p.cache.EveryRow fun r => (p.store.get r).isModified = false

@[simp] theorem keep_store (p : RowPool) (row : RowRef) : (p.keep row).store = p.store := by
  unfold RowPool.keep
  simp only
  cases (p.store.get row).id <;> rfl

theorem keep_clean {p : RowPool} (hp : p.Clean) {row : RowRef}
    (hr : (p.store.get row).isModified = false) : (p.keep row).Clean := by
  unfold RowPool.keep
  simp only
  cases (p.store.get row).id with
  | some id => exact RowCache.EveryRow.put hp hr _
  | none => exact hp

end RowPool

namespace ChangeSet

/-- Every row the unit recorded is unmodified in the store. -/
def Settled (c : ChangeSet) (s : RowStore) : Prop :=
  ∀ e ∈ c.inserted ++ c.updated, (s.get e.2).isModified = false

theorem settled_empty (s : RowStore) : ({} : ChangeSet).Settled s := by
  intro e he
  simp at he

@[simp] theorem publish_store (c : ChangeSet) (p : RowPool) : (c.publish p).1.store = p.store := by
  unfold ChangeSet.publish
  simp only
  -- neither keeping nor evicting touches the store
  have hKeep : ∀ (l : List (RowKey × RowRef)) (p : RowPool),
      (l.foldl (fun p e => p.keep e.2) p).store = p.store := by
    intro l
    induction l with
    | nil => intro p; rfl
    | cons e l ih =>
      intro p
      rw [List.foldl_cons, ih, RowPool.keep_store]
  have hEvict : ∀ (l : List RowKey) (p : RowPool),
      (l.foldl (fun p k => { p with cache := (p.cache.evict k).1 }) p).store = p.store := by
    intro l
    induction l with
    | nil => intro p; rfl
    | cons k l ih => intro p; rw [List.foldl_cons, ih]
  rw [hEvict, hKeep]

/-- Publishing a unit whose recorded rows are all unmodified keeps the cache clean. -/
theorem publish_clean {c : ChangeSet} {p : RowPool} (hp : p.Clean) (hc : c.Settled p.store) :
    (c.publish p).1.Clean := by
  unfold ChangeSet.publish
  simp only
  -- the inserted and updated rows still live are kept one after the other
  have hKeep : ∀ l : List (RowKey × RowRef), (∀ e ∈ l, (p.store.get e.2).isModified = false) →
      ∀ q : RowPool, q.store = p.store → q.Clean →
        (l.foldl (fun p e => p.keep e.2) q).store = p.store ∧
          (l.foldl (fun p e => p.keep e.2) q).Clean := by
    intro l
    induction l with
    | nil => intro _ q hq hClean; exact ⟨hq, hClean⟩
    | cons e l ih =>
      intro hl q hq hClean
      rw [List.foldl_cons]
      have hStore : (q.keep e.2).store = p.store := by rw [RowPool.keep_store, hq]
      refine ih (fun e' he' => hl e' (List.mem_cons_of_mem _ he')) _ hStore ?_
      exact RowPool.keep_clean hClean (hq ▸ hl e List.mem_cons_self)
  -- the deleted rows are then dropped
  have hEvict : ∀ (l : List RowKey) (q : RowPool), q.Clean →
      (l.foldl (fun p k => { p with cache := (p.cache.evict k).1 }) q).Clean := by
    intro l
    induction l with
    | nil => intro q hq; exact hq
    | cons k l ih =>
      intro q hq
      rw [List.foldl_cons]
      exact ih _ (hq.evict k)
  refine hEvict _ _ (hKeep _ ?_ p rfl hp).2
  intro e he
  rcases List.mem_append.mp he with hIns | hUpd
  · exact hc e (List.mem_append_left _ (List.mem_filter.mp hIns).1)
  · exact hc e (List.mem_append_right _ (List.mem_filter.mp hUpd).1)

end ChangeSet

namespace World

variable {τ : Type}

/-- The cache keeps unmodified rows only and the unit recorded unmodified rows only, so that
publishing the unit keeps the cache clean. -/
def Isolated (w : World τ) : Prop :=
  w.engine.pool.Clean ∧ w.session.changes.Settled w.engine.pool.store

end World

namespace Session

variable {τ : Type}

/-! ## Setting a field -/

/-- Setting a field either refuses and changes nothing, or writes through the instance: the
store and the instance become what `Instance.write` gives. -/
theorem setField_world (h : InstanceId) (field : String) (v : Value) (w : World τ) :
    ((setField h field v).run.run w).2 = w ∨
      ∃ i slot index, w.session.arena.get? h = some i ∧
        ((setField h field v).run.run w).2 =
          { w with
            engine := { w.engine with pool := { w.engine.pool with
              store := (i.write w.engine.reg w.engine.pool.store slot index v).1 } },
            session := { w.session with
              arena := (w.session.arena.modify h fun _ =>
                (i.write w.engine.reg w.engine.pool.store slot index v).2.1) } } := by
  cases hi : w.session.arena.get? h with
  | none =>
    left
    simp only [setField, run_bind, run_getInstance, hi]
  | some i =>
    -- the checks in order: lock, field, primary key, value type, slot; each refusal keeps `w`
    simp only [setField, run_bind, run_getInstance, run_registry, hi]
    cases hl : i.locked
    case true =>
      left
      simp only [↓reduceIte, run_bind, run_throw]
    simp only [Bool.false_eq_true, ↓reduceIte, run_bind, run_ofExcept]
    cases hloc : locate w.engine.reg i.entity field with
    | error e => exact Or.inl rfl
    | ok loc =>
      obtain ⟨table, index, column⟩ := loc
      cases hp : column.role == .primary
      case true =>
        left
        simp only [hp, ↓reduceIte, run_bind, run_throw]
      simp only [hp, Bool.false_eq_true, ↓reduceIte, run_bind, run_ofExcept]
      cases hc : column.type.check column.name v with
      | error e => exact Or.inl rfl
      | ok u =>
        cases hs : i.slotOf table with
        | none =>
          left
          simp only [run_throw]
        | some slot =>
          right
          refine ⟨i, slot, index, rfl, ?_⟩
          simp only [run_bind, run_rows, run_setRows, run_modifyInstance, run_pure]

/-- In an isolated world, setting a field leaves every cached row as it was, and the world
isolated: the cache and the unit are untouched, and their rows are unmodified, which a write
copies before changing. -/
theorem setField_keeps_isolation (h : InstanceId) (field : String) (v : Value) (w : World τ)
    (hw : w.Isolated) :
    (∀ kv ∈ w.engine.pool.cache.entries,
      ((setField h field v).run.run w).2.engine.pool.store.get kv.2.row =
        w.engine.pool.store.get kv.2.row) ∧
      ((setField h field v).run.run w).2.Isolated := by
  obtain ⟨hClean, hSettled⟩ := hw
  rcases setField_world h field v w with hSame | ⟨i, slot, index, _, hWrite⟩
  · rw [hSame]
    exact ⟨fun _ _ => rfl, hClean, hSettled⟩
  · rw [hWrite]
    -- every row the cache or the unit holds is clean, so the write leaves it alone
    have hKeeps : ∀ r, (w.engine.pool.store.get r).isModified = false →
        (i.write w.engine.reg w.engine.pool.store slot index v).1.get r = w.engine.pool.store.get r :=
      fun r hr => Instance.write_get_of_clean _ _ _ _ _ _ hr
    refine ⟨fun kv hkv => hKeeps _ (hClean kv hkv), ?_, ?_⟩
    · intro kv hkv
      show ((i.write _ _ slot index v).1.get kv.2.row).isModified = false
      rw [hKeeps _ (hClean kv hkv)]
      exact hClean kv hkv
    · intro e he
      show ((i.write _ _ slot index v).1.get e.2).isModified = false
      rw [hKeeps _ (hSettled e he)]
      exact hSettled e he

/-- A fresh session over a fresh engine is isolated, and a first `setField` keeps it so. -/
theorem setField_keeps_isolation_fresh :
    let w : World Unit := { engine := Engine.new default {}, session := Session.new {}, transport := () }
    w.Isolated ∧
      (∀ kv ∈ w.engine.pool.cache.entries,
        ((setField ⟨0⟩ "name" (.text "Red")).run.run w).2.engine.pool.store.get kv.2.row =
          w.engine.pool.store.get kv.2.row) ∧
      ((setField ⟨0⟩ "name" (.text "Red")).run.run w).2.Isolated := by
  intro w
  have hw : w.Isolated := ⟨(fun kv hkv => nomatch hkv), ChangeSet.settled_empty _⟩
  exact ⟨hw, setField_keeps_isolation ⟨0⟩ "name" (.text "Red") w hw⟩

/-! ## Publishing and committing -/

/-- A step that changes neither the pool nor the unit keeps a world isolated. -/
theorem Keeps.isolated_of_frame {α : Type} {x : SessionM τ α}
    (hx : ∀ w, (x.run.run w).2.engine.pool = w.engine.pool ∧
      (x.run.run w).2.session.changes = w.session.changes) : Keeps World.Isolated x := by
  intro w hw
  obtain ⟨hPool, hChanges⟩ := hx w
  unfold World.Isolated
  rw [hPool, hChanges]
  exact hw

theorem announce_keeps_isolation (n : Notice) : Keeps World.Isolated (announce n : SessionM τ Unit) :=
  Keeps.isolated_of_frame fun w => by
    rw [run_announce]
    exact ⟨rfl, rfl⟩

theorem publish_keeps_isolation [Transport τ] : Keeps World.Isolated (publish : SessionM τ Unit) := by
  intro w hw
  -- publishing empties the unit; the announcements after it change nothing that matters
  have hPublished := And.intro (ChangeSet.publish_clean hw.1 hw.2)
    (ChangeSet.settled_empty (w.session.changes.publish w.engine.pool).1.store)
  rcases hPub : w.session.changes.publish w.engine.pool with ⟨pool, published⟩
  rw [hPub] at hPublished
  simp only [publish, hPub, run_bind, run_get, run_set]
  rw [← run_bind]
  exact Keeps.bind (Keeps.forM (fun _ => announce_keeps_isolation _) _)
    (fun _ => Keeps.forM (fun _ => announce_keeps_isolation _) _) _ hPublished

theorem commit_keeps_isolation [Transport τ] : Keeps World.Isolated (commit : SessionM τ Unit) := by
  unfold commit
  refine Keeps.bind Keeps.get fun _ => ?_
  simp only
  -- without a transaction, or when a listener refuses, the commit fails before any change
  split
  · exact Keeps.throw_bind _ _
  refine Keeps.bind (announce_keeps_isolation _) fun _ => Keeps.bind Keeps.get fun _ => ?_
  split
  · exact Keeps.throw_bind _ _
  have hSend : Keeps World.Isolated (send Transport.commit : SessionM τ Unit) :=
    Keeps.isolated_of_frame fun w => by
      rw [run_send]
      exact ⟨rfl, rfl⟩
  have hClose : Keeps World.Isolated
      (modifySession (fun s => { s with inTransaction := false }) : SessionM τ Unit) :=
    Keeps.isolated_of_frame fun w => by
      rw [run_modifySession]
      exact ⟨rfl, rfl⟩
  exact Keeps.bind hSend fun _ => Keeps.bind hClose fun _ =>
    Keeps.bind publish_keeps_isolation fun _ => announce_keeps_isolation _

/-! ## A failed save breaks isolation -/

/-- A store that takes one insertion and refuses every later one, as a table refuses a row that
leaves a `NOT NULL` column empty. -/
structure OneInsertion where
  inserted : Bool := false

instance : Transport OneInsertion where
  query t _ _ := (t, .ok [])
  execute t _ _ := (t, .ok 1)
  insert t _ _ :=
    if t.inserted then (t, .error (.database .constraint none "NOT NULL constraint failed" none))
    else ({ inserted := true }, .ok 1)
  begin t := (t, .ok ())
  commit t := (t, .ok ())
  rollback t := (t, .ok ())

/-- Teams with members, a member's `team_id` being the back reference of its team's `members`. -/
def teamsRegistry : Registry :=
  let team : EntityDescriptor :=
    { name := "Team", table := "team",
      columns := [Column.primary "id", Column.ordinary "name" .text],
      relations := [.children "members" "Member" "team_id"] }
  let member : EntityDescriptor :=
    { name := "Member", table := "member",
      columns := [Column.primary "id", Column.ordinary "name" .text,
        Column.reference "team_id" "Team"] }
  match Registry.build [team, member] with
  | .ok r => r
  | .error _ => default

/-- A fresh session over the teams registry. -/
def teamsWorld : World OneInsertion :=
  { engine := Engine.new teamsRegistry {}, session := Session.new {}, transport := {} }

/-- Save a new team named Red with a new member: the team's row goes in, the member's is
refused. -/
def saveTeamWithMember : SessionM OneInsertion Bool := do
  let team ← create ⟨0⟩
  let _ ← setField team "name" (.text "Red")
  let member ← create ⟨1⟩
  addRelated team "members" member
  save team

/-- The save fails after inserting the team's row, which stays recorded and modified; the
commit then hands that modified row to the cache, and the next `setField` on the team changes
the cached row in place, where every other session of the engine reads it. -/
theorem failed_save_shares_modified_row :
    let w₁ := (saveTeamWithMember.run.run teamsWorld).2
    let w₂ := (commit.run.run w₁).2
    let w₃ := ((setField ⟨0⟩ "name" (.text "Blue")).run.run w₂).2
    (saveTeamWithMember.run.run teamsWorld).1.toBool = false ∧ ¬ w₂.engine.pool.Clean ∧
      ((w₃.engine.pool.cache.entry? (⟨0⟩, 1)).any fun e =>
        ((w₃.engine.pool.store.get e.row).get? 1).any (·.same (.text "Blue"))) = true := by
  intro w₁ w₂ w₃
  refine ⟨by decide +kernel, fun hClean => ?_, by decide +kernel⟩
  have hModified : ((w₂.engine.pool.cache.entry? (⟨0⟩, 1)).any fun e =>
      (w₂.engine.pool.store.get e.row).isModified) = true := by decide +kernel
  obtain ⟨e, he, hMod⟩ := (Option.any_eq_true _ _).mp hModified
  rw [hClean.of_entry he] at hMod
  cases hMod

end Session

end EntityGraph
