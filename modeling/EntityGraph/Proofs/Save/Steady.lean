import EntityGraph.Proofs.Session.Run
import EntityGraph.Proofs.Graph.Store

/-!
# What saving keeps

A save works on five parts of the world: the engine's rows, the session's instances, its unit of
work, its postponed work and the transport. Everything else, the registry, the configuration,
the row cache, the open transaction and the notices among them, is read at most. And every
instance a save marks as being saved it unmarks again, whether its writing succeeded or failed.

`Session.Steady S w₀ w` says both: `w` differs from `w₀` in those five parts only, and its
instances' saving flags are `S`. Every stage of the save cascade keeps it (`saveCascade_steady`,
`saveWithDeferred_steady`), by induction on the cascade's fuel, from one lemma per stage. The
flags are then those of the start, and `save_keeps_saving_flags` adds that a failed save drops
the work it postponed.
-/

namespace EntityGraph

namespace World

variable {τ : Type}

/-- `w` with the parts a save works on taken from `w'`: the rows, the instances, the unit of
work, the postponed work and the transport. -/
def withWorkOf (w w' : World τ) : World τ :=
  { w with
    engine := { w.engine with pool := { w.engine.pool with store := w'.engine.pool.store } },
    session := { w.session with
      arena := w'.session.arena, changes := w'.session.changes, deferred := w'.session.deferred },
    transport := w'.transport }

/-- The saving flag of every handle; `none` for a handle the arena does not have. -/
def savingFlag (w : World τ) (h : InstanceId) : Option Bool := (w.session.arena.get? h).map (·.saving)

theorem savingFlag_modify (w : World τ) (h : InstanceId) (f : Instance → Instance) :
    World.savingFlag { w with session := { w.session with arena := w.session.arena.modify h f } } =
      fun g => if h = g then (w.session.arena.get? g).map (fun i => (f i).saving) else w.savingFlag g := by
  funext g
  simp only [savingFlag, Arena.get?_modify]
  split <;> simp only [Option.map_map, Function.comp_def]

end World

namespace Session

variable {τ : Type}

/-- Reached from `w₀` by saving with the saving flags `S`: only the parts a save works on differ
from `w₀`. -/
def Steady (S : InstanceId → Option Bool) (w₀ w : World τ) : Prop :=
  w.savingFlag = S ∧ w₀.withWorkOf w = w

section Steady

variable {S : InstanceId → Option Bool} {w₀ : World τ}

/-! ## Steps of a save -/

theorem frame_of_work {w w' : World τ} (hFrame : w₀.withWorkOf w = w) (hWork : w.withWorkOf w' = w') :
    w₀.withWorkOf w' = w' :=
  calc w₀.withWorkOf w' = (w₀.withWorkOf w).withWorkOf w' := rfl
    _ = w.withWorkOf w' := by rw [hFrame]
    _ = w' := hWork

theorem Steady.of_work {w w' : World τ} (hw : Steady S w₀ w) (hWork : w.withWorkOf w' = w')
    (hFlags : w'.savingFlag = w.savingFlag) : Steady S w₀ w' :=
  ⟨hFlags.trans hw.1, frame_of_work hw.2 hWork⟩

/-- The flags `S` with the flag of `h`, if it has one, set to `b`. -/
def setFlag (S : InstanceId → Option Bool) (h : InstanceId) (b : Bool) : InstanceId → Option Bool :=
  fun g => if h = g then (S g).map fun _ => b else S g

/-- Setting a flag back to what it was gives the flags back. -/
theorem setFlag_setFlag_of_eq {h : InstanceId} {b b' : Bool} (hS : S h = some b') :
    setFlag (setFlag S h b) h b' = S := by
  funext g
  unfold setFlag
  split
  · rename_i hg
    subst hg
    simp only [hS, Option.map_some]
  · rfl

/-- Marking an instance as being saved, or unmarking it, changes its flag and nothing else. -/
theorem Steady.mark {w : World τ} (hw : Steady S w₀ w) (h : InstanceId) (b : Bool) :
    Steady (setFlag S h b) w₀
      { w with session := { w.session with
        arena := w.session.arena.modify h fun i => { i with saving := b } } } := by
  refine ⟨?_, frame_of_work hw.2 rfl⟩
  rw [World.savingFlag_modify, ← hw.1]
  funext g
  unfold setFlag
  split
  · simp only [World.savingFlag, Option.map_map, Function.comp_def]
  · rfl

/-- An operation that changes only the parts a save works on, and no saving flag, keeps every
world steady. -/
theorem Keeps.steady_of_work {α : Type} {x : SessionM τ α}
    (hx : ∀ w, w.withWorkOf (x.run.run w).2 = (x.run.run w).2 ∧
      (x.run.run w).2.savingFlag = w.savingFlag) : Keeps (Steady S w₀) x :=
  fun w hw => hw.of_work (hx w).1 (hx w).2

/-- An operation that leaves the world alone keeps everything. -/
theorem Keeps.of_reads {P : World τ → Prop} {α : Type} {x : SessionM τ α}
    (hx : ∀ w, (x.run.run w).2 = w) : Keeps P x := by
  intro w hw
  rw [hx w]
  exact hw

theorem Keeps.getInstance' (h : InstanceId) : Keeps (Steady S w₀) (getInstance h : SessionM τ Instance) :=
  Keeps.of_reads fun w => by rw [run_getInstance]

/-- Reading an instance of a steady world tells its saving flag. -/
theorem Steady.bind_getInstance {α : Type} {h : InstanceId} {f : Instance → SessionM τ α}
    (hf : ∀ i, S h = some i.saving → Keeps (Steady S w₀) (f i)) :
    Keeps (Steady S w₀) (getInstance h >>= f) := by
  intro w hw
  rw [run_bind, run_getInstance]
  cases hi : w.session.arena.get? h with
  | none => exact hw
  | some i =>
    have hS : S h = some i.saving := by
      rw [← hw.1]
      simp only [World.savingFlag, hi, Option.map_some]
    exact hf i hS w hw

theorem Keeps.registry' : Keeps (Steady S w₀) (registry : SessionM τ Registry) :=
  Keeps.of_reads fun w => by rw [run_registry]

theorem Keeps.rows' : Keeps (Steady S w₀) (rows : SessionM τ RowStore) :=
  Keeps.of_reads fun w => by rw [run_rows]

theorem Keeps.idOf' (h : InstanceId) : Keeps (Steady S w₀) (idOf h : SessionM τ (Option Int64)) :=
  Keeps.of_reads fun w => by rw [run_idOf]

theorem Keeps.setRows' (s : RowStore) : Keeps (Steady S w₀) (setRows s : SessionM τ Unit) :=
  Keeps.steady_of_work fun w => by
    rw [run_setRows]
    exact ⟨rfl, rfl⟩

theorem Keeps.modifyChanges' (f : ChangeSet → ChangeSet) :
    Keeps (Steady S w₀) (modifyChanges f : SessionM τ Unit) :=
  Keeps.steady_of_work fun w => by
    rw [run_modifyChanges]
    exact ⟨rfl, rfl⟩

/-- Editing the postponed work keeps a world steady. -/
theorem Keeps.modifyDeferred (f : Session → List Deferred) :
    Keeps (Steady S w₀)
      (modifySession (fun s => { s with deferred := f s }) : SessionM τ Unit) :=
  Keeps.steady_of_work fun w => by
    rw [run_modifySession]
    exact ⟨rfl, rfl⟩

/-- Changing the session by a function that edits the postponed work only keeps a world
steady. -/
theorem Keeps.modifySession_deferred (f : Session → Session)
    (hf : ∀ s, f s = { s with deferred := (f s).deferred }) :
    Keeps (Steady S w₀) (modifySession f : SessionM τ Unit) :=
  Keeps.steady_of_work fun w => by
    rw [run_modifySession, hf w.session]
    exact ⟨rfl, rfl⟩

theorem Keeps.remember' (store : RowStore) (h : InstanceId) :
    Keeps (Steady S w₀) (modifyArena (·.remember store h) : SessionM τ Unit) :=
  Keeps.steady_of_work fun w => by
    rw [run_modifyArena]
    refine ⟨rfl, ?_⟩
    funext g
    simp only [World.savingFlag, Arena.get?, Arena.remember_instances]

theorem Keeps.send' {α : Type} (f : τ → τ × Except Error α) : Keeps (Steady S w₀) (send f) :=
  Keeps.steady_of_work fun w => by
    rw [run_send]
    exact ⟨rfl, rfl⟩

theorem Keeps.execute' [Transport τ] (s : Statement) : Keeps (Steady S w₀) (execute s : SessionM τ Nat) :=
  Keeps.tryCatch (Keeps.send' _) fun _ => Keeps.throw _

theorem Keeps.insert' [Transport τ] (s : Statement) : Keeps (Steady S w₀) (insert s : SessionM τ Int64) :=
  Keeps.tryCatch (Keeps.send' _) fun _ => Keeps.throw _

/-- Putting back an instance with the flag its handle has keeps a world steady. -/
theorem Keeps.modifyInstance_const {h : InstanceId} {i : Instance} (hS : S h = some i.saving) :
    Keeps (Steady S w₀) (modifyInstance h fun _ => i : SessionM τ Unit) := by
  intro w hw
  rw [run_modifyInstance]
  refine hw.of_work rfl ?_
  rw [World.savingFlag_modify]
  funext g
  split
  · rename_i hg
    subst hg
    have hSome := hw.1 ▸ hS
    cases hi : w.session.arena.get? h with
    | none => simp [World.savingFlag, hi] at hSome
    | some i' =>
      simp only [World.savingFlag, hi, Option.map_some] at hSome ⊢
      exact hSome.symm
  · rfl

/-! ## The stages of a save -/

theorem Keeps.relationOf' (e : EntityId) (name : String) :
    Keeps (Steady S w₀) (relationOf e name : SessionM τ Relation) :=
  Keeps.of_reads fun w => by
    simp only [relationOf, run_bind, run_registry]
    split <;> rfl

theorem stamp_steady (h : InstanceId) (table : EntityId) (column : Nat) (v : Value) :
    Keeps (Steady S w₀) (stamp h table column v : SessionM τ Unit) := by
  unfold stamp
  refine Steady.bind_getInstance fun i hS => Keeps.bind Keeps.registry' fun reg => ?_
  split
  · rename_i slot _
    refine Keeps.bind Keeps.rows' fun store => ?_
    split
    -- the instance written back carries the flag it was read with
    rename_i store' i' _ hWrite
    have hSaving := Instance.write_saving i reg store slot column v
    rw [hWrite] at hSaving
    exact Keeps.bind (Keeps.setRows' _) fun _ => Keeps.modifyInstance_const (hSaving ▸ hS)
  · exact Keeps.throw _

theorem deferResave_steady (h : InstanceId) :
    Keeps (Steady S w₀) (deferResave h : SessionM τ Unit) := by
  unfold deferResave
  refine Keeps.modifySession_deferred _ fun s => ?_
  split <;> rfl

theorem stampOrDefer_steady (h : InstanceId) (table : EntityId) (column : Nat) (v : Value) :
    Keeps (Steady S w₀) (stampOrDefer h table column v : SessionM τ Unit) := by
  unfold stampOrDefer
  refine Keeps.bind (Keeps.getInstance' h) fun i => ?_
  split
  · exact Keeps.modifyDeferred _
  · exact stamp_steady h table column v

theorem saveReferences_steady {cascade : InstanceId → SessionM τ Bool}
    (hc : ∀ g, Keeps (Steady S w₀) (cascade g)) (h : InstanceId) :
    Keeps (Steady S w₀) (saveReferences cascade h) := by
  unfold saveReferences
  refine Keeps.bind (Keeps.getInstance' h) fun i => Keeps.foldlM (fun settled ref => ?_) _ _
  refine Keeps.bind (Keeps.relationOf' _ _) fun r => ?_
  cases hKind : r.kind with
  | reference column =>
    -- the value written is `null`, the target's key after saving it, or nothing yet when the
    -- target is new and mid-save; it is written at once, by a stamp or not at all
    simp only [pure_bind]
    split
    · exact Keeps.bind (stamp_steady _ _ _ _) fun _ => Keeps.pure _
    · refine Keeps.bind (Keeps.getInstance' _) fun ti => Keeps.bind Keeps.rows' fun store => ?_
      split
      · exact Keeps.bind (deferResave_steady h) fun _ => Keeps.pure _
      · refine Keeps.bind (hc _) fun _ => Keeps.bind (Keeps.idOf' _) fun id? => ?_
        split
        · exact Keeps.bind (stamp_steady _ _ _ _) fun _ => Keeps.pure _
        · exact Keeps.throw_bind _ _
  | children back => exact Keeps.pure _
  | association table source target => exact Keeps.pure _

variable [Transport τ]

theorem writeRow_steady (row : RowRef) (table : EntityId) (explicitId : Option Int64) :
    Keeps (Steady S w₀) (writeRow row table explicitId : SessionM τ Int64) := by
  unfold writeRow
  simp only
  refine Keeps.bind Keeps.registry' fun reg => Keeps.bind Keeps.get fun w =>
    Keeps.bind Keeps.rows' fun store => ?_
  split
  · -- a stored row is updated when it changed
    split
    · split
      · exact Keeps.bind (Keeps.execute' _) fun _ =>
          Keeps.bind (Keeps.modifyChanges' _) fun _ => Keeps.pure _
      · exact Keeps.bind (Keeps.modifyChanges' _) fun _ => Keeps.pure _
    · exact Keeps.pure _
  · -- a new row is inserted, then takes its key, in the sequence column too
    split
    · refine Keeps.bind (Keeps.execute' _) fun _ => Keeps.bind (Keeps.pure _) fun id => ?_
      refine Keeps.bind Keeps.rows' fun _ => Keeps.bind (Keeps.setRows' _) fun _ => ?_
      split
      · exact Keeps.bind (Keeps.execute' _) fun _ => Keeps.bind Keeps.rows' fun _ =>
          Keeps.bind (Keeps.setRows' _) fun _ => Keeps.bind (Keeps.modifyChanges' _) fun _ =>
            Keeps.pure _
      · exact Keeps.bind (Keeps.modifyChanges' _) fun _ => Keeps.pure _
    · refine Keeps.bind (Keeps.insert' _) fun id => ?_
      refine Keeps.bind Keeps.rows' fun _ => Keeps.bind (Keeps.setRows' _) fun _ => ?_
      split
      · exact Keeps.bind (Keeps.execute' _) fun _ => Keeps.bind Keeps.rows' fun _ =>
          Keeps.bind (Keeps.setRows' _) fun _ => Keeps.bind (Keeps.modifyChanges' _) fun _ =>
            Keeps.pure _
      · exact Keeps.bind (Keeps.modifyChanges' _) fun _ => Keeps.pure _

theorem saveImplementations_steady (h : InstanceId) :
    Keeps (Steady S w₀) (saveImplementations h : SessionM τ Unit) := by
  unfold saveImplementations
  refine Keeps.bind (Keeps.getInstance' h) fun i => Keeps.bind Keeps.registry' fun reg => ?_
  refine Keeps.forM (fun impl => Keeps.bind (Keeps.getInstance' h) fun i' => ?_) _
  split
  · exact Keeps.bind (writeRow_steady _ _ _) fun _ => stamp_steady _ _ _ _
  · exact Keeps.pure _

theorem saveLevels_steady (h : InstanceId) :
    Keeps (Steady S w₀) (saveLevels h : SessionM τ Int64) := by
  unfold saveLevels
  refine Keeps.bind (Keeps.getInstance' h) fun i => ?_
  refine Keeps.bind (Keeps.foldlM (fun id? level => ?_) _ _) fun id? => ?_
  · refine Keeps.bind (Keeps.getInstance' h) fun i' => ?_
    split
    · exact Keeps.bind (writeRow_steady _ _ _) fun _ => Keeps.pure _
    · exact Keeps.pure _
  · split
    · exact Keeps.pure _
    · exact Keeps.throw _

theorem saveCollections_steady {cascade : InstanceId → SessionM τ Bool}
    (hc : ∀ g, Keeps (Steady S w₀) (cascade g)) (h : InstanceId) (ownerId : Int64) :
    Keeps (Steady S w₀) (saveCollections cascade h ownerId) := by
  unfold saveCollections
  refine Keeps.bind (Keeps.getInstance' h) fun i => Keeps.bind Keeps.get fun w => ?_
  refine Keeps.foldlM (fun settled pending => Keeps.bind (Keeps.relationOf' _ _) fun r => ?_) _ _
  split
  · -- children: each member gets the owner's key, or `null` when removed, and is saved
    refine Keeps.bind (Keeps.forIn (fun child _ => ?_) _ _) fun _ =>
      Keeps.bind (Keeps.forIn (fun child _ => ?_) _ _) fun _ => Keeps.pure _
    · exact Keeps.bind (stampOrDefer_steady _ _ _ _) fun _ =>
        Keeps.bind (hc child) fun _ => Keeps.pure _
    · exact Keeps.bind (stampOrDefer_steady _ _ _ _) fun _ =>
        Keeps.bind (hc child) fun _ => Keeps.pure _
  · -- association: members are saved, then linked by a row of the association table
    refine Keeps.bind (Keeps.forIn (fun child _ =>
      Keeps.bind (hc child) fun _ => Keeps.pure _) _ _) fun _ => ?_
    refine Keeps.bind (Keeps.foldlM (fun acc child => ?_) _ _) fun linked => ?_
    · refine Keeps.bind (hc child) fun _ => Keeps.bind (Keeps.idOf' child) fun id? => ?_
      split
      · exact Keeps.bind (deferResave_steady h) fun _ => Keeps.pure _
      · exact Keeps.bind (Keeps.execute' _) fun _ => Keeps.pure _
    split
    refine Keeps.bind (Keeps.forIn (fun child _ => ?_) _ _) fun _ => Keeps.pure _
    refine Keeps.bind (Keeps.idOf' child) fun id? => ?_
    split
    · exact Keeps.bind (Keeps.execute' _) fun _ => Keeps.pure _
    · exact Keeps.pure _
  · exact Keeps.pure _

theorem writeInstance_steady {cascade : InstanceId → SessionM τ Bool}
    (hc : ∀ g, Keeps (Steady S w₀) (cascade g)) (h : InstanceId) :
    Keeps (Steady S w₀) (writeInstance cascade h) := by
  unfold writeInstance
  refine Keeps.bind (Keeps.getInstance' h) fun _ => Keeps.bind Keeps.rows' fun _ => ?_
  refine Keeps.bind (saveReferences_steady hc h) fun references => ?_
  refine Keeps.bind (saveImplementations_steady h) fun _ => ?_
  refine Keeps.bind (saveLevels_steady h) fun id => ?_
  simp only
  split
  refine Keeps.bind Keeps.rows' fun store => Keeps.bind (Keeps.remember' store h) fun _ => ?_
  -- a new instance is first registered under its key; both ways go on with its collections and
  -- put the instance back with its relations settled
  all_goals
    refine Keeps.bind (saveCollections_steady hc h id) fun collections => ?_
    refine Steady.bind_getInstance fun i hS => Keeps.bind Keeps.rows' fun store => ?_
    refine Keeps.bind (Keeps.setRows' _) fun _ => ?_
    refine Keeps.bind (Keeps.modifyInstance_const ?_) fun _ => Keeps.modifyChanges' _
    rw [Instance.foldl_saving _ (fun i _ => by split <;> simp), Instance.foldl_saving _
      (fun i _ => by split <;> simp), hS]

/-- Saving an instance unmarks it whatever happens, so at every depth of the cascade the flags
are those it started with. -/
theorem saveCascade_steady : ∀ (fuel : Nat) (h : InstanceId) (S : InstanceId → Option Bool),
    Keeps (Steady S w₀) (saveCascade fuel h : SessionM τ Bool)
  | 0, _, _ => Keeps.pure _
  | fuel + 1, h, S => by
    intro w hw
    cases hi : w.session.arena.get? h with
    | none =>
      simp only [saveCascade, run_bind, run_getInstance, hi]
      exact hw
    | some i =>
      simp only [saveCascade, run_bind, run_getInstance, run_rows, hi]
      cases hSkip : (i.saving || !i.hasChanges w.engine.pool.store)
      case true =>
        simp only [↓reduceIte, run_pure]
        exact hw
      have hFlag : S h = some false := by
        rw [← hw.1]
        simp only [World.savingFlag, hi, Option.map_some, Option.some.injEq]
        simp only [Bool.or_eq_false_iff] at hSkip
        exact hSkip.1
      simp only [Bool.false_eq_true, ↓reduceIte]
      -- marked while its stages run; their outcome is given after the unmarking
      rw [run_bind, run_modifyInstance]
      dsimp only
      rw [run_bind, run_attempt]
      dsimp only
      rw [run_bind, run_modifyInstance]
      dsimp only
      have hWritten := writeInstance_steady (fun g => saveCascade_steady fuel g _) h _ (hw.mark h true)
      have hUnmarked := hWritten.mark h false
      rw [setFlag_setFlag_of_eq hFlag] at hUnmarked
      exact Keeps.bind (Keeps.ofExcept _) (fun _ => Keeps.pure _) _ hUnmarked


theorem replay_steady (size : Nat) : ∀ (written : Bool) (fuel : Nat),
    Keeps (Steady S w₀) (saveWithDeferred.replay size written fuel : SessionM τ Bool)
  | written, 0 => Keeps.pure written
  | written, fuel + 1 => by
    unfold saveWithDeferred.replay
    refine Keeps.bind Keeps.get fun _ => ?_
    split
    · exact Keeps.pure _
    · -- the latest postponed item is taken off, done, and its instance saved again
      refine Keeps.bind (Keeps.modifyDeferred _) fun _ => ?_
      have hSave : ∀ target, Keeps (Steady S w₀) (saveCascade size target >>= fun w =>
          saveWithDeferred.replay size (written || w) fuel) := fun target =>
        Keeps.bind (saveCascade_steady size target S) fun w => replay_steady size _ fuel
      simp only
      split
      · exact Keeps.bind (Keeps.pure _) hSave
      · exact Keeps.bind (stamp_steady _ _ _ _) fun _ => Keeps.bind (Keeps.pure _) hSave

theorem saveWithDeferred_steady (h : InstanceId) :
    Keeps (Steady S w₀) (saveWithDeferred h : SessionM τ Bool) := by
  unfold saveWithDeferred
  refine Keeps.bind Keeps.get fun w => ?_
  simp only
  exact Keeps.bind (saveCascade_steady _ h S) fun written => replay_steady _ written _

end Steady

/-! ## Saving -/

/-- A store that takes every statement: each insertion gets the next key. -/
structure Counter where
  next : Nat := 1
  deriving DecidableEq, Inhabited

instance : Transport Counter where
  query c _ _ := (c, .ok [])
  execute c _ _ := (c, .ok 1)
  insert c _ _ := ({ next := c.next + 1 }, .ok (Int64.ofNat c.next))
  begin c := (c, .ok ())
  commit c := (c, .ok ())
  rollback c := (c, .ok ())

section Save

variable [Transport τ] {F : InstanceId → Option Bool} {D : List Deferred}

/-- Opening a unit of work touches neither the instances nor the postponed work. -/
theorem beginUnit_keeps_work :
    Keeps (fun w : World τ => w.savingFlag = F ∧ w.session.deferred = D) beginUnit := by
  unfold beginUnit begin
  refine Keeps.bind Keeps.get fun _ => ?_
  split
  · refine Keeps.bind Keeps.get fun _ => ?_
    split
    · refine Keeps.bind (fun w hw => ?_) fun _ w hw => ?_
      · rw [run_send]
        exact hw
      · rw [run_modifySession]
        exact hw
    · exact Keeps.pure _
  · exact Keeps.pure _

/-- Closing a unit of work never fails, and touches neither the instances nor the postponed
work. -/
theorem endUnit_keeps_work (w : World τ) (hw : w.savingFlag = F ∧ w.session.deferred = D) :
    ((endUnit : SessionM τ Unit).run.run w).1 = .ok () ∧
      ((endUnit : SessionM τ Unit).run.run w).2.savingFlag = F ∧
      ((endUnit : SessionM τ Unit).run.run w).2.session.deferred = D := by
  simp only [endUnit, run_bind, run_get]
  split
  · obtain ⟨notices, hPublished⟩ := run_publish w
    rw [hPublished]
    exact ⟨rfl, hw⟩
  · exact ⟨rfl, hw⟩

/-- Saving leaves every saving flag as it found it, whether it succeeds or fails, and a failed
save drops the work it postponed. -/
theorem save_keeps_saving_flags (h : InstanceId) (w : World τ) :
    ((save h).run.run w).2.savingFlag = w.savingFlag ∧
      (w.session.deferred = [] → ((save h).run.run w).1.toBool = false →
        ((save h).run.run w).2.session.deferred = []) := by
  cases hi : w.session.arena.get? h with
  | none =>
    simp only [save, run_bind, run_getInstance, hi]
    exact ⟨trivial, fun hD _ => hD⟩
  | some i =>
    simp only [save, run_bind, run_getInstance, hi]
    cases hDel : i.deleted
    case true =>
      simp only [↓reduceIte, run_bind, run_throw]
      exact ⟨trivial, fun hD _ => hD⟩
    simp only [Bool.false_eq_true, ↓reduceIte, run_bind, run_rows]
    cases hChanged : i.hasChanges w.engine.pool.store
    case false =>
      simp only [Bool.not_false, ↓reduceIte, run_pure]
      exact ⟨trivial, fun _ hFail => nomatch hFail⟩
    simp only [Bool.not_true, Bool.false_eq_true, ↓reduceIte, run_bind]
    -- the unit is opened: a failure there leaves everything as it was
    have hBegun := beginUnit_keeps_work w ⟨rfl, rfl⟩
    rcases hBegin : (beginUnit : SessionM τ Unit).run.run w with ⟨_ | _, w₁⟩
    · rw [hBegin] at hBegun
      exact ⟨hBegun.1, fun hD _ => hBegun.2.trans hD⟩
    rw [hBegin] at hBegun
    simp only [run_attempt]
    -- the save itself keeps every flag, whatever its outcome
    have hSaved := saveWithDeferred_steady h w₁ ⟨rfl, rfl⟩
    rcases hRun : (saveWithDeferred h : SessionM τ Bool).run.run w₁ with ⟨_ | written, w₂⟩
    · -- a failure drops the postponed work
      rw [hRun] at hSaved
      simp only [↓reduceIte, run_bind, run_modifySession, run_ofExcept]
      exact ⟨hSaved.1.trans hBegun.1, fun _ _ => trivial⟩
    · rw [hRun] at hSaved
      simp only [Bool.false_eq_true, ↓reduceIte, run_bind, run_ofExcept]
      obtain ⟨hOk, hFlags, -⟩ := endUnit_keeps_work w₂ ⟨rfl, rfl⟩
      rcases hEnd : (endUnit : SessionM τ Unit).run.run w₂ with ⟨_ | _, w₃⟩
      · rw [hEnd] at hOk
        cases hOk
      · rw [hEnd] at hFlags
        simp only [run_pure]
        exact ⟨hFlags.trans (hSaved.1.trans hBegun.1), fun _ hFail => nomatch hFail⟩

/-- A save of a live instance with changes, whose unit opens and whose saving succeeds, returns
what the saving returned, in the world that closing the unit leaves. -/
theorem save_run_of_ok {h : InstanceId} {w w₁ w₂ : World τ} {i : Instance} {written : Bool}
    (hi : w.session.arena.get? h = some i) (hLive : i.deleted = false)
    (hChanged : i.hasChanges w.engine.pool.store = true)
    (hBegin : (beginUnit : SessionM τ Unit).run.run w = (.ok (), w₁))
    (hSave : (saveWithDeferred h : SessionM τ Bool).run.run w₁ = (.ok written, w₂)) :
    (save h).run.run w = (.ok written, ((endUnit : SessionM τ Unit).run.run w₂).2) := by
  simp only [save, run_bind, run_getInstance, hi, hLive, Bool.false_eq_true, ↓reduceIte, run_rows,
    hChanged, Bool.not_true, hBegin, run_attempt, hSave, run_ofExcept]
  obtain ⟨hOk, -, -⟩ := endUnit_keeps_work w₂ ⟨rfl, rfl⟩
  rcases hEnd : (endUnit : SessionM τ Unit).run.run w₂ with ⟨_ | _, w₃⟩
  · rw [hEnd] at hOk
    cases hOk
  · rfl

/-- Such a save leaves the postponed work that the saving left: closing the unit touches none
of it. The saving's run is a variable here, so that the lemma applies to a run that is
expensive to compute without ever reducing it. -/
theorem save_leaves_deferred_of_ok {h : InstanceId} {w w₁ : World τ} {i : Instance}
    {written : Bool} {r : Except Error Bool × World τ} (hi : w.session.arena.get? h = some i)
    (hLive : i.deleted = false) (hChanged : i.hasChanges w.engine.pool.store = true)
    (hBegin : (beginUnit : SessionM τ Unit).run.run w = (.ok (), w₁))
    (hSave : (saveWithDeferred h : SessionM τ Bool).run.run w₁ = r) (hOk : r.1 = .ok written) :
    ((save h).run.run w).1 = .ok written ∧
      ((save h).run.run w).2.session.deferred = r.2.session.deferred := by
  have hRun := save_run_of_ok hi hLive hChanged hBegin
    (hSave.trans (Prod.ext hOk rfl : r = (.ok written, r.2)))
  obtain ⟨-, -, hKept⟩ := endUnit_keeps_work r.2 ⟨rfl, rfl⟩
  refine ⟨by rw [hRun], ?_⟩
  rw [state_of_run_eq hRun]
  exact hKept

end Save

/-- Saving a handle that a fresh session does not have fails, and leaves nothing postponed. -/
theorem save_keeps_saving_flags_fresh :
    let w : World Counter := { engine := Engine.new default {}, session := Session.new {}, transport := {} }
    ((save ⟨0⟩).run.run w).2.savingFlag = w.savingFlag ∧ w.session.deferred = [] ∧
      ((save ⟨0⟩).run.run w).1.toBool = false ∧ ((save ⟨0⟩).run.run w).2.session.deferred = [] :=
  have hFails : ((save ⟨0⟩).run.run
      ({ engine := Engine.new default {}, session := Session.new {}, transport := {} } :
        World Counter)).1.toBool = false := by decide +kernel
  ⟨(save_keeps_saving_flags ⟨0⟩ _).1, rfl, hFails, (save_keeps_saving_flags ⟨0⟩ _).2 rfl hFails⟩

end Session

end EntityGraph
