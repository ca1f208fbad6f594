import EntityGraph.Graph.Materialize
import EntityGraph.Proofs.Graph.Store

/-!
# What a scan changes

Materializing the rows of a query result runs in `StateM LoadState` and changes the load state
in four ways only: it fills a row slot of an instance and the shared rows with it
(`Scan.loadBlock`), adds an instance for a record it meets for the first time and registers it
(`Scan.hydrate`), sets the relation of an owner to what it reached (`Scan.attach`), and forgets
which collections it emptied (`Scan.records`).

`Scan.Keeps P x` says that `x` keeps a property `P` of load states. It is closed under the
monad's combinators and the loops a scan is written with, so `Scan.records_keeps` gives a whole
scan every property that each of the four changes keeps. A property that only some loads,
instances or attachments keep, because it depends on the guards they check first, goes through
`Scan.records_keeps_of_steps`, which asks it of the instances a scan reads and of its
attachments themselves.

Main statement here: a scan never drops an instance, the arena only grows
(`Scan.records_arena_size`).
-/

namespace EntityGraph

namespace Scan

variable {α β : Type} {P : LoadState → Prop}

/-! ## Properties a computation keeps -/

/-- `x` keeps `P`: from a load state satisfying `P` it reaches one satisfying `P`. -/
def Keeps (P : LoadState → Prop) (x : StateM LoadState α) : Prop :=
  ∀ st, P st → P (x.run st).2

theorem Keeps.pure (a : α) : Keeps P (Pure.pure a : StateM LoadState α) :=
  fun _ hst => hst

theorem Keeps.bind {x : StateM LoadState α} {f : α → StateM LoadState β} (hx : Keeps P x)
    (hf : ∀ a, Keeps P (f a)) : Keeps P (x >>= f) :=
  fun st hst => hf _ _ (hx st hst)

/-- A step that reads the state first keeps `P` when it does from every state satisfying `P`. -/
theorem Keeps.get_bind {f : LoadState → StateM LoadState β}
    (hf : ∀ st, P st → P ((f st).run st).2) : Keeps P (get >>= f) :=
  fun st hst => hf st hst

theorem Keeps.forIn {f : α → β → StateM LoadState (ForInStep β)} (hf : ∀ a b, Keeps P (f a b)) :
    ∀ (l : List α) (b : β), Keeps P (forIn l b f)
  | [], b => Keeps.pure b
  | a :: l, b => by
    rw [List.forIn_cons]
    refine Keeps.bind (hf a b) fun step => ?_
    cases step with
    | done b' => exact Keeps.pure b'
    | yield b' => exact Keeps.forIn hf l b'

theorem Keeps.foldlM {f : β → α → StateM LoadState β} (hf : ∀ b a, Keeps P (f b a)) :
    ∀ (l : List α) (b : β), Keeps P (l.foldlM f b)
  | [], b => Keeps.pure b
  | a :: l, b => by
    rw [List.foldlM_cons]
    exact Keeps.bind (hf b a) fun b' => Keeps.foldlM hf l b'

/-! ## The four changes -/

section Changes

variable (s : Scan)

/-- Loading a block either changes nothing or fills one slot of the instance and replaces the
shared rows. -/
theorem loadBlock_run (h : InstanceId) (block : ProjectionBlock) (row : List Value)
    (st : LoadState) :
    ((s.loadBlock h block row).run st).2 = st ∨
      ∃ slot ref pool, ((s.loadBlock h block row).run st).2 =
        { st with pool, arena := st.arena.modify h (·.setRow slot ref) } := by
  unfold loadBlock
  simp only
  -- the guards in order: a key in the block, the instance, the slot, a slot without changes
  split
  · simp only [StateT.run_bind, StateT.run_get, pure_bind]
    split
    · split
      · split
        · split
          · exact Or.inl rfl
          · split
            exact Or.inr ⟨_, _, _, rfl⟩
        · split
          exact Or.inr ⟨_, _, _, rfl⟩
      · exact Or.inl rfl
    · exact Or.inl rfl
  · exact Or.inl rfl

variable (hFill : ∀ st h slot ref pool, P st →
  P { st with pool, arena := st.arena.modify h (·.setRow slot ref) })
variable (hPush : ∀ st (i : Instance) e id, P st →
  P { st with arena := (st.arena.push i).1.bind e id (st.arena.push i).2 })
variable (hAttach : ∀ st owner relation d reset, P st →
  P { st with arena := st.arena.modify owner (·.setRelation relation d), reset })
variable (hReset : ∀ st reset, P st → P { st with reset })

include hFill in
theorem loadBlock_keeps (h : InstanceId) (block : ProjectionBlock) (row : List Value) :
    Keeps P (s.loadBlock h block row) := by
  intro st hst
  rcases loadBlock_run s h block row st with hSame | ⟨slot, ref, pool, hFilled⟩
  · rw [hSame]
    exact hst
  · rw [hFilled]
    exact hFill st h slot ref pool hst

variable (hLoad : ∀ h block row, Keeps P (s.loadBlock h block row))
variable (hHydrate : ∀ node row, Keeps P (s.hydrate node row))
variable (hAttachKeeps : ∀ owner relation target, Keeps P (s.attach owner relation target))

include hAttach hReset in
theorem attach_keeps (owner : InstanceId) (relation : String) (target : Option InstanceId) :
    Keeps P (s.attach owner relation target) := by
  unfold attach
  refine Keeps.get_bind fun st hst => ?_
  simp only
  -- a first visit records the collection as emptied before anything else
  have hVisit : ∀ c : Bool, P (if c = true then
      { st with reset := st.reset ++ [(owner, relation)] } else st) := by
    intro c
    split
    · exact hReset st _ hst
    · exact hst
  split
  · split
    · split
      · -- a reference assigned since the last save keeps its target
        split
        · exact hVisit _
        · exact hAttach _ owner relation _ _ (hVisit _)
      · exact hAttach _ owner relation _ _ (hVisit _)
    · exact hst
  · exact hst

include hLoad hPush in
theorem hydrate_keeps (node : CompiledNode) (row : List Value) : Keeps P (s.hydrate node row) := by
  unfold hydrate
  -- the loads that follow the instance, whichever it is
  have hLoads : ∀ h, Keeps P (do
      forIn node.blocks PUnit.unit fun block _ => do
        s.loadBlock h block row
        Pure.pure (ForInStep.yield PUnit.unit)
      Pure.pure (some h) : StateM LoadState (Option InstanceId)) := fun h =>
    Keeps.bind (Keeps.forIn (fun block _ =>
      Keeps.bind (hLoad h block row) fun _ => Keeps.pure _) _ _)
      fun _ => Keeps.pure _
  split
  · split
    · refine Keeps.get_bind fun st hst => ?_
      simp only
      split
      · exact hLoads _ st hst
      · simp only [StateT.run_bind, StateT.run_set, pure_bind]
        exact hLoads _ _ (hPush st _ _ _ hst)
    · exact Keeps.pure _
  · exact Keeps.pure _

include hHydrate hAttachKeeps in
theorem readRow_keeps (row : List Value) : Keeps P (s.readRow row) := by
  unfold readRow
  refine Keeps.foldlM (fun acc node => ?_) _ _
  refine Keeps.bind (hHydrate node row) fun inst => ?_
  simp only
  -- the instance is attached to its owner when the node has one
  split
  · split
    · exact Keeps.bind (hAttachKeeps _ _ _) fun _ => Keeps.pure _
    · exact Keeps.pure _
  · exact Keeps.pure _

include hHydrate hAttachKeeps in
theorem nextRecord_go_keeps (identity : ProjectionBlock) :
    ∀ (rows : List (List Value)) (pos : Nat) (record : Option InstanceId) (current : Option Int64),
      Keeps P (nextRecord.go s identity rows pos record current)
  | [], pos, record, _ => by
    simp only [nextRecord.go]
    exact Keeps.pure _
  | row :: more, pos, record, current => by
    simp only [nextRecord.go]
    split
    · exact Keeps.pure _
    · exact Keeps.bind (readRow_keeps s hHydrate hAttachKeeps row) fun _ =>
        nextRecord_go_keeps identity more _ _ _

include hHydrate hAttachKeeps in
theorem nextRecord_keeps (rows : List (List Value)) (position : Nat) :
    Keeps P (s.nextRecord rows position) := by
  unfold nextRecord
  split
  · split
    · exact nextRecord_go_keeps s hHydrate hAttachKeeps _ _ _ _ _
    · exact Keeps.pure _
  · exact Keeps.pure _

include hHydrate hAttachKeeps in
theorem records_go_keeps (rows : List (List Value)) :
    ∀ (fuel pos : Nat) (found : List InstanceId) (positions : List Nat),
      Keeps P (records.go s rows fuel pos found positions)
  | 0, _, _, _ => by
    simp only [records.go]
    exact Keeps.pure _
  | fuel + 1, pos, found, positions => by
    simp only [records.go]
    refine Keeps.bind (nextRecord_keeps s hHydrate hAttachKeeps rows pos) fun r => ?_
    split
    · exact records_go_keeps rows fuel _ _ _
    · exact Keeps.pure _

include hHydrate hAttachKeeps hReset in
/-- A whole scan keeps what its instances, its attachments and its start keep. -/
theorem records_keeps_of_steps (rows : List (List Value)) : Keeps P (s.records rows) := by
  unfold records
  refine Keeps.bind (fun st hst => ?_) fun _ =>
    records_go_keeps s hHydrate hAttachKeeps _ _ _ _ _
  exact hReset st [] hst

include hFill hPush hAttach hReset in
/-- A whole scan keeps what each of the four changes keeps. -/
theorem records_keeps (rows : List (List Value)) : Keeps P (s.records rows) :=
  records_keeps_of_steps s hReset (hydrate_keeps s hPush (loadBlock_keeps s hFill))
    (attach_keeps s hAttach hReset) rows

end Changes

/-! ## The arena only grows -/

/-- A scan ends with at least as many instances as it started with. -/
theorem records_arena_size (s : Scan) (rows : List (List Value)) (st : LoadState) :
    st.arena.size ≤ ((s.records rows).run st).2.arena.size := by
  refine records_keeps (P := fun st' => st.arena.size ≤ st'.arena.size) s ?_ ?_ ?_ ?_ rows st
    (Nat.le_refl _)
  · intro st' h slot ref pool hst'
    simpa only [Arena.size_modify] using hst'
  · intro st' i e id hst'
    simp only [Arena.size, Arena.push, Arena.bind, Array.size_push]
    exact Nat.le_succ_of_le hst'
  · intro st' owner relation d reset hst'
    simpa only [Arena.size_modify] using hst'
  · intro st' reset hst'
    exact hst'

end Scan

end EntityGraph
