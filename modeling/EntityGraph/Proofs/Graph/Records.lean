import EntityGraph.Proofs.Graph.Frame
import Mathlib.Data.List.Forall2
import Mathlib.Data.List.SplitBy

/-!
# Records of a scan

A result row holds, for every node of the query's layout, the primary key of the node's record
in the node's identity block (`Scan.keyOf`). Reading the row gives every node the instance the
arena's identity map keeps for that record (`Scan.instanceAt`), registering a new one when the
map has none, and the map only gains records while a scan runs (`Arena.Remembers`). So every
occurrence of a record, in any row and through any join path, is read as the one instance the
identity map keeps for it at the end.

The rows of one record are contiguous: reading a record reads rows up to the first whose root
key differs. When every row has a root key, a whole scan reads the rows one after another
(`Scan.readRows`), and its records are the maximal runs of rows with equal root keys, as
`List.splitBy` cuts them, each read as the root instance of its rows (`Scan.records_runs`).
-/

namespace EntityGraph

namespace Arena

/-! ## The identity map -/

theorem lookup_filter_ne (key : EntityId × Int64) :
    ∀ (l : List ((EntityId × Int64) × InstanceId)) (key' : EntityId × Int64),
      (l.filter (·.1 != key)).lookup key' = if key' = key then none else l.lookup key'
  | [], _ => by simp
  | (k, h) :: l, key' => by
    have ih := lookup_filter_ne key l key'
    by_cases hk : k = key
    · -- the entry for the record is dropped
      subst hk
      simp only [List.filter_cons, bne_self_eq_false, Bool.false_eq_true, if_false, ih,
        Instance.lookup_cons_ite]
      by_cases hn : key' = k <;> simp [hn]
    · have hb : (k != key) = true := bne_iff_ne.mpr hk
      simp only [List.filter_cons, hb, if_true, Instance.lookup_cons_ite, ih]
      by_cases hn : key' = k
      · subst hn
        simp [hk]
      · simp [hn]

theorem lookup_bind (a : Arena) (entity : EntityId) (id : Int64) (h : InstanceId)
    (entity' : EntityId) (id' : Int64) :
    (a.bind entity id h).lookup entity' id' =
      if (entity', id') = (entity, id) then some h else a.lookup entity' id' := by
  unfold bind lookup
  rw [List.lookup_append, lookup_filter_ne, Instance.lookup_cons_ite, List.lookup_nil]
  by_cases hk : (entity', id') = (entity, id) <;> simp [hk]

@[simp] theorem lookup_modify (a : Arena) (h : InstanceId) (f : Instance → Instance) :
    (a.modify h f).lookup = a.lookup := rfl

@[simp] theorem lookup_push (a : Arena) (i : Instance) : (a.push i).1.lookup = a.lookup := rfl

/-- `a'` keeps every record of `a`'s identity map, with the same instance. -/
def Remembers (a a' : Arena) : Prop :=
  ∀ entity id h, a.lookup entity id = some h → a'.lookup entity id = some h

theorem Remembers.refl (a : Arena) : a.Remembers a := fun _ _ _ hl => hl

theorem Remembers.trans {a₁ a₂ a₃ : Arena} (h₁ : a₁.Remembers a₂) (h₂ : a₂.Remembers a₃) :
    a₁.Remembers a₃ := fun e id h hl => h₂ e id h (h₁ e id h hl)

theorem Remembers.of_lookup {a a' : Arena} (h : a'.lookup = a.lookup) : a.Remembers a' :=
  fun e id g hl => by rw [h]; exact hl

/-- Registering a record the map does not have keeps every other record. -/
theorem remembers_bind (a : Arena) {entity : EntityId} {id : Int64} (h : InstanceId)
    (hnone : a.lookup entity id = none) : a.Remembers (a.bind entity id h) := by
  intro e k g hl
  rw [lookup_bind]
  have hne : (e, k) ≠ (entity, id) := by
    intro he
    cases he
    rw [hnone] at hl
    cases hl
  rw [if_neg hne, hl]

/-- Every record of the identity map stands for an instance of its entity. -/
def Consistent (a : Arena) : Prop :=
  ∀ entity id h, a.lookup entity id = some h → ∃ i, a.get? h = some i ∧ i.entity = entity

theorem consistent_modify {a : Arena} (ha : a.Consistent) (h : InstanceId)
    {f : Instance → Instance} (hf : ∀ i, (f i).entity = i.entity) : (a.modify h f).Consistent := by
  intro e k g hl
  obtain ⟨i, hi, he⟩ := ha e k g hl
  rw [get?_modify]
  by_cases hg : h = g
  · exact ⟨f i, by simp [hg, hi], by rw [hf, he]⟩
  · exact ⟨i, by simp [hg, hi], he⟩

/-- Registering a new instance of an entity under one of its records keeps the map consistent. -/
theorem consistent_push_bind {a : Arena} (ha : a.Consistent) {i : Instance} {entity : EntityId}
    (he : i.entity = entity) (id : Int64) :
    ((a.push i).1.bind entity id (a.push i).2).Consistent := by
  intro e k g hl
  rw [lookup_bind] at hl
  split at hl
  · next hk =>
    -- the new record names the new instance, which sits past the old ones
    cases hl
    cases hk
    exact ⟨i, by rw [get?_bind]; simp [push, get?], he⟩
  · obtain ⟨j, hj, hje⟩ := ha e k g hl
    exact ⟨j, by simpa using get?_push_of_some a i hj, hje⟩

end Arena

namespace Scan

/-! ## Records of a row -/

/-- The primary key of a node's record in a result row, read from its identity block. -/
def keyOf (node : CompiledNode) (row : List Value) : Option Int64 :=
  node.identityBlock?.bind fun b => keyAt row b.offset

/-- The instance that an arena's identity map keeps for a node's record in a row. -/
def instanceAt (a : Arena) (node : CompiledNode) (row : List Value) : Option InstanceId :=
  (keyOf node row).bind (a.lookup node.entity)

/-- The identity map has an instance for the node's record in the row, if the row has one. -/
def Settled (a : Arena) (node : CompiledNode) (row : List Value) : Prop :=
  ∀ id, keyOf node row = some id → (a.lookup node.entity id).isSome

/-- A settled record keeps its instance in every arena that remembers the map. -/
theorem instanceAt_of_remembers {a a' : Arena} (hr : a.Remembers a') {node : CompiledNode}
    {row : List Value} (hs : Settled a node row) :
    instanceAt a' node row = instanceAt a node row := by
  unfold instanceAt
  cases hk : keyOf node row with
  | none => rfl
  | some id =>
    obtain ⟨h, hl⟩ := Option.isSome_iff_exists.mp (hs id hk)
    simp [hl, hr _ _ _ hl]

/-- In a consistent arena, the instance of a node's record is an instance of the node's entity. -/
theorem instanceAt_entity {a : Arena} (hc : a.Consistent) {node : CompiledNode}
    {row : List Value} {h : InstanceId} (hh : instanceAt a node row = some h) :
    ∃ i, a.get? h = some i ∧ i.entity = node.entity := by
  obtain ⟨id, -, hl⟩ := Option.bind_eq_some_iff.mp hh
  exact hc _ _ _ hl

theorem Settled.of_remembers {a a' : Arena} (hr : a.Remembers a') {node : CompiledNode}
    {row : List Value} (hs : Settled a node row) : Settled a' node row := by
  intro id hk
  obtain ⟨h, hl⟩ := Option.isSome_iff_exists.mp (hs id hk)
  simp [hr _ _ _ hl]

/-! ## Reading a node -/

/-- A step of the load state monad runs on the state the step before it leaves. -/
theorem run_bind {α β : Type} (x : StateM LoadState α) (g : α → StateM LoadState β)
    (st : LoadState) : (x >>= g).run st = (g (x.run st).1).run (x.run st).2 := rfl

variable (s : Scan)

theorem loadBlock_lookup (h : InstanceId) (block : ProjectionBlock) (row : List Value)
    (st : LoadState) : ((s.loadBlock h block row).run st).2.arena.lookup = st.arena.lookup := by
  rcases loadBlock_run s h block row st with hSame | ⟨slot, ref, pool, hFilled⟩
  · rw [hSame]
  · rw [hFilled]
    rfl

/-- Reading a node gives the instance the identity map keeps for its record in the row, after
registering one for a record it did not know; the map keeps every record it had. -/
theorem hydrate_result (node : CompiledNode) (row : List Value) (st : LoadState) :
    let res := (s.hydrate node row).run st
    res.1 = instanceAt res.2.arena node row ∧ Settled res.2.arena node row ∧
      st.arena.Remembers res.2.arena := by
  -- loading the blocks of the instance leaves the identity map as it is
  have hLoads : ∀ h (st₁ : LoadState), let res := (do
      forIn node.blocks PUnit.unit fun block _ => do
        s.loadBlock h block row
        Pure.pure (ForInStep.yield PUnit.unit)
      Pure.pure (some h) : StateM LoadState (Option InstanceId)).run st₁
      res.1 = some h ∧ res.2.arena.lookup = st₁.arena.lookup := by
    intro h st₁
    refine ⟨rfl, ?_⟩
    refine Keeps.bind (P := fun st' => st'.arena.lookup = st₁.arena.lookup)
      (Keeps.forIn (fun block _ => Keeps.bind (fun st' hst' => ?_) fun _ => Keeps.pure _) _ _)
      (fun _ => Keeps.pure _) st₁ rfl
    rw [loadBlock_lookup]
    exact hst'
  unfold hydrate
  dsimp only
  split
  · next identity hidentity =>
    split
    · next id hid =>
      have hkey : keyOf node row = some id := by simp [keyOf, hidentity, hid]
      simp only [StateT.run_bind, StateT.run_get, pure_bind]
      split
      · next h hlook =>
        -- a record the map knows: its instance is read again
        obtain ⟨hval, hmap⟩ := hLoads h st
        refine ⟨?_, fun id' hid' => ?_, Arena.Remembers.of_lookup hmap⟩
        · rw [hval, instanceAt, hkey, Option.bind_some, hmap, hlook]
        · rw [hkey] at hid'
          cases hid'
          rw [hmap, hlook]
          rfl
      · next hlook =>
        -- a new record: a new instance is registered for it
        generalize hpush : st.arena.push _ = pushed
        obtain ⟨arena, h⟩ := pushed
        dsimp only
        rw [StateT.run_bind, StateT.run_set]
        simp only [pure_bind]
        have hbound : (arena.bind node.entity id h).lookup node.entity id = some h := by
          simp [Arena.lookup_bind]
        have hfresh : arena.lookup node.entity id = none := by
          have := congrArg (fun p => p.1.lookup) hpush
          simp only [Arena.lookup_push] at this
          rw [← this, hlook]
        obtain ⟨hval, hmap⟩ := hLoads h { st with arena := arena.bind node.entity id h }
        refine ⟨?_, fun id' hid' => ?_, ?_⟩
        · rw [hval, instanceAt, hkey, Option.bind_some, hmap, hbound]
        · rw [hkey] at hid'
          cases hid'
          rw [hmap, hbound]
          rfl
        · have hpushed : arena.lookup = st.arena.lookup := by
            have := congrArg (fun p => p.1.lookup) hpush
            simpa only [Arena.lookup_push] using this.symm
          exact (Arena.Remembers.of_lookup hpushed).trans
            ((Arena.remembers_bind arena h hfresh).trans (Arena.Remembers.of_lookup hmap))
    · next hid =>
      have hnone : keyAt row identity.offset = none :=
        Option.eq_none_iff_forall_ne_some.mpr fun b hb => hid b hb
      have hkey : keyOf node row = none := by simp [keyOf, hidentity, hnone]
      exact ⟨show none = instanceAt st.arena node row by simp [instanceAt, hkey],
        fun id' h' => by simp [hkey] at h', Arena.Remembers.refl _⟩
  · next hidentity =>
    have hnone : node.identityBlock? = none :=
      Option.eq_none_iff_forall_ne_some.mpr fun b hb => hidentity b hb
    have hkey : keyOf node row = none := by simp [keyOf, hnone]
    exact ⟨show none = instanceAt st.arena node row by simp [instanceAt, hkey],
      fun id' h' => by simp [hkey] at h', Arena.Remembers.refl _⟩

theorem attach_lookup (owner : InstanceId) (relation : String) (target : Option InstanceId)
    (st : LoadState) :
    ((s.attach owner relation target).run st).2.arena.lookup = st.arena.lookup :=
  attach_keeps (P := fun st' => st'.arena.lookup = st.arena.lookup) s
    (fun _ _ _ _ _ hst' => hst') (fun _ _ hst' => hst') owner relation target st rfl

/-- Reading a node keeps every record of the identity map naming an instance of its entity. -/
theorem hydrate_consistent (node : CompiledNode) (row : List Value) :
    Keeps (fun st => st.arena.Consistent) (s.hydrate node row) := by
  have hLoads : ∀ h, Keeps (fun st => st.arena.Consistent) (do
      forIn node.blocks PUnit.unit fun block _ => do
        s.loadBlock h block row
        Pure.pure (ForInStep.yield PUnit.unit)
      Pure.pure (some h) : StateM LoadState (Option InstanceId)) := fun h =>
    Keeps.bind (Keeps.forIn (fun block _ => Keeps.bind
      (loadBlock_keeps s (fun _ h _ _ _ hst => Arena.consistent_modify hst h
        (f := (·.setRow _ _)) fun _ => rfl) h block row) fun _ => Keeps.pure _) _ _)
      fun _ => Keeps.pure _
  unfold hydrate
  split
  · split
    · refine Keeps.get_bind fun st hst => ?_
      simp only
      split
      · exact hLoads _ st hst
      · -- the new instance is one of the node's entity
        simp only [StateT.run_bind, StateT.run_set, pure_bind]
        exact hLoads _ _ (Arena.consistent_push_bind hst rfl _)
    · exact Keeps.pure _
  · exact Keeps.pure _

theorem attach_consistent (owner : InstanceId) (relation : String) (target : Option InstanceId) :
    Keeps (fun st => st.arena.Consistent) (s.attach owner relation target) :=
  attach_keeps (P := fun st => st.arena.Consistent) s
    (fun _ owner _ _ _ hst => Arena.consistent_modify hst owner (f := (·.setRelation _ _))
      fun i => Instance.setRelation_entity i _ _) (fun _ _ hst => hst) owner relation target

theorem instanceAt_of_lookup {a a' : Arena} (h : a'.lookup = a.lookup) (node : CompiledNode)
    (row : List Value) : instanceAt a' node row = instanceAt a node row := by
  rw [instanceAt, instanceAt, h]

/-! ## Reading a row -/

/-- One step of reading a row: the instance of a node, attached to the instance of its parent
node among those read before it. -/
def readNode (row : List Value) (acc : List (Option InstanceId)) (node : CompiledNode) :
    StateM LoadState (List (Option InstanceId)) := do
  let inst ← s.hydrate node row
  if let (some p, some relation) := (node.parent, node.relation) then
    if let some (some owner) := acc[p]? then
      s.attach owner relation inst
  pure (acc ++ [inst])

theorem readRow_eq_foldlM (row : List Value) :
    s.readRow row = s.query.nodes.foldlM (s.readNode row) [] := rfl

/-- Reading a node appends its instance, settled in the arena it leaves. -/
theorem readNode_result (row : List Value) (acc : List (Option InstanceId)) (node : CompiledNode)
    (st₁ : LoadState) :
    let res := (s.readNode row acc node).run st₁
    res.1 = acc ++ [instanceAt res.2.arena node row] ∧ Settled res.2.arena node row ∧
      st₁.arena.Remembers res.2.arena := by
  unfold readNode
  rw [run_bind]
  obtain ⟨hval, hset, hrem⟩ := hydrate_result s node row st₁
  generalize (s.hydrate node row).run st₁ = step at hval hset hrem
  obtain ⟨inst, st₂⟩ := step
  dsimp only at hval hset hrem ⊢
  -- attaching the instance to its owner leaves the identity map as it is
  have hattach : ∀ x : StateM LoadState Unit,
      (∀ st', (x.run st').2.arena.lookup = st'.arena.lookup) →
      let res := (x >>= fun _ => pure (acc ++ [inst]) : StateM LoadState _).run st₂
      res.1 = acc ++ [instanceAt res.2.arena node row] ∧ Settled res.2.arena node row ∧
        st₁.arena.Remembers res.2.arena := by
    intro x hx
    rw [run_bind]
    have hl := hx st₂
    refine ⟨?_, ?_, hrem.trans (Arena.Remembers.of_lookup hl)⟩
    · show acc ++ [inst] = acc ++ [instanceAt (x.run st₂).2.arena node row]
      rw [instanceAt_of_lookup hl, hval]
    · exact hset.of_remembers (Arena.Remembers.of_lookup hl)
  split
  · split
    · exact hattach _ fun st' => attach_lookup s _ _ _ st'
    · exact hattach (pure ()) fun _ => rfl
  · exact hattach (pure ()) fun _ => rfl

/-- Reading one more node, after nodes whose instances are those of their settled records: the
instances are still those of the records, now of one more node. -/
theorem readNode_instances (row : List Value) (done : List CompiledNode) (node : CompiledNode)
    (st : LoadState) (hdone : ∀ n ∈ done, Settled st.arena n row) :
    let res := (s.readNode row (done.map (instanceAt st.arena · row)) node).run st
    res.1 = (done ++ [node]).map (instanceAt res.2.arena · row) ∧
      (∀ n ∈ done ++ [node], Settled res.2.arena n row) ∧ st.arena.Remembers res.2.arena := by
  obtain ⟨hval, hset, hrem⟩ := readNode_result s row (done.map (instanceAt st.arena · row)) node st
  generalize (s.readNode row (done.map (instanceAt st.arena · row)) node).run st = step at *
  obtain ⟨acc, st₁⟩ := step
  dsimp only at hval hset hrem ⊢
  refine ⟨?_, fun n hn => ?_, hrem⟩
  · -- the nodes read so far keep their instances in the arena after the step
    rw [hval, List.map_append, List.map_singleton]
    congr 1
    exact List.map_congr_left fun n hn => (instanceAt_of_remembers hrem (hdone n hn)).symm
  · rcases List.mem_append.mp hn with hn | hn
    · exact (hdone n hn).of_remembers hrem
    · rw [List.mem_singleton.mp hn]
      exact hset

/-- Reading the nodes `l` after the nodes `done` gives the instances of all of them, read in the
arena the reading ends with. -/
theorem foldlM_instances (row : List Value) :
    ∀ (l done : List CompiledNode) (st : LoadState), (∀ n ∈ done, Settled st.arena n row) →
      let res := (l.foldlM (s.readNode row) (done.map (instanceAt st.arena · row))).run st
      res.1 = (done ++ l).map (instanceAt res.2.arena · row) ∧
        (∀ n ∈ done ++ l, Settled res.2.arena n row) ∧ st.arena.Remembers res.2.arena
  | [], done, st, hdone => by
    simp only [List.foldlM_nil, List.append_nil]
    exact ⟨rfl, hdone, Arena.Remembers.refl _⟩
  | node :: l, done, st, hdone => by
    rw [List.foldlM_cons, run_bind]
    obtain ⟨hacc, hdone₁, hrem⟩ := readNode_instances s row done node st hdone
    generalize (s.readNode row (done.map (instanceAt st.arena · row)) node).run st = step at *
    obtain ⟨acc, st₁⟩ := step
    dsimp only at hacc hdone₁ hrem ⊢
    rw [hacc]
    obtain ⟨hval', hset', hrem'⟩ := foldlM_instances row l (done ++ [node]) st₁ hdone₁
    exact ⟨by simpa using hval', by simpa using hset', hrem.trans hrem'⟩

/-- Reading a row gives every node of the layout the instance the identity map keeps for its
record in the row, in the arena the row leaves. -/
theorem readRow_result (row : List Value) (st : LoadState) :
    let res := (s.readRow row).run st
    res.1 = s.query.nodes.map (instanceAt res.2.arena · row) ∧
      (∀ node ∈ s.query.nodes, Settled res.2.arena node row) ∧ st.arena.Remembers res.2.arena :=
  foldlM_instances s row s.query.nodes [] st (by simp)

theorem readNode_consistent (row : List Value) (acc : List (Option InstanceId))
    (node : CompiledNode) : Keeps (fun st => st.arena.Consistent) (s.readNode row acc node) := by
  unfold readNode
  refine Keeps.bind (hydrate_consistent s node row) fun inst => ?_
  split
  · split
    · exact Keeps.bind (attach_consistent s _ _ _) fun _ => Keeps.pure _
    · exact Keeps.pure _
  · exact Keeps.pure _

theorem readRow_consistent (row : List Value) :
    Keeps (fun st => st.arena.Consistent) (s.readRow row) :=
  Keeps.foldlM (readNode_consistent s row) _ _

/-! ## Reading rows -/

/-- Read rows one after another, keeping only what they change. -/
def readRows : List (List Value) → StateM LoadState Unit
  | [] => pure ()
  | row :: rows => do
    let _ ← s.readRow row
    readRows rows

theorem readRows_append (rows₁ rows₂ : List (List Value)) (st : LoadState) :
    ((s.readRows (rows₁ ++ rows₂)).run st).2 =
      ((s.readRows rows₂).run ((s.readRows rows₁).run st).2).2 := by
  induction rows₁ generalizing st with
  | nil => rfl
  | cons row rows₁ ih => exact ih _

/-- Rows read one after another settle every record they hold, in an arena that remembers the
identity map they started with. -/
theorem readRows_result (rows : List (List Value)) (st : LoadState) :
    let st' := ((s.readRows rows).run st).2
    (∀ row ∈ rows, ∀ node ∈ s.query.nodes, Settled st'.arena node row) ∧
      st.arena.Remembers st'.arena := by
  induction rows generalizing st with
  | nil => exact ⟨by simp, Arena.Remembers.refl _⟩
  | cons row rows ih =>
    obtain ⟨-, hset, hrem⟩ := readRow_result s row st
    obtain ⟨hset', hrem'⟩ := ih ((s.readRow row).run st).2
    refine ⟨fun r hr node hnode => ?_, hrem.trans hrem'⟩
    rcases List.mem_cons.mp hr with rfl | hr
    · exact (hset node hnode).of_remembers hrem'
    · exact hset' r hr node hnode

theorem readRows_consistent : ∀ rows : List (List Value),
    Keeps (fun st => st.arena.Consistent) (s.readRows rows)
  | [] => Keeps.pure _
  | row :: rows => Keeps.bind (readRow_consistent s row) fun _ => readRows_consistent rows

/-! ## Records -/

/-- Two rows hold the same record of a node. -/
def sameKey (node : CompiledNode) (a b : List Value) : Bool := keyOf node a == keyOf node b

/-- Reading on from a record's row reads the rows holding the same key and stops before the
first that does not. -/
theorem nextRecord_go_run (identity : ProjectionBlock) (h : InstanceId) (k : Int64) :
    ∀ (rows : List (List Value)) (pos : Nat) (st : LoadState),
      (nextRecord.go s identity rows pos (some h) (some k)).run st =
        ((some h, pos + (rows.takeWhile fun r => keyAt r identity.offset == some k).length),
          ((s.readRows (rows.takeWhile fun r => keyAt r identity.offset == some k)).run st).2)
  | [], pos, st => rfl
  | row :: more, pos, st => by
    simp only [nextRecord.go, Option.isSome_some, Bool.true_and]
    by_cases hk : keyAt row identity.offset = some k
    · -- the row holds the record: it is read, and the reading goes on
      have hp : (keyAt row identity.offset == some k) = true := beq_iff_eq.mpr hk
      simp only [hk, bne_self_eq_false, Bool.false_eq_true, if_false, if_true]
      rw [run_bind, nextRecord_go_run identity h k more,
        List.takeWhile_cons_of_pos (p := fun r => keyAt r identity.offset == some k) hp]
      rw [List.length_cons, ← Nat.add_assoc, Nat.add_right_comm]
      rfl
    · have hp : ¬(keyAt row identity.offset == some k) = true := fun he => hk (beq_iff_eq.mp he)
      have hne : (keyAt row identity.offset != some k) = true := by simpa using hk
      simp only [hne, if_true]
      rw [List.takeWhile_cons_of_neg (p := fun r => keyAt r identity.offset == some k) hp]
      rfl

theorem keyOf_of_identity {node : CompiledNode} {identity : ProjectionBlock}
    (hid : node.identityBlock? = some identity) (row : List Value) :
    keyOf node row = keyAt row identity.offset := by
  simp [keyOf, hid]

theorem instanceAt_of_keyOf {a : Arena} {node : CompiledNode} {row row' : List Value}
    (h : keyOf node row' = keyOf node row) : instanceAt a node row' = instanceAt a node row := by
  rw [instanceAt, instanceAt, h]

/-- Every row of a run holds the key of its first row. -/
theorem keyOf_of_mem_run (node : CompiledNode) (row : List Value) (more : List (List Value)) :
    ∀ x ∈ row :: more.takeWhile (sameKey node row), keyOf node x = keyOf node row := by
  intro x hx
  rcases List.mem_cons.mp hx with rfl | hx
  · rfl
  · have hp : sameKey node row x = true := List.all_eq_true.mp List.all_takeWhile x hx
    exact (beq_iff_eq.mp hp).symm

/-- The first run of rows with equal keys: the first row and the rows after it that hold its
key, up to the first that does not. -/
theorem splitBy_sameKey (node : CompiledNode) (row : List Value) (more : List (List Value)) :
    (row :: more).splitBy (sameKey node) =
      (row :: more.takeWhile (sameKey node row)) ::
        (more.dropWhile (sameKey node row)).splitBy (sameKey node) := by
  have hrun := keyOf_of_mem_run node row more
  have hchain : (row :: more.takeWhile (sameKey node row)).IsChain
      fun a b => sameKey node a b = true :=
    (List.pairwise_of_forall_mem_list fun a ha b hb => by
      simp [sameKey, hrun a ha, hrun b hb]).isChain
  -- the next row, if any, holds another key
  have hnext : ∀ x ∈ (row :: more.takeWhile (sameKey node row)).getLast?,
      ∀ y ∈ (more.dropWhile (sameKey node row)).head?, sameKey node x y = false := by
    intro x hx y hy
    have hy' := List.head?_dropWhile_not (sameKey node row) more
    rw [Option.mem_def.mp hy] at hy'
    rw [sameKey, hrun x (List.mem_of_mem_getLast? hx)]
    exact hy'
  calc (row :: more).splitBy (sameKey node)
      = ((row :: more.takeWhile (sameKey node row)) ++
          more.dropWhile (sameKey node row)).splitBy (sameKey node) := by
        rw [List.cons_append, List.takeWhile_append_dropWhile]
    _ = _ := by
        rw [List.splitBy_append hnext, List.splitBy_of_isChain (List.cons_ne_nil _ _) hchain]
        rfl

/-- Runs of equal elements, one run for each element of `xs`, hold the distinct elements of `xs`
in order of first appearance, also after filtering. -/
theorem eraseDups_flatten_runs {α : Type} [BEq α] [LawfulBEq α] {xs : List α}
    {runs : List (List α)} (h : List.Forall₂ (fun x run => run ≠ [] ∧ ∀ y ∈ run, y = x) xs runs)
    (p : α → Bool) : (runs.flatten.filter p).eraseDups = (xs.filter p).eraseDups := by
  induction h generalizing p with
  | nil => rfl
  | @cons x run xs runs hrun _ ih =>
    obtain ⟨hne, hall⟩ := hrun
    obtain ⟨y, run', rfl⟩ := List.exists_cons_of_ne_nil hne
    obtain rfl : y = x := hall y List.mem_cons_self
    have hrun' : ∀ z ∈ run', z = y := fun z hz => hall z (List.mem_cons_of_mem _ hz)
    by_cases hp : p y = true
    · -- the run is `y` alone once what follows `y` forgets it
      have hgone : ((run'.filter p).filter fun b => !b == y) = [] := by
        rw [List.filter_eq_nil_iff]
        intro z hz
        rw [hrun' z (List.mem_of_mem_filter hz)]
        simp
      simp only [List.flatten_cons, List.filter_append, List.filter_cons, hp, if_true,
        List.cons_append, List.eraseDups_cons, hgone, List.nil_append, List.filter_filter]
      rw [ih]
    · have hgone : run'.filter p = [] := by
        rw [List.filter_eq_nil_iff]
        intro z hz
        rw [hrun' z hz]
        exact hp
      simp only [List.flatten_cons, List.filter_append, List.filter_cons, hp, if_false,
        Bool.false_eq_true, hgone, List.nil_append]
      exact ih p

section Records

variable {root : CompiledNode} (hroot : s.query.nodes.head? = some root)

include hroot in
/-- Past the last row there is no record. -/
theorem nextRecord_end (rows : List (List Value)) (pos : Nat) (hend : rows.drop pos = [])
    (st : LoadState) : (s.nextRecord rows pos).run st = ((none, pos), st) := by
  unfold nextRecord
  simp only [hroot]
  split
  · simp only [hend]
    rfl
  · rfl

include hroot in
/-- A record is read from its first row through the rows after it with the same root key. It
is the instance the identity map keeps for the root's record. -/
theorem nextRecord_record (rows : List (List Value)) (pos : Nat) (row : List Value)
    (more : List (List Value)) (hrows : rows.drop pos = row :: more) {k : Int64}
    (hk : keyOf root row = some k) (st : LoadState) :
    let run := row :: more.takeWhile (sameKey root row)
    let st' := ((s.readRows run).run st).2
    (s.nextRecord rows pos).run st = ((instanceAt st'.arena root row, pos + run.length), st') ∧
      (instanceAt st'.arena root row).isSome := by
  intro run st'
  obtain ⟨identity, hid, -⟩ := Option.bind_eq_some_iff.mp hk
  -- the rows after the first are compared with the key of the first
  have hkey : keyAt row identity.offset = some k := by rw [← keyOf_of_identity hid, hk]
  have hp : (fun r => keyAt r identity.offset == some k) = sameKey root row := by
    funext r
    rw [sameKey, hk, keyOf_of_identity hid, Bool.beq_comm]
  obtain ⟨hval, hset, -⟩ := readRow_result s row st
  have hnodes : ∃ rest, s.query.nodes = root :: rest := by
    cases hn : s.query.nodes with
    | nil => rw [hn] at hroot; cases hroot
    | cons n rest => rw [hn] at hroot; cases hroot; exact ⟨rest, rfl⟩
  obtain ⟨rest, hrest⟩ := hnodes
  obtain ⟨h, hh⟩ :=
    Option.isSome_iff_exists.mp (hset root (by rw [hrest]; exact List.mem_cons_self) k hk)
  have hinst : instanceAt ((s.readRow row).run st).2.arena root row = some h := by
    rw [instanceAt, hk, Option.bind_some, hh]
  -- the record's instance stays the same while the rest of its rows are read
  obtain ⟨-, hrem⟩ := readRows_result s (more.takeWhile (sameKey root row))
    ((s.readRow row).run st).2
  have hfinal : instanceAt st'.arena root row = some h := by
    rw [← hinst]
    exact instanceAt_of_remembers hrem (hset root (by rw [hrest]; exact List.mem_cons_self))
  refine ⟨?_, by rw [hfinal]; rfl⟩
  unfold nextRecord
  simp only [hroot, hid, hrows, nextRecord.go, Option.isSome_none, Bool.false_and,
    Bool.false_eq_true, if_false]
  rw [run_bind]
  have hhead : ((s.readRow row).run st).1.head?.join = some h := by
    rw [hval, hrest, List.map_cons, List.head?_cons, Option.join_some, hinst]
  simp only [hhead, hkey]
  rw [nextRecord_go_run s identity h k more, hp, hfinal]
  simp only [run, List.length_cons]
  rw [Nat.add_right_comm]
  rfl

include hroot in
/-- Reading records from a position to the end of the rows reads the rest of the rows one after
another; the records are the runs of rows with equal root keys, each read as the instance of
its rows' root record, and each read ends where its run does. -/
theorem records_go_run (rows : List (List Value)) :
    ∀ (n pos : Nat) (found : List InstanceId) (positions : List Nat) (st : LoadState),
      (rows.drop pos).length < n → pos ≤ rows.length →
      (∀ row ∈ rows.drop pos, (keyOf root row).isSome) →
      let res := (records.go s rows n pos found positions).run st
      res.2 = ((s.readRows (rows.drop pos)).run st).2 ∧
        (∃ more, res.1.1 = found ++ more ∧
          List.Forall₂ (fun h run => ∀ row ∈ run, instanceAt res.2.arena root row = some h) more
            ((rows.drop pos).splitBy (sameKey root))) ∧
        res.1.2 = positions ++ (((rows.drop pos).splitBy (sameKey root)).scanl
          (fun p run => p + run.length) pos).tail ++ [rows.length]
  | 0, _, _, _, _, hlen, _, _ => absurd hlen (Nat.not_lt_zero _)
  | n + 1, pos, found, positions, st, hlen, hpos, hkeys => by
    simp only [records.go]
    rw [run_bind]
    cases hdrop : rows.drop pos with
    | nil =>
      -- past the last row: the read finds nothing and the scan stops
      have hend : pos = rows.length := by
        have := List.length_drop (i := pos) (l := rows)
        rw [hdrop] at this
        simp only [List.length_nil] at this
        omega
      rw [nextRecord_end s hroot rows pos hdrop]
      refine ⟨rfl, ⟨[], (List.append_nil found).symm, by simp⟩, ?_⟩
      show positions ++ [pos] = _
      simp [hend]
    | cons row more =>
      rw [hdrop] at hlen hkeys
      obtain ⟨k, hk⟩ := Option.isSome_iff_exists.mp (hkeys row List.mem_cons_self)
      obtain ⟨hnext, hsome⟩ := nextRecord_record s hroot rows pos row more hdrop hk st
      rw [hnext]
      obtain ⟨h, hh⟩ := Option.isSome_iff_exists.mp hsome
      simp only [hh]
      -- the rest of the rows start after the record's run
      have hrest : rows.drop (pos + (row :: more.takeWhile (sameKey root row)).length) =
          more.dropWhile (sameKey root row) := by
        rw [← List.drop_drop, hdrop, List.length_cons, List.drop_succ_cons,
          ← @List.drop_left _ (more.takeWhile (sameKey root row))
            (more.dropWhile (sameKey root row)), List.takeWhile_append_dropWhile]
      have hsplit := congrArg List.length
        (List.takeWhile_append_dropWhile (p := sameKey root row) (l := more))
      rw [List.length_append] at hsplit
      have hposRest : pos + (row :: more.takeWhile (sameKey root row)).length ≤ rows.length := by
        have h₁ := List.length_drop (i := pos) (l := rows)
        rw [hdrop, List.length_cons] at h₁
        simp only [List.length_cons]
        omega
      obtain ⟨hst, ⟨more', hfound, hruns⟩, hpositions⟩ := records_go_run rows n _ _ _ _
        (by rw [hrest]; simp only [List.length_cons] at hlen; omega) hposRest
        (fun r hr => hkeys r (by
          rw [hrest] at hr
          rw [← List.takeWhile_append_dropWhile (p := sameKey root row) (l := more)]
          exact List.mem_cons_of_mem _ (List.mem_append_right _ hr)))
      rw [hrest] at hst hruns hpositions
      refine ⟨?_, ⟨h :: more', by rw [hfound]; simp, ?_⟩, ?_⟩
      · rw [hst, ← readRows_append, List.cons_append, List.takeWhile_append_dropWhile]
      · -- the rows of the record's run all read as its instance
        rw [splitBy_sameKey]
        refine List.Forall₂.cons (fun r hr => ?_) hruns
        obtain ⟨hset, -⟩ := s.readRows_result (row :: more.takeWhile (sameKey root row)) st
        obtain ⟨-, hrem⟩ := s.readRows_result (more.dropWhile (sameKey root row))
          ((s.readRows (row :: more.takeWhile (sameKey root row))).run st).2
        rw [hst, instanceAt_of_keyOf (keyOf_of_mem_run root row more r hr),
          instanceAt_of_remembers hrem (hset row List.mem_cons_self root
            (List.mem_of_mem_head? hroot)), hh]
      · rw [hpositions, splitBy_sameKey, List.scanl_cons, List.tail_cons]
        cases (more.dropWhile (sameKey root row)).splitBy (sameKey root) <;>
          simp [List.scanl_cons, List.scanl_nil]

include hroot in
/-- A scan whose rows all hold a root key reads the rows one after another, from a state where no
collection has been emptied yet. Its records are the maximal runs of rows with equal root keys,
in order, each the instance the identity map ends up keeping for the root records of its rows;
each read ends where its run does, and the last, past the rows, finds nothing. -/
theorem records_runs (rows : List (List Value)) (hkeys : ∀ row ∈ rows, (keyOf root row).isSome)
    (st : LoadState) :
    let res := (s.records rows).run st
    res.2 = ((s.readRows rows).run { st with reset := [] }).2 ∧
      List.Forall₂ (fun h run => ∀ row ∈ run, instanceAt res.2.arena root row = some h) res.1.1
        (rows.splitBy (sameKey root)) ∧
      res.1.2 = ((rows.splitBy (sameKey root)).scanl (fun p run => p + run.length) 0).tail ++
        [rows.length] := by
  have hrun : (s.records rows).run st =
      (records.go s rows (rows.length + 1) 0 [] []).run { st with reset := [] } := rfl
  obtain ⟨hst, ⟨more, hfound, hruns⟩, hpositions⟩ := records_go_run s hroot rows
    (rows.length + 1) 0 [] [] { st with reset := [] } (by simp) (Nat.zero_le _)
    (by simpa using hkeys)
  simp only [List.drop_zero, List.nil_append] at hst hfound hruns hpositions
  rw [hrun]
  exact ⟨hst, hfound ▸ hruns, hpositions⟩

include hroot in
/-- The records a scan finds, without repeats, are the distinct root instances of its rows in
order of first appearance. -/
theorem records_distinct (rows : List (List Value))
    (hkeys : ∀ row ∈ rows, (keyOf root row).isSome) (st : LoadState) :
    let res := (s.records rows).run st
    res.1.1.eraseDups = (rows.filterMap (instanceAt res.2.arena root ·)).eraseDups := by
  obtain ⟨-, hfound, -⟩ := records_runs s hroot rows hkeys st
  generalize (s.records rows).run st = res at hfound ⊢
  -- a run of rows reads as its record, once for each row
  have hruns : List.Forall₂ (fun h run => run ≠ [] ∧ ∀ y ∈ run, y = h) res.1.1
      ((rows.splitBy (sameKey root)).map fun run =>
        run.filterMap (instanceAt res.2.arena root ·)) := by
    rw [List.forall₂_map_right_iff]
    obtain ⟨hlen, hzip⟩ := List.forall₂_iff_zip.mp hfound
    refine List.forall₂_iff_zip.mpr ⟨hlen, fun {h run} hmem => ?_⟩
    have hall := hzip hmem
    obtain ⟨row, hrow⟩ :=
      List.exists_mem_of_ne_nil _ (List.ne_nil_of_mem_splitBy (List.of_mem_zip hmem).2)
    refine ⟨List.ne_nil_of_mem (List.mem_filterMap.mpr ⟨row, hrow, hall row hrow⟩), fun y hy => ?_⟩
    obtain ⟨row', hrow', hy'⟩ := List.mem_filterMap.mp hy
    rw [hall row' hrow'] at hy'
    exact (Option.some.inj hy').symm
  have hd := eraseDups_flatten_runs hruns fun _ => true
  rwa [List.filter_true, List.filter_true, ← List.filterMap_flatten, List.flatten_splitBy,
    eq_comm] at hd

end Records

end Scan

end EntityGraph
