import EntityGraph.Proofs.Graph.Scan

/-!
# Scans keep unsaved state

Reading a query result into a session must not lose what the session changed since it last
saved: changes in memory win over what was read. `Scan.Frame reg st₀ st` says what a scan carries
from the load state `st₀` it starts in to the one it reaches:

* the shared rows only grow, and a row with unsaved changes is the same row afterwards, values
  and modified columns included (`RowStore.KeepsModified`);
* every instance is still there, for the same entity, and (`Instance.KeepsUnsaved`)
  - a slot holding a row with unsaved changes still holds that row,
  - a reference assigned since the last save keeps its target and stays dirty,
  - a collection keeps its added and removed members; only its stored members are rebuilt.

The collection part holds for entries whose name the registry resolves to a collection, or does
not resolve: under a name that resolves to a reference, the scan sets the reference it reached
in place of whatever entry was there.

Each load, attachment and new instance of a scan is a frame of the state it starts from, and
frames compose, so a whole scan is one (`Scan.records_frame`). A load that fills a slot fills it
with the row the row cache gives for the block's table and key: the kept row on a hit, a new row
holding the loaded values on a miss (`Scan.loadBlock_slot`).

Main statement: `Scan.scan_keeps_unsaved_state`.
-/

namespace EntityGraph

namespace RowStore

/-! ## Stores that keep their modified rows -/

/-- `store'` extends `store` and holds every row of `store` that has unsaved changes as it was. -/
structure KeepsModified (store store' : RowStore) : Prop where
  size_le : store.rows.size ≤ store'.rows.size
  get_eq : ∀ r, r.index < store.rows.size → (store.get r).isModified = true →
    store'.get r = store.get r

theorem KeepsModified.refl (store : RowStore) : store.KeepsModified store :=
  ⟨Nat.le_refl _, fun _ _ _ => rfl⟩

theorem KeepsModified.trans {store₀ store₁ store₂ : RowStore} (h₁ : store₀.KeepsModified store₁)
    (h₂ : store₁.KeepsModified store₂) : store₀.KeepsModified store₂ := by
  refine ⟨Nat.le_trans h₁.size_le h₂.size_le, fun r hr hm => ?_⟩
  have hr₁ : r.index < store₁.rows.size := Nat.lt_of_lt_of_le hr h₁.size_le
  have hm₁ : (store₁.get r).isModified = true := by rw [h₁.get_eq r hr hm, hm]
  rw [h₂.get_eq r hr₁ hm₁, h₁.get_eq r hr hm]

theorem keepsModified_add (store : RowStore) (row : ModelRow) :
    store.KeepsModified (store.add row).1 :=
  ⟨by simp, fun _ hr _ => get_add_of_lt store row hr⟩

/-- Changing a row without unsaved changes keeps every row that has some. -/
theorem keepsModified_modify {store : RowStore} {r : RowRef} (f : ModelRow → ModelRow)
    (hclean : (store.get r).isModified = false) : store.KeepsModified (store.modify r f) := by
  refine ⟨by simp, fun r' _ hm => get_modify_of_ne store f fun he => ?_⟩
  rw [he, hm] at hclean
  cases hclean

end RowStore

namespace RowCache

/-! ## Getting a row from the cache -/

/-- The row the cache gives for a key when a miss adds a new row to the store: the row it keeps
on a hit, with the store as it was, or a new row at the end of the store on a miss. -/
theorem getOrInsert_add (c : RowCache RowRef) (key : RowKey) (row : ModelRow) (store : RowStore) :
    let res := (c.getOrInsert key
      (modifyGet fun s => (s.add row).swap : StateM RowStore RowRef)).run store
    (∃ e, c.entry? key = some e ∧ res.1.2.1 = e.row ∧ res.1.2.2 = false ∧ res.2 = store) ∨
      (c.entry? key = none ∧ res.1.2.1 = ⟨store.rows.size⟩ ∧ res.1.2.2 = true ∧
        res.2 = (store.add row).1) := by
  have hlook : c.entry? key = c.entries.lookup key := rfl
  cases he : c.entry? key with
  | none =>
    refine Or.inr ⟨rfl, ?_⟩
    rw [he] at hlook
    simp only [getOrInsert, touch, use, entry?, ← hlook]
    exact ⟨rfl, rfl, rfl⟩
  | some e =>
    refine Or.inl ⟨e, rfl, ?_⟩
    rw [he] at hlook
    simp only [getOrInsert, touch, use, entry?, ← hlook]
    exact ⟨rfl, rfl, rfl⟩

end RowCache

namespace Instance

/-! ## Slots and relations of an instance -/

variable (i : Instance)

/-- The first step of a lookup, for whichever lawful equality test the keys have. -/
theorem lookup_cons_ite {α β : Type} [DecidableEq α] {inst : BEq α} [LawfulBEq α] (a k : α) (b : β)
    (as : List (α × β)) :
    ((k, b) :: as).lookup a = if a = k then some b else as.lookup a := by
  rw [List.lookup_cons]
  by_cases h : a = k
  · simp [h]
  · simp [h, beq_eq_false_iff_ne.mpr h]

theorem lookup_replace (name : String) (d : RelationalData) :
    ∀ (l : List (String × RelationalData)) (name' : String),
      (l.map fun kv => if kv.1 == name then (name, d) else kv).lookup name' =
        if name' = name ∧ l.any (·.1 == name) then some d else l.lookup name'
  | [], _ => by simp
  | (k, v) :: l, name' => by
    have ih := lookup_replace name d l name'
    by_cases hk : k = name
    · subst hk
      by_cases hn : name' = k <;> simp_all [lookup_cons_ite]
    · -- an entry under another name stays, and the rest is the induction
      have hkb : (k == name) = false := beq_eq_false_iff_ne.mpr hk
      simp only [List.map_cons, List.any_cons, hkb, Bool.false_or, Bool.false_eq_true, if_false,
        lookup_cons_ite, ih]
      by_cases hn : name' = k
      · subst hn
        simp [hk]
      · simp [hn]

theorem lookup_append_fresh (name : String) (d : RelationalData)
    (l : List (String × RelationalData)) (hl : l.any (·.1 == name) = false) (name' : String) :
    (l ++ [(name, d)]).lookup name' = if name' = name then some d else l.lookup name' := by
  simp only [List.lookup_append, lookup_cons_ite, List.lookup_nil]
  by_cases hn : name' = name
  · subst hn
    have hnone : l.lookup name' = none := by
      simp only [List.any_eq_false, beq_iff_eq] at hl
      simpa [List.lookup_eq_none_iff] using fun a b hab hEq => hl (a, b) hab hEq.symm
    simp [hnone]
  · simp [hn]

theorem relation?_setRelation (name name' : String) (d : RelationalData) :
    (i.setRelation name d).relation? name' =
      if name' = name then some d else i.relation? name' := by
  unfold setRelation relation?
  split
  · next hany =>
    rw [lookup_replace]
    by_cases hn : name' = name <;> simp_all
  · next hnone =>
    exact lookup_append_fresh name d _ (Bool.eq_false_iff.mpr hnone) name'

@[simp] theorem setRelation_entity (name : String) (d : RelationalData) :
    (i.setRelation name d).entity = i.entity := by
  unfold setRelation
  split <;> rfl

@[simp] theorem setRelation_row? (name : String) (d : RelationalData) (slot : Nat) :
    (i.setRelation name d).row? slot = i.row? slot := by
  unfold setRelation
  split <;> rfl

@[simp] theorem setRow_entity (slot : Nat) (r : RowRef) : (i.setRow slot r).entity = i.entity := rfl

@[simp] theorem setRow_relation? (slot : Nat) (r : RowRef) (name : String) :
    (i.setRow slot r).relation? name = i.relation? name := rfl

theorem row?_setRow_of_ne {slot slot' : Nat} (r : RowRef) (h : slot' ≠ slot) :
    (i.setRow slot r).row? slot' = i.row? slot' := by
  simp [setRow, row?, Ne.symm h]

/-! ## What an instance keeps -/

/-- What `i'` keeps of the unsaved state of `i`, judged against the rows of `store`: its entity,
every slot holding a row with unsaved changes, every dirty reference, and the added and removed
members of every collection whose name does not resolve to a reference. -/
structure KeepsUnsaved (reg : Registry) (store : RowStore) (i i' : Instance) : Prop where
  entity : i'.entity = i.entity
  slots : ∀ slot r, i.row? slot = some r → r.index < store.rows.size →
    (store.get r).isModified = true → i'.row? slot = some r
  references : ∀ name t, i.relation? name = some (.reference t true) →
    i'.relation? name = some (.reference t true)
  collections : ∀ name existing added removed,
    i.relation? name = some (.collection existing added removed) →
    (∀ r, reg.findRelation? i.entity name = some r → r.isCollection = true) →
    ∃ existing', i'.relation? name = some (.collection existing' added removed)

variable {reg : Registry}

theorem KeepsUnsaved.refl (store : RowStore) : i.KeepsUnsaved reg store i :=
  ⟨rfl, fun _ _ hr _ _ => hr, fun _ _ hr => hr, fun _ e _ _ hr _ => ⟨e, hr⟩⟩

theorem KeepsUnsaved.trans {store₀ store₁ : RowStore} {i₁ i₂ : Instance}
    (hstore : store₀.KeepsModified store₁) (h₁ : i.KeepsUnsaved reg store₀ i₁)
    (h₂ : i₁.KeepsUnsaved reg store₁ i₂) : i.KeepsUnsaved reg store₀ i₂ where
  entity := h₂.entity.trans h₁.entity
  slots slot r hr hlt hm := by
    -- a modified row of the first store is the same modified row of the second
    have hlt₁ : r.index < store₁.rows.size := Nat.lt_of_lt_of_le hlt hstore.size_le
    have hm₁ : (store₁.get r).isModified = true := by rw [hstore.get_eq r hlt hm, hm]
    exact h₂.slots slot r (h₁.slots slot r hr hlt hm) hlt₁ hm₁
  references name t hr := h₂.references name t (h₁.references name t hr)
  collections name existing added removed hr hcoll := by
    obtain ⟨existing₁, hr₁⟩ := h₁.collections name existing added removed hr hcoll
    exact h₂.collections name existing₁ added removed hr₁ (h₁.entity ▸ hcoll)

/-- Filling a slot that holds no row with unsaved changes keeps the unsaved state. -/
theorem keepsUnsaved_setRow (store : RowStore) {slot : Nat} (ref : RowRef)
    (hclean : ∀ r, i.row? slot = some r → (store.get r).isModified = false) :
    i.KeepsUnsaved reg store (i.setRow slot ref) := by
  refine ⟨rfl, fun slot' r hr _ hm => ?_, fun _ _ hr => hr, fun _ e _ _ hr _ => ⟨e, hr⟩⟩
  by_cases hs : slot' = slot
  · subst hs
    rw [hclean r hr] at hm
    cases hm
  · rw [row?_setRow_of_ne i ref hs, hr]

/-- Setting a relation keeps the unsaved state when a dirty reference is set to itself and a
collection that the registry does not call a reference keeps its added and removed members. -/
theorem keepsUnsaved_setRelation (store : RowStore) {name : String} {d : RelationalData}
    (hdirty : ∀ t, i.relation? name = some (.reference t true) → d = .reference t true)
    (hcoll : ∀ existing added removed,
      i.relation? name = some (.collection existing added removed) →
      (∀ r, reg.findRelation? i.entity name = some r → r.isCollection = true) →
      ∃ existing', d = .collection existing' added removed) :
    i.KeepsUnsaved reg store (i.setRelation name d) := by
  refine ⟨setRelation_entity i name d, fun slot r hr _ _ => ?_, fun name' t hr => ?_,
    fun name' existing added removed hr hkind => ?_⟩
  · rw [setRelation_row?, hr]
  · rw [relation?_setRelation]
    by_cases hn : name' = name
    · subst hn
      rw [if_pos rfl, hdirty t hr]
    · rw [if_neg hn, hr]
  · rw [relation?_setRelation]
    by_cases hn : name' = name
    · subst hn
      obtain ⟨existing', hd⟩ := hcoll existing added removed hr hkind
      exact ⟨existing', by rw [if_pos rfl, hd]⟩
    · exact ⟨existing, by rw [if_neg hn, hr]⟩

end Instance

namespace Arena

@[simp] theorem get?_bind (a : Arena) (entity : EntityId) (id : Int64) (h g : InstanceId) :
    (a.bind entity id h).get? g = a.get? g := rfl

theorem get?_push_of_some (a : Arena) (i : Instance) {g : InstanceId} {inst : Instance}
    (hg : a.get? g = some inst) : (a.push i).1.get? g = some inst := by
  obtain ⟨hlt, hval⟩ := Array.getElem?_eq_some_iff.mp hg
  simp only [push, get?, Array.getElem?_push_lt hlt, hval]

end Arena

namespace Scan

/-! ## Frames of a scan -/

/-- What a scan that starts in `st₀` keeps in `st`: every row with unsaved changes, and of every
instance its unsaved state. -/
structure Frame (reg : Registry) (st₀ st : LoadState) : Prop where
  rows : st₀.pool.store.KeepsModified st.pool.store
  instances : ∀ h i, st₀.arena.get? h = some i →
    ∃ i', st.arena.get? h = some i' ∧ i.KeepsUnsaved reg st₀.pool.store i'

variable {reg : Registry}

theorem Frame.refl (reg : Registry) (st : LoadState) : Frame reg st st :=
  ⟨RowStore.KeepsModified.refl _, fun _ i hi => ⟨i, hi, Instance.KeepsUnsaved.refl i _⟩⟩

theorem Frame.trans {st₀ st₁ st₂ : LoadState} (h₁ : Frame reg st₀ st₁) (h₂ : Frame reg st₁ st₂) :
    Frame reg st₀ st₂ := by
  refine ⟨h₁.rows.trans h₂.rows, fun h i hi => ?_⟩
  obtain ⟨i₁, hi₁, hk₁⟩ := h₁.instances h i hi
  obtain ⟨i₂, hi₂, hk₂⟩ := h₂.instances h i₁ hi₁
  exact ⟨i₂, hi₂, hk₁.trans i h₁.rows hk₂⟩

/-- A state with the rows and the instances of `st` is a frame of it. -/
theorem Frame.of_parts {st st' : LoadState} (hpool : st'.pool = st.pool)
    (harena : st'.arena = st.arena) : Frame reg st st' :=
  ⟨hpool ▸ RowStore.KeepsModified.refl _, fun _ i hi =>
    ⟨i, harena ▸ hi, Instance.KeepsUnsaved.refl i _⟩⟩

/-- Changing one instance in a way that keeps its unsaved state, with a store that keeps its
modified rows, is a frame. -/
theorem frame_modify {st st' : LoadState} {h : InstanceId} {f : Instance → Instance}
    (hrows : st.pool.store.KeepsModified st'.pool.store) (harena : st'.arena = st.arena.modify h f)
    (hkeep : ∀ i, st.arena.get? h = some i → i.KeepsUnsaved reg st.pool.store (f i)) :
    Frame reg st st' := by
  refine ⟨hrows, fun g i hi => ?_⟩
  rw [harena, Arena.get?_modify]
  by_cases hg : h = g
  · subst hg
    exact ⟨f i, by simp [hi], hkeep i hi⟩
  · exact ⟨i, by simp [hg, hi], Instance.KeepsUnsaved.refl i _⟩

/-! ## Loads -/

/-- Loading a block changes nothing, or fills the slot of the block's table, which holds no row
with unsaved changes, with the row the cache gives for the block's key, refreshing that row when
it was kept clean. -/
theorem loadBlock_fill (s : Scan) (h : InstanceId) (block : ProjectionBlock) (row : List Value)
    (st : LoadState) :
    ((s.loadBlock h block row).run st).2 = st ∨
      ∃ blockId inst slot values, keyAt row block.offset = some blockId ∧
        st.arena.get? h = some inst ∧ inst.slotOf block.entity = some slot ∧
        (∀ r, inst.row? slot = some r → (st.pool.store.get r).isModified = false) ∧
        let res := (st.pool.cache.getOrInsert (block.entity, blockId)
          (modifyGet fun store => (store.add (ModelRow.loaded (s.reg.get block.entity) blockId
            values)).swap : StateM RowStore RowRef)).run st.pool.store
        let store := if !res.1.2.2 && !(res.2.get res.1.2.1).isModified then
          res.2.modify res.1.2.1 (·.refresh values) else res.2
        ((s.loadBlock h block row).run st).2 =
          { st with pool := { store, cache := res.1.1 },
                    arena := st.arena.modify h (·.setRow slot res.1.2.1) } := by
  unfold loadBlock
  simp only
  -- the guards in order: a key in the block, the instance, the slot, a slot without changes
  split
  · next blockId hkey =>
    simp only [StateT.run_bind, StateT.run_get, pure_bind]
    split
    · next inst hinst =>
      split
      · next slot hslot =>
        split
        · next existing hexisting =>
          split
          · exact Or.inl rfl
          · next hclean =>
            refine Or.inr ⟨blockId, inst, slot, _, hkey, hinst, hslot, fun r hr => ?_, rfl⟩
            rw [hexisting] at hr
            cases hr
            simpa using hclean
        · next hnone =>
          refine Or.inr ⟨blockId, inst, slot, _, hkey, hinst, hslot, fun r hr => ?_, rfl⟩
          exact absurd hr (hnone r)
      · exact Or.inl rfl
    · exact Or.inl rfl
  · exact Or.inl rfl

/-- A load keeps the unsaved state: it leaves alone a slot whose row has unsaved changes, and
refreshes a cached row only when that row has none. -/
theorem loadBlock_frame (s : Scan) (h : InstanceId) (block : ProjectionBlock) (row : List Value)
    (st : LoadState) : Frame s.reg st ((s.loadBlock h block row).run st).2 := by
  rcases loadBlock_fill s h block row st with hsame | ⟨blockId, inst, slot, values, -, hinst, -,
    hclean, hfill⟩
  · rw [hsame]
    exact Frame.refl _ _
  · have hadd := RowCache.getOrInsert_add st.pool.cache (block.entity, blockId)
      (ModelRow.loaded (s.reg.get block.entity) blockId values) st.pool.store
    dsimp only at hadd hfill
    rw [hfill]
    generalize (st.pool.cache.getOrInsert (block.entity, blockId)
      (modifyGet fun store => (store.add (ModelRow.loaded (s.reg.get block.entity) blockId
        values)).swap : StateM RowStore RowRef)).run st.pool.store = res at hadd ⊢
    -- the cache hands back the store as it was, or with one row more
    have hres : st.pool.store.KeepsModified res.2 := by
      rcases hadd with ⟨e, -, -, -, hs⟩ | ⟨-, -, -, hs⟩
      · rw [hs]
        exact RowStore.KeepsModified.refl _
      · rw [hs]
        exact RowStore.keepsModified_add _ _
    refine frame_modify ?_ rfl fun i hi => ?_
    · split
      · next hc =>
        simp only [Bool.and_eq_true, Bool.not_eq_true'] at hc
        exact hres.trans (RowStore.keepsModified_modify _ hc.2)
      · exact hres
    · rw [hinst] at hi
      cases hi
      exact Instance.keepsUnsaved_setRow inst _ _ hclean

/-! ## Attachments -/

/-- An attachment keeps the unsaved state: it skips a reference assigned since the last save,
and of a collection rebuilds the stored members only. -/
theorem attach_frame (s : Scan) (owner : InstanceId) (relation : String)
    (target : Option InstanceId) (st : LoadState) :
    Frame s.reg st ((s.attach owner relation target).run st).2 := by
  unfold attach
  simp only [StateT.run_bind, StateT.run_get, pure_bind]
  -- a first visit only records the collection as emptied
  have hpool : ∀ c : Bool, (if c = true then
      { st with reset := st.reset ++ [(owner, relation)] } else st).pool = st.pool := by
    intro c
    split <;> rfl
  have harena : ∀ c : Bool, (if c = true then
      { st with reset := st.reset ++ [(owner, relation)] } else st).arena = st.arena := by
    intro c
    split <;> rfl
  have hp := hpool (!st.reset.contains (owner, relation))
  have ha := harena (!st.reset.contains (owner, relation))
  generalize (if (!st.reset.contains (owner, relation)) = true then
    { st with reset := st.reset ++ [(owner, relation)] } else st) = st₁ at hp ha ⊢
  split
  · next inst hinst =>
    split
    · next descriptor hdesc =>
      split
      · next column hkind =>
        split
        · exact Frame.of_parts hp ha
        · next hpending =>
          simp only [Bool.false_eq_true, if_false]
          refine frame_modify (hp ▸ RowStore.KeepsModified.refl _) (by rw [ha]; rfl) fun i hi => ?_
          rw [hinst] at hi
          cases hi
          refine Instance.keepsUnsaved_setRelation inst _ (fun t hr => ?_) fun e a r _ hcoll => ?_
          · rw [hr] at hpending
            exact (hpending t rfl).elim
          · have hc := hcoll descriptor hdesc
            simp [Relation.isCollection, hkind] at hc
      · next hkind =>
        refine frame_modify (hp ▸ RowStore.KeepsModified.refl _) (by rw [ha]; rfl) fun i hi => ?_
        rw [hinst] at hi
        cases hi
        refine Instance.keepsUnsaved_setRelation inst _ (fun t hr => ?_) fun e a r hr _ => ?_
        · rw [hr]
          rfl
        · rw [hr]
          exact ⟨_, rfl⟩
    · exact Frame.refl _ _
  · exact Frame.refl _ _

/-! ## Whole scans -/

/-- Registering a new instance keeps every instance there was. -/
theorem frame_push (st : LoadState) (i : Instance) (entity : EntityId) (id : Int64) :
    Frame reg st { st with arena := (st.arena.push i).1.bind entity id (st.arena.push i).2 } := by
  refine ⟨RowStore.KeepsModified.refl _, fun g inst hg =>
    ⟨inst, ?_, Instance.KeepsUnsaved.refl inst _⟩⟩
  simpa only [Arena.get?_bind] using Arena.get?_push_of_some _ i hg

/-- A whole scan keeps the unsaved state it starts with. -/
theorem records_frame (s : Scan) (rows : List (List Value)) (st : LoadState) :
    Frame s.reg st ((s.records rows).run st).2 := by
  -- every step is a frame of the state it starts from, and frames compose
  refine records_keeps_of_steps (P := Frame s.reg st) s ?reset ?hydrate ?attach rows st
    (Frame.refl _ _)
  case reset => exact fun st₁ reset h₁ => h₁.trans (Frame.of_parts rfl rfl)
  case hydrate =>
    refine hydrate_keeps s (fun st₁ i entity id h₁ => h₁.trans (frame_push st₁ i entity id)) ?_
    exact fun h block row st₁ h₁ => h₁.trans (loadBlock_frame s h block row st₁)
  case attach =>
    exact fun owner relation target st₁ h₁ => h₁.trans (attach_frame s owner relation target st₁)

/-! ## The row a load puts into a slot -/

/-- The row that a load of `block` from the cache and rows of `st` gives for the record `id`,
`st'` being the state after: the row the cache keeps for the record, or on a miss a new row at
the end of the store holding the record as loaded. -/
def CachedRow (s : Scan) (block : ProjectionBlock) (id : Int64) (st st' : LoadState)
    (ref : RowRef) : Prop :=
  (∃ e, st.pool.cache.entry? (block.entity, id) = some e ∧ ref = e.row) ∨
    st.pool.cache.entry? (block.entity, id) = none ∧ ref = ⟨st.pool.store.rows.size⟩ ∧
      ∃ values, st'.pool.store.get ref = ModelRow.loaded (s.reg.get block.entity) id values

/-- Loading a block changes nothing, or puts into the slot of the block's table the row the
cache gives for the block's key. -/
theorem loadBlock_slot (s : Scan) (h : InstanceId) (block : ProjectionBlock) (row : List Value)
    (st : LoadState) :
    ((s.loadBlock h block row).run st).2 = st ∨
      ∃ id inst slot ref, keyAt row block.offset = some id ∧ st.arena.get? h = some inst ∧
        inst.slotOf block.entity = some slot ∧
        ((s.loadBlock h block row).run st).2.arena.get? h = some (inst.setRow slot ref) ∧
        s.CachedRow block id st ((s.loadBlock h block row).run st).2 ref := by
  rcases loadBlock_fill s h block row st with hsame | ⟨blockId, inst, slot, values, hkey, hinst,
    hslot, -, hfill⟩
  · exact Or.inl hsame
  · have hadd := RowCache.getOrInsert_add st.pool.cache (block.entity, blockId)
      (ModelRow.loaded (s.reg.get block.entity) blockId values) st.pool.store
    dsimp only at hadd hfill
    rw [hfill]
    generalize (st.pool.cache.getOrInsert (block.entity, blockId)
      (modifyGet fun store => (store.add (ModelRow.loaded (s.reg.get block.entity) blockId
        values)).swap : StateM RowStore RowRef)).run st.pool.store = res at hadd ⊢
    refine Or.inr ⟨blockId, inst, slot, res.1.2.1, hkey, hinst, hslot, ?_, ?_⟩
    · simp [Arena.get?_modify, hinst]
    · rcases hadd with ⟨e, he, href, -, -⟩ | ⟨he, href, hmade, hs⟩
      · exact Or.inl ⟨e, he, href⟩
      · -- a miss made the row, so it is not refreshed
        refine Or.inr ⟨he, href, values, ?_⟩
        simp only [hmade, Bool.not_true, Bool.false_and, Bool.false_eq_true, if_false, hs, href]
        exact RowStore.get_add_self _ _

/-! ## Scans keep unsaved state -/

/-- A scan keeps the unsaved state it starts with, and each of its loads either changes nothing
or puts into the slot of the block's table the row the cache gives for the block's key. -/
theorem scan_keeps_unsaved_state (s : Scan) :
    (∀ rows st, Frame s.reg st ((s.records rows).run st).2) ∧
      ∀ h block row st, ((s.loadBlock h block row).run st).2 = st ∨
        ∃ id inst slot ref, keyAt row block.offset = some id ∧ st.arena.get? h = some inst ∧
          inst.slotOf block.entity = some slot ∧
          ((s.loadBlock h block row).run st).2.arena.get? h = some (inst.setRow slot ref) ∧
          s.CachedRow block id st ((s.loadBlock h block row).run st).2 ref :=
  ⟨records_frame s, loadBlock_slot s⟩

end Scan

end EntityGraph
