
import EntityGraph.Proofs.Session.Run

/-!
# What a failed step leaves

A session operation that fails returns an error and a world. Whether the error left the session
as it found it is a relation between the two worlds. `World.SameData w w'` says that `w'` holds
the session data of `w` over the same registry: the same instances and identity map, the same rows, the same unit of
work and postponed work, and a row cache that hands out the same rows (its recency order and its
hit and miss counts may differ). The transport, the notices and the engine's compiled lookups
are not session data. `World.SameDataBut owner relation` allows one relation of one instance to
differ as well.

`Session.OnFailure R x` says that whenever `x` fails, the world it leaves is related by `R` to
the one it started from, and `Session.Atomic x` is the case `R = World.SameData`. Three kinds of
steps build such operations: steps that only read (`Session.Reads`), steps that keep the session
data whatever their outcome (`Session.KeepsData`), and steps that never fail
(`Session.NeverFails`). `OnFailure.bind` composes them: data-keeping steps before a step that
fails without a trace, and `OnFailure.bind_neverFails` a step that fails without a trace before
steps that cannot fail.
-/

namespace EntityGraph

namespace RowCache

variable {ρ α β : Type}

/-! ## Caches that hand out the same rows -/

/-- Two caches hand out the same row for every key; their recency orders and counts may
differ. -/
def SameRows (c c' : RowCache ρ) : Prop :=
  ∀ key, (c'.entry? key).map (·.row) = (c.entry? key).map (·.row)

theorem SameRows.refl (c : RowCache ρ) : SameRows c c := fun _ => rfl

theorem SameRows.trans {c c' c'' : RowCache ρ} (h : SameRows c c') (h' : SameRows c' c'') :
    SameRows c c'' := fun key => (h' key).trans (h key)

/-- Renewing the tick of the entries of a key leaves every other key reading what it read. -/
theorem lookup_renew_of_ne {key k : RowKey} (hk : k ≠ key) (g : CacheEntry ρ) :
    ∀ l : List (RowKey × CacheEntry ρ),
      (l.map fun kv => if kv.1 == key then (key, g) else kv).lookup k = l.lookup k
  | [] => rfl
  | (a, b) :: l => by
    by_cases ha : a = key
    · subst ha
      have hka : (k == a) = false := by simpa using hk
      simp only [List.map_cons, BEq.rfl, ↓reduceIte, List.lookup_cons, hka]
      exact lookup_renew_of_ne hk g l
    · have hne : (a == key) = false := by simpa using ha
      simp only [List.map_cons, hne, Bool.false_eq_true, ↓reduceIte, List.lookup_cons]
      split
      · rfl
      · exact lookup_renew_of_ne hk g l

/-- Renewing the tick of the entry of a key leaves the row it reads. -/
theorem lookup_renew_self {key : RowKey} {e : CacheEntry ρ} (t : Nat) :
    ∀ {l : List (RowKey × CacheEntry ρ)}, l.lookup key = some e →
      (l.map fun kv => if kv.1 == key then (key, { e with lastUsed := t }) else kv).lookup key =
        some { e with lastUsed := t }
  | [], he => by simp at he
  | (a, b) :: l, he => by
    by_cases ha : a = key
    · subst ha
      simp
    · have hne : (a == key) = false := by simpa using ha
      have hka : (key == a) = false := by simpa using fun h : key = a => ha h.symm
      simp only [List.lookup_cons, hka] at he
      simp only [List.map_cons, hne, Bool.false_eq_true, ↓reduceIte, List.lookup_cons, hka]
      exact lookup_renew_self t he

theorem sameRows_use {c c' : RowCache ρ} {key : RowKey} {t : Nat} {row : ρ}
    (hu : c.use key t = some (c', row)) : SameRows c c' := by
  unfold RowCache.use at hu
  cases he : c.entry? key with
  | none => simp [he] at hu
  | some e =>
    simp only [he, Option.some.injEq, Prod.mk.injEq] at hu
    obtain ⟨rfl, -⟩ := hu
    intro k
    show ((c.entries.map _).lookup k).map _ = (c.entries.lookup k).map _
    by_cases hk : k = key
    · subst hk
      rw [lookup_renew_self t he]
      exact (congrArg (Option.map (·.row)) he).symm
    · rw [lookup_renew_of_ne hk]

/-- Looking a key up, hit or miss, hands out the same rows afterwards. -/
theorem sameRows_get (c : RowCache ρ) (key : RowKey) : SameRows c (c.get key).1 := by
  unfold RowCache.get
  simp only
  cases hu : c.touch.1.use key c.touch.2 with
  | none => exact SameRows.refl _
  | some p => exact fun k => sameRows_use hu k

/-- A computation over a cache that ends with a cache handing out the same rows. -/
def KeepsRows (x : OptionT (StateM (RowCache ρ)) α) : Prop := ∀ c, SameRows c (x.run.run c).2

theorem KeepsRows.pure (a : α) : KeepsRows (Pure.pure a : OptionT (StateM (RowCache ρ)) α) :=
  fun c => SameRows.refl c

theorem KeepsRows.bind {x : OptionT (StateM (RowCache ρ)) α} {f : α → OptionT (StateM (RowCache ρ)) β}
    (hx : KeepsRows x) (hf : ∀ a, KeepsRows (f a)) : KeepsRows (x >>= f) := by
  intro c
  have hRun : ((x >>= f).run.run c).2 = match x.run.run c with
      | (some a, c') => ((f a).run.run c').2
      | (none, c') => c' := by
    simp only [OptionT.run_bind, Option.elimM, StateT.run_bind]
    rcases x.run.run c with ⟨_ | a, c'⟩ <;> rfl
  have h₁ := hx c
  rw [hRun]
  rcases hr : x.run.run c with ⟨_ | a, c'⟩
  · rw [hr] at h₁
    exact h₁
  · rw [hr] at h₁
    exact h₁.trans (hf a c')

theorem KeepsRows.foldlM {f : β → α → OptionT (StateM (RowCache ρ)) β} (hf : ∀ b a, KeepsRows (f b a)) :
    ∀ (l : List α) (b : β), KeepsRows (l.foldlM f b)
  | [], b => KeepsRows.pure b
  | a :: l, b => by
    rw [List.foldlM_cons]
    exact KeepsRows.bind (hf b a) fun b' => KeepsRows.foldlM hf l b'

/-- Fetching a row by its key. -/
theorem KeepsRows.fetch (key : RowKey) :
    KeepsRows (OptionT.mk (modifyGet fun c => (c.get key).swap) : OptionT (StateM (RowCache ρ)) ρ) :=
  fun c => sameRows_get c key

end RowCache

/-- Assembling an instance from cached rows hands out the same rows afterwards, whether or not
every row was there. -/
theorem Instance.ofCache_keepsRows (reg : Registry) (store : RowStore) (e : EntityId) (id : Int64) :
    RowCache.KeepsRows (Instance.ofCache reg store e id) := by
  unfold Instance.ofCache
  refine RowCache.KeepsRows.bind (RowCache.KeepsRows.foldlM (fun i slot => ?_) _ _) fun i => ?_
  · exact RowCache.KeepsRows.bind (RowCache.KeepsRows.fetch _) fun _ => RowCache.KeepsRows.pure _
  · refine RowCache.KeepsRows.foldlM (fun i impl => ?_) _ _
    rcases impl with ⟨impl, k⟩
    simp only
    split
    · exact RowCache.KeepsRows.bind (RowCache.KeepsRows.fetch _) fun _ => RowCache.KeepsRows.pure _
    · exact RowCache.KeepsRows.pure _

namespace World

variable {τ : Type}

/-! ## Worlds that hold the same session data -/

/-- Two worlds hold the same session data over the same registry: the same instances and
identity map, the same rows, unit of work and postponed work, and caches handing out the same
rows. The transport, the notices and the compiled lookups may differ. -/
structure SameData (w w' : World τ) : Prop where
  reg : w'.engine.reg = w.engine.reg
  arena : w'.session.arena = w.session.arena
  store : w'.engine.pool.store = w.engine.pool.store
  changes : w'.session.changes = w.session.changes
  deferred : w'.session.deferred = w.session.deferred
  cache : w.engine.pool.cache.SameRows w'.engine.pool.cache

theorem SameData.refl (w : World τ) : SameData w w :=
  ⟨rfl, rfl, rfl, rfl, rfl, RowCache.SameRows.refl _⟩

theorem SameData.trans {w w' w'' : World τ} (h : SameData w w') (h' : SameData w' w'') :
    SameData w w'' :=
  ⟨h'.reg.trans h.reg, h'.arena.trans h.arena, h'.store.trans h.store, h'.changes.trans h.changes,
    h'.deferred.trans h.deferred, h.cache.trans h'.cache⟩

/-- The world with one relation of one instance set. -/
def withRelation (w : World τ) (owner : InstanceId) (relation : String) (d : RelationalData) :
    World τ :=
  { w with session := { w.session with
      arena := w.session.arena.modify owner (·.setRelation relation d) } }

/-- `w'` holds the session data of `w`, or of `w` with one relation of `owner` set. -/
def SameDataBut (owner : InstanceId) (relation : String) (w w' : World τ) : Prop :=
  SameData w w' ∨ ∃ d, SameData (w.withRelation owner relation d) w'

theorem SameDataBut.of_sameData {owner : InstanceId} {relation : String} {w w' : World τ}
    (h : SameData w w') : SameDataBut owner relation w w' := Or.inl h

theorem SameDataBut.trans_left {owner : InstanceId} {relation : String} {w w' w'' : World τ}
    (h : SameData w w') (h' : SameDataBut owner relation w' w'') : SameDataBut owner relation w w'' := by
  rcases h' with h' | ⟨d, h'⟩
  · exact Or.inl (h.trans h')
  · have hSet : SameData (w.withRelation owner relation d) (w'.withRelation owner relation d) := by
      refine ⟨h.reg, ?_, h.store, h.changes, h.deferred, h.cache⟩
      show w'.session.arena.modify owner _ = w.session.arena.modify owner _
      rw [h.arena]
    exact Or.inr ⟨d, hSet.trans h'⟩

end World

namespace Session

variable {τ : Type} {α β : Type}

/-! ## Operations that read only -/

/-- `x` reads the world and changes nothing, whether it returns or fails. -/
def Reads (x : SessionM τ α) : Prop := ∀ w, (x.run.run w).2 = w

theorem Reads.pure (a : α) : Reads (Pure.pure a : SessionM τ α) := fun _ => rfl

theorem Reads.get : Reads (get : SessionM τ (World τ)) := fun _ => rfl

theorem Reads.bind {x : SessionM τ α} {f : α → SessionM τ β} (hx : Reads x) (hf : ∀ a, Reads (f a)) :
    Reads (x >>= f) := by
  intro w
  rw [run_bind]
  rcases hr : x.run.run w with ⟨_ | a, w'⟩
  · have hw := hx w
    rw [hr] at hw
    exact hw
  · have hw := hx w
    rw [hr] at hw
    simp only at hw
    subst hw
    exact hf a _

/-- A failure ends the operation, whatever would have followed. -/
theorem Reads.throw_bind (e : Error) (f : α → SessionM τ β) :
    Reads ((MonadExcept.throw e : SessionM τ α) >>= f) := fun _ => rfl

theorem Reads.throw (e : Error) : Reads (throw e : SessionM τ α) := fun _ => rfl

theorem getInstance_reads (h : InstanceId) : Reads (getInstance h : SessionM τ Instance) := by
  intro w
  rw [run_getInstance]

theorem registry_reads : Reads (registry : SessionM τ Registry) := fun _ => rfl

theorem rows_reads : Reads (rows : SessionM τ RowStore) := fun _ => rfl

theorem idOf_reads (h : InstanceId) : Reads (idOf h : SessionM τ (Option Int64)) := by
  intro w
  rw [run_idOf]

theorem ofExcept_reads (r : Except Error α) : Reads (ofExcept r : SessionM τ α) := by
  intro w
  rw [run_ofExcept]

theorem relationOf_reads (e : EntityId) (name : String) :
    Reads (relationOf e name : SessionM τ Relation) := by
  unfold relationOf
  refine Reads.bind registry_reads fun reg => ?_
  split
  · exact Reads.pure _
  · exact Reads.throw _

theorem checkEntity_reads (e : EntityId) : Reads (checkEntity e : SessionM τ Unit) := by
  unfold checkEntity
  refine Reads.bind registry_reads fun reg => ?_
  split
  · exact Reads.pure _
  · exact Reads.throw _

theorem entityName_reads (e : EntityId) : Reads (entityName e : SessionM τ String) :=
  Reads.bind registry_reads fun _ => Reads.pure _

theorem relationForUpdate_reads (owner : InstanceId) (relation : String) (target : Option InstanceId)
    (collection : Bool) : Reads (relationForUpdate owner relation target collection : SessionM τ Relation) := by
  unfold relationForUpdate
  refine Reads.bind (getInstance_reads _) fun i => Reads.bind registry_reads fun reg => ?_
  simp only
  -- the checks in order: lock, relation, kind, target; each refusal ends the operation
  split
  · exact Reads.throw_bind _ _
  · refine Reads.bind (relationOf_reads _ _) fun r => ?_
    split
    · exact Reads.throw_bind _ _
    · split
      · refine Reads.bind (getInstance_reads _) fun ti => ?_
        split
        · exact Reads.throw_bind _ _
        · exact Reads.pure _
      · exact Reads.pure _

/-! ## Operations that never fail -/

/-- `x` returns, from every world. -/
def NeverFails (x : SessionM τ α) : Prop := ∀ w, ∃ a, (x.run.run w).1 = .ok a

theorem NeverFails.pure (a : α) : NeverFails (Pure.pure a : SessionM τ α) := fun _ => ⟨a, rfl⟩

theorem NeverFails.bind {x : SessionM τ α} {f : α → SessionM τ β} (hx : NeverFails x)
    (hf : ∀ a, NeverFails (f a)) : NeverFails (x >>= f) := by
  intro w
  obtain ⟨a, ha⟩ := hx w
  rw [run_bind, run_eq_of_ok ha]
  exact hf a _

theorem rows_neverFails : NeverFails (rows : SessionM τ RowStore) := fun _ => ⟨_, rfl⟩

theorem setRows_neverFails (s : RowStore) : NeverFails (setRows s : SessionM τ Unit) :=
  fun _ => ⟨(), rfl⟩

theorem modifyInstance_neverFails (h : InstanceId) (f : Instance → Instance) :
    NeverFails (modifyInstance h f : SessionM τ Unit) := fun _ => ⟨(), rfl⟩

theorem modifyChanges_neverFails (f : ChangeSet → ChangeSet) :
    NeverFails (modifyChanges f : SessionM τ Unit) := fun _ => ⟨(), rfl⟩

/-! ## Failing without a trace -/

/-- `x` keeps the session data, whatever its outcome. -/
def KeepsData (x : SessionM τ α) : Prop := ∀ w, World.SameData w (x.run.run w).2

theorem Reads.keepsData {x : SessionM τ α} (hx : Reads x) : KeepsData x := by
  intro w
  rw [hx w]
  exact World.SameData.refl w

theorem KeepsData.bind {x : SessionM τ α} {f : α → SessionM τ β} (hx : KeepsData x)
    (hf : ∀ a, KeepsData (f a)) : KeepsData (x >>= f) := by
  intro w
  have h₁ := hx w
  rw [run_bind]
  rcases hr : x.run.run w with ⟨_ | a, w'⟩
  · rw [hr] at h₁
    exact h₁
  · rw [hr] at h₁
    exact h₁.trans (hf a w')

theorem KeepsData.tryCatch {x : SessionM τ α} {handle : Error → SessionM τ α} (hx : KeepsData x)
    (hh : ∀ e, KeepsData (handle e)) : KeepsData (tryCatch x handle) := by
  intro w
  have h₁ := hx w
  rw [run_tryCatch]
  rcases hr : x.run.run w with ⟨_ | a, w'⟩
  · rw [hr] at h₁
    exact h₁.trans (hh _ w')
  · rw [hr] at h₁
    exact h₁

theorem send_keepsData {α : Type} (f : τ → τ × Except Error α) : KeepsData (send f) := by
  intro w
  rw [run_send]
  exact ⟨rfl, rfl, rfl, rfl, rfl, RowCache.SameRows.refl _⟩

section Transport

variable [Transport τ]

theorem execute_keepsData (s : Statement) : KeepsData (execute s : SessionM τ Nat) :=
  KeepsData.tryCatch (send_keepsData _) fun _ => (Reads.throw _).keepsData

theorem insert_keepsData (s : Statement) : KeepsData (insert s : SessionM τ Int64) :=
  KeepsData.tryCatch (send_keepsData _) fun _ => (Reads.throw _).keepsData

end Transport

/-- When `x` run from `w` fails, the world it leaves is related to `w` by `R`. -/
def FailsAt (R : World τ → World τ → Prop) (x : SessionM τ α) (w : World τ) : Prop :=
  ∀ e, (x.run.run w).1 = .error e → R w (x.run.run w).2

/-- Whenever `x` fails, the world it leaves is related to the one it started from by `R`. -/
def OnFailure (R : World τ → World τ → Prop) (x : SessionM τ α) : Prop :=
  ∀ w, FailsAt R x w

/-- `x` fails only without changing the session data. -/
abbrev Atomic (x : SessionM τ α) : Prop := OnFailure World.SameData x

theorem OnFailure.of_keepsData {R : World τ → World τ → Prop} (hR : ∀ w w', World.SameData w w' → R w w')
    {x : SessionM τ α} (hx : KeepsData x) : OnFailure R x :=
  fun w _ _ => hR _ _ (hx w)

theorem OnFailure.of_neverFails {R : World τ → World τ → Prop} {x : SessionM τ α}
    (hx : NeverFails x) : OnFailure R x := by
  intro w e he
  obtain ⟨a, ha⟩ := hx w
  rw [ha] at he
  cases he

/-- A step that keeps the session data before a step that fails without a trace. -/
theorem OnFailure.bind {R : World τ → World τ → Prop}
    (hR : ∀ w w₁ w₂, World.SameData w w₁ → R w₁ w₂ → R w w₂)
    (hR' : ∀ w w', World.SameData w w' → R w w') {x : SessionM τ α} {f : α → SessionM τ β}
    (hx : KeepsData x) (hf : ∀ a, OnFailure R (f a)) : OnFailure R (x >>= f) := by
  intro w e he
  have h₁ := hx w
  rw [run_bind] at he ⊢
  rcases hr : x.run.run w with ⟨_ | a, w'⟩
  · rw [hr] at h₁ he
    exact hR' _ _ h₁
  · rw [hr] at h₁ he
    exact hR _ _ _ h₁ (hf a w' e he)

/-- A step that fails without a trace before steps that never fail. -/
theorem OnFailure.bind_neverFails {R : World τ → World τ → Prop} {x : SessionM τ α}
    {f : α → SessionM τ β} (hx : OnFailure R x) (hf : ∀ a, NeverFails (f a)) :
    OnFailure R (x >>= f) := by
  intro w e he
  rw [run_bind] at he ⊢
  rcases hr : x.run.run w with ⟨_ | a, w'⟩
  · rw [hr] at he
    have h₁ := hx w _ (by rw [hr])
    rw [hr] at h₁
    exact h₁
  · rw [hr] at he
    obtain ⟨b, hb⟩ := hf a w'
    rw [hb] at he
    cases he

theorem OnFailure.mono {R R' : World τ → World τ → Prop} (hR : ∀ w w', R w w' → R' w w')
    {x : SessionM τ α} (hx : OnFailure R x) : OnFailure R' x :=
  fun w e he => hR _ _ (hx w e he)

/-- A read before a step: the step starts from the same world and may use what was read. -/
theorem FailsAt.reads_bind {R : World τ → World τ → Prop} (hR : ∀ w, R w w) {x : SessionM τ α}
    {f : α → SessionM τ β} {w : World τ} (hx : Reads x)
    (hf : ∀ a, (x.run.run w).1 = .ok a → FailsAt R (f a) w) : FailsAt R (x >>= f) w := by
  intro e he
  have hw := hx w
  rw [run_bind] at he ⊢
  rcases hr : x.run.run w with ⟨_ | a, w'⟩
  · rw [hr] at hw
    dsimp only at hw ⊢
    rw [hw]
    exact hR w
  · rw [hr] at hw he
    dsimp only at hw he ⊢
    subst hw
    exact hf a (by rw [hr]) e he

/-- A step that keeps the session data, then a step that may fail, from one world. -/
theorem FailsAt.keepsData_bind {R : World τ → World τ → Prop} {w : World τ}
    (hR : ∀ w₁ w₂, World.SameData w w₁ → R w₁ w₂ → R w w₂)
    (hR' : ∀ w₁, World.SameData w w₁ → R w w₁) {x : SessionM τ α} {f : α → SessionM τ β}
    (hx : KeepsData x) (hf : ∀ a w₁, World.SameData w w₁ → FailsAt R (f a) w₁) :
    FailsAt R (x >>= f) w := by
  intro e he
  have h₁ := hx w
  rw [run_bind] at he ⊢
  rcases hr : x.run.run w with ⟨_ | a, w₁⟩
  · rw [hr] at h₁
    exact hR' _ h₁
  · rw [hr] at h₁ he
    exact hR _ _ h₁ (hf a w₁ h₁ e he)

theorem Atomic.bind {x : SessionM τ α} {f : α → SessionM τ β} (hx : KeepsData x)
    (hf : ∀ a, Atomic (f a)) : Atomic (x >>= f) := by
  refine OnFailure.bind ?_ ?_ hx hf
  · exact fun _ _ _ h h' => h.trans h'
  · exact fun _ _ h => h

theorem Atomic.of_reads {x : SessionM τ α} (hx : Reads x) : Atomic x := by
  show OnFailure World.SameData x
  exact OnFailure.of_keepsData (fun _ _ h => h) hx.keepsData

/-! ## One relation set -/

section Within

variable {owner : InstanceId} {relation : String}

theorem run_setRelation (d : RelationalData) (w : World τ) :
    (modifyInstance owner (·.setRelation relation d) : SessionM τ Unit).run.run w =
      (.ok (), w.withRelation owner relation d) := rfl

/-- An instance that was read is in the arena. -/
theorem getInstance_ok {h : InstanceId} {w : World τ} {i : Instance}
    (hi : ((getInstance h : SessionM τ Instance).run.run w).1 = .ok i) :
    w.session.arena.get? h = some i := by
  rw [run_getInstance] at hi
  split at hi
  · next i' hget =>
    cases hi
    exact hget
  · cases hi

theorem sameDataBut_refl (w : World τ) : World.SameDataBut owner relation w w :=
  Or.inl (World.SameData.refl w)

theorem OnFailure.within_bind {x : SessionM τ α} {f : α → SessionM τ β} (hx : KeepsData x)
    (hf : ∀ a, OnFailure (World.SameDataBut owner relation) (f a)) :
    OnFailure (World.SameDataBut owner relation) (x >>= f) := by
  refine OnFailure.bind ?_ ?_ hx hf
  · exact fun _ _ _ h h' => World.SameDataBut.trans_left h h'
  · exact fun _ _ h => Or.inl h

/-- Setting one relation of `owner` and then failing without a trace leaves the session data as
it was but for that relation. -/
theorem FailsAt.setRelation_bind {d : RelationalData} {f : Unit → SessionM τ β} {w : World τ}
    (hf : FailsAt World.SameData (f ()) (w.withRelation owner relation d)) :
    FailsAt (World.SameDataBut owner relation)
      (modifyInstance owner (·.setRelation relation d) >>= f) w := by
  intro e he
  rw [run_bind, run_setRelation] at he ⊢
  exact Or.inr ⟨d, hf e he⟩

end Within

end Session

end EntityGraph
