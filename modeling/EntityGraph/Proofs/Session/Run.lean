import EntityGraph.Session.Save

/-!
# Running session operations

A session operation is a function from a world to an outcome and the world it leaves. This
module gives that function for the monad's own operations and for the small operations of
`Session.Basic`, as equations on `x.run.run w` that `simp` uses to run a composite operation
step by step, and the predicate `Keeps P x`: whatever world `x` starts from, the world it leaves,
whether it returns or fails, satisfies `P` whenever the first one does.

`Keeps` is closed under the monad's combinators and the list loops the session code is written
with (`foldlM`, `forIn`, `forM`), so a fact that every single step keeps is kept by a whole
operation. An operation that reads a value and writes it back (an instance, the row store) keeps
a fact the write alone would break only together with the read: those are proved from the
equations directly.
-/

namespace EntityGraph

namespace Session

variable {τ : Type} {α β γ : Type}

/-! ## The monad -/

@[simp] theorem run_pure (a : α) (w : World τ) : (pure a : SessionM τ α).run.run w = (.ok a, w) :=
  rfl

@[simp] theorem run_bind (x : SessionM τ α) (f : α → SessionM τ β) (w : World τ) :
    (x >>= f).run.run w = match x.run.run w with
      | (.ok a, w') => (f a).run.run w'
      | (.error e, w') => (.error e, w') := by
  show (ExceptT.bind x f).run.run w = _
  simp only [ExceptT.bind, ExceptT.mk, ExceptT.run, ExceptT.bindCont, StateT.run, bind,
    StateT.bind]
  rcases x w with ⟨_ | _, _⟩ <;> rfl

@[simp] theorem run_map (f : α → β) (x : SessionM τ α) (w : World τ) :
    (f <$> x).run.run w = ((x.run.run w).1.map f, (x.run.run w).2) := by
  show (ExceptT.map f x).run.run w = _
  simp only [ExceptT.map, ExceptT.mk, ExceptT.run, StateT.run, bind, StateT.bind]
  rcases x w with ⟨_ | _, _⟩ <;> rfl

@[simp] theorem run_throw (e : Error) (w : World τ) :
    (throw e : SessionM τ α).run.run w = (.error e, w) := rfl

@[simp] theorem run_get (w : World τ) : (get : SessionM τ (World τ)).run.run w = (.ok w, w) := rfl

@[simp] theorem run_set (w w' : World τ) : (set w' : SessionM τ PUnit).run.run w = (.ok ⟨⟩, w') :=
  rfl

@[simp] theorem run_modify (f : World τ → World τ) (w : World τ) :
    (modify f : SessionM τ PUnit).run.run w = (.ok ⟨⟩, f w) := rfl

/-- A run that returns `a` is that outcome with the world it leaves. -/
theorem run_eq_of_ok {x : SessionM τ α} {w : World τ} {a : α} (h : (x.run.run w).1 = .ok a) :
    x.run.run w = (.ok a, (x.run.run w).2) :=
  Prod.ext h rfl

/-- The world a run leaves, read off an equation for the whole run. Both lemmas are stated over
variables, so that using them never asks to reduce a projection of a run that is expensive to
compute. -/
theorem state_of_run_eq {x : SessionM τ α} {w w' : World τ} {r : Except Error α}
    (h : x.run.run w = (r, w')) : (x.run.run w).2 = w' := by
  rw [h]

@[simp] theorem run_tryCatch (x : SessionM τ α) (handle : Error → SessionM τ α) (w : World τ) :
    (tryCatch x handle).run.run w = match x.run.run w with
      | (.ok a, w') => (.ok a, w')
      | (.error e, w') => (handle e).run.run w' := by
  show (ExceptT.tryCatch x handle).run.run w = _
  simp only [ExceptT.tryCatch, ExceptT.mk, ExceptT.run, StateT.run, bind, StateT.bind]
  rcases x w with ⟨_ | _, _⟩ <;> rfl

/-! ## The operations of a session -/

@[simp] theorem run_registry (w : World τ) :
    (registry : SessionM τ Registry).run.run w = (.ok w.engine.reg, w) := rfl

@[simp] theorem run_rows (w : World τ) :
    (rows : SessionM τ RowStore).run.run w = (.ok w.engine.pool.store, w) := rfl

@[simp] theorem run_setRows (s : RowStore) (w : World τ) :
    (setRows s : SessionM τ Unit).run.run w =
      (.ok (), { w with engine := { w.engine with pool := { w.engine.pool with store := s } } }) :=
  rfl

@[simp] theorem run_modifySession (f : Session → Session) (w : World τ) :
    (modifySession f : SessionM τ Unit).run.run w = (.ok (), { w with session := f w.session }) :=
  rfl

@[simp] theorem run_modifyArena (f : Arena → Arena) (w : World τ) :
    (modifyArena f : SessionM τ Unit).run.run w =
      (.ok (), { w with session := { w.session with arena := f w.session.arena } }) := rfl

@[simp] theorem run_modifyChanges (f : ChangeSet → ChangeSet) (w : World τ) :
    (modifyChanges f : SessionM τ Unit).run.run w =
      (.ok (), { w with session := { w.session with changes := f w.session.changes } }) := rfl

@[simp] theorem run_modifyInstance (h : InstanceId) (f : Instance → Instance) (w : World τ) :
    (modifyInstance h f : SessionM τ Unit).run.run w =
      (.ok (), { w with session := { w.session with arena := w.session.arena.modify h f } }) := rfl

@[simp] theorem run_announce (n : Notice) (w : World τ) :
    (announce n : SessionM τ Unit).run.run w = (.ok (), { w with notices := w.notices.push n }) :=
  rfl

@[simp] theorem run_getInstance (h : InstanceId) (w : World τ) :
    (getInstance h : SessionM τ Instance).run.run w =
      (match w.session.arena.get? h with
        | some i => .ok i
        | none => .error (unknownInstance h), w) := by
  simp only [getInstance, run_bind, run_get]
  cases w.session.arena.get? h <;> rfl

@[simp] theorem run_idOf (h : InstanceId) (w : World τ) :
    (idOf h : SessionM τ (Option Int64)).run.run w =
      (match w.session.arena.get? h with
        | some i => .ok (i.id w.engine.pool.store)
        | none => .error (unknownInstance h), w) := by
  simp only [idOf, run_bind, run_getInstance]
  cases w.session.arena.get? h <;> rfl

@[simp] theorem run_ofExcept (r : Except Error α) (w : World τ) :
    (ofExcept r : SessionM τ α).run.run w = (r, w) := by
  cases r <;> rfl

@[simp] theorem run_attempt (x : SessionM τ α) (w : World τ) :
    (attempt x).run.run w = (.ok (x.run.run w).1, (x.run.run w).2) := by
  simp only [attempt, run_tryCatch, run_map]
  rcases x.run.run w with ⟨_ | _, _⟩ <;> rfl

@[simp] theorem run_send (f : τ → τ × Except Error α) (w : World τ) :
    (send f).run.run w = ((f w.transport).2, { w with transport := (f w.transport).1 }) := by
  simp only [send, run_bind, run_get, run_set]
  rcases f w.transport with ⟨_, _ | _⟩ <;> rfl

/-- Announcing notices only adds notices. -/
theorem run_forM_announce {α : Type} (f : α → Notice) :
    ∀ (l : List α) (w : World τ), ∃ notices : Array Notice,
      (l.forM fun a => announce (f a) : SessionM τ Unit).run.run w = (.ok (), { w with notices })
  | [], w => ⟨w.notices, rfl⟩
  | a :: l, w => by
    obtain ⟨notices, hRest⟩ := run_forM_announce f l { w with notices := w.notices.push (f a) }
    refine ⟨notices, ?_⟩
    show (announce (f a) >>= fun _ => l.forM fun a => announce (f a) : SessionM τ Unit).run.run w = _
    rw [run_bind, run_announce]
    exact hRest

/-- Publishing hands the unit to the row pool, empties it and announces its instances; it never
fails. -/
theorem run_publish [Transport τ] (w : World τ) : ∃ notices : Array Notice,
    (publish : SessionM τ Unit).run.run w =
      (.ok (), { w with
        engine := { w.engine with pool := (w.session.changes.publish w.engine.pool).1 },
        session := { w.session with changes := {} }, notices }) := by
  rcases hPub : w.session.changes.publish w.engine.pool with ⟨pool, published⟩
  obtain ⟨n₁, h₁⟩ := run_forM_announce (fun e => Notice.updated e) published.updated
    { w with engine := { w.engine with pool }, session := { w.session with changes := {} } }
  obtain ⟨n₂, h₂⟩ := run_forM_announce (fun e => Notice.deleted e) published.deleted
    { w with engine := { w.engine with pool }, session := { w.session with changes := {} },
             notices := n₁ }
  refine ⟨n₂, ?_⟩
  simp only [publish, hPub, run_bind, run_get, run_set, h₁, h₂]

/-! ## Invariants of worlds -/

/-- `x` keeps `P`: from a world satisfying `P` it reaches one satisfying `P`, whether it returns
or fails. -/
def Keeps (P : World τ → Prop) (x : SessionM τ α) : Prop :=
  ∀ w, P w → P (x.run.run w).2

section Keeps

variable {P : World τ → Prop}

theorem Keeps.pure (a : α) : Keeps P (Pure.pure a : SessionM τ α) :=
  fun _ hw => hw

theorem Keeps.get : Keeps P (get : SessionM τ (World τ)) :=
  fun _ hw => hw

theorem Keeps.throw (e : Error) : Keeps P (throw e : SessionM τ α) :=
  fun _ hw => hw

theorem Keeps.bind {x : SessionM τ α} {f : α → SessionM τ β} (hx : Keeps P x)
    (hf : ∀ a, Keeps P (f a)) : Keeps P (x >>= f) := by
  intro w hw
  have h₁ := hx w hw
  rw [run_bind]
  rcases hr : x.run.run w with ⟨_ | a, w'⟩
  · rw [hr] at h₁
    exact h₁
  · rw [hr] at h₁
    exact hf a w' h₁

/-- An operation that fails at once keeps everything, whatever would have followed. -/
theorem Keeps.throw_bind (e : Error) (f : α → SessionM τ β) :
    Keeps P ((MonadExcept.throw e : SessionM τ α) >>= f) := by
  intro w hw
  rw [run_bind, run_throw]
  exact hw

theorem Keeps.map {x : SessionM τ α} (f : α → β) (hx : Keeps P x) : Keeps P (f <$> x) := by
  intro w hw
  rw [run_map]
  exact hx w hw

theorem Keeps.tryCatch {x : SessionM τ α} {handle : Error → SessionM τ α} (hx : Keeps P x)
    (hh : ∀ e, Keeps P (handle e)) : Keeps P (tryCatch x handle) := by
  intro w hw
  have h₁ := hx w hw
  rw [run_tryCatch]
  rcases hr : x.run.run w with ⟨_ | a, w'⟩
  · rw [hr] at h₁
    exact hh _ w' h₁
  · rw [hr] at h₁
    exact h₁

theorem Keeps.attempt {x : SessionM τ α} (hx : Keeps P x) : Keeps P (attempt x) := by
  intro w hw
  rw [run_attempt]
  exact hx w hw

theorem Keeps.ofExcept (r : Except Error α) : Keeps P (ofExcept r : SessionM τ α) := by
  intro w hw
  rw [run_ofExcept]
  exact hw

/-- A loop keeps what every pass of its body keeps. -/
theorem Keeps.foldlM {f : β → α → SessionM τ β} (hf : ∀ b a, Keeps P (f b a)) :
    ∀ (l : List α) (b : β), Keeps P (l.foldlM f b)
  | [], b => Keeps.pure b
  | a :: l, b => by
    rw [List.foldlM_cons]
    exact Keeps.bind (hf b a) fun b' => Keeps.foldlM hf l b'

theorem Keeps.forIn {f : α → β → SessionM τ (ForInStep β)} (hf : ∀ a b, Keeps P (f a b)) :
    ∀ (l : List α) (b : β), Keeps P (forIn l b f)
  | [], b => Keeps.pure b
  | a :: l, b => by
    rw [List.forIn_cons]
    refine Keeps.bind (hf a b) fun step => ?_
    cases step with
    | done b' => exact Keeps.pure b'
    | yield b' => exact Keeps.forIn hf l b'

theorem Keeps.forM {f : α → SessionM τ PUnit} (hf : ∀ a, Keeps P (f a)) :
    ∀ l : List α, Keeps P (l.forM f)
  | [] => fun _ hw => hw
  | a :: l => Keeps.bind (hf a) fun _ => Keeps.forM hf l

end Keeps

end Session

end EntityGraph
