import EntityGraph.Proofs.Save.Steady

/-!
# Saving does not depend on where rows sit

Rows are addressed by their position in the engine's store, and a save adds rows at the end of
it, but nothing a save decides depends on the positions themselves. `World.relocate g B w` puts
the rows `g` in front of the store, moves every reference the session holds (its instances' row
slots and the rows its unit of work recorded) along with them, and buries the postponed stamps
`B` under the session's own postponed work.

`Session.Relocates x x' φ` says that `x'` run on a relocated world does what `x` does on the
world itself: its outcome is `x`'s mapped by `φ`, and the world it leaves is the relocation of
the one `x` leaves. It is closed under the monad's combinators and the list loops, like
`Session.Keeps`, and every stage of the save cascade relocates (`saveCascade_relocates`). The
replay relocates one item at a time as long as the session's own postponed work is not used up
(`replay_one_relocates`), since the buried stamps come next only after it.
-/

namespace EntityGraph

/-! ## Moving rows -/

namespace RowRef

/-- The reference to the same row once `n` rows are put in front of the store. -/
def shift (n : Nat) (r : RowRef) : RowRef := ⟨n + r.index⟩

theorem shift_shift (m n : Nat) (r : RowRef) : (r.shift n).shift m = r.shift (m + n) := by
  simp only [shift, Nat.add_assoc]

end RowRef

namespace RowStore

/-- The store with the rows `g` put in front of its own. -/
def prepend (g : Array ModelRow) (s : RowStore) : RowStore := ⟨g ++ s.rows⟩

theorem prepend_prepend (g g' : Array ModelRow) (s : RowStore) :
    (s.prepend g').prepend g = s.prepend (g ++ g') := by
  simp only [prepend, Array.append_assoc]

@[simp] theorem get_prepend (g : Array ModelRow) (s : RowStore) (r : RowRef) :
    (s.prepend g).get (r.shift g.size) = s.get r := by
  simp only [prepend, get, RowRef.shift,
    Array.getElem?_append_right (Nat.le_add_right g.size r.index), Nat.add_sub_cancel_left]

@[simp] theorem add_prepend (g : Array ModelRow) (s : RowStore) (row : ModelRow) :
    (s.prepend g).add row = ((s.add row).1.prepend g, (s.add row).2.shift g.size) := by
  simp only [add, prepend, RowRef.shift, Array.push_append, Array.size_append]

@[simp] theorem modify_prepend (g : Array ModelRow) (s : RowStore) (r : RowRef)
    (f : ModelRow → ModelRow) : (s.prepend g).modify (r.shift g.size) f = (s.modify r f).prepend g := by
  simp only [prepend, modify, RowRef.shift, RowStore.mk.injEq]
  apply Array.ext_getElem?
  intro j
  rcases Nat.lt_or_ge j g.size with hj | hj
  · -- a row of `g` is none of the store's own
    have hne : (g.size + r.index = j) = False := by
      apply propext
      constructor
      · omega
      · exact False.elim
    simp only [Array.getElem?_modify, Array.getElem?_append, hj, hne, if_true, if_false]
  · have hSame : (g.size + r.index = j) = (r.index = j - g.size) := by
      apply propext
      omega
    have hOut : (j < g.size) = False := by
      apply propext
      constructor
      · omega
      · exact False.elim
    simp only [Array.getElem?_modify, Array.getElem?_append, hOut, hSame, if_false]

end RowStore

namespace Instance

/-- The instance with its row slots moved along with `n` rows put in front of the store. -/
def shift (n : Nat) (i : Instance) : Instance :=
  { i with rows := i.rows.map (Option.map (RowRef.shift n)) }

variable (n : Nat) (i : Instance)

@[simp] theorem shift_entity : (i.shift n).entity = i.entity := rfl
@[simp] theorem shift_layout : (i.shift n).layout = i.layout := rfl
@[simp] theorem shift_levelCount : (i.shift n).levelCount = i.levelCount := rfl
@[simp] theorem shift_saving : (i.shift n).saving = i.saving := rfl
@[simp] theorem shift_relations : (i.shift n).relations = i.relations := rfl

@[simp] theorem slotOf_shift (table : EntityId) : (i.shift n).slotOf table = i.slotOf table := rfl

@[simp] theorem relation?_shift (name : String) : (i.shift n).relation? name = i.relation? name :=
  rfl

@[simp] theorem leafSlot_shift : (i.shift n).leafSlot = i.leafSlot := rfl

@[simp] theorem shift_setSaving (b : Bool) :
    { i.shift n with saving := b } = { i with saving := b }.shift n := rfl

theorem shift_shift (m : Nat) : (i.shift n).shift m = i.shift (m + n) := by
  simp only [shift, List.map_map]
  congr 2
  funext o
  cases o <;> simp only [Function.comp_apply, Option.map_some, Option.map_none,
    RowRef.shift_shift]

@[simp] theorem row?_shift (slot : Nat) : (i.shift n).row? slot = (i.row? slot).map (RowRef.shift n) := by
  simp only [row?, shift, List.getElem?_map]
  cases i.rows[slot]? <;> rfl

@[simp] theorem setRow_shift (slot : Nat) (r : RowRef) :
    (i.shift n).setRow slot (r.shift n) = (i.setRow slot r).shift n := by
  simp only [setRow, shift, List.map_set, Option.map_some]

@[simp] theorem setRelation_shift (name : String) (d : RelationalData) :
    (i.shift n).setRelation name d = (i.setRelation name d).shift n := by
  unfold setRelation
  by_cases hIn : i.relations.any (·.1 == name) = true
  · simp only [shift_relations, hIn, ↓reduceIte]
    rfl
  · simp only [shift_relations, hIn, Bool.false_eq_true, ↓reduceIte]
    rfl

variable (g : Array ModelRow) (store : RowStore)

@[simp] theorem id_shift : (i.shift g.size).id (store.prepend g) = i.id store := by
  simp only [id, row?_shift, leafSlot_shift, Option.bind_map, Function.comp_def,
    RowStore.get_prepend]

@[simp] theorem isNew_shift : (i.shift g.size).isNew (store.prepend g) = i.isNew store := by
  simp only [isNew, id_shift]

@[simp] theorem hasChanges_shift : (i.shift g.size).hasChanges (store.prepend g) = i.hasChanges store := by
  simp only [hasChanges, hasModifiedRows, shift, List.any_map]
  congr 2
  funext o
  cases o <;> simp only [Function.comp_apply, Option.map_some, Option.map_none,
    RowStore.get_prepend]

@[simp] theorem clearModified_shift :
    (i.shift g.size).clearModified (store.prepend g) = (i.clearModified store).prepend g := by
  simp only [clearModified, shift, List.foldl_map]
  generalize i.rows = slots
  induction slots generalizing store with
  | nil => rfl
  | cons o slots ih =>
    cases o with
    | none => exact ih store
    | some r =>
      simp only [List.foldl_cons, Option.map_some, RowStore.modify_prepend]
      exact ih _

/-- Steps that commute with moving an instance commute with it over a whole fold. -/
theorem foldl_shift {α : Type} (f : Instance → α → Instance) (hf : ∀ i a, f (i.shift n) a = (f i a).shift n) :
    ∀ (l : List α) (i : Instance), l.foldl f (i.shift n) = (l.foldl f i).shift n
  | [], _ => rfl
  | a :: l, i => by rw [List.foldl_cons, hf, foldl_shift f hf l, List.foldl_cons]

/-- Writing through a moved instance into the moved store writes the same row and moves the
result along. -/
@[simp] theorem write_shift (reg : Registry) (slot column : Nat) (v : Value) :
    (i.shift g.size).write reg (store.prepend g) slot column v =
      ((i.write reg store slot column v).1.prepend g, (i.write reg store slot column v).2.1.shift g.size,
        (i.write reg store slot column v).2.2) := by
  unfold write
  rw [row?_shift]
  cases i.row? slot with
  | some r =>
    simp only [Option.map_some, RowStore.get_prepend]
    by_cases hSame : ((store.get r).get? column).any (·.same v) = true
    · simp only [hSame, if_true]
    · by_cases hMod : (store.get r).isModified = true
      · simp only [hSame, hMod, Bool.false_eq_true, ↓reduceIte, RowStore.modify_prepend]
      · rcases hAdd : store.add ((store.get r).copyForWrite.set column v).1 with ⟨store', r'⟩
        simp only [hSame, hMod, Bool.false_eq_true, ↓reduceIte, RowStore.add_prepend, hAdd,
          setRow_shift]
  | none =>
    simp only [Option.map_none, shift_layout, RowStore.add_prepend]
    rcases hFresh : store.add (ModelRow.new (reg.get ((i.layout[slot]?).getD default)))
      with ⟨store₁, r⟩
    simp only [setRow_shift, RowStore.get_prepend]
    by_cases hSame : ((store₁.get r).get? column).any (·.same v) = true
    · simp only [hSame, if_true]
    · by_cases hMod : (store₁.get r).isModified = true
      · simp only [hSame, hMod, Bool.false_eq_true, ↓reduceIte, RowStore.modify_prepend]
      · simp only [hSame, hMod, Bool.false_eq_true, ↓reduceIte]

end Instance

namespace Arena

/-- The arena with every instance's row slots moved along with `n` rows put in front of the
store. -/
def shift (n : Nat) (a : Arena) : Arena := { a with instances := a.instances.map (Instance.shift n) }

variable (n : Nat) (a : Arena)

@[simp] theorem get?_shift (h : InstanceId) : (a.shift n).get? h = (a.get? h).map (Instance.shift n) := by
  simp only [shift, get?, Array.getElem?_map]

@[simp] theorem size_shift : (a.shift n).size = a.size := by
  simp only [shift, size, Array.size_map]

theorem shift_shift (m : Nat) : (a.shift n).shift m = a.shift (m + n) := by
  simp only [shift, Array.map_map, Function.comp_def, Instance.shift_shift]

theorem modify_shift (h : InstanceId) {f f' : Instance → Instance}
    (hf : ∀ i, f' (i.shift n) = (f i).shift n) : (a.shift n).modify h f' = (a.modify h f).shift n := by
  simp only [shift, modify, Arena.mk.injEq, and_true]
  apply Array.ext_getElem?
  intro j
  simp only [Array.getElem?_modify, Array.getElem?_map]
  split
  · cases a.instances[j]? with
    | none => rfl
    | some i => simp only [Option.map_some, hf]
  · rfl

@[simp] theorem remember_shift (g : Array ModelRow) (store : RowStore) (h : InstanceId) :
    (a.shift g.size).remember (store.prepend g) h = (a.remember store h).shift g.size := by
  unfold remember
  rw [get?_shift]
  cases a.get? h with
  | none => rfl
  | some i =>
    simp only [Option.map_some, Instance.id_shift, Instance.shift_entity]
    split <;> rfl

end Arena

namespace ChangeSet

/-- Entries with their rows moved along with `n` rows put in front of the store. -/
def shiftEntries (n : Nat) (entries : List (RowKey × RowRef)) : List (RowKey × RowRef) :=
  entries.map fun e => (e.1, e.2.shift n)

theorem put_shiftEntries (n : Nat) (entries : List (RowKey × RowRef)) (key : RowKey) (row : RowRef) :
    RowKey.put (shiftEntries n entries) key (row.shift n) = shiftEntries n (RowKey.put entries key row) := by
  unfold RowKey.put shiftEntries
  simp only [List.any_map, Function.comp_def]
  split
  · simp only [List.map_map, Function.comp_def]
    congr 1
    funext e
    split <;> rfl
  · simp only [List.map_append, List.map_cons, List.map_nil]

/-- The unit of work with its recorded rows moved along with `n` rows put in front of the
store. -/
def shift (n : Nat) (c : ChangeSet) : ChangeSet :=
  { c with inserted := shiftEntries n c.inserted, updated := shiftEntries n c.updated }

variable (n : Nat) (c : ChangeSet)

theorem shift_shift (m : Nat) : (c.shift n).shift m = c.shift (m + n) := by
  simp only [shift, shiftEntries, List.map_map, Function.comp_def, RowRef.shift_shift]

@[simp] theorem recordInsert_shift (key : RowKey) (row : RowRef) :
    (c.shift n).recordInsert key (row.shift n) = (c.recordInsert key row).shift n := by
  simp only [recordInsert, shift, put_shiftEntries]

@[simp] theorem recordUpdate_shift (key : RowKey) (row : RowRef) :
    (c.shift n).recordUpdate key (row.shift n) = (c.recordUpdate key row).shift n := by
  unfold recordUpdate
  have hAny : (shiftEntries n c.inserted).any (·.1 == key) = c.inserted.any (·.1 == key) := by
    simp only [shiftEntries, List.any_map, Function.comp_def]
  simp only [shift, hAny]
  split <;> simp only [put_shiftEntries]

@[simp] theorem recordSaved_shift (e : InstanceEvent) :
    (c.shift n).recordSaved e = (c.recordSaved e).shift n := by
  unfold recordSaved
  have hSaved : (c.shift n).saved = c.saved := rfl
  by_cases hIn : c.saved.contains e = true
  · simp only [hSaved, hIn, ↓reduceIte]
  · simp only [hSaved, hIn, Bool.false_eq_true, ↓reduceIte]
    rfl

end ChangeSet

/-- Postponed stamps, from their instance, table, column and value. -/
def Deferred.ofStamps (B : List (InstanceId × EntityId × Nat × Value)) : List Deferred :=
  B.map fun (h, table, column, v) => .stamp h table column v

/-- Buried stamps hold no resave. -/
@[simp] theorem Deferred.any_ofStamps_isResaveOf (B : List (InstanceId × EntityId × Nat × Value))
    (h : InstanceId) : (Deferred.ofStamps B).any (·.isResaveOf h) = false := by
  simp only [ofStamps, List.any_map, List.any_eq_false, Function.comp_apply]
  intro _ _
  exact Bool.false_ne_true

namespace World

variable {τ : Type}

/-- The world with the rows `g` put in front of the store, every reference the session holds
moved along, and the stamps `B` buried under the postponed work. -/
def relocate (g : Array ModelRow) (B : List (InstanceId × EntityId × Nat × Value)) (w : World τ) :
    World τ :=
  { w with
    engine := { w.engine with pool := { w.engine.pool with store := w.engine.pool.store.prepend g } },
    session := { w.session with
      arena := w.session.arena.shift g.size, changes := w.session.changes.shift g.size,
      deferred := Deferred.ofStamps B ++ w.session.deferred } }

variable (g : Array ModelRow) (B : List (InstanceId × EntityId × Nat × Value)) (w : World τ)

@[simp] theorem relocate_store : (w.relocate g B).engine.pool.store = w.engine.pool.store.prepend g :=
  rfl

@[simp] theorem relocate_arena : (w.relocate g B).session.arena = w.session.arena.shift g.size := rfl

@[simp] theorem relocate_changes : (w.relocate g B).session.changes = w.session.changes.shift g.size :=
  rfl

@[simp] theorem relocate_deferred :
    (w.relocate g B).session.deferred = Deferred.ofStamps B ++ w.session.deferred := rfl

@[simp] theorem relocate_options : (w.relocate g B).session.options = w.session.options := rfl

@[simp] theorem relocate_reg : (w.relocate g B).engine.reg = w.engine.reg := rfl

@[simp] theorem relocate_transport : (w.relocate g B).transport = w.transport := rfl

/-- The world with its latest postponed item taken off. -/
def dropLastDeferred : World τ :=
  { w with session := { w.session with deferred := w.session.deferred.dropLast } }

/-- Taking the latest postponed item off a relocated world takes off the world's own, as long as
it has one. -/
theorem relocate_dropLastDeferred (hw : w.session.deferred ≠ []) :
    (w.relocate g B).dropLastDeferred = w.dropLastDeferred.relocate g B := by
  simp only [dropLastDeferred, relocate, List.dropLast_append_of_ne_nil hw]

/-- Relocating twice is relocating once by both. -/
theorem relocate_relocate (g' : Array ModelRow) (B' : List (InstanceId × EntityId × Nat × Value)) :
    (w.relocate g' B').relocate g B = w.relocate (g ++ g') (B ++ B') := by
  simp only [relocate, RowStore.prepend_prepend, Arena.shift_shift, ChangeSet.shift_shift,
    Array.size_append, Deferred.ofStamps, List.map_append, List.append_assoc]

end World

namespace Session

variable {τ : Type} {α β γ δ : Type}

/-- `x'` does on a relocated world what `x` does on the world: its outcome is `x`'s mapped by
`φ`, and the world it leaves is the relocation of the one `x` leaves. -/
def Relocates (g : Array ModelRow) (B : List (InstanceId × EntityId × Nat × Value))
    (x : SessionM τ α) (x' : SessionM τ β) (φ : α → β) : Prop :=
  ∀ w, x'.run.run (w.relocate g B) = ((x.run.run w).1.map φ, (x.run.run w).2.relocate g B)

section Relocates

variable {g : Array ModelRow} {B : List (InstanceId × EntityId × Nat × Value)}

/-! ## The monad relocates -/

theorem Relocates.pure (a : α) (φ : α → β) :
    Relocates g B (Pure.pure a : SessionM τ α) (Pure.pure (φ a)) φ :=
  fun _ => rfl

theorem Relocates.throw (e : Error) (φ : α → β) :
    Relocates g B (throw e : SessionM τ α) (throw e) φ :=
  fun _ => rfl

/-- An operation that fails at once relocates, whatever would have followed. -/
theorem Relocates.throw_bind (e : Error) (f : α → SessionM τ γ) (f' : β → SessionM τ δ)
    (ψ : γ → δ) :
    Relocates g B ((MonadExcept.throw e : SessionM τ α) >>= f)
      ((MonadExcept.throw e : SessionM τ β) >>= f') ψ := by
  intro w
  rw [run_bind, run_bind, run_throw, run_throw]
  rfl

theorem Relocates.bind {x : SessionM τ α} {x' : SessionM τ β} {φ : α → β}
    {f : α → SessionM τ γ} {f' : β → SessionM τ δ} {ψ : γ → δ}
    (hx : Relocates g B x x' φ) (hf : ∀ a, Relocates g B (f a) (f' (φ a)) ψ) :
    Relocates g B (x >>= f) (x' >>= f') ψ := by
  intro w
  rw [run_bind, run_bind, hx w]
  rcases x.run.run w with ⟨_ | a, w'⟩
  · rfl
  · exact hf a w'

/-- `bind` for a first step whose outcome is the same on both sides. -/
theorem Relocates.bind_id {x x' : SessionM τ α} {f : α → SessionM τ γ} {f' : α → SessionM τ δ}
    {ψ : γ → δ} (hx : Relocates g B x x' id) (hf : ∀ a, Relocates g B (f a) (f' a) ψ) :
    Relocates g B (x >>= f) (x' >>= f') ψ :=
  Relocates.bind hx hf

/-- Branches on conditions that agree relocate when each branch does. -/
theorem Relocates.ite {c c' : Prop} [Decidable c] [Decidable c'] (hc : c' ↔ c)
    {x y : SessionM τ α} {x' y' : SessionM τ β} {φ : α → β}
    (hx : c → Relocates g B x x' φ) (hy : ¬c → Relocates g B y y' φ) :
    Relocates g B (if c then x else y) (if c' then x' else y') φ := by
  by_cases h : c
  · rw [if_pos h, if_pos (hc.mpr h)]
    exact hx h
  · rw [if_neg h, if_neg (fun h' => h (hc.mp h'))]
    exact hy h

theorem Relocates.tryCatch {x : SessionM τ α} {x' : SessionM τ β} {φ : α → β}
    {handle : Error → SessionM τ α} {handle' : Error → SessionM τ β}
    (hx : Relocates g B x x' φ) (hh : ∀ e, Relocates g B (handle e) (handle' e) φ) :
    Relocates g B (tryCatch x handle) (tryCatch x' handle') φ := by
  intro w
  rw [run_tryCatch, run_tryCatch, hx w]
  rcases x.run.run w with ⟨e | a, w'⟩
  · exact hh e w'
  · rfl

theorem Relocates.attempt {x x' : SessionM τ α} (hx : Relocates g B x x' id) :
    Relocates g B (attempt x) (attempt x') id := by
  intro w
  rw [run_attempt, run_attempt, hx w]
  simp only [Except.map_id, id_eq]

theorem Relocates.ofExcept (r : Except Error α) : Relocates g B (ofExcept r : SessionM τ α) (ofExcept r) id := by
  intro w
  rw [run_ofExcept, run_ofExcept]
  simp only [Except.map_id, id_eq]

/-- A loop relocates when every pass of its body does. -/
theorem Relocates.foldlM {f f' : β → α → SessionM τ β} (hf : ∀ b a, Relocates g B (f b a) (f' b a) id) :
    ∀ (l : List α) (b : β), Relocates g B (l.foldlM f b) (l.foldlM f' b) id
  | [], b => Relocates.pure b id
  | a :: l, b => by
    rw [List.foldlM_cons, List.foldlM_cons]
    exact Relocates.bind_id (hf b a) fun b' => Relocates.foldlM hf l b'

theorem Relocates.forIn {f f' : α → β → SessionM τ (ForInStep β)}
    (hf : ∀ a b, Relocates g B (f a b) (f' a b) id) :
    ∀ (l : List α) (b : β), Relocates g B (forIn l b f) (forIn l b f') id
  | [], b => Relocates.pure b id
  | a :: l, b => by
    rw [List.forIn_cons, List.forIn_cons]
    refine Relocates.bind (hf a b) fun step => ?_
    cases step with
    | done b' => exact Relocates.pure b' id
    | yield b' => exact Relocates.forIn hf l b'

theorem Relocates.forM {f f' : α → SessionM τ PUnit} (hf : ∀ a, Relocates g B (f a) (f' a) id) :
    ∀ l : List α, Relocates g B (l.forM f) (l.forM f') id
  | [] => fun _ => rfl
  | a :: l => Relocates.bind_id (hf a) fun _ => Relocates.forM hf l

/-! ## The operations of a session relocate -/

theorem Relocates.get : Relocates g B (get : SessionM τ (World τ)) get (World.relocate g B) :=
  fun _ => rfl

theorem Relocates.getInstance (h : InstanceId) :
    Relocates g B (getInstance h : SessionM τ Instance) (getInstance h) (Instance.shift g.size) := by
  intro w
  simp only [run_getInstance, World.relocate_arena, Arena.get?_shift]
  cases w.session.arena.get? h <;> rfl

theorem Relocates.rows : Relocates g B (rows : SessionM τ RowStore) rows (RowStore.prepend g) :=
  fun _ => rfl

theorem Relocates.registry : Relocates g B (registry : SessionM τ Registry) registry id :=
  fun _ => rfl

theorem Relocates.idOf (h : InstanceId) :
    Relocates g B (idOf h : SessionM τ (Option Int64)) (idOf h) id := by
  intro w
  simp only [run_idOf, World.relocate_arena, World.relocate_store, Arena.get?_shift]
  cases w.session.arena.get? h with
  | none => rfl
  | some i =>
    simp only [Option.map_some, Instance.id_shift]
    rfl

theorem Relocates.setRows (s : RowStore) :
    Relocates g B (setRows s : SessionM τ Unit) (setRows (s.prepend g)) id :=
  fun _ => rfl

theorem Relocates.modifyInstance (h : InstanceId) {f f' : Instance → Instance}
    (hf : ∀ i, f' (i.shift g.size) = (f i).shift g.size) :
    Relocates g B (modifyInstance h f : SessionM τ Unit) (modifyInstance h f') id := by
  intro w
  simp only [run_modifyInstance, World.relocate_arena, Arena.modify_shift _ _ _ hf]
  rfl

theorem Relocates.modifyChanges {f f' : ChangeSet → ChangeSet}
    (hf : ∀ c, f' (c.shift g.size) = (f c).shift g.size) :
    Relocates g B (modifyChanges f : SessionM τ Unit) (modifyChanges f') id := by
  intro w
  simp only [run_modifyChanges, World.relocate_changes, hf]
  rfl

theorem Relocates.remember (s : RowStore) (h : InstanceId) :
    Relocates g B (modifyArena (·.remember s h) : SessionM τ Unit)
      (modifyArena (·.remember (s.prepend g) h)) id := by
  intro w
  simp only [run_modifyArena, World.relocate_arena, Arena.remember_shift]
  rfl

/-- Postponing more work relocates: the buried stamps stay under it. -/
theorem Relocates.postpone (d : Deferred) :
    Relocates g B (modifySession fun s => { s with deferred := s.deferred ++ [d] } : SessionM τ Unit)
      (modifySession fun s => { s with deferred := s.deferred ++ [d] }) id := by
  intro w
  simp only [run_modifySession, World.relocate_deferred, List.append_assoc]
  rfl

theorem Relocates.send (f : τ → τ × Except Error α) : Relocates g B (send f) (send f) id := by
  intro w
  simp only [run_send, World.relocate_transport, Except.map_id, id_eq]
  rfl

theorem Relocates.execute [Transport τ] (s : Statement) :
    Relocates g B (execute s : SessionM τ Nat) (execute s) id :=
  Relocates.tryCatch (Relocates.send _) fun _ => Relocates.throw _ _

theorem Relocates.insert [Transport τ] (s : Statement) :
    Relocates g B (insert s : SessionM τ Int64) (insert s) id :=
  Relocates.tryCatch (Relocates.send _) fun _ => Relocates.throw _ _

theorem Relocates.relationOf (e : EntityId) (name : String) :
    Relocates g B (relationOf e name : SessionM τ Relation) (relationOf e name) id := by
  unfold Session.relationOf
  refine Relocates.bind_id Relocates.registry fun reg => ?_
  cases reg.findRelation? e name with
  | none => exact Relocates.throw _ _
  | some r => exact Relocates.pure r id

/-! ## The stages of a save relocate -/

theorem stamp_relocates (h : InstanceId) (table : EntityId) (column : Nat) (v : Value) :
    Relocates g B (stamp h table column v : SessionM τ Unit) (stamp h table column v) id := by
  unfold stamp
  refine Relocates.bind (Relocates.getInstance h) fun i => Relocates.bind_id Relocates.registry fun reg => ?_
  simp only [Instance.slotOf_shift]
  cases i.slotOf table with
  | none => exact Relocates.throw _ _
  | some slot =>
    refine Relocates.bind Relocates.rows fun store => ?_
    simp only [Instance.write_shift]
    exact Relocates.bind_id (Relocates.setRows _) fun _ => Relocates.modifyInstance h fun _ => rfl

theorem deferResave_relocates (h : InstanceId) :
    Relocates g B (deferResave h : SessionM τ Unit) (deferResave h) id := by
  intro w
  unfold deferResave
  simp only [run_modifySession, World.relocate_deferred, List.any_append,
    Deferred.any_ofStamps_isResaveOf, Bool.false_or]
  split
  · rfl
  · simp only [List.append_assoc]
    rfl

theorem stampOrDefer_relocates (h : InstanceId) (table : EntityId) (column : Nat) (v : Value) :
    Relocates g B (stampOrDefer h table column v : SessionM τ Unit) (stampOrDefer h table column v) id := by
  unfold stampOrDefer
  refine Relocates.bind (Relocates.getInstance h) fun i => ?_
  exact Relocates.ite Iff.rfl (fun _ => Relocates.postpone _)
    (fun _ => stamp_relocates h table column v)

theorem saveReferences_relocates {cascade : InstanceId → SessionM τ Bool}
    (hc : ∀ t, Relocates g B (cascade t) (cascade t) id) (h : InstanceId) :
    Relocates g B (saveReferences cascade h) (saveReferences cascade h) id := by
  unfold saveReferences
  refine Relocates.bind (Relocates.getInstance h) fun i => ?_
  simp only [Instance.shift_relations, Instance.shift_entity]
  refine Relocates.foldlM (fun settled ref => ?_) _ _
  refine Relocates.bind_id (Relocates.relationOf _ _) fun r => ?_
  cases hKind : r.kind with
  | reference column =>
    -- the value written is `null`, the target's key after saving it, or nothing yet when the
    -- target is new and mid-save; it is written at once, by a stamp or not at all
    simp only [pure_bind]
    cases ref.2 with
    | none => exact Relocates.bind_id (stamp_relocates _ _ _ _) fun _ => Relocates.pure _ id
    | some t =>
      refine Relocates.bind (Relocates.getInstance t) fun ti =>
        Relocates.bind Relocates.rows fun store => ?_
      refine Relocates.ite (by simp only [Instance.shift_saving, Instance.isNew_shift])
        (fun _ => ?_) (fun _ => ?_)
      · exact Relocates.bind_id (deferResave_relocates h) fun _ => Relocates.pure _ id
      · refine Relocates.bind_id (hc t) fun _ => Relocates.bind_id (Relocates.idOf t) fun key? => ?_
        cases key? with
        | some key => exact Relocates.bind_id (stamp_relocates _ _ _ _) fun _ => Relocates.pure _ id
        | none => exact Relocates.throw_bind _ _ _ id
  | children back => exact Relocates.pure _ id
  | association table source target => exact Relocates.pure _ id

variable [Transport τ]

theorem writeRow_relocates (row : RowRef) (table : EntityId) (explicitId : Option Int64) :
    Relocates g B (writeRow row table explicitId : SessionM τ Int64)
      (writeRow (row.shift g.size) table explicitId) id := by
  unfold writeRow
  refine Relocates.bind_id Relocates.registry fun reg => Relocates.bind Relocates.get fun w =>
    Relocates.bind Relocates.rows fun store => ?_
  simp only [World.relocate_options, RowStore.get_prepend]
  cases (store.get row).id with
  | some key =>
    -- a stored row is updated when it changed
    dsimp only
    refine Relocates.ite Iff.rfl (fun _ => ?_) (fun _ => Relocates.pure _ id)
    have hUpdate := fun c => ChangeSet.recordUpdate_shift g.size c (table, key) row
    cases Statement.updateRow w.session.options (reg.get table) (store.get row) with
    | some stmt =>
      exact Relocates.bind_id (Relocates.execute _) fun _ =>
        Relocates.bind_id (Relocates.modifyChanges hUpdate) fun _ => Relocates.pure _ id
    | none => exact Relocates.bind_id (Relocates.modifyChanges hUpdate) fun _ => Relocates.pure _ id
  | none =>
    -- a new row is inserted, then takes its key, in the sequence column too
    dsimp only
    cases explicitId
    case' none => refine Relocates.bind_id (Relocates.insert _) fun key => ?_
    case' some key =>
      refine Relocates.bind_id (Relocates.execute _) fun _ =>
        Relocates.bind_id (Relocates.pure key id) fun key => ?_
    all_goals
      have hInsert := fun c => ChangeSet.recordInsert_shift g.size c (table, key) row
      refine Relocates.bind Relocates.rows fun s => ?_
      simp only [RowStore.modify_prepend]
      refine Relocates.bind_id (Relocates.setRows _) fun _ => ?_
      cases (reg.get table).sequenceColumn with
      | some sequence =>
        refine Relocates.bind_id (Relocates.execute _) fun _ => Relocates.bind Relocates.rows fun s' => ?_
        simp only [RowStore.modify_prepend]
        exact Relocates.bind_id (Relocates.setRows _) fun _ =>
          Relocates.bind_id (Relocates.modifyChanges hInsert) fun _ => Relocates.pure _ id
      | none => exact Relocates.bind_id (Relocates.modifyChanges hInsert) fun _ => Relocates.pure _ id

theorem saveImplementations_relocates (h : InstanceId) :
    Relocates g B (saveImplementations h : SessionM τ Unit) (saveImplementations h) id := by
  unfold saveImplementations
  refine Relocates.bind (Relocates.getInstance h) fun i =>
    Relocates.bind_id Relocates.registry fun reg => ?_
  simp only [Instance.shift_entity, Instance.shift_levelCount]
  refine Relocates.forM (fun impl => Relocates.bind (Relocates.getInstance h) fun i' => ?_) _
  simp only [Instance.row?_shift]
  cases i'.row? (i.levelCount + impl.2) with
  | some row => exact Relocates.bind_id (writeRow_relocates _ _ _) fun _ => stamp_relocates _ _ _ _
  | none => exact Relocates.pure _ id

theorem saveLevels_relocates (h : InstanceId) :
    Relocates g B (saveLevels h : SessionM τ Int64) (saveLevels h) id := by
  unfold saveLevels
  refine Relocates.bind (Relocates.getInstance h) fun i => ?_
  simp only [Instance.shift_layout, Instance.shift_levelCount]
  refine Relocates.bind_id (Relocates.foldlM (fun id? level => ?_) _ _) fun id? => ?_
  · refine Relocates.bind (Relocates.getInstance h) fun i' => ?_
    simp only [Instance.row?_shift]
    cases i'.row? level.2 with
    | some row => exact Relocates.bind_id (writeRow_relocates _ _ _) fun _ => Relocates.pure _ id
    | none => exact Relocates.pure _ id
  · cases id? with
    | some key => exact Relocates.pure key id
    | none => exact Relocates.throw _ id

theorem saveCollections_relocates {cascade : InstanceId → SessionM τ Bool}
    (hc : ∀ t, Relocates g B (cascade t) (cascade t) id) (h : InstanceId) (ownerId : Int64) :
    Relocates g B (saveCollections cascade h ownerId) (saveCollections cascade h ownerId) id := by
  unfold saveCollections
  refine Relocates.bind (Relocates.getInstance h) fun i => Relocates.bind Relocates.get fun w => ?_
  simp only [Instance.shift_relations, Instance.shift_entity, World.relocate_options]
  refine Relocates.foldlM (fun settled pending =>
    Relocates.bind_id (Relocates.relationOf _ _) fun r => ?_) _ _
  cases r.kind with
  | children back =>
    -- children: each member gets the owner's key, or `null` when removed, and is saved
    refine Relocates.bind_id (Relocates.forIn (fun child _ => ?_) _ _) fun _ =>
      Relocates.bind_id (Relocates.forIn (fun child _ => ?_) _ _) fun _ => Relocates.pure _ id
    · exact Relocates.bind_id (stampOrDefer_relocates _ _ _ _) fun _ =>
        Relocates.bind_id (hc child) fun _ => Relocates.pure _ id
    · exact Relocates.bind_id (stampOrDefer_relocates _ _ _ _) fun _ =>
        Relocates.bind_id (hc child) fun _ => Relocates.pure _ id
  | association table source target =>
    -- association: members are saved, then linked by a row of the association table
    refine Relocates.bind_id (Relocates.forIn (fun child _ =>
      Relocates.bind_id (hc child) fun _ => Relocates.pure _ id) _ _) fun _ => ?_
    refine Relocates.bind_id (Relocates.foldlM (fun acc child => ?_) _ _) fun linked => ?_
    · refine Relocates.bind_id (hc child) fun _ => Relocates.bind_id (Relocates.idOf child) fun id? => ?_
      cases id? with
      | none => exact Relocates.bind_id (deferResave_relocates h) fun _ => Relocates.pure _ id
      | some childId => exact Relocates.bind_id (Relocates.execute _) fun _ => Relocates.pure _ id
    rcases linked with ⟨linked, unlinked⟩
    refine Relocates.bind_id (Relocates.forIn (fun child _ => ?_) _ _) fun _ => Relocates.pure _ id
    refine Relocates.bind_id (Relocates.idOf child) fun id? => ?_
    cases id? with
    | some childId => exact Relocates.bind_id (Relocates.execute _) fun _ => Relocates.pure _ id
    | none => exact Relocates.pure _ id
  | reference _ => exact Relocates.pure _ id

theorem writeInstance_relocates {cascade : InstanceId → SessionM τ Bool}
    (hc : ∀ t, Relocates g B (cascade t) (cascade t) id) (h : InstanceId) :
    Relocates g B (writeInstance cascade h) (writeInstance cascade h) id := by
  unfold writeInstance
  refine Relocates.bind (Relocates.getInstance h) fun i₀ => Relocates.bind Relocates.rows fun store₀ => ?_
  refine Relocates.bind_id (saveReferences_relocates hc h) fun references => ?_
  refine Relocates.bind_id (saveImplementations_relocates h) fun _ => ?_
  refine Relocates.bind_id (saveLevels_relocates h) fun key => ?_
  simp only
  refine Relocates.ite (by simp only [Instance.isNew_shift])
    (fun _ => Relocates.bind Relocates.rows fun store =>
      Relocates.bind_id (Relocates.remember store h) fun _ => ?_) (fun _ => ?_)
  -- a new instance is first registered under its key; both ways go on with its collections and
  -- put the instance back with its relations settled
  all_goals
    refine Relocates.bind_id (saveCollections_relocates hc h key) fun collections => ?_
    refine Relocates.bind (Relocates.getInstance h) fun i => Relocates.bind Relocates.rows fun store => ?_
    simp only [Instance.clearModified_shift]
    refine Relocates.bind_id (Relocates.setRows _) fun _ => ?_
    rw [Instance.foldl_shift _ _ ?hReferences, Instance.foldl_shift _ _ ?hCollections]
    · exact Relocates.bind_id (Relocates.modifyInstance h fun _ => rfl) fun _ =>
        Relocates.modifyChanges fun c => ChangeSet.recordSaved_shift _ c _
    case hReferences =>
      intro i' name
      simp only [Instance.relation?_shift]
      cases i'.relation? name with
      | none => rfl
      | some d => cases d <;> simp only [Instance.setRelation_shift]
    case hCollections =>
      rintro i' ⟨name, linked, waiting⟩
      simp only [Instance.relation?_shift]
      cases i'.relation? name with
      | none => rfl
      | some d => cases d <;> simp only [Instance.setRelation_shift]

/-- Saving an instance, at every depth of the cascade, does on a relocated world what it does on
the world. -/
theorem saveCascade_relocates : ∀ (fuel : Nat) (h : InstanceId),
    Relocates g B (saveCascade fuel h : SessionM τ Bool) (saveCascade fuel h) id
  | 0, _ => Relocates.pure _ id
  | fuel + 1, h => by
    rw [saveCascade]
    refine Relocates.bind (Relocates.getInstance h) fun i => Relocates.bind Relocates.rows fun store => ?_
    refine Relocates.ite (by simp only [Instance.shift_saving, Instance.hasChanges_shift])
      (fun _ => Relocates.pure _ id) (fun _ => ?_)
    refine Relocates.bind_id (Relocates.modifyInstance h fun _ => rfl) fun _ => ?_
    refine Relocates.bind_id
      (Relocates.attempt (writeInstance_relocates (fun t => saveCascade_relocates fuel t) h)) fun r => ?_
    exact Relocates.bind_id (Relocates.modifyInstance h fun _ => rfl) fun _ =>
      Relocates.bind_id (Relocates.ofExcept r) fun _ => Relocates.pure _ id

end Relocates

/-! ## Replaying postponed work -/

variable [Transport τ]

/-- One item of the replay: its work is done and its instance saved again; whether anything was
written. -/
def replayItem (size : Nat) (work : Deferred) : SessionM τ Bool := do
  let target ← match work with
    | .resave i => pure i
    | .stamp i table column v => do
      stamp i table column v
      pure i
  saveCascade size target

theorem replayItem_relocates {g : Array ModelRow} {B : List (InstanceId × EntityId × Nat × Value)}
    (size : Nat) (work : Deferred) :
    Relocates g B (replayItem size work : SessionM τ Bool) (replayItem size work) id := by
  unfold replayItem
  cases work with
  | resave t => exact Relocates.bind_id (Relocates.pure t id) fun t => saveCascade_relocates size t
  | stamp t table column v =>
    exact Relocates.bind_id (stamp_relocates t table column v) fun _ =>
      Relocates.bind_id (Relocates.pure t id) fun t => saveCascade_relocates size t

/-- With nothing postponed the replay stops at once. -/
theorem replay_of_getLast?_eq_none (size : Nat) (b : Bool) {w : World τ}
    (hw : w.session.deferred.getLast? = none) :
    ∀ fuel, (saveWithDeferred.replay size b fuel : SessionM τ Bool).run.run w = (.ok b, w)
  | 0 => rfl
  | fuel + 1 => by
    simp only [saveWithDeferred.replay, run_bind, run_get, hw]
    rfl

/-- Otherwise it does the latest item and goes on. -/
theorem replay_succ_of_getLast? (size : Nat) (b : Bool) (fuel : Nat) {w : World τ} {work : Deferred}
    (hw : w.session.deferred.getLast? = some work) :
    (saveWithDeferred.replay size b (fuel + 1) : SessionM τ Bool).run.run w =
      (replayItem size work >>= fun c => saveWithDeferred.replay size (b || c) fuel).run.run
        w.dropLastDeferred := by
  rw [saveWithDeferred.replay, run_bind, run_get]
  simp only [hw]
  rw [run_bind, run_modifySession]
  unfold replayItem
  cases work <;> simp only [bind_assoc] <;> rfl

/-- A replay of `fuel + 1` items goes on from where its first item leaves the world. -/
theorem replay_succ_run (size : Nat) (b : Bool) (fuel : Nat) (w : World τ) :
    (saveWithDeferred.replay size b (fuel + 1) : SessionM τ Bool).run.run w =
      match (saveWithDeferred.replay size b 1 : SessionM τ Bool).run.run w with
      | (.ok b', w') => (saveWithDeferred.replay size b' fuel).run.run w'
      | (.error e, w') => (.error e, w') := by
  cases hw : w.session.deferred.getLast? with
  | none =>
    rw [replay_of_getLast?_eq_none size b hw, replay_of_getLast?_eq_none size b hw]
    exact (replay_of_getLast?_eq_none size b hw fuel).symm
  | some work =>
    rw [replay_succ_of_getLast? size b fuel hw, replay_succ_of_getLast? size b 0 hw, run_bind, run_bind]
    rcases (replayItem size work : SessionM τ Bool).run.run w.dropLastDeferred with ⟨_ | c, w'⟩ <;> rfl

/-- A replay of `m + n` items is one of `m` items followed by one of `n`. -/
theorem replay_add (size : Nat) : ∀ (m n : Nat) (b : Bool) (w : World τ),
    (saveWithDeferred.replay size b (m + n) : SessionM τ Bool).run.run w =
      match (saveWithDeferred.replay size b m : SessionM τ Bool).run.run w with
      | (.ok b', w') => (saveWithDeferred.replay size b' n).run.run w'
      | (.error e, w') => (.error e, w')
  | 0, n, b, w => by
    rw [Nat.zero_add]
    rfl
  | m + 1, n, b, w => by
    rw [Nat.add_right_comm, replay_succ_run size b (m + n) w, replay_succ_run size b m w]
    rcases (saveWithDeferred.replay size b 1 : SessionM τ Bool).run.run w with ⟨_ | b', w'⟩
    · rfl
    · exact replay_add size m n b' w'

/-- One replayed item relocates while the world's own postponed work lasts: the buried stamps
come only after it. -/
theorem replay_one_relocates {g : Array ModelRow} {B : List (InstanceId × EntityId × Nat × Value)}
    (size : Nat) (b : Bool) (w : World τ) (hw : w.session.deferred ≠ []) :
    (saveWithDeferred.replay size b 1 : SessionM τ Bool).run.run (w.relocate g B) =
      (((saveWithDeferred.replay size b 1).run.run w).1,
        ((saveWithDeferred.replay size b 1).run.run w).2.relocate g B) := by
  cases hLast : w.session.deferred.getLast? with
  | none => exact absurd (List.getLast?_eq_none_iff.mp hLast) hw
  | some work =>
    have hLast' : (w.relocate g B).session.deferred.getLast? = some work := by
      rw [World.relocate_deferred, List.getLast?_append, hLast]
      rfl
    rw [replay_succ_of_getLast? size b 0 hLast', replay_succ_of_getLast? size b 0 hLast,
      World.relocate_dropLastDeferred g B w hw]
    have hItem : Relocates g B
        (replayItem size work >>= fun c => saveWithDeferred.replay size (b || c) 0 : SessionM τ Bool)
        (replayItem size work >>= fun c => saveWithDeferred.replay size (b || c) 0) id :=
      Relocates.bind_id (replayItem_relocates size work) fun c => Relocates.pure (b || c) id
    rw [hItem w.dropLastDeferred]
    simp only [Except.map_id, id_eq]

end Session

end EntityGraph
