import EntityGraph.Proofs.Save.Relocation
import EntityGraph.Schema.Registry.Build

/-!
# Mutual children are never done saving

Two nodes that each list both nodes as children over the same back reference keep each other's
save going forever. Saving the first writes both rows; then every member gets its owner's key in
the back reference, but a member that is being saved at that moment is stamped only later, and
each replayed stamp saves its node again, which stamps its members again with the other owner's
key. Every round of the replay leaves the work it found and more.

The argument runs over relocations (`Proofs.Save.Relocation`). After its first two items the
replay is at `periodStart`, up to rows nothing holds, and six items later it is there again with
six more rows in front of the store and two more stamps buried under the work
(`replay_period`). Each of those six items finds the work of the period left, so none of them
reaches the buried stamps, and by induction on the number of items the replay finds work at
every item (`replay_mutual_kids_never_drains`), whatever bound is put on it.
`save_mutual_kids_never_settles` states the outcome for `save`: it returns only because the
replay stops at its bound, with the postponed work still there.

The states a period starts and ends in are computed by the kernel. Values have no decidable
equality (documents nest), so rows and postponed items are compared by `Value.sameScalar`,
which decides equality for every value that is not a document.
-/

namespace EntityGraph

/-! ## Comparing rows and postponed work -/

namespace Value

/-- Whether two values are the same scalar: the same kind with the same content. Documents are
never the same scalar. -/
def sameScalar : Value → Value → Bool
  | .null, .null => true
  | .bool a, .bool b => a == b
  | .int a, .int b => a == b
  | .bigInt a, .bigInt b => a == b
  | .double a, .double b => a == b
  | .text a, .text b => a == b
  | .bytes a, .bytes b => a == b
  | .timestamp a, .timestamp b => a == b
  | _, _ => false

theorem eq_of_sameScalar {a b : Value} (h : a.sameScalar b = true) : a = b := by
  cases a <;> cases b <;> simp_all [sameScalar]

end Value

/-- Lists related pairwise by a comparison that only relates equal elements are equal. -/
theorem eq_of_isEqv {α : Type} {r : α → α → Bool} (hr : ∀ a b, r a b = true → a = b) :
    ∀ {l₁ l₂ : List α}, l₁.isEqv l₂ r = true → l₁ = l₂
  | [], [], _ => rfl
  | a :: l₁, b :: l₂, h => by
    rw [List.isEqv_cons_cons, Bool.and_eq_true] at h
    rw [hr a b h.1, eq_of_isEqv hr h.2]
  | [], _ :: _, h => nomatch h
  | _ :: _, [], h => nomatch h

namespace ModelRow

/-- Rows with the same fields, their values the same scalars. -/
def sameScalars (r r' : ModelRow) : Bool :=
  r.entity == r'.entity && r.primaryKey == r'.primaryKey && r.id == r'.id &&
    r.modified == r'.modified && r.values.isEqv r'.values Value.sameScalar

theorem eq_of_sameScalars {r r' : ModelRow} (h : r.sameScalars r' = true) : r = r' := by
  simp only [sameScalars, Bool.and_eq_true, beq_iff_eq] at h
  obtain ⟨⟨⟨⟨hEntity, hKey⟩, hId⟩, hModified⟩, hValues⟩ := h
  have hSameValues := eq_of_isEqv (fun _ _ => Value.eq_of_sameScalar) hValues
  cases r
  cases r'
  simp only at hEntity hKey hId hModified hSameValues
  subst hEntity hKey hId hModified hSameValues
  rfl

end ModelRow

namespace Deferred

/-- The same postponed work, a stamp's value the same scalar. -/
def sameScalars : Deferred → Deferred → Bool
  | .resave h, .resave h' => h == h'
  | .stamp h table column v, .stamp h' table' column' v' =>
    h == h' && table == table' && column == column' && v.sameScalar v'
  | _, _ => false

theorem eq_of_sameScalars : ∀ {d d' : Deferred}, d.sameScalars d' = true → d = d'
  | .resave h, .resave h', hd => by
    simp only [sameScalars, beq_iff_eq] at hd
    rw [hd]
  | .stamp .., .stamp .., hd => by
    simp only [sameScalars, Bool.and_eq_true, beq_iff_eq] at hd
    obtain ⟨⟨⟨rfl, rfl⟩, rfl⟩, hv⟩ := hd
    rw [Value.eq_of_sameScalar hv]
  | .resave _, .stamp .., hd => absurd hd Bool.false_ne_true
  | .stamp .., .resave _, hd => absurd hd Bool.false_ne_true

end Deferred

theorem Arena.eq_of_toList {a a' : Arena} (hInstances : a.instances.toList = a'.instances.toList)
    (hIdentities : a.identities = a'.identities) : a = a' := by
  cases a
  cases a'
  simp only [Arena.mk.injEq]
  exact ⟨Array.toList_inj.mp hInstances, hIdentities⟩

/-- A store whose rows past the first `n` are those of `s` is `s` with its first `n` rows put in
front. -/
theorem RowStore.eq_prepend_of_extract {t s : RowStore} {n : Nat}
    (hRest : t.rows.extract n t.rows.size = s.rows) : t = s.prepend (t.rows.extract 0 n) := by
  have hSplit : t.rows.extract 0 n ++ t.rows.extract n t.rows.size = t.rows := by
    rw [Array.extract_append_extract, Nat.zero_min]
    exact Array.extract_eq_self_of_le (Nat.le_max_right _ _)
  show t = ⟨t.rows.extract 0 n ++ s.rows⟩
  rw [← hRest, hSplit]

namespace World

variable {τ : Type}

/-- Worlds with one frame are equal when the parts a save works on are. -/
theorem eq_of_work {w₀ w w' : World τ} (hw : w₀.withWorkOf w = w) (hw' : w₀.withWorkOf w' = w')
    (hStore : w.engine.pool.store = w'.engine.pool.store) (hArena : w.session.arena = w'.session.arena)
    (hChanges : w.session.changes = w'.session.changes)
    (hDeferred : w.session.deferred = w'.session.deferred) (hTransport : w.transport = w'.transport) :
    w = w' := by
  rw [← hw, ← hw']
  simp only [withWorkOf, hStore, hArena, hChanges, hDeferred, hTransport]

theorem withWorkOf_self (w : World τ) : w.withWorkOf w = w := rfl

/-- Relocating keeps a world's frame. -/
theorem withWorkOf_relocate {w₀ w : World τ} (hw : w₀.withWorkOf w = w) (g : Array ModelRow)
    (B : List (InstanceId × EntityId × Nat × Value)) :
    w₀.withWorkOf (w.relocate g B) = w.relocate g B := by
  rw [← hw]
  rfl

end World

/-- An outcome that is some value as an option is that value. -/
theorem Except.eq_ok_of_toOption {α : Type} {r : Except Error α} {a : α} (h : r.toOption = some a) :
    r = .ok a := by
  cases r with
  | error e => cases h
  | ok a =>
    cases h
    rfl

namespace Session

deriving instance DecidableEq for Instance
deriving instance DecidableEq for ChangeSet

/-! ## Two nodes, each a child of both -/

/-- Nodes with a parent reference, and children that point back through it. -/
def nodesRegistry : Registry :=
  let node : EntityDescriptor :=
    { name := "Node", table := "node",
      columns := [Column.primary "id", Column.reference "parent_id" "Node"],
      relations := [.children "kids" "Node" "parent_id"] }
  match Registry.build [node] with
  | .ok r => r
  | .error _ => default

/-- Two new nodes, each with both nodes as its children. -/
def mutualKids : SessionM Counter Unit := do
  let _ ← create ⟨0⟩
  let _ ← create ⟨0⟩
  addRelated ⟨0⟩ "kids" ⟨0⟩
  addRelated ⟨0⟩ "kids" ⟨1⟩
  addRelated ⟨1⟩ "kids" ⟨0⟩
  addRelated ⟨1⟩ "kids" ⟨1⟩

/-- The session with the two nodes, over a store that takes every statement. -/
def kidsWorld : World Counter :=
  (mutualKids.run.run
    { engine := Engine.new nodesRegistry {}, session := Session.new {}, transport := {} }).2

/-- Saving the first node opens its unit here, -/
def begun : World Counter := ((beginUnit : SessionM Counter Unit).run.run kidsWorld).2

/-- and its first cascade leaves this world, with the replay still to come. -/
def cascaded : World Counter := ((saveCascade 3 ⟨0⟩ : SessionM Counter Bool).run.run begun).2

/-- Replaying `n` items from `w`, as the save of the first node replays them. -/
def replayed (n : Nat) (w : World Counter) : Except Error Bool × World Counter :=
  (saveWithDeferred.replay 3 true n : SessionM Counter Bool).run.run w

/-- The two stamps of the first node's back reference, with the key of each owner. -/
def ownerStamps : List (InstanceId × EntityId × Nat × Value) :=
  [(⟨0⟩, ⟨0⟩, 1, .bigInt 1), (⟨0⟩, ⟨0⟩, 1, .bigInt 2)]

/-- Where every period of the replay starts, up to relocation: the world after its first two
items, with its rows set to those the later periods leave there. Only the first row changes, and
nothing holds it. -/
def periodStart : World Counter :=
  ((setRows ⟨(replayed 8 cascaded).2.engine.pool.store.rows.extract 6 10⟩ : SessionM Counter Unit).run.run
    (replayed 2 cascaded).2).2

/-! ## The replay is periodic -/

theorem replayed_zero (w : World Counter) : replayed 0 w = (.ok true, w) := rfl

/-- A replay of `k + m` items, the first `k` of which return, goes on from where they left the
world. -/
theorem replayed_add (w : World Counter) (k m : Nat) (hk : (replayed k w).1 = .ok true) :
    replayed (k + m) w = replayed m (replayed k w).2 := by
  have hRun : (saveWithDeferred.replay 3 true k : SessionM Counter Bool).run.run w =
      (.ok true, (replayed k w).2) := Prod.ext hk rfl
  unfold replayed
  rw [replay_add 3 k m true w, hRun]

/-- After an item that returns, the replay goes on from where it left the world. -/
theorem replayed_add_one {w w' : World Counter} (n : Nat) (h : replayed 1 w = (.ok true, w')) :
    replayed (n + 1) w = replayed n w' := by
  unfold replayed at h ⊢
  rw [replay_succ_run, h]

theorem replayed_one_relocate {w : World Counter} (g : Array ModelRow)
    (B : List (InstanceId × EntityId × Nat × Value)) (hw : w.session.deferred ≠ []) :
    replayed 1 (w.relocate g B) = ((replayed 1 w).1, (replayed 1 w).2.relocate g B) :=
  replay_one_relocates 3 true w hw

/-- The first cascade leaves three items postponed; a period starts with four. -/
example : cascaded.session.deferred.length = 3 ∧ periodStart.session.deferred.length = 4 := by
  decide +kernel

/-- Every item of a period finds postponed work and returns. -/
theorem period_items : ∀ k, k < 6 → (replayed k periodStart).2.session.deferred.isEmpty = false ∧
    (replayed (k + 1) periodStart).1.toOption = some true := by
  decide +kernel

/-- Six items after its start the replay is back there, with six more rows in front of the store
and the two stamps of the owners buried under the work. -/
theorem replay_period :
    (replayed 6 periodStart).2 =
      periodStart.relocate ((replayed 6 periodStart).2.engine.pool.store.rows.extract 0 6) ownerStamps := by
  have hFrame : periodStart.withWorkOf (replayed 6 periodStart).2 = (replayed 6 periodStart).2 :=
    ((replay_steady 3 true 6 : Keeps (Steady periodStart.savingFlag periodStart) _) periodStart
      ⟨rfl, World.withWorkOf_self periodStart⟩).2
  have hMoved : ((replayed 6 periodStart).2.engine.pool.store.rows.extract 0 6).size = 6 := by
    decide +kernel
  refine World.eq_of_work hFrame (World.withWorkOf_relocate (World.withWorkOf_self periodStart) _ _)
    ?_ ?_ ?_ ?_ ?_
  · apply RowStore.eq_prepend_of_extract
    exact Array.toList_inj.mp (eq_of_isEqv (fun _ _ => ModelRow.eq_of_sameScalars) (by decide +kernel))
  · rw [World.relocate_arena, hMoved]
    exact Arena.eq_of_toList (by decide +kernel) (by decide +kernel)
  · rw [World.relocate_changes, hMoved]
    decide +kernel
  · rw [World.relocate_deferred]
    exact eq_of_isEqv (fun _ _ => Deferred.eq_of_sameScalars) (by decide +kernel)
  · decide +kernel

/-- Each period writes six rows and buries the owners' two stamps under the postponed work. -/
example : (replayed 6 periodStart).2.engine.pool.store.rows.size =
      periodStart.engine.pool.store.rows.size + 6 ∧
    (replayed 6 periodStart).2.session.deferred.length = periodStart.session.deferred.length + 2 := by
  decide +kernel

/-- The replay reaches a period after its first eight items, which all return. -/
theorem replay_reaches_period :
    (replayed 8 cascaded).2 =
      periodStart.relocate ((replayed 8 cascaded).2.engine.pool.store.rows.extract 0 6) ownerStamps := by
  have hSteady : ∀ n, Steady cascaded.savingFlag cascaded (replayed n cascaded).2 := fun n =>
    (replay_steady 3 true n : Keeps (Steady cascaded.savingFlag cascaded) _) cascaded
      ⟨rfl, World.withWorkOf_self cascaded⟩
  -- the period starts with the frame of the world after two items
  have hStart : cascaded.withWorkOf periodStart = periodStart := (Keeps.setRows' _ _ (hSteady 2)).2
  have hMoved : ((replayed 8 cascaded).2.engine.pool.store.rows.extract 0 6).size = 6 := by
    decide +kernel
  refine World.eq_of_work (hSteady 8).2 (World.withWorkOf_relocate hStart _ _) ?_ ?_ ?_ ?_ ?_
  · apply RowStore.eq_prepend_of_extract
    exact Array.toList_inj.mp (eq_of_isEqv (fun _ _ => ModelRow.eq_of_sameScalars) (by decide +kernel))
  · rw [World.relocate_arena, hMoved]
    exact Arena.eq_of_toList (by decide +kernel) (by decide +kernel)
  · rw [World.relocate_changes, hMoved]
    decide +kernel
  · rw [World.relocate_deferred]
    exact eq_of_isEqv (fun _ _ => Deferred.eq_of_sameScalars) (by decide +kernel)
  · decide +kernel

/-- The first nine items of the replay each find postponed work, and each returns. -/
theorem replay_start_items : ∀ k, k < 9 → (replayed k cascaded).2.session.deferred.isEmpty = false ∧
    (replayed k cascaded).1.toOption = some true := by
  decide +kernel

/-! ## The replay never drains -/

/-- From any point of a period, wherever its rows sit and whatever stamps lie buried, the replay
returns and leaves postponed work after any number of items. -/
theorem replay_from_period_never_drains : ∀ (n k : Nat) (g : Array ModelRow)
    (B : List (InstanceId × EntityId × Nat × Value)), k < 6 →
    (replayed n ((replayed k periodStart).2.relocate g B)).1 = .ok true ∧
      (replayed n ((replayed k periodStart).2.relocate g B)).2.session.deferred ≠ []
  | 0, k, g, B, hk => by
    refine ⟨rfl, ?_⟩
    show Deferred.ofStamps B ++ (replayed k periodStart).2.session.deferred ≠ []
    exact List.append_ne_nil_of_right_ne_nil _ (List.isEmpty_eq_false_iff.mp (period_items k hk).1)
  | n + 1, k, g, B, hk => by
    have hWork := List.isEmpty_eq_false_iff.mp (period_items k hk).1
    have hReturned : (replayed k periodStart).1 = .ok true := by
      cases k with
      | zero => rfl
      | succ k => exact Except.eq_ok_of_toOption (period_items k (by omega)).2
    -- one more item moves the relocated phase `k` to the relocated phase `k + 1`
    have hStep : replayed 1 ((replayed k periodStart).2.relocate g B) =
        (.ok true, (replayed (k + 1) periodStart).2.relocate g B) := by
      rw [replayed_one_relocate g B hWork, ← replayed_add periodStart k 1 hReturned,
        Except.eq_ok_of_toOption (period_items k hk).2]
    rw [replayed_add_one n hStep]
    rcases Nat.lt_or_ge (k + 1) 6 with hNext | hLast
    · exact replay_from_period_never_drains n (k + 1) g B hNext
    · -- the period is over: its start again, relocated once more
      have hSix : k + 1 = 6 := by omega
      have hAgain := replay_from_period_never_drains n 0
        (g ++ (replayed 6 periodStart).2.engine.pool.store.rows.extract 0 6) (B ++ ownerStamps) (by decide)
      rw [replayed_zero, ← World.relocate_relocate, ← replay_period] at hAgain
      rw [hSix]
      exact hAgain

/-- Saving the first node, the replay returns and leaves postponed work after any number of
items. -/
theorem replay_mutual_kids_never_drains (n : Nat) :
    (replayed n cascaded).1 = .ok true ∧ (replayed n cascaded).2.session.deferred ≠ [] := by
  rcases Nat.lt_or_ge n 9 with hShort | hLong
  · exact ⟨Except.eq_ok_of_toOption (replay_start_items n hShort).2,
      List.isEmpty_eq_false_iff.mp (replay_start_items n hShort).1⟩
  · -- after eight items the replay is at the start of a period
    obtain ⟨m, rfl⟩ : ∃ m, n = 8 + m := ⟨n - 8, by omega⟩
    have hEight := Except.eq_ok_of_toOption (replay_start_items 8 (by decide)).2
    have hPeriod := replay_from_period_never_drains m 0
      ((replayed 8 cascaded).2.engine.pool.store.rows.extract 0 6) ownerStamps (by decide)
    rw [replayed_zero, ← replay_reaches_period] at hPeriod
    rw [replayed_add cascaded 8 m hEight]
    exact hPeriod

/-! ## Saving never settles -/

/-- The first eight items of the replay write eight rows. -/
example : (replayed 8 cascaded).2.engine.pool.store.rows.size = cascaded.engine.pool.store.rows.size + 8 := by
  decide +kernel

/-- Saving the first node opens the unit, runs its first cascade with the arena's size `3` for
fuel, and replays. -/
theorem saveWithDeferred_replays :
    (saveWithDeferred ⟨0⟩ : SessionM Counter Bool).run.run begun = replayed (2 ^ 64) cascaded := by
  have hSize : begun.session.arena.size + 1 = 3 := by decide +kernel
  have hCascade : (saveCascade 3 ⟨0⟩ : SessionM Counter Bool).run.run begun =
      (.ok true, ((saveCascade 3 ⟨0⟩ : SessionM Counter Bool).run.run begun).2) :=
    run_eq_of_ok (Except.eq_ok_of_toOption (by decide +kernel))
  rw [saveWithDeferred, run_bind, run_get]
  simp only [hSize]
  rw [run_bind, hCascade]
  dsimp only
  unfold replayed cascaded
  rfl

/-- Saving the first of two nodes that are each a child of both: the replay has work left
after any number of items, so without a bound it never ends; with its bound of `2 ^ 64` items
the save returns, and leaves the postponed work behind. -/
theorem save_mutual_kids_never_settles :
    (∀ n, (replayed n cascaded).2.session.deferred ≠ []) ∧
      ((save ⟨0⟩).run.run kidsWorld).1 = .ok true ∧
      ((save ⟨0⟩).run.run kidsWorld).2.session.deferred ≠ [] := by
  have hNode : (kidsWorld.session.arena.get? ⟨0⟩).map
      (fun i => (i.deleted, i.hasChanges kidsWorld.engine.pool.store)) = some (false, true) := by
    decide +kernel
  have hBegin : (beginUnit : SessionM Counter Unit).run.run kidsWorld = (.ok (), begun) :=
    run_eq_of_ok (Except.eq_ok_of_toOption (by decide +kernel))
  obtain ⟨hOk, hWork⟩ := replay_mutual_kids_never_drains (2 ^ 64)
  cases hi : kidsWorld.session.arena.get? ⟨0⟩ with
  | none =>
    rw [hi] at hNode
    cases hNode
  | some i =>
    rw [hi, Option.map_some, Option.some.injEq, Prod.mk.injEq] at hNode
    -- the replay's run stays unreduced: only its two facts above are used
    obtain ⟨hReturned, hLeft⟩ :=
      save_leaves_deferred_of_ok hi hNode.1 hNode.2 hBegin saveWithDeferred_replays hOk
    refine ⟨fun n => (replay_mutual_kids_never_drains n).2, hReturned, ?_⟩
    rw [hLeft]
    exact hWork

end Session

end EntityGraph
