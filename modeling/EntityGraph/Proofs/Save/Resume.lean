import EntityGraph.Proofs.Session.Failure
import EntityGraph.Schema.Registry.Build

/-!
# Resuming a failed save

Marks of change are cleared only when every stage of an instance's write succeeded, so a save
that fails leaves what it did not write marked, and saving again writes it. One write escapes
this. A new row is inserted and given its key before its table's sequence column is set to
that key by a separate update; when that update fails, the row keeps its key. Saving again then
updates the row instead of inserting it, and the update carries only the columns marked as
changed, which the sequence column is not: the sequence column is never written.

`Session.writeRow_failure_trace` says exactly what a failed row write leaves: the instances as
they were, and the rows as they were or with that row's new key, the latter only for a table
with a sequence column (`World.RowWriteTrace`). `resumed_save_leaves_number_unset` runs the
case: a ticket whose `number` mirrors its key, over a store that refuses the first update.
-/

namespace EntityGraph

namespace World

variable {τ : Type}

/-- What a failed write of a row of a table `s` may leave behind: the instances as they were,
and the rows as they were or with the row's new key, the latter only when `s` has a sequence
column. -/
def RowWriteTrace (row : RowRef) (s : Structure) (w w' : World τ) : Prop :=
  w'.session.arena = w.session.arena ∧
    (w'.engine.pool.store = w.engine.pool.store ∨
      s.sequenceColumn.isSome ∧ ∃ id, w'.engine.pool.store = w.engine.pool.store.modify row (·.setId id))

theorem RowWriteTrace.of_sameData {row : RowRef} {s : Structure} {w w' : World τ}
    (h : SameData w w') : RowWriteTrace row s w w' :=
  ⟨h.arena, Or.inl h.store⟩

theorem RowWriteTrace.sameData_trans {row : RowRef} {s : Structure} {w w₁ w₂ : World τ}
    (h : SameData w w₁) (h' : RowWriteTrace row s w₁ w₂) : RowWriteTrace row s w w₂ := by
  obtain ⟨hArena, hStore | ⟨hSeq, id, hId⟩⟩ := h'
  · exact ⟨hArena.trans h.arena, Or.inl (hStore.trans h.store)⟩
  · refine ⟨hArena.trans h.arena, Or.inr ⟨hSeq, id, ?_⟩⟩
    rw [hId, h.store]

end World

namespace Session

variable {τ : Type}

/-! ## What a failed row write leaves -/

/-- Recording an inserted row never fails. -/
theorem recordInsert_neverFails (table : EntityId) (id : Int64) (row : RowRef) :
    NeverFails (do
      modifyChanges (·.recordInsert (table, id) row)
      pure id : SessionM τ Int64) :=
  NeverFails.bind (modifyChanges_neverFails _) fun _ => NeverFails.pure _

/-- Once a new row has its key, what follows either cannot fail or is the update of the
sequence column, which changes no data when it fails: a failure leaves the row with its key. -/
theorem keyRow_failsAt (row : RowRef) (s : Structure) (id : Int64) {M : SessionM τ Int64}
    (hNone : s.sequenceColumn = none → NeverFails M) (hM : Atomic M) (w : World τ) :
    FailsAt (World.RowWriteTrace row s) (do
      setRows ((← rows).modify row (·.setId id))
      M) w := by
  intro e he
  rw [run_bind, run_rows] at he ⊢
  dsimp only at he ⊢
  rw [run_bind, run_setRows] at he ⊢
  dsimp only at he ⊢
  have hSame := hM _ e he
  have hSeq : s.sequenceColumn.isSome := by
    cases hs : s.sequenceColumn with
    | none =>
      obtain ⟨a, ha⟩ := hNone hs
        { w with engine := { w.engine with pool := { w.engine.pool with
          store := w.engine.pool.store.modify row (·.setId id) } } }
      rw [ha] at he
      cases he
    | some _ => rfl
  exact ⟨hSame.arena, Or.inr ⟨hSeq, id, hSame.store⟩⟩

variable [Transport τ]

/-- Writing a new row's key into its sequence column fails only in the transport, before the
column is set. -/
theorem sequenceUpdate_atomic (options : CompileOptions) (s : Structure) (sequence : Nat)
    (id : Int64) (table : EntityId) (row : RowRef) :
    Atomic (do
      let _ ← execute (Statement.updateColumn options s sequence (.bigInt id) id)
      setRows ((← rows).modify row (·.assign sequence (.bigInt id)))
      modifyChanges (·.recordInsert (table, id) row)
      pure id : SessionM τ Int64) :=
  OnFailure.bind_neverFails (OnFailure.of_keepsData (fun _ _ h => h) (execute_keepsData _))
    fun _ => NeverFails.bind rows_neverFails fun _ =>
      NeverFails.bind (setRows_neverFails _) fun _ => recordInsert_neverFails table id row

/-- A row write fails only in the transport: before the row changes, or, for a new row of a
table with a sequence column, after the row took its key. -/
theorem writeRow_failure_trace (row : RowRef) (table : EntityId) (explicitId : Option Int64) :
    OnFailure (fun w w' => World.RowWriteTrace row (w.engine.reg.get table) w w')
      (writeRow row table explicitId : SessionM τ Int64) := by
  unfold writeRow
  intro w
  have hRefl : ∀ w' : World τ, World.RowWriteTrace row (w'.engine.reg.get table) w' w' := fun w' =>
    World.RowWriteTrace.of_sameData (World.SameData.refl w')
  refine FailsAt.reads_bind hRefl registry_reads fun reg hReg => ?_
  refine FailsAt.reads_bind hRefl Reads.get fun w' _ => ?_
  refine FailsAt.reads_bind hRefl rows_reads fun store _ => ?_
  cases hReg
  dsimp only
  split
  · -- a stored row: only its update can fail, and it changes no data
    refine OnFailure.mono (fun _ _ h => World.RowWriteTrace.of_sameData h) ?_ w
    split
    · split
      · exact OnFailure.bind_neverFails
          (OnFailure.of_keepsData (fun _ _ h => h) (execute_keepsData _)) fun _ =>
            NeverFails.bind (modifyChanges_neverFails _) fun _ => NeverFails.pure _
      · exact OnFailure.of_neverFails
          (NeverFails.bind (modifyChanges_neverFails _) fun _ => NeverFails.pure _)
    · exact OnFailure.of_neverFails (NeverFails.pure _)
  · -- a new row: the insertion changes no data, then the row takes its key
    show FailsAt (World.RowWriteTrace row (w.engine.reg.get table)) _ w
    have hR : ∀ w₁ w₂, World.SameData w w₁ →
        World.RowWriteTrace row (w.engine.reg.get table) w₁ w₂ →
          World.RowWriteTrace row (w.engine.reg.get table) w w₂ := fun _ _ h h' =>
      World.RowWriteTrace.sameData_trans h h'
    have hR' : ∀ w₁, World.SameData w w₁ → World.RowWriteTrace row (w.engine.reg.get table) w w₁ :=
      fun _ h => World.RowWriteTrace.of_sameData h
    -- an explicit key is inserted with the row, any other insertion gives one; both go on alike
    split
    · refine FailsAt.keepsData_bind hR hR' (execute_keepsData _) fun _ w₁ _ => ?_
      rw [pure_bind]
      refine keyRow_failsAt row _ _ (fun hs => ?_) ?_ w₁
      · simpa only [hs] using recordInsert_neverFails table _ row
      · split
        · exact sequenceUpdate_atomic _ _ _ _ table row
        · exact OnFailure.of_neverFails (recordInsert_neverFails table _ row)
    · refine FailsAt.keepsData_bind hR hR' (insert_keepsData _) fun _ w₁ _ => ?_
      refine keyRow_failsAt row _ _ (fun hs => ?_) ?_ w₁
      · simpa only [hs] using recordInsert_neverFails table _ row
      · split
        · exact sequenceUpdate_atomic _ _ _ _ table row
        · exact OnFailure.of_neverFails (recordInsert_neverFails table _ row)

/-! ## A resumed save that loses the sequence column -/

/-- A store that refuses its first `fails` writes, as a unique column refuses a value another row
holds; insertions go through and take keys from 11 up. -/
structure RefusingWrites where
  fails : Nat := 0
  nextKey : Int64 := 11

instance : Transport RefusingWrites where
  query t _ _ := (t, .ok [])
  execute t _ _ := match t.fails with
    | 0 => (t, .ok 1)
    | n + 1 => ({ t with fails := n },
      .error (.database .constraint none "UNIQUE constraint failed: ticket.number" none))
  insert t _ _ := ({ t with nextKey := t.nextKey + 1 }, .ok t.nextKey)
  begin t := (t, .ok ())
  commit t := (t, .ok ())
  rollback t := (t, .ok ())

/-- Tickets whose `number` column mirrors their key. -/
def ticketsRegistry : Registry :=
  let ticket : EntityDescriptor :=
    { name := "Ticket", table := "ticket",
      columns := [Column.primary "id", { Column.ordinary "number" .bigInt with nullable := true },
        Column.ordinary "subject" .text],
      sequenced := some "number" }
  match Registry.build [ticket] with
  | .ok r => r
  | .error _ => default

/-- A session holding a new ticket with a subject, over a store that refuses its first `fails`
writes. -/
def newTicketWorld (fails : Nat) : World RefusingWrites :=
  let newTicket : SessionM RefusingWrites Bool := do
    let ticket ← create ⟨0⟩
    setField ticket "subject" (.text "new")
  (newTicket.run.run
    { engine := Engine.new ticketsRegistry {}, session := Session.new {}, transport := { fails } }).2

/-- Ticket 0 of a world, saved once. -/
def saveTicket (w : World RefusingWrites) : Except Error Bool × World RefusingWrites :=
  (save ⟨0⟩ : SessionM RefusingWrites Bool).run.run w

/-- The `number` of ticket 0. -/
def ticketNumber (w : World RefusingWrites) : Option Value :=
  ((getField ⟨0⟩ "number" : SessionM RefusingWrites Value).run.run w).1.toOption

/-- The first save of the new ticket inserts its row, then the store refuses the update of its
sequence column. Saving again over the store, which no longer refuses, succeeds, yet the
ticket's number stays `null`; one save over a store that never refuses gives it the number 11. -/
theorem resumed_save_leaves_number_unset :
    (saveTicket (newTicketWorld 1)).1.toBool = false ∧
      (saveTicket (saveTicket (newTicketWorld 1)).2).1.toOption = some true ∧
      (ticketNumber (saveTicket (saveTicket (newTicketWorld 1)).2).2).map Value.isNull = some true ∧
      (ticketNumber (saveTicket (newTicketWorld 0)).2).bind Value.asInt64? = some 11 :=
  ⟨by decide +kernel, by decide +kernel, by decide +kernel, by decide +kernel⟩

end Session

end EntityGraph
