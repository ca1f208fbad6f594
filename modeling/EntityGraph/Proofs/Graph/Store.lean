import EntityGraph.Graph.Arena

/-!
# Rows, instances and arenas

The rows of an engine live in one `RowStore`, shared by the row cache and by the instances of
every session. Writing a field through an instance must therefore never change a row that some
other holder may read unless the row is the writer's own: `Instance.write` changes a row in place
only when it already carries unsaved changes, and otherwise adds a modified copy to the store.

The main statement is `Instance.write_get_of_clean`: a write leaves every unmodified row of the
store as it was. Whether the rows other holders read are unmodified is not the write's business;
`Proofs.Cache.Isolation` states when they are. A write changes nothing of the instance but its
row slots (`Instance.write_eq_rows`), and changing one instance of an arena leaves the others
as they are (`Arena.get?_modify`).
-/

namespace EntityGraph

namespace RowStore

/-! ## Reading, adding and changing rows -/

theorem get_of_lt {s : RowStore} {r : RowRef} (h : r.index < s.rows.size) :
    s.get r = s.rows[r.index] := by
  simp only [get, Array.getElem?_eq_getElem h, Option.getD_some]

/-- A reference the store never gave out reads as the blank row, which counts as modified: an
unmodified row is a row of the store. -/
theorem lt_of_not_isModified {s : RowStore} {r : RowRef} (h : (s.get r).isModified = false) :
    r.index < s.rows.size := by
  rcases Nat.lt_or_ge r.index s.rows.size with hlt | hge
  · exact hlt
  · have hNone : s.rows[r.index]? = none := Array.getElem?_eq_none hge
    simp only [get, hNone, Option.getD_none] at h
    cases h

@[simp] theorem size_add (s : RowStore) (row : ModelRow) : (s.add row).1.rows.size = s.rows.size + 1 :=
  Array.size_push _

@[simp] theorem add_ref (s : RowStore) (row : ModelRow) : (s.add row).2 = ⟨s.rows.size⟩ := rfl

@[simp] theorem get_add_self (s : RowStore) (row : ModelRow) : (s.add row).1.get (s.add row).2 = row := by
  simp only [add, get, Array.getElem?_push_size, Option.getD_some]

theorem get_add_of_lt (s : RowStore) (row : ModelRow) {r : RowRef} (h : r.index < s.rows.size) :
    (s.add row).1.get r = s.get r := by
  simp only [add, get, Array.getElem?_push_lt h, Array.getElem?_eq_getElem h]

@[simp] theorem size_modify (s : RowStore) (r : RowRef) (f : ModelRow → ModelRow) :
    (s.modify r f).rows.size = s.rows.size :=
  Array.size_modify ..

theorem get_modify_of_ne (s : RowStore) {r r' : RowRef} (f : ModelRow → ModelRow) (h : r ≠ r') :
    (s.modify r f).get r' = s.get r' := by
  have hIndex : r.index ≠ r'.index := fun he => h (by cases r; cases r'; simp_all)
  simp only [modify, get, Array.getElem?_modify, hIndex, if_false]

theorem get_modify_self (s : RowStore) (r : RowRef) (f : ModelRow → ModelRow)
    (h : r.index < s.rows.size) : (s.modify r f).get r = f (s.get r) := by
  simp only [modify, get, Array.getElem?_modify, if_true, Array.getElem?_eq_getElem h,
    Option.map_some, Option.getD_some]

end RowStore

namespace Instance

/-! ## Writing through an instance -/

/-- Writing a field never changes an unmodified row of the store: such a row is either not the
instance's, or it is replaced in the instance by a modified copy. -/
theorem write_get_of_clean (i : Instance) (reg : Registry) (store : RowStore) (slot column : Nat)
    (v : Value) {r : RowRef} (hr : (store.get r).isModified = false) :
    (i.write reg store slot column v).1.get r = store.get r := by
  have hlt := RowStore.lt_of_not_isModified hr
  unfold write
  cases hslot : i.row? slot with
  | some r₀ =>
    -- the slot holds a row `r₀`: only the in-place branch changes an old row, and `r₀` is modified
    simp only
    split
    · rfl
    · split
      · rename_i hMod
        have hne : r₀ ≠ r := fun he => by rw [he, hr] at hMod; cases hMod
        exact RowStore.get_modify_of_ne _ _ hne
      · exact RowStore.get_add_of_lt _ _ hlt
  | none =>
    -- an empty slot first gets a fresh row past the end of the store
    simp only
    generalize ModelRow.new (reg.get ((i.layout[slot]?).getD default)) = fresh
    have hold := RowStore.get_add_of_lt store fresh hlt
    have hne : (store.add fresh).2 ≠ r := fun he => by
      have hIndex := congrArg RowRef.index he
      simp only [RowStore.add_ref] at hIndex
      omega
    have hlt₁ : r.index < (store.add fresh).1.rows.size := by
      simp only [RowStore.size_add]
      omega
    split
    · exact hold
    · split
      · rw [RowStore.get_modify_of_ne _ _ hne, hold]
      · rw [RowStore.get_add_of_lt _ _ hlt₁, hold]

/-- A write changes the instance's row slots and nothing else. -/
theorem write_eq_rows (i : Instance) (reg : Registry) (store : RowStore) (slot column : Nat)
    (v : Value) :
    (i.write reg store slot column v).2.1 = { i with rows := (i.write reg store slot column v).2.1.rows } := by
  unfold write
  cases i.row? slot with
  | some r₀ =>
    simp only
    split
    · rfl
    · split <;> rfl
  | none =>
    simp only
    split
    · rfl
    · split <;> rfl

theorem write_saving (i : Instance) (reg : Registry) (store : RowStore) (slot column : Nat)
    (v : Value) : (i.write reg store slot column v).2.1.saving = i.saving := by
  rw [write_eq_rows]

@[simp] theorem setRelation_saving (i : Instance) (name : String) (d : RelationalData) :
    (i.setRelation name d).saving = i.saving := by
  unfold setRelation
  split <;> rfl

/-- Steps that keep an instance's saving flag keep it over a whole fold. -/
theorem foldl_saving {α : Type} (f : Instance → α → Instance) (hf : ∀ i a, (f i a).saving = i.saving) :
    ∀ (l : List α) (i : Instance), (l.foldl f i).saving = i.saving
  | [], _ => rfl
  | a :: l, i => by rw [List.foldl_cons, foldl_saving f hf l, hf]

end Instance

namespace Arena

/-! ## Instances of an arena -/

theorem get?_modify (a : Arena) (h g : InstanceId) (f : Instance → Instance) :
    (a.modify h f).get? g = if h = g then (a.get? g).map f else a.get? g := by
  have hIndex : (h.index = g.index) = (h = g) := by
    apply propext
    constructor
    · intro he
      cases h
      cases g
      simp only at he
      rw [he]
    · intro he
      rw [he]
  simp only [modify, get?, Array.getElem?_modify, hIndex]

@[simp] theorem size_modify (a : Arena) (h : InstanceId) (f : Instance → Instance) :
    (a.modify h f).size = a.size :=
  Array.size_modify

@[simp] theorem remember_instances (a : Arena) (store : RowStore) (h : InstanceId) :
    (a.remember store h).instances = a.instances := by
  unfold remember
  split
  · split <;> rfl
  · rfl

end Arena

end EntityGraph
