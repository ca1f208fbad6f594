import EntityGraph.RowCache

/-!
# The row cache is a least-recently-used cache per entity

`RowCache` keeps its rows in two structures: the entries, each with the tick of its last use,
and for each entity the ids it keeps, ordered by those ticks. `Lru` states the discipline the two
implement on one list of rows, least recently used first. A hit moves the row to the end; a new
row goes to the end, after the entity's first row is dropped when the entity already holds
`capacity` rows; nothing is kept at capacity `0`. An entity's recency order is the part of the
list that holds its rows (`Lru.rowsOf`).

`RowCache.Refines c m` says how a cache stands for such a list: the entries without their ticks
are the list's rows in some order, the ticks grow along the list, each entity's order holds its
rows' ticks and ids in list order, and no entity keeps an empty order. Every call keeps it and
gives the list's answer (`RowCache.Refines.call`), so a whole run does (`RowCache.Refines.run`).

Main statement: `RowCache.run_refines_lru`. From an empty cache, every sequence of calls gives
the answers, counts and kept keys of the list discipline, no entity keeps more than `capacity`
rows, and the entries and the recency orders stay in bijection (`RowCache.Coherent`).
-/

namespace EntityGraph

/-! ## Calls -/

/-- A call on a row cache. A row is put under its own key, its table level and id; a row that has
no id has no key. -/
inductive CacheCall (ρ : Type) where
  | get (key : RowKey)
  | getOrInsert (key : RowKey) (row : ρ)
  | put (key : Option RowKey) (row : ρ)
  | evict (key : RowKey)
  | clear

/-- The answer to a call: the row found; the row kept, with whether it was made; whether an
evicted key was kept; or nothing. -/
inductive CacheAnswer (ρ : Type) where
  | found (row : Option ρ)
  | kept (row : ρ) (made : Bool)
  | evicted (kept : Bool)
  | done

/-- Make calls one after another, collecting the answers. -/
def CacheCall.run {σ ρ : Type} (step : σ → CacheCall ρ → σ × CacheAnswer ρ) :
    σ → List (CacheCall ρ) → σ × List (CacheAnswer ρ)
  | s, [] => (s, [])
  | s, x :: xs =>
    let (s, a) := step s x
    let (s, as) := run step s xs
    (s, a :: as)

/-! ## Keyed lists -/

section Keyed

variable {α β γ : Type} [DecidableEq α] [BEq α] [LawfulBEq α]

theorem lookup_cons_eq_ite (k a : α) (b : β) (l : List (α × β)) :
    ((a, b) :: l).lookup k = if k = a then some b else l.lookup k := by
  by_cases h : k = a
  · simp [h]
  · simp [List.lookup_cons, beq_eq_false_iff_ne.mpr h, h]

/-- A key has a value exactly when some pair carries it. -/
theorem lookup_isSome (l : List (α × β)) (k : α) : (l.lookup k).isSome = l.any (·.1 == k) := by
  induction l with
  | nil => rfl
  | cons p l ih =>
    obtain ⟨a, b⟩ := p
    rw [lookup_cons_eq_ite, List.any_cons]
    by_cases hk : k = a
    · simp [hk]
    · simp [hk, ih, Ne.symm hk]

theorem lookup_map_value (g : β → γ) : ∀ (l : List (α × β)) (k : α),
    (l.map fun p => (p.1, g p.2)).lookup k = (l.lookup k).map g
  | [], _ => rfl
  | (a, b) :: l, k => by
    simp only [List.map_cons, lookup_cons_eq_ite, lookup_map_value g l k]
    split <;> rfl

theorem lookup_filter_key (key : α) : ∀ (l : List (α × β)) (k : α),
    (l.filter (·.1 != key)).lookup k = if k = key then none else l.lookup k
  | [], _ => by simp
  | (a, b) :: l, k => by
    have ih := lookup_filter_key key l k
    by_cases ha : a = key
    · -- the pair of the key is dropped
      subst ha
      simp only [List.filter_cons, bne_self_eq_false, Bool.false_eq_true, if_false, ih,
        lookup_cons_eq_ite]
      by_cases hk : k = a <;> simp [hk]
    · simp only [List.filter_cons, bne_iff_ne.mpr ha, if_true, lookup_cons_eq_ite, ih]
      by_cases hk : k = a
      · subst hk
        simp [ha]
      · simp [hk]

theorem lookup_map_replace (key : α) (f : β → β) : ∀ (l : List (α × β)) (k : α),
    (l.map fun p => if p.1 == key then (key, f p.2) else p).lookup k =
      if k = key then (l.lookup key).map f else l.lookup k
  | [], _ => by simp
  | (a, b) :: l, k => by
    have ih := lookup_map_replace key f l k
    by_cases ha : a = key
    · -- the pair of the key is replaced
      subst ha
      simp only [List.map_cons, beq_self_eq_true, if_true, lookup_cons_eq_ite, ih]
      by_cases hk : k = a <;> simp [hk]
    · simp only [List.map_cons, beq_eq_false_iff_ne.mpr ha, Bool.false_eq_true, if_false,
        lookup_cons_eq_ite, ih]
      by_cases hk : k = a
      · subst hk
        simp [ha]
      · by_cases hkk : k = key
        · subst hkk
          simp [Ne.symm ha]
        · simp [hk, hkk]

theorem lookup_append_new {l : List (α × β)} {key : α} (h : l.lookup key = none) (v : β) (k : α) :
    (l ++ [(key, v)]).lookup k = if k = key then some v else l.lookup k := by
  rw [List.lookup_append, lookup_cons_eq_ite]
  by_cases hk : k = key
  · subst hk
    simp [h]
  · simp [hk]

theorem mem_of_lookup : ∀ {l : List (α × β)} {k : α} {v : β}, l.lookup k = some v → (k, v) ∈ l
  | [], _, _, h => by simp at h
  | (a, b) :: l, k, v, h => by
    rw [lookup_cons_eq_ite] at h
    split at h
    · next hk =>
      cases h
      simp [hk]
    · exact List.mem_cons_of_mem _ (mem_of_lookup h)

theorem lookup_of_mem : ∀ {l : List (α × β)} {k : α} {v : β}, (l.map (·.1)).Nodup →
    (k, v) ∈ l → l.lookup k = some v
  | [], _, _, _, h => by simp at h
  | (a, b) :: l, k, v, hn, h => by
    rw [List.map_cons, List.nodup_cons] at hn
    rw [lookup_cons_eq_ite]
    rcases List.mem_cons.mp h with he | he
    · cases he
      simp
    · have hk : k ≠ a := fun hk => hn.1 (hk ▸ List.mem_map_of_mem (f := (·.1)) he)
      simp [hk, lookup_of_mem hn.2 he]

/-- Lists with distinct keys that hold the same pairs look every key up alike. -/
theorem lookup_eq_of_perm {l₁ l₂ : List (α × β)} (hp : l₁.Perm l₂) (hn : (l₁.map (·.1)).Nodup)
    (k : α) : l₁.lookup k = l₂.lookup k := by
  induction hp with
  | nil => rfl
  | cons x _ ih =>
    rw [List.map_cons, List.nodup_cons] at hn
    rw [lookup_cons_eq_ite, lookup_cons_eq_ite, ih hn.2]
  | swap x y l =>
    simp only [List.map_cons, List.nodup_cons, List.mem_cons, not_or] at hn
    have hxy : x.1 ≠ y.1 := fun h => hn.1.1 h.symm
    rw [lookup_cons_eq_ite, lookup_cons_eq_ite, lookup_cons_eq_ite, lookup_cons_eq_ite]
    by_cases hy : k = y.1
    · subst hy
      simp [Ne.symm hxy]
    · by_cases hx : k = x.1 <;> simp [hx, hy, hxy]
  | trans h₁ _ ih₁ ih₂ =>
    rw [ih₁ hn, ih₂ ((h₁.map _).nodup_iff.mp hn)]

/-- Moving the one pair of a key to the end keeps the pairs. -/
theorem perm_move_last : ∀ {l : List (α × β)} {key : α} {v : β}, (l.map (·.1)).Nodup →
    l.lookup key = some v → l.Perm (l.filter (·.1 != key) ++ [(key, v)])
  | [], _, _, _, h => by simp at h
  | (a, b) :: l, key, v, hn, h => by
    rw [List.map_cons, List.nodup_cons] at hn
    rw [lookup_cons_eq_ite] at h
    by_cases ha : key = a
    · subst ha
      simp only [if_true, Option.some.injEq] at h
      subst h
      have hrest : l.filter (·.1 != key) = l := List.filter_eq_self.mpr fun p hp =>
        bne_iff_ne.mpr fun he => hn.1 (he ▸ List.mem_map_of_mem (f := (·.1)) hp)
      simpa [List.filter_cons, hrest] using List.perm_append_singleton (key, b) l |>.symm
    · rw [if_neg ha] at h
      have hb : (a != key) = true := bne_iff_ne.mpr (Ne.symm ha)
      simpa [List.filter_cons, hb] using (perm_move_last hn.2 h).cons (a, b)

/-- In a list whose values are injective, a value names one element. -/
theorem eq_of_map_eq_of_pairwise {δ : Type} {g : δ → Nat} : ∀ {l : List δ},
    (l.map g).Pairwise (· < ·) → ∀ {p q : δ}, p ∈ l → q ∈ l → g p = g q → p = q
  | [], _, _, _, hp, _, _ => by simp at hp
  | x :: l, hl, p, q, hp, hq, hg => by
    rw [List.map_cons, List.pairwise_cons] at hl
    have hx : ∀ r ∈ l, g x < g r := fun r hr => hl.1 _ (List.mem_map_of_mem hr)
    rcases List.mem_cons.mp hp with rfl | hp' <;> rcases List.mem_cons.mp hq with rfl | hq'
    · rfl
    · exact absurd hg (Nat.ne_of_lt (hx q hq'))
    · exact absurd hg.symm (Nat.ne_of_lt (hx p hp'))
    · exact eq_of_map_eq_of_pairwise hl.2 hp' hq' hg

end Keyed

/-! ## The discipline on one list -/

/-- Rows kept under their keys, least recently used first, with the counts of a cache. -/
structure Lru (ρ : Type) where
  capacity : Nat
  items : List (RowKey × ρ) := []
  hits : Nat := 0
  misses : Nat := 0
  evictions : Nat := 0

namespace Lru

variable {ρ : Type}

/-- The row kept under a key. -/
def find? (m : Lru ρ) (key : RowKey) : Option ρ := m.items.lookup key

/-- The ids and rows an entity keeps, least recently used first. -/
def rowsOf (m : Lru ρ) (e : EntityId) : List (Int64 × ρ) :=
  (m.items.filter (·.1.1 == e)).map fun p => (p.1.2, p.2)

/-- Forget a key. -/
def drop (m : Lru ρ) (key : RowKey) : Lru ρ := { m with items := m.items.filter (·.1 != key) }

/-- Keep a row under a key as the most recently used. -/
def refresh (m : Lru ρ) (key : RowKey) (row : ρ) : Lru ρ :=
  { m with items := (m.drop key).items ++ [(key, row)] }

/-- Drop the least recently used row of an entity, counted as an eviction. -/
def dropOldest (m : Lru ρ) (e : EntityId) : Lru ρ :=
  match m.rowsOf e with
  | (id, _) :: _ => { m.drop (e, id) with evictions := m.evictions + 1 }
  | [] => m

/-- Keep a row under a key that is not kept, as the most recently used; an entity that already
holds `capacity` rows first loses its least recently used one. Nothing is kept at capacity `0`. -/
def add (m : Lru ρ) (key : RowKey) (row : ρ) : Lru ρ :=
  if m.capacity = 0 then m
  else
    let m := if m.capacity ≤ (m.rowsOf key.1).length then m.dropOldest key.1 else m
    { m with items := m.items ++ [(key, row)] }

/-- A call made under the discipline. -/
def call (m : Lru ρ) : CacheCall ρ → Lru ρ × CacheAnswer ρ
  | .get key =>
    match m.find? key with
    | some row => ({ m.refresh key row with hits := m.hits + 1 }, .found (some row))
    | none => ({ m with misses := m.misses + 1 }, .found none)
  | .getOrInsert key row =>
    match m.find? key with
    | some kept => ({ m.refresh key kept with hits := m.hits + 1 }, .kept kept false)
    | none => (({ m with misses := m.misses + 1 } : Lru ρ).add key row, .kept row true)
  | .put (some key) row => (if (m.find? key).isSome then m.refresh key row else m.add key row, .done)
  | .put none _ => (m, .done)
  | .evict key => (m.drop key, .evicted (m.find? key).isSome)
  | .clear => ({ m with items := [] }, .done)

/-- The counts and the number of rows kept. -/
def stats (m : Lru ρ) : CacheStats :=
  { hits := m.hits, misses := m.misses, evictions := m.evictions, len := m.items.length }

/-- Dropping a key leaves the rows of other entities. -/
theorem drop_filter_entity (m : Lru ρ) {key : RowKey} {e : EntityId} (he : e ≠ key.1) :
    (m.drop key).items.filter (·.1.1 == e) = m.items.filter (·.1.1 == e) := by
  simp only [drop, List.filter_filter]
  apply List.filter_congr
  intro p _
  by_cases hp : p.1.1 = e
  · have hne : p.1 ≠ key := fun hk => he (by rw [← hp, hk])
    simp [hp, hne]
  · simp [hp]

/-! ### Lemmas of the discipline -/

theorem not_mem_keys {m : Lru ρ} (hn : (m.items.map (·.1)).Nodup) {key : RowKey}
    (hm : m.find? key = none) : key ∉ m.items.map (·.1) := by
  intro hk
  obtain ⟨p, hp, rfl⟩ := List.mem_map.mp hk
  have := lookup_of_mem hn hp
  rw [Lru.find?] at hm
  rw [hm] at this
  cases this

theorem find?_dropOldest {m : Lru ρ} {key : RowKey} (hm : m.find? key = none) (e : EntityId) :
    (m.dropOldest e).find? key = none := by
  unfold Lru.dropOldest
  split
  · simp only [Lru.find?, Lru.drop, lookup_filter_key]
    split
    · rfl
    · exact hm
  · exact hm

/-- Putting a row under a kept key replaces its row and makes it the most recently used. -/
theorem refresh_replace (m : Lru ρ) (key : RowKey) (old row : ρ) :
    ((m.refresh key old).items.map fun kv => if kv.1 == key then (key, row) else kv) =
      (m.refresh key row).items := by
  simp only [Lru.refresh, Lru.drop, List.map_append, List.map_cons, List.map_nil, beq_self_eq_true,
    if_true]
  have hkeep : ∀ kv ∈ m.items.filter (·.1 != key),
      (if kv.1 == key then (key, row) else kv) = kv := fun kv hkv => by
    simp [bne_iff_ne.mp (List.mem_filter.mp hkv).2]
  rw [List.map_congr_left hkeep, List.map_id']

/-- Dropping a key that is not kept changes nothing. -/
theorem drop_of_find_none {m : Lru ρ} (hn : (m.items.map (·.1)).Nodup) {key : RowKey}
    (hm : m.find? key = none) : m.drop key = m := by
  have hnot := not_mem_keys hn hm
  have hf : m.items.filter (·.1 != key) = m.items := List.filter_eq_self.mpr fun p hp =>
    bne_iff_ne.mpr fun hk => hnot (hk ▸ List.mem_map_of_mem hp)
  simp only [Lru.drop, hf]

/-! ## At most `capacity` rows per entity -/

/-- No entity holds more than `capacity` rows. -/
def Bounded (m : Lru ρ) : Prop := ∀ e, (m.items.filter (·.1.1 == e)).length ≤ m.capacity

/-- Dropping a kept key takes one row from its entity. -/
theorem length_filter_drop {m : Lru ρ} (hn : (m.items.map (·.1)).Nodup) {key : RowKey} {v : ρ}
    (hm : m.find? key = some v) (e : EntityId) :
    (m.items.filter (·.1.1 == e)).length =
      ((m.drop key).items.filter (·.1.1 == e)).length + if key.1 = e then 1 else 0 := by
  rw [((perm_move_last hn hm).filter (·.1.1 == e)).length_eq, List.filter_append, List.length_append]
  by_cases he : key.1 = e <;> simp [Lru.drop, he]

theorem Bounded.drop {m : Lru ρ} (hb : m.Bounded) (key : RowKey) : (m.drop key).Bounded :=
  fun e => Nat.le_trans ((List.filter_sublist).filter _).length_le (hb e)

theorem Bounded.refresh {m : Lru ρ} (hb : m.Bounded) (hn : (m.items.map (·.1)).Nodup)
    {key : RowKey} {v : ρ} (hm : m.find? key = some v) (row : ρ) : (m.refresh key row).Bounded := by
  intro e
  have hlen : ((m.refresh key row).items.filter (·.1.1 == e)).length =
      ((m.drop key).items.filter (·.1.1 == e)).length + if key.1 = e then 1 else 0 := by
    by_cases he : key.1 = e <;> simp [Lru.refresh, List.filter_append, he]
  rw [hlen, ← Lru.length_filter_drop hn hm e]
  exact hb e

/-- Adding a row keeps every entity within its capacity: a full entity loses its oldest row
first. -/
theorem Bounded.add {m : Lru ρ} (hb : m.Bounded) (hn : (m.items.map (·.1)).Nodup)
    (key : RowKey) (row : ρ) : (m.add key row).Bounded := by
  intro e
  have happ : ∀ l : List (RowKey × ρ), ((l ++ [(key, row)]).filter (·.1.1 == e)).length =
      (l.filter (·.1.1 == e)).length + if key.1 = e then 1 else 0 := by
    intro l
    by_cases he : key.1 = e <;> simp [List.filter_append, he]
  unfold Lru.add
  by_cases h0 : m.capacity = 0
  · simpa [h0] using hb e
  · simp only [h0, if_false]
    by_cases hfull : m.capacity ≤ (m.rowsOf key.1).length
    · simp only [hfull, if_true]
      -- the entity is full, so it has a least recently used row, and that row goes
      have hlen : (m.items.filter (·.1.1 == key.1)).length = m.capacity := by
        have := hb key.1
        simp only [Lru.rowsOf, List.length_map] at hfull
        omega
      cases hl : m.items.filter (·.1.1 == key.1) with
      | nil => rw [hl] at hlen; simp at hlen; omega
      | cons p₀ rest =>
        have hp₀ := List.mem_filter.mp (hl ▸ List.mem_cons_self : p₀ ∈ m.items.filter (·.1.1 == key.1))
        have hk₀ : (key.1, p₀.1.2) = p₀.1 := by rw [← beq_iff_eq.mp hp₀.2]
        have hdrop : m.dropOldest key.1 = { m.drop p₀.1 with evictions := m.evictions + 1 } := by
          simp only [Lru.dropOldest, Lru.rowsOf, hl, List.map_cons, hk₀]
        rw [hdrop]
        show ((( m.drop p₀.1).items ++ [(key, row)]).filter (·.1.1 == e)).length ≤ m.capacity
        have hd := Lru.length_filter_drop hn (lookup_of_mem hn hp₀.1) e
        rw [happ, beq_iff_eq.mp hp₀.2] at *
        have := hb e
        by_cases he : key.1 = e
        · subst he
          simp only [if_true] at hd ⊢
          omega
        · simp only [he, if_false] at hd ⊢
          omega
    · simp only [hfull, if_false]
      rw [happ]
      simp only [Lru.rowsOf, List.length_map] at hfull
      by_cases he : key.1 = e
      · subst he
        simp only [if_true]
        omega
      · simpa [he] using hb e

/-- Each call keeps every entity within its capacity. -/
theorem Bounded.call {m : Lru ρ} (hb : m.Bounded) (hn : (m.items.map (·.1)).Nodup)
    (x : CacheCall ρ) : (m.call x).1.Bounded := by
  cases x with
  | get key =>
    cases hm : m.find? key with
    | none => simp only [Lru.call, hm]; exact hb
    | some row => simp only [Lru.call, hm]; exact hb.refresh hn hm row
  | getOrInsert key row =>
    cases hm : m.find? key with
    | none =>
      simp only [Lru.call, hm]
      exact @Bounded.add ρ { m with misses := m.misses + 1 } hb hn key row
    | some kept => simp only [Lru.call, hm]; exact hb.refresh hn hm kept
  | put key row =>
    cases key with
    | none => exact hb
    | some key =>
      cases hm : m.find? key with
      | none => simpa [Lru.call, hm] using hb.add hn key row
      | some old => simpa [Lru.call, hm] using hb.refresh hn hm row
  | evict key => exact hb.drop key
  | clear => exact fun e => by simp [Lru.call]

/-- Calls never change the capacity. -/
theorem capacity_call (m : Lru ρ) (x : CacheCall ρ) : (m.call x).1.capacity = m.capacity := by
  have hadd : ∀ (m : Lru ρ) key row, (m.add key row).capacity = m.capacity := by
    intro m key row
    unfold add dropOldest
    split
    · rfl
    · split <;> (try split) <;> rfl
  cases x with
  | get key =>
    simp only [Lru.call]
    split <;> rfl
  | getOrInsert key row =>
    simp only [Lru.call]
    split
    · rfl
    · exact hadd _ key row
  | put key row =>
    cases key with
    | none => rfl
    | some key =>
      simp only [Lru.call]
      split
      · rfl
      · exact hadd m key row
  | evict key => rfl
  | clear => rfl

theorem capacity_run (m : Lru ρ) : ∀ xs : List (CacheCall ρ),
    (CacheCall.run Lru.call m xs).1.capacity = m.capacity
  | [] => rfl
  | x :: xs => by
    simp only [CacheCall.run]
    rw [capacity_run, capacity_call]

end Lru

namespace RowCache

variable {ρ : Type}

/-- A call made on the cache. -/
def call (c : RowCache ρ) : CacheCall ρ → RowCache ρ × CacheAnswer ρ
  | .get key => let (c, row) := c.get key; (c, .found row)
  | .getOrInsert key row =>
    let (c, kept, made) := Id.run (c.getOrInsert key (pure row))
    (c, .kept kept made)
  | .put (some key) row => (c.put key row, .done)
  | .put none _ => (c, .done)
  | .evict key => let (c, kept) := c.evict key; (c, .evicted kept)
  | .clear => (c.clear, .done)

/-- The tick of the last use of a kept key. -/
def tickOf (c : RowCache ρ) (key : RowKey) : Nat := ((c.entry? key).map (·.lastUsed)).getD 0

/-- A kept row's place in its entity's recency order: its tick and its id. -/
def stamp (c : RowCache ρ) (p : RowKey × ρ) : Nat × Int64 := (c.tickOf p.1, p.1.2)

/-! ## Views of the operations -/

section Views

variable (c : RowCache ρ) (e e' : EntityId) (o : List (Nat × Int64))

@[simp] theorem entries_setOrder : (c.setOrder e o).entries = c.entries := rfl
@[simp] theorem tick_setOrder : (c.setOrder e o).tick = c.tick := rfl
@[simp] theorem capacity_setOrder : (c.setOrder e o).capacity = c.capacity := rfl
@[simp] theorem hits_setOrder : (c.setOrder e o).hits = c.hits := rfl
@[simp] theorem misses_setOrder : (c.setOrder e o).misses = c.misses := rfl
@[simp] theorem evictions_setOrder : (c.setOrder e o).evictions = c.evictions := rfl

@[simp] theorem entry?_setOrder (key : RowKey) : RowCache.entry? (c.setOrder e o) key = c.entry? key := rfl
@[simp] theorem tickOf_setOrder (key : RowKey) : (c.setOrder e o).tickOf key = c.tickOf key := rfl

/-- Setting an entity's order changes that order alone. -/
@[simp] theorem order_setOrder : (c.setOrder e o).order e' = if e' = e then o else c.order e' := by
  unfold order setOrder
  by_cases ho : o = []
  · subst ho
    simp only [List.isEmpty_nil, if_true, lookup_filter_key]
    split <;> rfl
  · have hne : o.isEmpty = false := List.isEmpty_eq_false_iff.mpr ho
    simp only [hne, Bool.false_eq_true, if_false]
    rw [List.lookup_append, lookup_filter_key, lookup_cons_eq_ite, List.lookup_nil]
    split <;> simp

/-- Setting an order keeps every entity's order non-empty. -/
theorem setOrder_nonempty (h : ∀ p ∈ c.recency, p.2 ≠ []) : ∀ p ∈ (c.setOrder e o).recency, p.2 ≠ [] := by
  intro p hp
  unfold setOrder at hp
  split at hp
  · exact h p (List.mem_filter.mp hp).1
  · next ho =>
    rcases List.mem_append.mp hp with hp | hp
    · exact h p (List.mem_filter.mp hp).1
    · rw [List.mem_singleton.mp hp]
      simpa using ho

/-- Setting an order keeps one order per entity. -/
theorem setOrder_nodup (h : (c.recency.map (·.1)).Nodup) : ((c.setOrder e o).recency.map (·.1)).Nodup := by
  have hf : ((c.recency.filter (·.1 != e)).map (·.1)).Nodup := (h.sublist ((List.filter_sublist).map _))
  have hnot : e ∉ (c.recency.filter (·.1 != e)).map (·.1) := by
    simp
  unfold setOrder
  split
  · exact hf
  · simpa [List.map_append, List.nodup_append, hnot] using hf

end Views

/-! ## Entries and orders in step -/

/-- The entries and the recency orders describe the same rows: a key is kept exactly when its id
stands in its entity's order under the tick of its last use; ticks grow along each order; no
entity keeps an empty order or two orders; and no key has two entries. -/
structure Coherent (c : RowCache ρ) : Prop where
  mem_order : ∀ e t id, (t, id) ∈ c.order e ↔ ∃ en, c.entry? (e, id) = some en ∧ en.lastUsed = t
  ticks_increase : ∀ e, ((c.order e).map (·.1)).Pairwise (· < ·)
  orders_nonempty : ∀ p ∈ c.recency, p.2 ≠ []
  entities_nodup : (c.recency.map (·.1)).Nodup
  keys_nodup : (c.entries.map (·.1)).Nodup

/-- How a cache stands for rows kept under the discipline: the same capacity and counts; the
entries without their ticks are the kept rows in some order; the ticks grow along the list and
none is past the cache's tick; each entity's order lists its rows' stamps in list order; and no
entity keeps an empty order or two orders. -/
structure Refines (c : RowCache ρ) (m : Lru ρ) : Prop where
  capacity : c.capacity = m.capacity
  hits : c.hits = m.hits
  misses : c.misses = m.misses
  evictions : c.evictions = m.evictions
  rows : (c.entries.map fun p => (p.1, p.2.row)).Perm m.items
  keys_nodup : (m.items.map (·.1)).Nodup
  order : ∀ e, c.order e = (m.items.filter (·.1.1 == e)).map c.stamp
  ticks : (m.items.map fun p => c.tickOf p.1).Pairwise (· < ·)
  fresh : ∀ p ∈ m.items, c.tickOf p.1 ≤ c.tick
  orders_nonempty : ∀ p ∈ c.recency, p.2 ≠ []
  entities_nodup : (c.recency.map (·.1)).Nodup

namespace Refines

variable {c : RowCache ρ} {m : Lru ρ}

theorem entries_nodup (h : c.Refines m) : (c.entries.map (·.1)).Nodup := by
  have := (h.rows.map (·.1)).nodup_iff.mpr h.keys_nodup
  simpa [List.map_map, Function.comp_def] using this

/-- A key's entry holds the row the list keeps under it. -/
theorem entry (h : c.Refines m) (key : RowKey) : (c.entry? key).map (·.row) = m.find? key := by
  have hn : ((c.entries.map fun p => (p.1, p.2.row)).map (·.1)).Nodup := by
    simpa [List.map_map, Function.comp_def] using h.entries_nodup
  rw [RowCache.entry?, ← lookup_map_value, lookup_eq_of_perm h.rows hn]
  rfl

theorem entry_of_find (h : c.Refines m) {key : RowKey} {row : ρ} (hm : m.find? key = some row) :
    ∃ en, c.entry? key = some en ∧ en.row = row := by
  have he := h.entry key
  rw [hm] at he
  obtain ⟨en, hen, hrow⟩ := Option.map_eq_some_iff.mp he
  exact ⟨en, hen, hrow⟩

theorem entry_of_find_none (h : c.Refines m) {key : RowKey} (hm : m.find? key = none) :
    c.entry? key = none := by
  have he := h.entry key
  rw [hm] at he
  exact Option.map_eq_none_iff.mp he

/-- Two kept rows used at the same tick are one row. -/
theorem eq_of_tick (h : c.Refines m) {p q : RowKey × ρ} (hp : p ∈ m.items) (hq : q ∈ m.items)
    (ht : c.tickOf p.1 = c.tickOf q.1) : p = q :=
  eq_of_map_eq_of_pairwise h.ticks hp hq ht

/-- Dropping a kept key from the list drops its tick from its entity's order, and from no other
order. -/
theorem order_drop (h : c.Refines m) {key : RowKey} {row : ρ} (hm : m.find? key = some row)
    (e : EntityId) :
    ((m.drop key).items.filter (·.1.1 == e)).map c.stamp = (c.order e).filter (·.1 != c.tickOf key) := by
  have hkey : (key, row) ∈ m.items := mem_of_lookup hm
  rw [h.order e, List.filter_map]
  congr 1
  simp only [Lru.drop, List.filter_filter]
  apply List.filter_congr
  intro p hp
  -- a kept row has the key's tick exactly when it is the key's row
  have hiff : p.1 = key ↔ c.tickOf p.1 = c.tickOf key := by
    constructor
    · intro hk
      rw [hk]
    · intro ht
      exact congrArg Prod.fst (h.eq_of_tick hp hkey ht)
  simp only [Function.comp_def, stamp]
  rw [Bool.and_comm]
  congr 1
  rw [Bool.eq_iff_iff, bne_iff_ne, bne_iff_ne, ne_eq, ne_eq, hiff]

/-- A hit is counted on both sides. -/
theorem hit (h : c.Refines m) :
    ({ c with hits := c.hits + 1 } : RowCache ρ).Refines { m with hits := m.hits + 1 } :=
  { h with hits := congrArg (· + 1) h.hits }

/-- A miss is counted on both sides. -/
theorem miss (h : c.Refines m) :
    ({ c with misses := c.misses + 1 } : RowCache ρ).Refines { m with misses := m.misses + 1 } :=
  { h with misses := congrArg (· + 1) h.misses }

/-- Taking a tick keeps the rows, and every kept row was used before it. -/
theorem touch (h : c.Refines m) :
    ∃ c₁ t, c.touch = (c₁, t) ∧ c₁.Refines m ∧ c₁.tick = t ∧ ∀ p ∈ m.items, c₁.tickOf p.1 < t :=
  ⟨_, _, rfl, { h with fresh := fun p hp => Nat.le_succ_of_le (h.fresh p hp) }, rfl,
    fun p hp => Nat.lt_succ_of_le (h.fresh p hp)⟩

/-- The orders of other entities do not hold a kept key's tick. -/
theorem order_keep (h : c.Refines m) {key : RowKey} {row : ρ} (hm : m.find? key = some row)
    {e : EntityId} (he : e ≠ key.1) : (c.order e).filter (·.1 != c.tickOf key) = c.order e := by
  rw [← h.order_drop hm e, m.drop_filter_entity he, h.order e]

end Refines

/-! ## Using a kept row -/

/-- The cache with the entry of a key replaced. -/
def withEntry (c : RowCache ρ) (key : RowKey) (en : CacheEntry ρ) : RowCache ρ :=
  { c with entries := c.entries.map fun kv => if kv.1 == key then (key, en) else kv }

@[simp] theorem stamp_setOrder (c : RowCache ρ) (e : EntityId) (o : List (Nat × Int64)) :
    (c.setOrder e o).stamp = c.stamp := rfl

@[simp] theorem order_withEntry (c : RowCache ρ) (key : RowKey) (en : CacheEntry ρ) :
    (c.withEntry key en).order = c.order := rfl

theorem entry?_withEntry (c : RowCache ρ) {key : RowKey} {en₀ : CacheEntry ρ}
    (h : c.entry? key = some en₀) (en : CacheEntry ρ) (k : RowKey) :
    RowCache.entry? (c.withEntry key en) k = if k = key then some en else c.entry? k := by
  have hl := lookup_map_replace key (fun _ => en) c.entries k
  have h' : c.entries.lookup key = some en₀ := h
  simp only [h', Option.map_some] at hl
  exact hl

theorem tickOf_withEntry (c : RowCache ρ) {key : RowKey} {en₀ : CacheEntry ρ}
    (h : c.entry? key = some en₀) (en : CacheEntry ρ) (k : RowKey) :
    (c.withEntry key en).tickOf k = if k = key then en.lastUsed else c.tickOf k := by
  unfold tickOf
  rw [entry?_withEntry c h]
  split <;> rfl

/-- Replacing a key's entry by one with the same row keeps the rows. -/
theorem rows_withEntry {c : RowCache ρ} (hn : (c.entries.map (·.1)).Nodup) {key : RowKey}
    {en₀ : CacheEntry ρ} (h : c.entry? key = some en₀) (en : CacheEntry ρ) (hrow : en.row = en₀.row) :
    ((c.withEntry key en).entries.map fun p => (p.1, p.2.row)) = c.entries.map fun p => (p.1, p.2.row) := by
  simp only [withEntry, List.map_map]
  apply List.map_congr_left
  intro kv hkv
  by_cases hk : kv.1 = key
  · have hkv' : c.entries.lookup key = some kv.2 := lookup_of_mem hn (hk ▸ hkv)
    have : kv.2 = en₀ := Option.some.inj (hkv'.symm.trans h)
    simp [hk, this, hrow]
  · simp [hk]

theorem use_eq {c : RowCache ρ} {key : RowKey} {en : CacheEntry ρ} (h : c.entry? key = some en)
    (t : Nat) :
    c.use key t = some (((c.withEntry key { en with lastUsed := t }).setOrder key.1
      ((c.order key.1).filter (·.1 != en.lastUsed) ++ [(t, key.2)])), en.row) := by
  simp only [use, h]
  rfl

theorem use_eq_none {c : RowCache ρ} {key : RowKey} (h : c.entry? key = none) (t : Nat) :
    c.use key t = none := by
  simp only [use, h]

/-- Using a kept row moves it to the newest end of its entity's order, at the current tick. -/
theorem Refines.use {c : RowCache ρ} {m : Lru ρ} (h : c.Refines m)
    (hlt : ∀ p ∈ m.items, c.tickOf p.1 < c.tick) {key : RowKey} {row : ρ} (hm : m.find? key = some row) :
    ∃ c', c.use key c.tick = some (c', row) ∧ c'.Refines (m.refresh key row) ∧ c'.tick = c.tick := by
  obtain ⟨en, hen, hrow⟩ := h.entry_of_find hm
  subst hrow
  have hkey : (key, en.row) ∈ m.items := mem_of_lookup hm
  refine ⟨_, use_eq hen c.tick, ?_, rfl⟩
  -- after the use, the key's entry carries the current tick
  have htick : ∀ k, (withEntry c key { en with lastUsed := c.tick }).tickOf k =
      if k = key then c.tick else c.tickOf k := by
    intro k
    rw [tickOf_withEntry c hen]
  have hstamp : ∀ p ∈ (m.drop key).items,
      (withEntry c key { en with lastUsed := c.tick }).stamp p = c.stamp p := by
    intro p hp
    have hne : p.1 ≠ key := bne_iff_ne.mp (List.mem_filter.mp hp).2
    simp [stamp, htick, hne]
  have hlast : en.lastUsed = c.tickOf key := by simp [tickOf, hen]
  refine ⟨h.capacity, h.hits, h.misses, h.evictions, ?_, ?_, fun e => ?_, ?_, ?_,
    setOrder_nonempty _ _ _ h.orders_nonempty, setOrder_nodup _ _ _ h.entities_nodup⟩
  · -- the use changes ticks only
    rw [entries_setOrder, rows_withEntry h.entries_nodup hen { en with lastUsed := c.tick } rfl]
    exact h.rows.trans (perm_move_last h.keys_nodup hm)
  · -- the key is moved, not copied
    have hnot : key ∉ (m.items.filter (·.1 != key)).map (·.1) := by simp
    simpa [Lru.refresh, Lru.drop, List.nodup_append, hnot] using
      h.keys_nodup.sublist ((List.filter_sublist).map _)
  · rw [order_setOrder, stamp_setOrder]
    simp only [Lru.refresh, List.filter_append, List.map_append, List.filter_cons, List.filter_nil]
    rw [List.map_congr_left fun p hp => hstamp p (List.mem_filter.mp hp).1, h.order_drop hm e]
    by_cases he : e = key.1
    · subst he
      simp [hlast, stamp, htick]
    · have hb : (key.1 == e) = false := beq_eq_false_iff_ne.mpr (Ne.symm he)
      simp only [he, if_false, hb, Bool.false_eq_true, List.map_nil, List.append_nil,
        order_withEntry, h.order_keep hm he]
  · -- the moved key takes the newest tick
    simp only [Lru.refresh, Lru.drop, List.map_append, List.map_cons, List.map_nil,
      tickOf_setOrder, htick, if_true]
    have hrest : ((m.items.filter (·.1 != key)).map fun p => if p.1 = key then c.tick else c.tickOf p.1) =
        (m.items.filter (·.1 != key)).map fun p => c.tickOf p.1 :=
      List.map_congr_left fun p hp => by simp [bne_iff_ne.mp (List.mem_filter.mp hp).2]
    rw [hrest, List.pairwise_append]
    refine ⟨h.ticks.sublist ((List.filter_sublist).map _), List.pairwise_singleton _ _, ?_⟩
    intro a ha b hb
    obtain ⟨p, hp, rfl⟩ := List.mem_map.mp ha
    rw [List.mem_singleton.mp hb]
    exact hlt p (List.mem_filter.mp hp).1
  · intro p hp
    simp only [Lru.refresh, Lru.drop, List.mem_append, List.mem_filter, List.mem_singleton] at hp
    simp only [tickOf_setOrder, tick_setOrder, htick]
    rcases hp with ⟨hp, -⟩ | rfl
    · split
      · exact Nat.le_refl _
      · exact Nat.le_of_lt (hlt p hp)
    · simp [withEntry]

/-! ## Adding, replacing and dropping rows -/

section InsertViews

variable (c : RowCache ρ) (key : RowKey) (row : ρ) (t : Nat)

@[simp] theorem entries_insert :
    (c.insert key row t).entries = c.entries ++ [(key, { row, lastUsed := t })] := rfl
@[simp] theorem tick_insert : (c.insert key row t).tick = c.tick := rfl
@[simp] theorem capacity_insert : (c.insert key row t).capacity = c.capacity := rfl
@[simp] theorem hits_insert : (c.insert key row t).hits = c.hits := rfl
@[simp] theorem misses_insert : (c.insert key row t).misses = c.misses := rfl
@[simp] theorem evictions_insert : (c.insert key row t).evictions = c.evictions := rfl

theorem order_insert (e : EntityId) :
    (c.insert key row t).order e = if e = key.1 then c.order key.1 ++ [(t, key.2)] else c.order e :=
  order_setOrder _ _ _ _

theorem insert_nonempty (h : ∀ p ∈ c.recency, p.2 ≠ []) :
    ∀ p ∈ (c.insert key row t).recency, p.2 ≠ [] := setOrder_nonempty _ _ _ h

theorem insert_nodup (h : (c.recency.map (·.1)).Nodup) :
    ((c.insert key row t).recency.map (·.1)).Nodup := setOrder_nodup _ _ _ h

end InsertViews

/-- A new key is added at the newest end of its entity's order, at the current tick. -/
theorem Refines.insert {c : RowCache ρ} {m : Lru ρ} (h : c.Refines m)
    (hlt : ∀ p ∈ m.items, c.tickOf p.1 < c.tick) {key : RowKey} (hm : m.find? key = none) (row : ρ) :
    (c.insert key row c.tick).Refines { m with items := m.items ++ [(key, row)] } := by
  have hen : c.entries.lookup key = none := h.entry_of_find_none hm
  have hnot := Lru.not_mem_keys h.keys_nodup hm
  have hne : ∀ p ∈ m.items, p.1 ≠ key := fun p hp hk => hnot (hk ▸ List.mem_map_of_mem hp)
  have htick : ∀ k, (c.insert key row c.tick).tickOf k = if k = key then c.tick else c.tickOf k := by
    intro k
    simp only [tickOf, entry?, entries_insert, lookup_append_new hen]
    split <;> rfl
  have hstamp : ∀ p ∈ m.items, (c.insert key row c.tick).stamp p = c.stamp p := by
    intro p hp
    simp [stamp, htick, hne p hp]
  have hticks : (m.items.map fun p => (c.insert key row c.tick).tickOf p.1) =
      m.items.map fun p => c.tickOf p.1 :=
    List.map_congr_left fun p hp => by simp [htick, hne p hp]
  refine ⟨h.capacity, h.hits, h.misses, h.evictions, ?_, ?_, fun e => ?_, ?_, ?_,
    insert_nonempty _ _ _ _ h.orders_nonempty, insert_nodup _ _ _ _ h.entities_nodup⟩
  · simpa using h.rows.append_right [(key, row)]
  · rw [List.map_append, List.nodup_append]
    refine ⟨h.keys_nodup, by simp, fun a ha b hb hab => hnot ?_⟩
    simp only [List.map_cons, List.map_nil, List.mem_singleton] at hb
    rw [← hb, ← hab]
    exact ha
  · simp only [order_insert, List.filter_append, List.filter_cons, List.filter_nil, List.map_append]
    rw [List.map_congr_left fun p hp => hstamp p (List.mem_filter.mp hp).1, ← h.order e]
    by_cases he : e = key.1
    · subst he
      simp [stamp, htick]
    · have hb : (key.1 == e) = false := beq_eq_false_iff_ne.mpr (Ne.symm he)
      simp [he, hb]
  · rw [List.map_append, hticks]
    simp only [List.map_cons, List.map_nil, htick, if_true]
    rw [List.pairwise_append]
    refine ⟨h.ticks, List.pairwise_singleton _ _, ?_⟩
    intro a ha b hb
    obtain ⟨p, hp, rfl⟩ := List.mem_map.mp ha
    rw [List.mem_singleton.mp hb]
    exact hlt p hp
  · intro p hp
    rcases List.mem_append.mp hp with hp | hp
    · simpa [htick, hne p hp] using Nat.le_of_lt (hlt p hp)
    · rw [List.mem_singleton.mp hp]
      simp [htick]

/-- The cache without the entry of a key. -/
def withoutEntry (c : RowCache ρ) (key : RowKey) : RowCache ρ :=
  { c with entries := c.entries.filter (·.1 != key) }

@[simp] theorem order_withoutEntry (c : RowCache ρ) (key : RowKey) :
    (c.withoutEntry key).order = c.order := rfl

theorem remove_eq {c : RowCache ρ} {key : RowKey} {en : CacheEntry ρ} (h : c.entry? key = some en) :
    c.remove key =
      ((c.withoutEntry key).setOrder key.1 ((c.order key.1).filter (·.1 != en.lastUsed)), true) := by
  simp only [remove, h]
  rfl

theorem remove_eq_none {c : RowCache ρ} {key : RowKey} (h : c.entry? key = none) :
    c.remove key = (c, false) := by
  simp only [remove, h]

/-- Removing a kept key drops its tick from its entity's order. -/
theorem Refines.remove {c : RowCache ρ} {m : Lru ρ} (h : c.Refines m) {key : RowKey} {row : ρ}
    (hm : m.find? key = some row) :
    (c.remove key).1.Refines (m.drop key) ∧ (c.remove key).2 = true ∧
      (c.remove key).1.tick = c.tick ∧ ∀ k, k ≠ key → (c.remove key).1.tickOf k = c.tickOf k := by
  obtain ⟨en, hen, -⟩ := h.entry_of_find hm
  have hlast : en.lastUsed = c.tickOf key := by simp [tickOf, hen]
  have htick : ∀ k, (c.withoutEntry key).tickOf k = if k = key then 0 else c.tickOf k := by
    intro k
    simp only [tickOf, entry?, withoutEntry, lookup_filter_key]
    split <;> rfl
  rw [remove_eq hen]
  refine ⟨?_, rfl, rfl, fun k hk => by simp [htick, hk]⟩
  have hne : ∀ p ∈ (m.drop key).items, p.1 ≠ key := fun p hp => bne_iff_ne.mp (List.mem_filter.mp hp).2
  have hstamp : ∀ p ∈ (m.drop key).items, (c.withoutEntry key).stamp p = c.stamp p := by
    intro p hp
    simp [stamp, htick, hne p hp]
  refine ⟨h.capacity, h.hits, h.misses, h.evictions, ?_, ?_, fun e => ?_, ?_, ?_,
    setOrder_nonempty _ _ _ h.orders_nonempty, setOrder_nodup _ _ _ h.entities_nodup⟩
  · have hf := h.rows.filter (·.1 != key)
    rw [List.filter_map] at hf
    exact hf
  · exact h.keys_nodup.sublist ((List.filter_sublist).map _)
  · rw [order_setOrder, stamp_setOrder,
      List.map_congr_left fun p hp => hstamp p (List.mem_filter.mp hp).1, h.order_drop hm e]
    by_cases he : e = key.1
    · subst he
      simp [hlast]
    · simp only [he, if_false, order_withoutEntry]
      exact (h.order_keep hm he).symm
  · have hticks : ((m.drop key).items.map fun p => (c.withoutEntry key).tickOf p.1) =
        (m.drop key).items.map fun p => c.tickOf p.1 :=
      List.map_congr_left fun p hp => by simp [htick, hne p hp]
    simp only [tickOf_setOrder, hticks]
    exact h.ticks.sublist ((List.filter_sublist).map _)
  · intro p hp
    simp only [tickOf_setOrder, tick_setOrder, htick, hne p hp, if_false]
    exact h.fresh p (List.mem_filter.mp hp).1

/-- Evicting an entity's least recently used row: the head of its order is the list's first
row of that entity. -/
theorem Refines.evictOldest {c : RowCache ρ} {m : Lru ρ} (h : c.Refines m)
    (hlt : ∀ p ∈ m.items, c.tickOf p.1 < c.tick) (e : EntityId) :
    (match c.evictOldest e with
      | (c', true) => { c' with evictions := c'.evictions + 1 }
      | (c', false) => c').Refines (m.dropOldest e) ∧
    (match c.evictOldest e with
      | (c', true) => { c' with evictions := c'.evictions + 1 }
      | (c', false) => c').tick = c.tick ∧
    ∀ p ∈ (m.dropOldest e).items, (match c.evictOldest e with
      | (c', true) => { c' with evictions := c'.evictions + 1 }
      | (c', false) => c').tickOf p.1 < c.tick := by
  have horder := h.order e
  cases hl : m.items.filter (·.1.1 == e) with
  | nil =>
    rw [hl, List.map_nil] at horder
    have hev : c.evictOldest e = (c, false) := by simp only [RowCache.evictOldest, horder]
    have hdrop : m.dropOldest e = m := by simp only [Lru.dropOldest, Lru.rowsOf, hl, List.map_nil]
    rw [hev, hdrop]
    exact ⟨h, rfl, hlt⟩
  | cons p₀ rest =>
    have hp₀ : p₀ ∈ m.items ∧ p₀.1.1 = e := by
      have := List.mem_filter.mp (hl ▸ List.mem_cons_self : p₀ ∈ m.items.filter (·.1.1 == e))
      exact ⟨this.1, beq_iff_eq.mp this.2⟩
    have hkey : (e, p₀.1.2) = p₀.1 := by rw [← hp₀.2]
    have hm₀ : m.find? p₀.1 = some p₀.2 := lookup_of_mem h.keys_nodup hp₀.1
    rw [hl, List.map_cons] at horder
    have hev : c.evictOldest e = c.remove p₀.1 := by
      simp only [RowCache.evictOldest, horder, stamp, hkey]
    have hdrop : m.dropOldest e = { m.drop p₀.1 with evictions := m.evictions + 1 } := by
      simp only [Lru.dropOldest, Lru.rowsOf, hl, List.map_cons, hkey]
    obtain ⟨hr, hb, ht, hto⟩ := h.remove hm₀
    rw [hev, hdrop]
    rw [← Prod.eta (c.remove p₀.1), hb]
    refine ⟨{ hr with evictions := congrArg (· + 1) hr.evictions }, ht, ?_⟩
    intro p hp
    have hne : p.1 ≠ p₀.1 := bne_iff_ne.mp (List.mem_filter.mp hp).2
    show (c.remove p₀.1).1.tickOf p.1 < c.tick
    rw [hto p.1 hne]
    exact hlt p (List.mem_filter.mp hp).1

/-- Keeping a new row: the least recently used row of a full entity goes first. -/
theorem Refines.retain {c : RowCache ρ} {m : Lru ρ} (h : c.Refines m)
    (hlt : ∀ p ∈ m.items, c.tickOf p.1 < c.tick) {key : RowKey} (hm : m.find? key = none) (row : ρ) :
    (c.retain key row c.tick).Refines (m.add key row) := by
  have hret : c.retained key.1 = (m.rowsOf key.1).length := by
    simp [retained, h.order, Lru.rowsOf]
  unfold RowCache.retain Lru.add
  rw [h.capacity]
  by_cases h0 : m.capacity = 0
  · simpa [h0] using h
  · simp only [h0, if_false, beq_iff_eq, ge_iff_le, hret]
    by_cases hfull : m.capacity ≤ (m.rowsOf key.1).length
    · simp only [hfull, if_true]
      obtain ⟨h₁, ht₁, hlt₁⟩ := h.evictOldest hlt key.1
      have := h₁.insert (ht₁ ▸ hlt₁) (Lru.find?_dropOldest hm key.1) row
      rw [ht₁] at this
      exact this
    · simp only [hfull, if_false]
      exact h.insert hlt hm row

/-- A row put under a kept key replaces the kept row in place. -/
theorem Refines.setRow {c : RowCache ρ} {m : Lru ρ} (h : c.Refines m) (key : RowKey) (row : ρ) :
    ({ c with entries := c.entries.map fun kv =>
        if kv.1 == key then (key, { kv.2 with row }) else kv } : RowCache ρ).Refines
      { m with items := m.items.map fun kv => if kv.1 == key then (key, row) else kv } := by
  have hfst : ∀ kv : RowKey × ρ, (if kv.1 == key then (key, row) else kv).1 = kv.1 := by
    intro kv
    split
    · next hk => exact (beq_iff_eq.mp hk).symm
    · rfl
  have htick : ∀ k, ({ c with entries := c.entries.map fun kv =>
      if kv.1 == key then (key, { kv.2 with row }) else kv } : RowCache ρ).tickOf k = c.tickOf k := by
    intro k
    have hl := lookup_map_replace key (fun en : CacheEntry ρ => { en with row }) c.entries k
    simp only [tickOf, entry?, hl]
    split
    · next hk =>
      subst hk
      cases c.entries.lookup k <;> rfl
    · rfl
  refine ⟨h.capacity, h.hits, h.misses, h.evictions, ?_, ?_, fun e => ?_, ?_, ?_,
    h.orders_nonempty, h.entities_nodup⟩
  · have hfun : ((fun p : RowKey × CacheEntry ρ => (p.1, p.2.row)) ∘ fun kv =>
        if kv.1 == key then (key, { kv.2 with row }) else kv) =
        (fun kv : RowKey × ρ => if kv.1 == key then (key, row) else kv) ∘
          fun p : RowKey × CacheEntry ρ => (p.1, p.2.row) := by
      funext kv
      simp only [Function.comp_def]
      split <;> rfl
    have hp := h.rows.map fun kv : RowKey × ρ => if kv.1 == key then (key, row) else kv
    rw [List.map_map] at hp
    dsimp only
    rw [List.map_map, hfun]
    exact hp
  · dsimp only
    rw [List.map_map, show ((·.1) ∘ fun kv : RowKey × ρ => if kv.1 == key then (key, row) else kv) =
      (·.1) from funext hfst]
    exact h.keys_nodup
  · show c.order e = _
    rw [h.order e, List.filter_map, List.map_map]
    congr 1
    · funext p
      simp only [Function.comp_def, stamp, htick, hfst]
    · apply List.filter_congr
      intro p _
      simp only [Function.comp_def, hfst]
  · dsimp only
    rw [List.map_map]
    have hfun : ((fun p : RowKey × ρ => ({ c with entries := c.entries.map fun kv =>
        if kv.1 == key then (key, { kv.2 with row }) else kv } : RowCache ρ).tickOf p.1) ∘
        fun kv : RowKey × ρ => if kv.1 == key then (key, row) else kv) = fun p => c.tickOf p.1 := by
      funext p
      simp only [Function.comp_def, htick, hfst]
    rw [hfun]
    exact h.ticks
  · intro p hp
    obtain ⟨q, hq, rfl⟩ := List.mem_map.mp hp
    rw [htick, hfst]
    exact h.fresh q hq

/-- Clearing forgets every row. -/
theorem Refines.clear {c : RowCache ρ} {m : Lru ρ} (h : c.Refines m) :
    c.clear.Refines { m with items := [] } :=
  ⟨h.capacity, h.hits, h.misses, h.evictions, List.Perm.nil, List.nodup_nil,
    fun _ => rfl, List.Pairwise.nil, fun _ hp => absurd hp List.not_mem_nil,
    fun _ hp => absurd hp List.not_mem_nil, List.nodup_nil⟩

/-! ## Calls and runs -/

/-- Every call keeps the cache standing for the list, and answers as the list does. -/
theorem Refines.call {c : RowCache ρ} {m : Lru ρ} (h : c.Refines m) (x : CacheCall ρ) :
    (c.call x).1.Refines (m.call x).1 ∧ (c.call x).2 = (m.call x).2 := by
  obtain ⟨c₁, t, hT, h₁, ht, hlt⟩ := h.touch
  subst ht
  cases x with
  | get key =>
    cases hm : m.find? key with
    | none =>
      have hu := use_eq_none (h₁.entry_of_find_none hm) c₁.tick
      simp only [RowCache.call, RowCache.get, hT, hu, Lru.call, hm, and_true]
      exact h₁.miss
    | some row =>
      obtain ⟨c₂, hu, h₂, -⟩ := h₁.use hlt hm
      simp only [RowCache.call, RowCache.get, hT, hu, Lru.call, hm, and_true]
      exact h₂.hit
  | getOrInsert key row =>
    cases hm : m.find? key with
    | none =>
      have hu := use_eq_none (h₁.entry_of_find_none hm) c₁.tick
      simp only [RowCache.call, RowCache.getOrInsert, hT, hu, Lru.call, hm, pure_bind, Id.run_pure,
        and_true]
      exact h₁.miss.retain hlt hm row
    | some kept =>
      obtain ⟨c₂, hu, h₂, -⟩ := h₁.use hlt hm
      simp only [RowCache.call, RowCache.getOrInsert, hT, hu, Lru.call, hm, Id.run_pure, and_true]
      exact h₂.hit
  | put key row =>
    cases key with
    | none => exact ⟨h, rfl⟩
    | some key =>
      cases hm : m.find? key with
      | none =>
        have hu := use_eq_none (h₁.entry_of_find_none hm) c₁.tick
        simp only [RowCache.call, RowCache.put, hT, hu, Lru.call, hm, Option.isSome_none,
          Bool.false_eq_true, if_false, and_true]
        exact h₁.retain hlt hm row
      | some old =>
        obtain ⟨c₂, hu, h₂, -⟩ := h₁.use hlt hm
        simp only [RowCache.call, RowCache.put, hT, hu, Lru.call, hm, Option.isSome_some, if_true, and_true]
        have := h₂.setRow key row
        rw [Lru.refresh_replace] at this
        exact this
  | evict key =>
    cases hm : m.find? key with
    | none =>
      simp only [RowCache.call, RowCache.evict, remove_eq_none (h.entry_of_find_none hm), Lru.call,
        hm, Lru.drop_of_find_none h.keys_nodup hm, Option.isSome_none, and_true]
      exact h
    | some row =>
      obtain ⟨hr, hb, -⟩ := h.remove hm
      simp only [RowCache.call, RowCache.evict, Lru.call, hm, Option.isSome_some]
      rw [← Prod.eta (c.remove key), hb]
      simp only [and_true]
      exact hr
  | clear => exact ⟨h.clear, rfl⟩

/-- A run of calls keeps the cache standing for the list, and answers as the list does. -/
theorem Refines.run {c : RowCache ρ} {m : Lru ρ} (h : c.Refines m) : ∀ xs : List (CacheCall ρ),
    (CacheCall.run RowCache.call c xs).1.Refines (CacheCall.run Lru.call m xs).1 ∧
      (CacheCall.run RowCache.call c xs).2 = (CacheCall.run Lru.call m xs).2
  | [] => ⟨h, rfl⟩
  | x :: xs => by
    obtain ⟨h₁, ha⟩ := h.call x
    obtain ⟨h₂, has⟩ := h₁.run xs
    simp only [CacheCall.run]
    exact ⟨h₂, by rw [ha, has]⟩

/-! ## Runs from an empty cache -/

/-- A cache that stands for a list keeps its entries and orders in step. -/
theorem Refines.coherent {c : RowCache ρ} {m : Lru ρ} (h : c.Refines m) : c.Coherent where
  mem_order e t id := by
    rw [h.order e]
    constructor
    · intro hmem
      obtain ⟨p, hp, hpe⟩ := List.mem_map.mp hmem
      obtain ⟨hpm, hpe'⟩ := List.mem_filter.mp hp
      -- the kept row under `(e, id)` is the entry the order names
      have hkey : p.1 = (e, id) :=
        Prod.ext (beq_iff_eq.mp hpe') (by simpa [stamp] using congrArg Prod.snd hpe)
      obtain ⟨en, hen, -⟩ := h.entry_of_find (lookup_of_mem h.keys_nodup hpm)
      refine ⟨en, hkey ▸ hen, ?_⟩
      have ht : c.tickOf p.1 = t := congrArg Prod.fst hpe
      rw [← ht]
      simp [tickOf, hen]
    · rintro ⟨en, hen, rfl⟩
      have hm : m.find? (e, id) = some en.row := by rw [← h.entry, hen]; rfl
      refine List.mem_map.mpr ⟨((e, id), en.row), List.mem_filter.mpr ⟨mem_of_lookup hm, by simp⟩, ?_⟩
      simp [stamp, tickOf, hen]
  ticks_increase e := by
    rw [h.order e, List.map_map]
    exact h.ticks.sublist ((List.filter_sublist).map _)
  orders_nonempty := h.orders_nonempty
  entities_nodup := h.entities_nodup
  keys_nodup := h.entries_nodup

/-- An empty cache stands for the empty list. -/
theorem refines_empty (capacity : Nat) : (RowCache.empty capacity : RowCache ρ).Refines { capacity } :=
  ⟨rfl, rfl, rfl, rfl, List.Perm.nil, List.nodup_nil, fun _ => rfl, List.Pairwise.nil,
    fun _ hp => absurd hp List.not_mem_nil, fun _ hp => absurd hp List.not_mem_nil, List.nodup_nil⟩

/-- Along a run that a cache follows, no entity ever holds more than `capacity` rows. -/
theorem Refines.bounded_run {c : RowCache ρ} {m : Lru ρ} (h : c.Refines m) (hb : m.Bounded) :
    ∀ xs : List (CacheCall ρ), (CacheCall.run Lru.call m xs).1.Bounded
  | [] => hb
  | x :: xs => by
    obtain ⟨h₁, -⟩ := h.call x
    simp only [CacheCall.run]
    exact h₁.bounded_run (hb.call h.keys_nodup x) xs

/-- **The row cache is a least-recently-used cache per entity.** From an empty cache of any
capacity, every sequence of calls answers as the list discipline does (rows found, rows kept with
their made flags, evicted flags), with the same hits, misses, evictions and number of rows; it
keeps exactly the discipline's keys, no entity keeps more than `capacity` rows, and the entries
and the per-entity recency orders stay in bijection. -/
theorem run_refines_lru (capacity : Nat) (calls : List (CacheCall ρ)) :
    let impl := CacheCall.run RowCache.call (RowCache.empty capacity) calls
    let spec := CacheCall.run Lru.call ({ capacity } : Lru ρ) calls
    impl.2 = spec.2 ∧ impl.1.stats = spec.1.stats ∧
      (∀ key, impl.1.contains key = (spec.1.find? key).isSome) ∧
      (∀ e, impl.1.retained e = (spec.1.rowsOf e).length ∧ (spec.1.rowsOf e).length ≤ capacity) ∧
      impl.1.Coherent := by
  intro impl spec
  obtain ⟨h, hans⟩ : impl.1.Refines spec.1 ∧ impl.2 = spec.2 := (refines_empty capacity).run calls
  have hb : spec.1.Bounded := (refines_empty capacity).bounded_run (fun e => by simp) calls
  have hcap : spec.1.capacity = capacity := Lru.capacity_run _ calls
  refine ⟨hans, ?_, fun key => ?_, fun e => ⟨?_, ?_⟩, h.coherent⟩
  · have hlen : impl.1.entries.length = spec.1.items.length := by
      simpa using h.rows.length_eq
    simp only [stats, Lru.stats, size, h.hits, h.misses, h.evictions, hlen]
  · rw [contains, ← h.entry key, Option.isSome_map]
  · simp [retained, h.order e, Lru.rowsOf]
  · rw [← hcap]
    simpa [Lru.rowsOf] using hb e

end RowCache

end EntityGraph
