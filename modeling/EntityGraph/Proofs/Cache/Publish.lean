import EntityGraph.Session.ChangeSet
import EntityGraph.Proofs.Cache.Recency
import Mathlib.Data.Finset.Card

/-!
# Publishing a unit of work

A change set is built by a run of record calls (`ChangeRecord`): rows inserted, updated and
deleted by key, instances saved and deleted. Publishing it puts the unit's rows into the row cache,
evicts its deleted keys, and hands back the instance events to announce.

Main statement: `publish_applies_unit`. For every run of record calls whose rows carry the keys
they are recorded under, and every cache that calls reach from an empty cache and that has room,
per entity, for the keys the unit writes: publishing keeps no deleted key; keeps for every other
key the row `publishedRow?` names, or the row kept before when the unit wrote nothing under the
key; and hands back the distinct saved events in recording order, less those whose instance was
deleted, and the distinct deleted events in recording order.

`publishedRow?` is the last row written under the key, except when the key was updated before it
was first inserted. An update of a key the unit has not inserted is kept apart from the
insertions, a later insertion does not replace it, and publishing puts the updates after the
insertions: the last update before the first insertion wins
(`update_before_insert_keeps_older_row`).

The proof follows the two halves of the code. The change set after a run answers, key by key and
list by list, functions of the run (`ChangeSet.Records`, kept by every record call). Publishing is
a run of cache calls, which the list discipline of `Proofs/Cache/Recency` follows; with room, a put
there drops nothing, so the last put of a key and the evictions decide what is kept.
-/

namespace EntityGraph

/-! ## Record calls -/

/-- One call recording a change in a unit of work. -/
inductive ChangeRecord where
  | insert (key : RowKey) (row : RowRef)
  | update (key : RowKey) (row : RowRef)
  | delete (key : RowKey)
  | saved (event : InstanceEvent)
  | removed (event : InstanceEvent)
  deriving DecidableEq, Repr

namespace ChangeRecord

/-- Make the call on a change set. -/
def apply (c : ChangeSet) : ChangeRecord → ChangeSet
  | insert key row => c.recordInsert key row
  | update key row => c.recordUpdate key row
  | delete key => c.recordDelete key
  | saved e => c.recordSaved e
  | removed e => c.recordRemoved e

/-- The row the call writes under a key. -/
def write? (k : RowKey) : ChangeRecord → Option RowRef
  | insert key row | update key row => if key = k then some row else none
  | _ => none

/-- Whether the call inserts a row under a key. -/
def inserts (k : RowKey) : ChangeRecord → Bool
  | insert key _ => key == k
  | _ => false

/-- The key the call writes a row under. -/
def writtenKey? : ChangeRecord → Option RowKey
  | insert key _ | update key _ => some key
  | _ => none

/-- The key the call deletes. -/
def deletedKey? : ChangeRecord → Option RowKey
  | delete key => some key
  | _ => none

/-- The instance the call records as saved. -/
def savedEvent? : ChangeRecord → Option InstanceEvent
  | saved e => some e
  | _ => none

/-- The instance the call records as deleted. -/
def removedEvent? : ChangeRecord → Option InstanceEvent
  | removed e => some e
  | _ => none

/-- Whether the row the call writes carries the key it is written under. -/
def carries (store : RowStore) : ChangeRecord → Bool
  | insert key row | update key row =>
    (store.get row).entity == key.1 && (store.get row).id == some key.2
  | _ => true

end ChangeRecord

/-- The change set a run of record calls builds from an empty one. -/
def ChangeSet.ofRecords (rs : List ChangeRecord) : ChangeSet := rs.foldl ChangeRecord.apply {}

/-- The last row a run writes under a key. -/
def lastWrite? (k : RowKey) (rs : List ChangeRecord) : Option RowRef :=
  (rs.filterMap (·.write? k)).getLast?

/-- The row publishing keeps for a key: the last one written before the key's first insertion
when there is one, else the last one written. -/
def publishedRow? (k : RowKey) (rs : List ChangeRecord) : Option RowRef :=
  (lastWrite? k (rs.takeWhile (!·.inserts k))).or (lastWrite? k rs)

/-- The keys a run writes rows under, each once, in recording order. -/
def writtenKeys (rs : List ChangeRecord) : List RowKey := (rs.filterMap (·.writtenKey?)).eraseDups

/-- The keys a run deletes, each once, in recording order. -/
def deletedKeys (rs : List ChangeRecord) : List RowKey := (rs.filterMap (·.deletedKey?)).eraseDups

/-- The instances a run records as saved, each once, in recording order. -/
def savedEvents (rs : List ChangeRecord) : List InstanceEvent :=
  (rs.filterMap (·.savedEvent?)).eraseDups

/-- The instances a run records as deleted, each once, in recording order. -/
def removedEvents (rs : List ChangeRecord) : List InstanceEvent :=
  (rs.filterMap (·.removedEvent?)).eraseDups

/-! ## The functions of a run, one call at a time -/

section Run

variable {k : RowKey} {rs : List ChangeRecord} {r : ChangeRecord}

theorem lastWrite?_concat (k : RowKey) (rs : List ChangeRecord) (r : ChangeRecord) :
    lastWrite? k (rs ++ [r]) = (r.write? k).or (lastWrite? k rs) := by
  simp only [lastWrite?, List.filterMap_append, List.filterMap_cons, List.filterMap_nil]
  cases r.write? k <;> simp

/-- A call that writes nothing under a key, or inserts under it, leaves the writes before the
key's first insertion as they were. -/
theorem lastWrite?_takeWhile_concat (h : r.write? k = none ∨ r.inserts k = true) :
    lastWrite? k ((rs ++ [r]).takeWhile (!·.inserts k)) =
      lastWrite? k (rs.takeWhile (!·.inserts k)) := by
  rw [List.takeWhile_append]
  split
  · next hall =>
    -- no earlier call inserts under the key: the prefix is the whole run so far
    have hrs := (List.takeWhile_prefix (!·.inserts k) (l := rs)).eq_of_length hall
    rw [hrs, List.takeWhile_cons, List.takeWhile_nil]
    rcases h with hw | hi
    · split <;> simp [lastWrite?_concat, hw]
    · simp [hi]
  · rfl

theorem lastWrite?_mem {row : RowRef} (h : lastWrite? k rs = some row) :
    ∃ x ∈ rs, x.write? k = some row := by
  have hmem := List.mem_of_getLast? h
  obtain ⟨x, hx, hw⟩ := List.mem_filterMap.mp hmem
  exact ⟨x, hx, hw⟩

/-- An insertion is a write. -/
theorem lastWrite?_isSome_of_inserts (h : rs.any (·.inserts k) = true) :
    (lastWrite? k rs).isSome = true := by
  obtain ⟨x, hx, hi⟩ := List.any_eq_true.mp h
  have hw : (x.write? k).isSome = true := by
    cases x <;> simp_all [ChangeRecord.inserts, ChangeRecord.write?]
  obtain ⟨row, hrow⟩ := Option.isSome_iff_exists.mp hw
  have hne : rs.filterMap (·.write? k) ≠ [] :=
    List.ne_nil_of_mem (List.mem_filterMap.mpr ⟨x, hx, hrow⟩)
  rw [lastWrite?, List.getLast?_eq_some_getLast hne]
  rfl

/-- Without an insertion under the key, the writes before its first insertion are all of them. -/
theorem takeWhile_of_not_inserts : ∀ {rs : List ChangeRecord}, rs.any (·.inserts k) = false →
    rs.takeWhile (!·.inserts k) = rs
  | [], _ => rfl
  | x :: rs, h => by
    simp only [List.any_cons, Bool.or_eq_false_iff] at h
    rw [List.takeWhile_cons_of_pos (by simp [h.1]), takeWhile_of_not_inserts h.2]

/-- A list kept without repeats grows by an element it does not hold yet. -/
theorem eraseDups_concat {α : Type} [BEq α] [LawfulBEq α] (l : List α) (x : α) :
    (l ++ [x]).eraseDups = if l.eraseDups.contains x then l.eraseDups else l.eraseDups ++ [x] := by
  rw [List.eraseDups_append]
  by_cases hx : x ∈ l <;> simp [List.removeAll, hx, List.eraseDups_cons]

end Run

/-! ## Rows kept by key -/

namespace RowKey

/-- A put sets the row of its key and leaves the other keys. -/
theorem lookup_put (entries : List (RowKey × RowRef)) (key : RowKey) (row : RowRef) (k : RowKey) :
    (RowKey.put entries key row).lookup k = if k = key then some row else entries.lookup k := by
  unfold RowKey.put
  split
  · next hany =>
    have hopen : (entries.lookup key).isSome := by rwa [lookup_isSome]
    rw [lookup_map_replace key (fun _ => row) entries k]
    split
    · obtain ⟨x, hx⟩ := Option.isSome_iff_exists.mp hopen
      simp [hx]
    · rfl
  · next hany =>
    have hnew : entries.lookup key = none := by
      rw [← Option.not_isSome_iff_eq_none, lookup_isSome]
      exact hany
    exact lookup_append_new hnew row k

/-- A put keeps every key once. -/
theorem put_nodup {entries : List (RowKey × RowRef)} (h : (entries.map (·.1)).Nodup)
    (key : RowKey) (row : RowRef) : ((RowKey.put entries key row).map (·.1)).Nodup := by
  unfold RowKey.put
  split
  · -- the pair of the key is replaced in place
    rw [List.map_map]
    have hkeys : ((·.1) ∘ fun e : RowKey × RowRef => if e.1 == key then (key, row) else e) =
        (·.1) := by
      funext e
      by_cases he : e.1 = key <;> simp [he]
    rwa [hkeys]
  · next hany =>
    -- the key is new, and goes at the end
    rw [List.map_append, List.nodup_append]
    refine ⟨h, List.nodup_singleton key, fun a ha b hb => ?_⟩
    obtain ⟨e, he, rfl⟩ := List.mem_map.mp ha
    rw [List.mem_singleton.mp hb]
    intro hk
    exact hany (List.any_eq_true.mpr ⟨e, he, by simp [hk]⟩)

end RowKey

/-! ## What a change set holds after a run -/

/-- What a change set holds, in terms of the run that built it: each key once in the inserted and
the updated rows; as inserted row of a key, the last row written under it once it is inserted; as
updated row, the last row written before its first insertion; and the deleted keys and instance
events each once, in recording order. -/
structure ChangeSet.Records (c : ChangeSet) (rs : List ChangeRecord) : Prop where
  inserted_nodup : (c.inserted.map (·.1)).Nodup
  updated_nodup : (c.updated.map (·.1)).Nodup
  inserted : ∀ k, c.inserted.lookup k = if rs.any (·.inserts k) then lastWrite? k rs else none
  updated : ∀ k, c.updated.lookup k = lastWrite? k (rs.takeWhile (!·.inserts k))
  deleted : c.deleted = deletedKeys rs
  saved : c.saved = savedEvents rs
  removed : c.removed = removedEvents rs

namespace ChangeSet.Records

variable {c : ChangeSet} {rs : List ChangeRecord}

theorem empty : ChangeSet.Records {} [] :=
  ⟨List.nodup_nil, List.nodup_nil, fun _ => rfl, fun _ => rfl, rfl, rfl, rfl⟩

/-- A call that writes no row keeps the row lists, whatever it does to the others. -/
theorem of_no_write (h : c.Records rs) {r : ChangeRecord} {c' : ChangeSet}
    (hw : ∀ k, r.write? k = none) (hi : ∀ k, r.inserts k = false)
    (hins : c'.inserted = c.inserted) (hupd : c'.updated = c.updated)
    (hdel : c'.deleted = deletedKeys (rs ++ [r])) (hsav : c'.saved = savedEvents (rs ++ [r]))
    (hrem : c'.removed = removedEvents (rs ++ [r])) : c'.Records (rs ++ [r]) where
  inserted_nodup := hins ▸ h.inserted_nodup
  updated_nodup := hupd ▸ h.updated_nodup
  inserted k := by
    rw [hins, h.inserted k, lastWrite?_concat, hw k, Option.none_or, List.any_append]
    simp [hi k]
  updated k := by rw [hupd, h.updated k, lastWrite?_takeWhile_concat (Or.inl (hw k))]
  deleted := hdel
  saved := hsav
  removed := hrem

theorem recordInsert (h : c.Records rs) (key : RowKey) (row : RowRef) :
    (c.recordInsert key row).Records (rs ++ [.insert key row]) where
  inserted_nodup := RowKey.put_nodup h.inserted_nodup key row
  updated_nodup := h.updated_nodup
  inserted k := by
    simp only [ChangeSet.recordInsert, RowKey.lookup_put, h.inserted k, lastWrite?_concat,
      List.any_append, List.any_cons, List.any_nil, ChangeRecord.inserts, ChangeRecord.write?]
    by_cases hk : k = key
    · subst hk
      simp
    · simp [hk, Ne.symm hk]
  updated k := by
    rw [ChangeSet.recordInsert, h.updated k]
    by_cases hk : key = k
    · exact (lastWrite?_takeWhile_concat (Or.inr (by simp [ChangeRecord.inserts, hk]))).symm
    · exact (lastWrite?_takeWhile_concat (Or.inl (by simp [ChangeRecord.write?, hk]))).symm
  deleted := by simp [ChangeSet.recordInsert, h.deleted, deletedKeys, ChangeRecord.deletedKey?]
  saved := by simp [ChangeSet.recordInsert, h.saved, savedEvents, ChangeRecord.savedEvent?]
  removed := by simp [ChangeSet.recordInsert, h.removed, removedEvents, ChangeRecord.removedEvent?]

/-- The inserted rows hold a key exactly when the run inserted under it. -/
theorem inserted_any (h : c.Records rs) (key : RowKey) :
    c.inserted.any (·.1 == key) = rs.any (·.inserts key) := by
  rw [← lookup_isSome, h.inserted key]
  cases hany : rs.any (·.inserts key)
  · rfl
  · exact lastWrite?_isSome_of_inserts hany

theorem recordUpdate (h : c.Records rs) (key : RowKey) (row : RowRef) :
    (c.recordUpdate key row).Records (rs ++ [.update key row]) := by
  have hnot : ∀ k, (ChangeRecord.update key row).inserts k = false := fun _ => rfl
  have hany : ∀ k, (rs ++ [ChangeRecord.update key row]).any (·.inserts k) = rs.any (·.inserts k) := by
    intro k
    simp [List.any_append, hnot]
  unfold ChangeSet.recordUpdate
  rw [h.inserted_any key]
  split
  · next hins =>
    -- the key is inserted already: the update replaces the inserted row
    refine ⟨RowKey.put_nodup h.inserted_nodup key row, h.updated_nodup, fun k => ?_, fun k => ?_,
      by simp [h.deleted, deletedKeys, ChangeRecord.deletedKey?],
      by simp [h.saved, savedEvents, ChangeRecord.savedEvent?],
      by simp [h.removed, removedEvents, ChangeRecord.removedEvent?]⟩
    · rw [RowKey.lookup_put, h.inserted k, hany, lastWrite?_concat]
      by_cases hk : k = key
      · subst hk
        simp [hins, ChangeRecord.write?]
      · simp [hk, ChangeRecord.write?, Ne.symm hk]
    · rw [h.updated k]
      by_cases hk : key = k
      · -- an earlier insertion ends the writes before the first one
        subst hk
        rw [List.takeWhile_append, if_neg]
        intro hlen
        have hall := (List.takeWhile_prefix (!·.inserts key) (l := rs)).eq_of_length hlen
        have hpass := (hall ▸ List.all_takeWhile : rs.all (!·.inserts key) = true)
        obtain ⟨x, hx, hi⟩ := List.any_eq_true.mp hins
        have := List.all_eq_true.mp hpass x hx
        simp [hi] at this
      · exact (lastWrite?_takeWhile_concat (Or.inl (by simp [ChangeRecord.write?, hk]))).symm
  · next hins =>
    -- the key is not inserted: the update goes with the updated rows
    have hnone : rs.any (·.inserts key) = false := by simpa using hins
    refine ⟨h.inserted_nodup, RowKey.put_nodup h.updated_nodup key row, fun k => ?_, fun k => ?_,
      by simp [h.deleted, deletedKeys, ChangeRecord.deletedKey?],
      by simp [h.saved, savedEvents, ChangeRecord.savedEvent?],
      by simp [h.removed, removedEvents, ChangeRecord.removedEvent?]⟩
    · rw [h.inserted k, hany, lastWrite?_concat]
      by_cases hk : k = key
      · subst hk
        simp [hnone]
      · simp [ChangeRecord.write?, Ne.symm hk]
    · rw [RowKey.lookup_put, h.updated k]
      by_cases hk : k = key
      · subst hk
        rw [List.takeWhile_append_of_pos (fun x hx => by simpa using List.any_eq_false.mp hnone x hx),
          List.takeWhile_cons_of_pos (by rfl), List.takeWhile_nil, lastWrite?_concat]
        simp [ChangeRecord.write?]
      · rw [if_neg hk, lastWrite?_takeWhile_concat (Or.inl (by simp [ChangeRecord.write?, Ne.symm hk]))]

theorem recordDelete (h : c.Records rs) (key : RowKey) :
    (c.recordDelete key).Records (rs ++ [.delete key]) := by
  have hdel : deletedKeys (rs ++ [.delete key]) =
      if (deletedKeys rs).contains key then deletedKeys rs else deletedKeys rs ++ [key] := by
    simp [deletedKeys, ChangeRecord.deletedKey?, eraseDups_concat]
  unfold ChangeSet.recordDelete
  rw [h.deleted]
  split
  · next hc =>
    exact h.of_no_write (fun _ => rfl) (fun _ => rfl) rfl rfl (h.deleted.trans (hdel.trans (if_pos hc)).symm)
      (by simp [h.saved, savedEvents, ChangeRecord.savedEvent?])
      (by simp [h.removed, removedEvents, ChangeRecord.removedEvent?])
  · next hc =>
    exact h.of_no_write (fun _ => rfl) (fun _ => rfl) rfl rfl (hdel.trans (if_neg hc)).symm
      (by simp [h.saved, savedEvents, ChangeRecord.savedEvent?])
      (by simp [h.removed, removedEvents, ChangeRecord.removedEvent?])

theorem recordSaved (h : c.Records rs) (e : InstanceEvent) :
    (c.recordSaved e).Records (rs ++ [.saved e]) := by
  have hsav : savedEvents (rs ++ [.saved e]) =
      if (savedEvents rs).contains e then savedEvents rs else savedEvents rs ++ [e] := by
    simp [savedEvents, ChangeRecord.savedEvent?, eraseDups_concat]
  unfold ChangeSet.recordSaved
  rw [h.saved]
  split
  · next hc =>
    exact h.of_no_write (fun _ => rfl) (fun _ => rfl) rfl rfl
      (by simp [h.deleted, deletedKeys, ChangeRecord.deletedKey?]) (h.saved.trans (hsav.trans (if_pos hc)).symm)
      (by simp [h.removed, removedEvents, ChangeRecord.removedEvent?])
  · next hc =>
    exact h.of_no_write (fun _ => rfl) (fun _ => rfl) rfl rfl
      (by simp [h.deleted, deletedKeys, ChangeRecord.deletedKey?]) (hsav.trans (if_neg hc)).symm
      (by simp [h.removed, removedEvents, ChangeRecord.removedEvent?])

theorem recordRemoved (h : c.Records rs) (e : InstanceEvent) :
    (c.recordRemoved e).Records (rs ++ [.removed e]) := by
  have hrem : removedEvents (rs ++ [.removed e]) =
      if (removedEvents rs).contains e then removedEvents rs else removedEvents rs ++ [e] := by
    simp [removedEvents, ChangeRecord.removedEvent?, eraseDups_concat]
  unfold ChangeSet.recordRemoved
  rw [h.removed]
  split
  · next hc =>
    exact h.of_no_write (fun _ => rfl) (fun _ => rfl) rfl rfl
      (by simp [h.deleted, deletedKeys, ChangeRecord.deletedKey?])
      (by simp [h.saved, savedEvents, ChangeRecord.savedEvent?]) (h.removed.trans (hrem.trans (if_pos hc)).symm)
  · next hc =>
    exact h.of_no_write (fun _ => rfl) (fun _ => rfl) rfl rfl
      (by simp [h.deleted, deletedKeys, ChangeRecord.deletedKey?])
      (by simp [h.saved, savedEvents, ChangeRecord.savedEvent?]) (hrem.trans (if_neg hc)).symm

/-- Every record call keeps what the change set holds in step with the run. -/
theorem apply (h : c.Records rs) : ∀ r : ChangeRecord, (r.apply c).Records (rs ++ [r])
  | .insert key row => h.recordInsert key row
  | .update key row => h.recordUpdate key row
  | .delete key => h.recordDelete key
  | .saved e => h.recordSaved e
  | .removed e => h.recordRemoved e

end ChangeSet.Records

/-- The change set of a run holds what the run says. -/
theorem ChangeSet.records_ofRecords (rs : List ChangeRecord) : (ofRecords rs).Records rs := by
  induction rs using List.reverseRecOn with
  | nil => exact Records.empty
  | append_singleton rs r ih =>
    rw [ofRecords, List.foldl_append]
    exact ih.apply r

/-! ## Publishing is a run of cache calls -/

/-- The key a stored row carries: its table level and its id, once it has one. -/
def RowStore.keyOf? (s : RowStore) (row : RowRef) : Option RowKey :=
  (s.get row).id.map ((s.get row).entity, ·)

theorem ChangeRecord.keyOf?_of_carries {store : RowStore} {x : ChangeRecord} {k : RowKey}
    {row : RowRef} (hc : x.carries store = true) (hw : x.write? k = some row) :
    store.keyOf? row = some k := by
  cases x with
  | insert key row' | update key row' =>
    simp only [ChangeRecord.write?] at hw
    split at hw
    · next hk =>
      cases hw
      subst hk
      simp only [ChangeRecord.carries, Bool.and_eq_true, beq_iff_eq] at hc
      simp [RowStore.keyOf?, hc.1, hc.2]
    · cases hw
  | delete | saved | removed => cases hw

theorem CacheCall.run_cons_fst {σ ρ : Type} (step : σ → CacheCall ρ → σ × CacheAnswer ρ) (s : σ)
    (x : CacheCall ρ) (xs : List (CacheCall ρ)) :
    (CacheCall.run step s (x :: xs)).1 = (CacheCall.run step (step s x).1 xs).1 := rfl

theorem CacheCall.run_append_fst {σ ρ : Type} (step : σ → CacheCall ρ → σ × CacheAnswer ρ) :
    ∀ (s : σ) (xs ys : List (CacheCall ρ)),
      (CacheCall.run step s (xs ++ ys)).1 = (CacheCall.run step (CacheCall.run step s xs).1 ys).1
  | _, [], _ => rfl
  | s, x :: xs, ys => by
    rw [List.cons_append, CacheCall.run_cons_fst, CacheCall.run_cons_fst]
    exact CacheCall.run_append_fst step _ xs ys

/-- Keeping rows one after another puts each under the key it carries. -/
theorem RowPool.foldl_keep (rows : List (RowKey × RowRef)) (p : RowPool) :
    rows.foldl (fun p e => p.keep e.2) p =
      { p with cache := (CacheCall.run RowCache.call p.cache
          (rows.map fun e => .put (p.store.keyOf? e.2) e.2)).1 } := by
  induction rows generalizing p with
  | nil => rfl
  | cons e rows ih =>
    have hkeep : p.keep e.2 = { p with cache := (p.cache.call (.put (p.store.keyOf? e.2) e.2)).1 } := by
      unfold RowPool.keep RowStore.keyOf?
      dsimp only
      cases (p.store.get e.2).id <;> rfl
    rw [List.foldl_cons, hkeep, ih]
    rfl

theorem RowPool.foldl_evict (keys : List RowKey) (p : RowPool) :
    keys.foldl (fun p k => { p with cache := (p.cache.evict k).1 }) p =
      { p with cache := (CacheCall.run RowCache.call p.cache (keys.map .evict)).1 } := by
  induction keys generalizing p with
  | nil => rfl
  | cons k keys ih =>
    rw [List.foldl_cons, ih]
    rfl

namespace ChangeSet

/-- The rows publishing puts: the inserted rows, then the updated ones, less the deleted keys. -/
def liveRows (c : ChangeSet) : List (RowKey × RowRef) :=
  (c.inserted ++ c.updated).filter fun e => !c.deleted.contains e.1

/-- Publishing puts the live rows under the keys they carry, then evicts the deleted keys. -/
theorem publish_pool (c : ChangeSet) (p : RowPool) :
    (c.publish p).1 = { p with cache := (CacheCall.run RowCache.call p.cache
      (c.liveRows.map (fun e => .put (p.store.keyOf? e.2) e.2) ++ c.deleted.map .evict)).1 } := by
  simp only [publish, liveRows, List.filter_append]
  rw [RowPool.foldl_keep, RowPool.foldl_evict, CacheCall.run_append_fst]

theorem publish_events (c : ChangeSet) (p : RowPool) :
    (c.publish p).2 =
      { updated := c.saved.filter (fun e => !(c.removed.map (·.handle)).contains e.handle),
        deleted := c.removed } := rfl

end ChangeSet

/-! ## Puts and evictions under the list discipline -/

namespace Lru

variable {ρ : Type}

/-- The keys kept. -/
def keys (m : Lru ρ) : Finset RowKey := (m.items.map (·.1)).toFinset

theorem length_rowsOf {m : Lru ρ} (hn : (m.items.map (·.1)).Nodup) (e : EntityId) :
    (m.rowsOf e).length = (m.keys.filter (·.1 = e)).card := by
  have hnf : ((m.items.map (·.1)).filter (·.1 == e)).Nodup := hn.filter _
  calc (m.rowsOf e).length = ((m.items.map (·.1)).filter (·.1 == e)).length := by
        simp [rowsOf, List.filter_map, Function.comp_def]
    _ = (((m.items.map (·.1)).filter (·.1 == e)).toFinset).card :=
        (List.toFinset_card_of_nodup hnf).symm
    _ = (m.keys.filter (·.1 = e)).card := by simp [keys, List.toFinset_filter]

/-- A put under a key that has room keeps the keys distinct, adds only its own key, and sets the
row of its key alone. -/
theorem put_step {m : Lru ρ} (hn : (m.items.map (·.1)).Nodup) {T : Finset RowKey} {key : RowKey}
    (row : ρ) (hT : key ∈ T) (hroom : ((m.keys ∪ T).filter (·.1 = key.1)).card ≤ m.capacity) :
    ((m.call (.put (some key) row)).1.items.map (·.1)).Nodup ∧
      (m.call (.put (some key) row)).1.keys ∪ T = m.keys ∪ T ∧
      ∀ k, (m.call (.put (some key) row)).1.find? k = if k = key then some row else m.find? k := by
  cases hm : m.find? key with
  | some old =>
    -- the key is kept: its row is replaced and becomes the most recently used
    have hcall : (m.call (.put (some key) row)).1 = m.refresh key row := by
      simp [Lru.call, hm]
    have hin : key ∈ m.items.map (·.1) := List.mem_map.mpr ⟨(key, old), mem_of_lookup hm, rfl⟩
    rw [hcall]
    refine ⟨?_, ?_, fun k => ?_⟩
    · simp only [refresh, drop, List.map_append, List.map_cons, List.map_nil]
      rw [List.nodup_append]
      refine ⟨(hn.sublist (List.filter_sublist.map _)), List.nodup_singleton key, fun a ha b hb => ?_⟩
      obtain ⟨p, hp, rfl⟩ := List.mem_map.mp ha
      rw [List.mem_singleton.mp hb]
      simpa using (List.mem_filter.mp hp).2
    · have hkeys : (m.refresh key row).keys = m.keys := by
        ext k
        by_cases hk : k = key
        · subst hk
          simp [keys, refresh, hin]
        · simp [keys, refresh, drop, hk]
      rw [hkeys]
    · simp only [find?, refresh, drop, List.lookup_append, lookup_filter_key, lookup_cons_eq_ite,
        List.lookup_nil]
      by_cases hk : k = key <;> simp [hk]
  | none =>
    have hnot := not_mem_keys hn hm
    -- the key is new, and its entity has room for it
    have hlt : (m.rowsOf key.1).length < m.capacity := by
      rw [length_rowsOf hn]
      refine Nat.lt_of_lt_of_le (Finset.card_lt_card ?_) hroom
      rw [Finset.ssubset_iff_of_subset (Finset.filter_subset_filter _ Finset.subset_union_left)]
      exact ⟨key, by simp [hT], by simp [keys, hnot]⟩
    have h0 : m.capacity ≠ 0 := by omega
    have hfull : ¬ m.capacity ≤ (m.rowsOf key.1).length := by omega
    have hcall : (m.call (.put (some key) row)).1 = { m with items := m.items ++ [(key, row)] } := by
      simp only [Lru.call, hm, Option.isSome_none, Bool.false_eq_true, if_false, Lru.add, h0, hfull]
    rw [hcall]
    refine ⟨?_, ?_, fun k => lookup_append_new hm row k⟩
    · rw [List.map_append, List.nodup_append]
      refine ⟨hn, List.nodup_singleton key, fun a ha b hb => ?_⟩
      rw [List.mem_singleton.mp hb]
      rintro rfl
      exact hnot ha
    · have hkeys : ({ m with items := m.items ++ [(key, row)] } : Lru ρ).keys = insert key m.keys := by
        ext k
        simp [keys]
      rw [hkeys, Finset.insert_union, Finset.insert_eq_of_mem (Finset.mem_union_right _ hT)]

/-- Puts under keys of a set that, with the kept keys, fits each entity's capacity drop
nothing: each key then holds the row of its last put, and every other key its row. -/
theorem find?_run_put {T : Finset RowKey} : ∀ (rows : List (RowKey × ρ)) (m : Lru ρ),
    (m.items.map (·.1)).Nodup → (∀ p ∈ rows, p.1 ∈ T) →
    (∀ p ∈ rows, ((m.keys ∪ T).filter (·.1 = p.1.1)).card ≤ m.capacity) → ∀ k,
      (CacheCall.run Lru.call m (rows.map fun p => .put (some p.1) p.2)).1.find? k =
        (rows.reverse.lookup k).or (m.find? k)
  | [], _, _, _, _, _ => by simp [CacheCall.run]
  | (key, row) :: rows, m, hn, hT, hroom, k => by
    obtain ⟨hn', hkeys, hfind⟩ := put_step hn row (hT _ List.mem_cons_self)
      (hroom _ List.mem_cons_self)
    -- the rest of the puts see the same keys to come, and the same capacity
    have hroom' : ∀ p ∈ rows, (((m.call (.put (some key) row)).1.keys ∪ T).filter
        (·.1 = p.1.1)).card ≤ (m.call (.put (some key) row)).1.capacity := fun p hp => by
      rw [hkeys, capacity_call]
      exact hroom p (List.mem_cons_of_mem _ hp)
    rw [List.map_cons, CacheCall.run_cons_fst,
      find?_run_put rows _ hn' (fun p hp => hT p (List.mem_cons_of_mem _ hp)) hroom' k, hfind k,
      List.reverse_cons, List.lookup_append, Option.or_assoc, lookup_cons_eq_ite]
    by_cases hk : k = key <;> simp [hk]

/-- Evictions forget exactly their keys. -/
theorem find?_run_evict : ∀ (ks : List RowKey) (m : Lru ρ) (k : RowKey),
    (CacheCall.run Lru.call m (ks.map .evict)).1.find? k = if k ∈ ks then none else m.find? k
  | [], _, _ => by simp [CacheCall.run]
  | key :: ks, m, k => by
    rw [List.map_cons, CacheCall.run_cons_fst, find?_run_evict ks]
    simp only [Lru.call, Lru.find?, Lru.drop, lookup_filter_key, List.mem_cons]
    by_cases hk : k = key <;> simp [hk]

end Lru

/-! ## Publishing the change set of a run -/

section Keyed

variable {α β : Type} [DecidableEq α] [BEq α] [LawfulBEq α]

/-- Keeping the pairs whose keys pass a test keeps the lookups of the keys that pass. -/
theorem lookup_filter_fst (q : α → Bool) : ∀ (l : List (α × β)) (k : α),
    (l.filter fun e => q e.1).lookup k = if q k then l.lookup k else none
  | [], _ => by simp
  | (a, b) :: l, k => by
    rw [List.filter_cons, lookup_cons_eq_ite]
    by_cases hk : k = a
    · subst hk
      cases hq : q k <;> simp [hq, lookup_filter_fst q l k]
    · split <;> simp [lookup_cons_eq_ite, hk, lookup_filter_fst q l k]

end Keyed

/-- A cache standing for a list keeps as many rows per entity as the list. -/
theorem RowCache.Refines.retained_eq {ρ : Type} {c : RowCache ρ} {m : Lru ρ} (h : c.Refines m)
    (e : EntityId) : c.retained e = (m.rowsOf e).length := by
  simp [RowCache.retained, h.order e, Lru.rowsOf]

namespace ChangeSet.Records

variable {c : ChangeSet} {rs : List ChangeRecord}

/-- The updated row of a key, else its inserted row, is the row `publishedRow?` names. -/
theorem published (h : c.Records rs) (k : RowKey) :
    (c.updated.lookup k).or (c.inserted.lookup k) = publishedRow? k rs := by
  rw [h.updated k, h.inserted k, publishedRow?]
  cases hany : rs.any (·.inserts k)
  · -- never inserted: the writes before the first insertion are all the writes
    rw [takeWhile_of_not_inserts hany]
    simp
  · rfl

/-- Every row publishing puts was written under its key by some call of the run. -/
theorem written_of_live (h : c.Records rs) {e : RowKey × RowRef} (he : e ∈ c.liveRows) :
    ∃ x ∈ rs, x.write? e.1 = some e.2 := by
  rcases List.mem_append.mp (List.mem_filter.mp he).1 with hi | hu
  · have hl := lookup_of_mem h.inserted_nodup hi
    rw [h.inserted] at hl
    split at hl
    · exact lastWrite?_mem hl
    · cases hl
  · have hl := lookup_of_mem h.updated_nodup hu
    rw [h.updated] at hl
    obtain ⟨x, hx, hw⟩ := lastWrite?_mem hl
    exact ⟨x, (List.takeWhile_sublist _).subset hx, hw⟩

/-- The last put of a key that is not deleted is of the row `publishedRow?` names. -/
theorem liveRows_lookup (h : c.Records rs) {k : RowKey} (hk : k ∉ deletedKeys rs) :
    c.liveRows.reverse.lookup k = publishedRow? k rs := by
  have hrev : ∀ l : List (RowKey × RowRef), (l.map (·.1)).Nodup → l.reverse.lookup k = l.lookup k :=
    fun l hn => lookup_eq_of_perm (List.reverse_perm l) (by rw [List.map_reverse]; exact List.nodup_reverse.mpr hn) k
  rw [liveRows, ← List.filter_reverse, lookup_filter_fst (fun k => !c.deleted.contains k),
    h.deleted, if_pos (by simpa using hk), List.reverse_append, List.lookup_append,
    hrev _ h.updated_nodup, hrev _ h.inserted_nodup, h.published]

/-- What publishing keeps under a key: nothing for a deleted key, else the row `publishedRow?`
names, else the row kept before. -/
theorem publish_find (h : c.Records rs) {store : RowStore} (hcarry : ∀ x ∈ rs, x.carries store = true)
    {cache : RowCache RowRef} {m : Lru RowRef} (hc : cache.Refines m)
    (hroom : ∀ k ∈ writtenKeys rs, cache.retained k.1 +
      ((writtenKeys rs).filter (·.1 == k.1)).length ≤ cache.capacity) (k : RowKey) :
    (RowCache.entry? (c.publish { store, cache }).1.cache k).map (·.row) =
      if k ∈ deletedKeys rs then none else (publishedRow? k rs).or (m.find? k) := by
  let T := (writtenKeys rs).toFinset
  -- every live row carries its key, and that key is one the run writes
  have hput : c.liveRows.map (fun e => CacheCall.put (store.keyOf? e.2) e.2) =
      c.liveRows.map (fun e => .put (some e.1) e.2) := List.map_congr_left fun e he => by
    obtain ⟨x, hx, hw⟩ := h.written_of_live he
    rw [ChangeRecord.keyOf?_of_carries (hcarry x hx) hw]
  have hT : ∀ e ∈ c.liveRows, e.1 ∈ T := fun e he => by
    obtain ⟨x, hx, hw⟩ := h.written_of_live he
    have hkey : x.writtenKey? = some e.1 := by
      cases x <;> simp_all [ChangeRecord.write?, ChangeRecord.writtenKey?]
    simp only [T, writtenKeys, List.mem_toFinset, List.mem_eraseDups]
    exact List.mem_filterMap.mpr ⟨x, hx, hkey⟩
  -- the room the cache has for the run's keys is room for the live rows
  have hroom' : ∀ e ∈ c.liveRows, ((m.keys ∪ T).filter (·.1 = e.1.1)).card ≤ m.capacity := by
    intro e he
    have hT' : T.filter (·.1 = e.1.1) = ((writtenKeys rs).filter (·.1 == e.1.1)).toFinset := by
      ext x
      simp [T]
    calc ((m.keys ∪ T).filter (·.1 = e.1.1)).card
        ≤ (m.keys.filter (·.1 = e.1.1)).card + (T.filter (·.1 = e.1.1)).card := by
          rw [Finset.filter_union]
          exact Finset.card_union_le _ _
      _ ≤ cache.retained e.1.1 + ((writtenKeys rs).filter (·.1 == e.1.1)).length := by
          rw [hc.retained_eq, Lru.length_rowsOf hc.keys_nodup, hT']
          exact Nat.add_le_add_left (List.toFinset_card_le _) _
      _ ≤ cache.capacity := hroom e.1 (List.mem_toFinset.mp (hT e he))
      _ = m.capacity := hc.capacity
  rw [publish_pool]
  dsimp only
  rw [((hc.run _).1.entry k), hput, CacheCall.run_append_fst, Lru.find?_run_evict,
    Lru.find?_run_put _ _ hc.keys_nodup hT hroom', h.deleted]
  split
  · rfl
  · next hk => rw [h.liveRows_lookup hk]

end ChangeSet.Records

/-- A cache that some run of calls reaches from an empty cache. -/
def RowCache.Reachable {ρ : Type} (c : RowCache ρ) : Prop :=
  ∃ capacity calls, c = (CacheCall.run RowCache.call (RowCache.empty capacity) calls).1

/-- Publishing the change set of a run of record calls. When the rows the run writes carry the
keys they are written under, and the cache, reached by calls from an empty cache, has room for
every key the run writes beside the rows each entity keeps: the store is unchanged; no deleted key
is kept; every other key keeps the row `publishedRow?` names, or the row it kept before when the
run wrote nothing under it; the saved instances are handed back each once, in recording order,
less those whose instance was deleted; and the deleted instances each once, in recording order. -/
theorem publish_applies_unit {rs : List ChangeRecord} {store : RowStore} {c : RowCache RowRef}
    (hcarry : ∀ x ∈ rs, x.carries store = true) (hc : c.Reachable)
    (hroom : ∀ k ∈ writtenKeys rs, c.retained k.1 +
      ((writtenKeys rs).filter (·.1 == k.1)).length ≤ c.capacity) :
    let published := (ChangeSet.ofRecords rs).publish { store, cache := c }
    published.1.store = store ∧
      (∀ k ∈ deletedKeys rs, published.1.cache.contains k = false) ∧
      (∀ k, k ∉ deletedKeys rs → (RowCache.entry? published.1.cache k).map (·.row) =
        (publishedRow? k rs).or ((RowCache.entry? c k).map (·.row))) ∧
      published.2.updated = (savedEvents rs).filter
        (fun e => !((removedEvents rs).map (·.handle)).contains e.handle) ∧
      published.2.deleted = removedEvents rs := by
  obtain ⟨capacity, calls, rfl⟩ := hc
  obtain ⟨hR, -⟩ := (RowCache.refines_empty capacity).run calls
  have h := ChangeSet.records_ofRecords rs
  have hfind := h.publish_find hcarry hR hroom
  dsimp only
  refine ⟨by rw [ChangeSet.publish_pool], fun k hk => ?_, fun k hk => ?_, ?_, ?_⟩
  · rw [RowCache.contains, ← Option.isSome_map, hfind k, if_pos hk]
    rfl
  · rw [hfind k, if_neg hk, hR.entry k]
  · rw [ChangeSet.publish_events, h.saved, h.removed]
  · rw [ChangeSet.publish_events, h.removed]

/-- Team rows: two versions of team 1 and one of team 2. -/
def teamStore : RowStore :=
  ⟨#[{ entity := ⟨0⟩, primaryKey := 0, id := some 1, values := [.bigInt 1, .text "A"],
       modified := .empty },
     { entity := ⟨0⟩, primaryKey := 0, id := some 1, values := [.bigInt 1, .text "B"],
       modified := .empty },
     { entity := ⟨0⟩, primaryKey := 0, id := some 2, values := [.bigInt 2, .text "C"],
       modified := .empty }]⟩

/-- A unit that inserts team 2, updates team 1, saves an instance twice, deletes team 2 again and
deletes the instance of team 2. -/
def teamRecords : List ChangeRecord :=
  [.insert (⟨0⟩, 2) ⟨2⟩, .update (⟨0⟩, 1) ⟨1⟩, .saved ⟨⟨0⟩, ⟨0⟩, 1⟩, .delete (⟨0⟩, 2),
    .saved ⟨⟨0⟩, ⟨0⟩, 1⟩, .removed ⟨⟨1⟩, ⟨0⟩, 2⟩]

theorem team_unit_publishes :
    let published := (ChangeSet.ofRecords teamRecords).publish
      { store := teamStore, cache := RowCache.empty 4 }
    published.1.store = teamStore ∧
      (∀ k ∈ deletedKeys teamRecords, published.1.cache.contains k = false) ∧
      (∀ k, k ∉ deletedKeys teamRecords → (RowCache.entry? published.1.cache k).map (·.row) =
        (publishedRow? k teamRecords).or ((RowCache.entry? (RowCache.empty 4) k).map (·.row))) ∧
      published.2.updated = (savedEvents teamRecords).filter
        (fun e => !((removedEvents teamRecords).map (·.handle)).contains e.handle) ∧
      published.2.deleted = removedEvents teamRecords :=
  publish_applies_unit (by decide) ⟨4, [], rfl⟩ (by decide +kernel)

/-- Team 1 is updated, then, once its id is issued again, inserted: its last written row is the
second one, but publishing keeps the first. -/
def reissuedRecords : List ChangeRecord := [.update (⟨0⟩, 1) ⟨0⟩, .insert (⟨0⟩, 1) ⟨1⟩]

theorem update_before_insert_keeps_older_row :
    (∀ x ∈ reissuedRecords, x.carries teamStore = true) ∧
      lastWrite? (⟨0⟩, 1) reissuedRecords = some ⟨1⟩ ∧
      (RowCache.entry? ((ChangeSet.ofRecords reissuedRecords).publish
        { store := teamStore, cache := RowCache.empty 4 }).1.cache (⟨0⟩, 1)).map (·.row) =
        some ⟨0⟩ := by
  decide +kernel

end EntityGraph
