import EntityGraph.Proofs.Query.Names
import EntityGraph.Proofs.Query.Binding

/-!
# Built registries are well formed

Statements, scans and saves index the registry's arrays with the numbers and positions it
stores: entity numbers in chains of ancestors, implementations, relations and column targets, and
column positions for primary keys, link columns, reference columns, back references and sequence
columns. `Registry.build` checks descriptors, given in any order, in three phases: the columns of
each descriptor (`resolveColumns`), the chain of its ancestors (`parentChain`), then its
implementations and relations (`resolveLinks`), which read the chains of other entities.

Main statement: a registry that builds is well formed (`Registry.WellFormed`) and numbers the
descriptors in order, each parent resolved to its entity (`Registry.Registers`); this is
`Registry.build_wellFormed`.

The proof follows the phases. `Registry.build_phases` says what the phases made of each
descriptor (`Registry.BuiltAt`). The last phase resolves against entities that differ from the
registry's only in their links (`Structure.withoutLinks`), which what a relation's kind says does
not read (`RelationKind.Resolved.congr`). A walk up the ancestors that succeeds reaches the root
whatever it starts with (`Registry.walk_unique`), so the chain of an entity is the chain of its
parent followed by the parent (`Registry.parentChain_some`).
-/

namespace EntityGraph

/-! ## Traversals in `Except` -/

section Traversals

variable {ε α β : Type}

/-- A fold that succeeds keeps an invariant indexed by the number of steps taken. -/
theorem foldlM_ok_index {f : β → α → Except ε β} (I : Nat → β → Prop) :
    ∀ {l : List α}, (∀ k b b' (h : k < l.length), I k b → f b l[k] = .ok b' → I (k + 1) b') →
      ∀ {init r : β}, I 0 init → l.foldlM f init = .ok r → I l.length r
  | [], _, _, _, hi, h => by
    cases h
    exact hi
  | x :: l, hf, init, r, hi, h => by
    rw [List.foldlM_cons] at h
    obtain ⟨b, hx, hl⟩ := except_bind_ok h
    have hstep : I 1 b := hf 0 init b (by simp) hi hx
    exact foldlM_ok_index (fun k => I (k + 1))
      (fun k b b' hk hI hfk => hf (k + 1) b b' (by simpa using hk) hI hfk) hstep hl

theorem except_map_ok {f : α → β} {x : Except ε α} {b : β} (h : f <$> x = .ok b) :
    ∃ a, x = .ok a ∧ b = f a := by
  cases x with
  | error e => cases h
  | ok a =>
    cases h
    exact ⟨a, rfl, rfl⟩

theorem Except.eq_ok_of_isSome [Inhabited α] {x : Except ε α} (h : x.toOption.isSome = true) :
    x = .ok (x.toOption.getD default) := by
  cases x with
  | error e => cases h
  | ok a => rfl

/-- A traversal that succeeds maps each element to the result at its position. -/
theorem mapM_ok_getElem {f : α → Except ε β} {l : List α} {r : List β} (h : l.mapM f = .ok r) :
    ∃ hlen : r.length = l.length, ∀ i (hi : i < l.length), f l[i] = .ok r[i] := by
  obtain ⟨hlen, hget⟩ := List.forall₂_iff_get.mp (mapM_eq_ok_iff.mp h)
  exact ⟨hlen.symm, fun i hi => hget i hi (hlen ▸ hi)⟩

end Traversals

/-! ## Well-formed registries -/

namespace Structure

/-- The entity without the implementations and relations that the last phase of building adds. -/
def withoutLinks (s : Structure) : Structure := { s with implementations := [], relations := [] }

@[simp] theorem withoutLinks_id (s : Structure) : s.withoutLinks.id = s.id := rfl
@[simp] theorem withoutLinks_columns (s : Structure) : s.withoutLinks.columns = s.columns := rfl
@[simp] theorem withoutLinks_targets (s : Structure) : s.withoutLinks.targets = s.targets := rfl
@[simp] theorem withoutLinks_parents (s : Structure) : s.withoutLinks.parents = s.parents := rfl

@[simp] theorem default_parents : (default : Structure).parents = [] := rfl
@[simp] theorem default_implementations : (default : Structure).implementations = [] := rfl
@[simp] theorem default_relations : (default : Structure).relations = [] := rfl

/-- What resolving its columns settles about an entity of a registry of `n` entities: the columns
are named by distinct identifiers, so looking a name up inverts naming a column; exactly one
column is the primary key; the sequence column is a column; and each column has one target slot,
every target being a registered entity. -/
structure Columned (n : Nat) (s : Structure) : Prop where
  columns : ∀ c ∈ s.columns, isIdentifier c.name = true
  columnIndex_iff : ∀ name i,
    s.columnIndex? name = some i ↔ ∃ h : i < s.columns.length, s.columns[i].name = name
  primaryKey_lt : s.primaryKey < s.columns.length
  primary_iff : ∀ i (h : i < s.columns.length), s.columns[i].role = .primary ↔ i = s.primaryKey
  sequenceColumn_lt : ∀ c ∈ s.sequenceColumn, c < s.columns.length
  targets_length : s.targets.length = s.columns.length
  targets_lt : ∀ t ∈ s.targets, ∀ e ∈ t, e.index < n

/-- What the columns give depends only on the columns, the primary key, the sequence column and
the targets. -/
theorem Columned.of_withoutLinks {n : Nat} {s : Structure}
    (h : Columned n { s.withoutLinks with parents := [] }) : Columned n s :=
  ⟨h.columns, h.columnIndex_iff, h.primaryKey_lt, h.primary_iff, h.sequenceColumn_lt,
    h.targets_length, h.targets_lt⟩

/-- With distinct column names, the position found for a name is the column of that name. -/
theorem columnIndex?_eq_some_iff {s : Structure}
    (hnd : s.columns.Pairwise fun a b => a.name ≠ b.name) {name : String} {i : Nat} :
    s.columnIndex? name = some i ↔ ∃ h : i < s.columns.length, s.columns[i].name = name := by
  rw [columnIndex?, List.findIdx?_eq_some_iff_getElem]
  constructor
  · rintro ⟨h, hname, -⟩
    exact ⟨h, by simpa using hname⟩
  · rintro ⟨h, rfl⟩
    refine ⟨h, by simp, fun j hj heq => ?_⟩
    -- an earlier column of the same name would be a second declaration of it
    exact List.pairwise_iff_getElem.mp hnd j i (by omega) h hj (by simpa using heq)

/-- A column's target, when it has one, is among the targets. -/
theorem target?_mem {s : Structure} {c : Nat} {e : EntityId} (h : s.target? c = some e) :
    some e ∈ s.targets := by
  unfold target? at h
  cases hc : s.targets[c]? with
  | none => simp [hc] at h
  | some t =>
    rw [hc, Option.getD_some] at h
    subst h
    exact List.mem_of_getElem? hc

end Structure

/-- Where a relation of `owner` with target `target` is stored, read against the entities that
`get` gives: a column of the owner that refers to the target, a column of the target or of one of
its ancestors, or a table and two distinct columns named by identifiers. -/
def RelationKind.Resolved (get : EntityId → Structure) (owner : Structure) (target : EntityId) :
    RelationKind → Prop
  | .reference column => column < owner.columns.length ∧ owner.target? column = some target
  | .children pos => (pos.entity = target ∨ pos.entity ∈ (get target).parents) ∧
      pos.index < (get pos.entity).columns.length
  | .association table source tgt => isIdentifier table = true ∧ isIdentifier source = true ∧
      isIdentifier tgt = true ∧ source ≠ tgt

/-- What a relation's kind says depends on the entities only through what they hold before
their links. -/
theorem RelationKind.Resolved.congr {get₁ get₂ : EntityId → Structure} {owner₁ owner₂ : Structure}
    {target : EntityId} {k : RelationKind}
    (hget : ∀ e, (get₁ e).withoutLinks = (get₂ e).withoutLinks)
    (howner : owner₁.withoutLinks = owner₂.withoutLinks) (h : k.Resolved get₁ owner₁ target) :
    k.Resolved get₂ owner₂ target := by
  have hcols : owner₁.columns = owner₂.columns := by
    simpa using congrArg Structure.columns howner
  cases k with
  | reference c =>
    have htargets : owner₁.targets = owner₂.targets := by
      simpa using congrArg Structure.targets howner
    simpa only [RelationKind.Resolved, Structure.target?, ← hcols, ← htargets] using h
  | children pos =>
    have hp : (get₁ target).parents = (get₂ target).parents := by
      simpa using congrArg Structure.parents (hget target)
    have hc : (get₁ pos.entity).columns = (get₂ pos.entity).columns := by
      simpa using congrArg Structure.columns (hget pos.entity)
    simpa only [RelationKind.Resolved, ← hp, ← hc] using h
  | association table source tgt => exact h

/-- A registry in which every stored number is that of a registered entity and every stored
position that of a column. Each entity is numbered by its position, is named by identifiers, and
has its columns as `Structure.Columned` says; its ancestors are registered entities, each once,
not the entity itself, and those of its nearest ancestor come first; its implementations are
registered entities linked through its own columns; its relations belong to it, target
registered entities, have identifiers for names, and are stored as `RelationKind.Resolved` says. -/
structure Registry.WellFormed (reg : Registry) : Prop where
  id_eq : ∀ e, e.index < reg.size → (reg.get e).id = e
  names : ∀ e, e.index < reg.size →
    isIdentifier (reg.get e).name = true ∧ isIdentifier (reg.get e).table = true
  columned : ∀ e, e.index < reg.size → (reg.get e).Columned reg.size
  parents_nodup : ∀ e, (reg.get e).parents.Nodup ∧ e ∉ (reg.get e).parents
  parents_lt : ∀ e, ∀ p ∈ (reg.get e).parents, p.index < reg.size
  parents_chain : ∀ e p, (reg.get e).parent? = some p →
    (reg.get e).parents = (reg.get p).parents ++ [p]
  implementations : ∀ e, ∀ im ∈ (reg.get e).implementations,
    im.entity.index < reg.size ∧ im.linkColumn < (reg.get e).columns.length
  relations : ∀ e, ∀ r ∈ (reg.get e).relations, r.owner = e ∧ r.target.index < reg.size ∧
    isIdentifier r.name = true ∧ r.kind.Resolved reg.get (reg.get e) r.target

/-- The registry numbers the descriptors `ds` in order: entity `i` has descriptor `i`'s name,
table and columns, and its nearest ancestor is the entity that descriptor names as its parent. -/
structure Registry.Registers (reg : Registry) (ds : List EntityDescriptor) : Prop where
  size_eq : reg.size = ds.length
  entity : ∀ i (h : i < ds.length), (reg.get ⟨i⟩).name = ds[i].name ∧
    (reg.get ⟨i⟩).table = ds[i].table ∧ (reg.get ⟨i⟩).columns = ds[i].columns
  parent : ∀ i (h : i < ds.length), (reg.get ⟨i⟩).parent? = ds[i].parent.bind reg.entityId?

namespace Registry

/-- The back reference of a collection of children is a column of the target or of one of its
ancestors. -/
theorem WellFormed.backReference {reg : Registry} (hwf : reg.WellFormed) {e : EntityId}
    {r : Relation} {pos : ColumnPosition} (hr : r ∈ (reg.get e).relations)
    (hk : r.kind = .children pos) :
    reg.isA r.target pos.entity = true ∧ pos.entity.index < reg.size ∧
      pos.index < (reg.get pos.entity).columns.length := by
  obtain ⟨-, htarget, -, hres⟩ := hwf.relations e r hr
  rw [hk] at hres
  obtain ⟨hlevel, hcol⟩ := hres
  refine ⟨?_, ?_, hcol⟩
  · rcases hlevel with h | h
    · simp [isA, h]
    · simp [isA, h]
  · rcases hlevel with h | h
    · exact h ▸ htarget
    · exact hwf.parents_lt _ _ h

variable {ds : List EntityDescriptor} {i : Nat} {d : EntityDescriptor} {s : Structure}

/-- A name is looked up as the first descriptor of that name. -/
theorem lookupIn_ok {owner name : String} {e : EntityId} (h : lookupIn ds owner name = .ok e) :
    ds.findIdx? (·.name == name) = some e.index := by
  unfold lookupIn at h
  split at h
  · next j hj =>
    cases h
    exact hj
  · cases h

theorem lookupIn_lt {owner name : String} {e : EntityId} (h : lookupIn ds owner name = .ok e) :
    e.index < ds.length :=
  (List.findIdx?_eq_some_iff_getElem.mp (lookupIn_ok h)).1

/-- What resolving the columns of `d` knows after its first `k` columns: their names, latest
first, are the names seen, and are distinct; each has a target slot, every target registered; the
primary key found, if any, is the one primary column among them. -/
structure ColumnsRead (ds : List EntityDescriptor) (d : EntityDescriptor) (k : Nat)
    (acc : List String × Option Nat × List (Option EntityId)) : Prop where
  seen : acc.1 = ((d.columns.take k).map (·.name)).reverse
  distinct : (d.columns.take k).Pairwise fun a b => a.name ≠ b.name
  slots : acc.2.2.length = k
  key_lt : ∀ j ∈ acc.2.1, j < k
  key_iff : ∀ j (hj : j < d.columns.length), j < k →
    (d.columns[j].role = .primary ↔ acc.2.1 = some j)
  targets_lt : ∀ t ∈ acc.2.2, ∀ e ∈ t, e.index < ds.length

/-- Reading a column whose name is new records it as seen with one target slot, and makes it the
primary key when it is the first primary column. -/
theorem ColumnsRead.next {k : Nat} {seen : List String} {pk pk' : Option Nat}
    {targets : List (Option EntityId)} {slot : Option EntityId}
    (hI : ColumnsRead ds d k (seen, pk, targets)) (hk : k < d.columns.length)
    (hnew : ¬ seen.contains d.columns[k].name = true)
    (hpk' : if d.columns[k].role = .primary then pk = none ∧ pk' = some targets.length
      else pk' = pk)
    (hslot : ∀ e ∈ slot, e.index < ds.length) :
    ColumnsRead ds d (k + 1) (d.columns[k].name :: seen, pk', targets ++ [slot]) := by
  obtain ⟨hseen, hnd, hlen, hpk, hprim, htargets⟩ := hI
  dsimp only at hseen hlen hpk hprim htargets
  have htake := List.take_succ_eq_append_getElem hk
  have hfresh : ∀ a ∈ d.columns.take k, a.name ≠ d.columns[k].name := by
    intro a ha hname
    apply hnew
    rw [hseen, List.contains_iff_mem, List.mem_reverse, List.mem_map]
    exact ⟨a, ha, hname⟩
  refine ⟨?_, ?_, by simp [hlen], ?_, ?_, ?_⟩
  · rw [htake, List.map_append, List.reverse_append, hseen]
    rfl
  · rw [htake, List.pairwise_append]
    exact ⟨hnd, by simp, fun a ha b hb => by
      rw [List.mem_singleton.mp hb]
      exact hfresh a ha⟩
  · intro j hj
    split at hpk'
    · obtain ⟨-, rfl⟩ := hpk'
      simp only [Option.mem_def, Option.some.injEq] at hj
      omega
    · subst hpk'
      exact Nat.lt_succ_of_lt (hpk j hj)
  · intro j hjl hj
    -- an earlier column keeps its answer; the new one is the key exactly when it is primary
    split at hpk'
    · next hrole =>
      obtain ⟨hnone, rfl⟩ := hpk'
      rcases Nat.lt_succ_iff_lt_or_eq.mp hj with hj | rfl
      · rw [hprim j hjl hj, hnone]
        simp only [reduceCtorEq, false_iff, Option.some.injEq]
        omega
      · simp [hrole, hlen]
    · next hrole =>
      subst hpk'
      rcases Nat.lt_succ_iff_lt_or_eq.mp hj with hj | rfl
      · exact hprim j hjl hj
      · simp only [hrole, false_iff]
        intro hsome
        exact absurd (hpk j hsome) (Nat.lt_irrefl j)
  · intro t ht e he
    rcases List.mem_append.mp ht with ht | ht
    · exact htargets t ht e he
    · rw [List.mem_singleton.mp ht] at he
      exact hslot e he

/-- Resolving the columns of descriptor `i` gives entity `i` with the descriptor's name, table and
columns, no ancestors or links yet, and the facts `Structure.Columned` lists. -/
theorem resolveColumns_columned (h : resolveColumns ds i d = .ok s) :
    s.id = ⟨i⟩ ∧ s.name = d.name ∧ s.table = d.table ∧ s.columns = d.columns ∧ s.parents = [] ∧
      s.implementations = [] ∧ s.relations = [] ∧ s.Columned ds.length := by
  have hids := resolveColumns_columns h
  unfold resolveColumns at h
  obtain ⟨⟨seen, pk, targets⟩, hfold, h⟩ := except_bind_ok h
  have hI := foldlM_ok_index (ColumnsRead ds d) ?step ?init hfold
  case init => exact ⟨rfl, by simp, rfl, by simp, fun _ _ hj => absurd hj (by omega), by simp⟩
  case step =>
    rintro k ⟨seen, pk, targets⟩ acc' hk hI hstep
    dsimp only at hstep
    obtain ⟨u, hid, hstep⟩ := except_bind_ok hstep
    split at hstep
    · cases hstep
    · next hnew =>
      -- a primary column, a reference resolved to its entity, or an ordinary column
      obtain ⟨pk', slot, rfl, hpk', hslot⟩ : ∃ pk' slot,
          acc' = (d.columns[k].name :: seen, pk', targets ++ [slot]) ∧
          (if d.columns[k].role = .primary then pk = none ∧ pk' = some targets.length
            else pk' = pk) ∧ ∀ e ∈ slot, e.index < ds.length := by
        split at hstep
        · next hrole =>
          split at hstep
          · cases hstep
          · next hnone =>
            cases hstep
            refine ⟨_, none, rfl, ?_, by simp⟩
            simpa [hrole] using hnone
        · next target hrole =>
          obtain ⟨t, ht, hstep⟩ := except_bind_ok hstep
          cases hstep
          exact ⟨pk, some t, rfl, by simp [hrole], fun e he => by
            cases he
            exact lookupIn_lt ht⟩
        · next hrole =>
          cases hstep
          exact ⟨pk, none, rfl, by simp [hrole], by simp⟩
      exact hI.next hk hnew hpk' hslot
  obtain ⟨-, hnd, hlen, hpk, hprim, htargets⟩ := hI
  rw [List.take_length] at hnd
  dsimp only at hlen hpk hprim htargets h
  cases pk with
  | none => cases h
  | some primaryKey =>
    -- the sequence column, when one is named, is found among the columns
    suffices hs : ∃ sc : Option Nat, (∀ c ∈ sc, c < d.columns.length) ∧
        s = { id := ⟨i⟩, name := d.name, table := d.table, columns := d.columns, targets,
              primaryKey, parents := [], implementations := [], relations := [],
              sequenceColumn := sc } by
      obtain ⟨sc, hsc, rfl⟩ := hs
      refine ⟨rfl, rfl, rfl, rfl, rfl, rfl, rfl, hids, fun name j => ?_,
        hpk primaryKey rfl, fun j hj => ?_, hsc, hlen, htargets⟩
      · exact Structure.columnIndex?_eq_some_iff hnd
      · rw [hprim j hj hj, Option.some.injEq, eq_comm]
    cases hseq : d.sequenced with
    | none =>
      simp only [hseq] at h
      cases h
      exact ⟨none, by simp, rfl⟩
    | some name =>
      cases hc : d.columns.findIdx? (·.name == name) with
      | none =>
        simp only [hseq, hc] at h
        cases h
      | some c =>
        simp only [hseq, hc] at h
        cases h
        exact ⟨some c, fun c' hc' => by
          cases hc'
          exact (List.findIdx?_eq_some_iff_getElem.mp hc).1, rfl⟩

/-! ## Chains of ancestors -/

/-- Two lookups of one name find one entity, whichever descriptor asks. -/
theorem lookupIn_unique {o₁ o₂ name : String} {e₁ e₂ : EntityId}
    (h₁ : lookupIn ds o₁ name = .ok e₁) (h₂ : lookupIn ds o₂ name = .ok e₂) : e₁ = e₂ := by
  have h := (lookupIn_ok h₁).symm.trans (lookupIn_ok h₂)
  obtain ⟨a⟩ := e₁
  obtain ⟨b⟩ := e₂
  simpa using h

/-- The walk up the ancestors collects them in front of the chain it starts from, whatever that
chain is. -/
theorem walk_eq_map : ∀ (fuel : Nat) (next : Option String) (seen : List Nat) (chain : List EntityId),
    parentChain.walk ds d fuel next seen chain =
      (· ++ chain) <$> parentChain.walk ds d fuel next seen []
  | fuel, none, _, _ => by cases fuel <;> rfl
  | 0, some _, _, _ => rfl
  | fuel + 1, some p, seen, chain => by
    simp only [parentChain.walk]
    cases lookupIn ds d.name p with
    | error e => rfl
    | ok parent =>
      simp only [except_ok_bind]
      split
      · rfl
      · rw [walk_eq_map fuel _ _ (parent :: chain), walk_eq_map fuel _ _ [parent]]
        cases parentChain.walk ds d fuel _ _ [] <;> simp [Functor.map, Except.map]

/-- One step of a walk that succeeds: the parent is registered and not seen before, and the rest
of the walk starts from its own parent. -/
theorem walk_some_ok {fuel : Nat} {p : String} {seen : List Nat} {q : List EntityId}
    (h : parentChain.walk ds d fuel (some p) seen [] = .ok q) :
    ∃ parent q', lookupIn ds d.name p = .ok parent ∧ parent.index ∉ seen ∧
      parentChain.walk ds d (fuel - 1) ((ds[parent.index]?).bind (·.parent)) (parent.index :: seen) []
        = .ok q' ∧ q = q' ++ [parent] := by
  cases fuel with
  | zero => cases h
  | succ fuel =>
    simp only [parentChain.walk] at h
    obtain ⟨parent, hp, h⟩ := except_bind_ok h
    split at h
    · cases h
    · next hnew =>
      rw [walk_eq_map] at h
      obtain ⟨q', hq', rfl⟩ := except_map_ok h
      exact ⟨parent, q', hp, by simpa using hnew, hq', rfl⟩

/-- A walk that succeeds reaches the root whatever fuel and seen numbers it starts with, so two
walks from one parent collect one chain. -/
theorem walk_unique {d₁ d₂ : EntityDescriptor} :
    ∀ (fuel₁ fuel₂ : Nat) (next : Option String) (seen₁ seen₂ : List Nat) (q₁ q₂ : List EntityId),
      parentChain.walk ds d₁ fuel₁ next seen₁ [] = .ok q₁ →
      parentChain.walk ds d₂ fuel₂ next seen₂ [] = .ok q₂ → q₁ = q₂
  | fuel₁, fuel₂, none, _, _, _, _, h₁, h₂ => by
    cases fuel₁ <;> cases fuel₂ <;> cases h₁ <;> cases h₂ <;> rfl
  | 0, _, some _, _, _, _, _, h₁, _ => by cases h₁
  | fuel₁ + 1, fuel₂, some p, seen₁, seen₂, q₁, q₂, h₁, h₂ => by
    obtain ⟨parent₁, r₁, hp₁, -, hr₁, rfl⟩ := walk_some_ok h₁
    obtain ⟨parent₂, r₂, hp₂, -, hr₂, rfl⟩ := walk_some_ok h₂
    obtain rfl := lookupIn_unique hp₁ hp₂
    rw [walk_unique fuel₁ (fuel₂ - 1) _ _ _ r₁ r₂ hr₁ hr₂]

/-- A walk that succeeds collects registered entities, each once and none of them seen before. -/
theorem walk_nodup :
    ∀ (fuel : Nat) (next : Option String) (seen : List Nat) (q : List EntityId),
      parentChain.walk ds d fuel next seen [] = .ok q →
      q.Nodup ∧ ∀ x ∈ q, x.index ∉ seen ∧ x.index < ds.length
  | fuel, none, _, _, h => by
    cases fuel <;> cases h <;> simp
  | 0, some _, _, _, h => by cases h
  | fuel + 1, some p, seen, q, h => by
    obtain ⟨parent, q', hp, hnew, hq', rfl⟩ := walk_some_ok h
    obtain ⟨hnd, hq'⟩ := walk_nodup fuel _ _ q' hq'
    -- the parent comes last, after entities whose numbers differ from it
    refine ⟨List.nodup_append.mpr ⟨hnd, by simp, ?_⟩, ?_⟩
    · rintro x hx y hy rfl
      rw [List.mem_singleton.mp hy] at hx
      exact (hq' parent hx).1 List.mem_cons_self
    · intro x hx
      rcases List.mem_append.mp hx with hx | hx
      · exact ⟨fun hs => (hq' x hx).1 (List.mem_cons_of_mem _ hs), (hq' x hx).2⟩
      · rw [List.mem_singleton.mp hx]
        exact ⟨hnew, lookupIn_lt hp⟩

/-- The ancestors of a descriptor are registered entities, each once, and not the entity itself. -/
theorem parentChain_nodup {ps : List EntityId} (h : parentChain ds i d = .ok ps) :
    ps.Nodup ∧ ∀ p ∈ ps, p ≠ ⟨i⟩ ∧ p.index < ds.length := by
  obtain ⟨hnd, hps⟩ := walk_nodup _ _ _ _ h
  refine ⟨hnd, fun p hp => ⟨?_, (hps p hp).2⟩⟩
  rintro rfl
  exact (hps _ hp).1 List.mem_cons_self

theorem parentChain_none {ps : List EntityId} (h : parentChain ds i d = .ok ps)
    (hnone : d.parent = none) : ps = [] := by
  unfold parentChain at h
  rw [hnone] at h
  cases h
  rfl

/-- The nearest ancestor of a descriptor is the entity its parent names, and the ancestors are
those of that entity, then the entity. -/
theorem parentChain_some {ps : List EntityId} {name : String} (h : parentChain ds i d = .ok ps)
    (hname : d.parent = some name) :
    ∃ p, lookupIn ds d.name name = .ok p ∧ ∀ {dp psp}, ds[p.index]? = some dp →
      parentChain ds p.index dp = .ok psp → ps = psp ++ [p] := by
  unfold parentChain at h
  rw [hname] at h
  obtain ⟨p, q, hp, -, hq, rfl⟩ := walk_some_ok h
  refine ⟨p, hp, fun hdp hpsp => ?_⟩
  unfold parentChain at hpsp
  rw [hdp, Option.bind_some] at hq
  rw [walk_unique _ _ _ _ _ q _ hq hpsp]

/-! ## Implementations and relations -/

theorem ownColumn_ok {owner : Structure} {name : String} {c : Nat} (h : ownColumn owner name = .ok c) :
    c < owner.columns.length := by
  unfold ownColumn at h
  split at h
  · next c' hc =>
    cases h
    exact (List.findIdx?_eq_some_iff_getElem.mp hc).1
  · cases h

section Links

variable {structures : Array Structure} {owner : Structure}

/-- A resolved relation keeps its declared name, belongs to its owner, targets a registered
entity, and is stored where `RelationKind.Resolved` says, read against the entities resolved so
far. -/
theorem resolveRelation_resolved {rd : RelationSpec} {r : Relation}
    (htargets : ∀ t ∈ owner.targets, ∀ e ∈ t, e.index < ds.length)
    (h : resolveRelation ds structures owner rd = .ok r) :
    r.name = rd.name ∧ r.owner = owner.id ∧ r.target.index < ds.length ∧
      r.kind.Resolved (fun e => structures[e.index]?.getD default) owner r.target := by
  cases rd with
  | reference name column =>
    simp only [resolveRelation] at h
    obtain ⟨index, hindex, h⟩ := except_bind_ok h
    split at h
    · next target htarget =>
      cases h
      exact ⟨rfl, rfl, htargets _ (Structure.target?_mem htarget) target rfl,
        ownColumn_ok hindex, htarget⟩
    · cases h
  | children name target back =>
    simp only [resolveRelation] at h
    obtain ⟨t, ht, h⟩ := except_bind_ok h
    split at h
    · next pos hfound =>
      cases h
      -- the back reference is found on the first level, nearest first, that has the column
      obtain ⟨level, hlevel, hpos⟩ := List.exists_of_findSome?_eq_some hfound
      obtain ⟨index, hindex, rfl⟩ := Option.map_eq_some_iff.mp hpos
      refine ⟨rfl, rfl, lookupIn_lt ht, ?_, (List.findIdx?_eq_some_iff_getElem.mp hindex).1⟩
      simpa using hlevel
    · cases h
  | association name target table source tgt =>
    simp only [resolveRelation] at h
    obtain ⟨t, ht, h⟩ := except_bind_ok h
    obtain ⟨u, htable, h⟩ := except_bind_ok h
    obtain ⟨u, hsource, h⟩ := except_bind_ok h
    obtain ⟨u, htgt, h⟩ := except_bind_ok h
    split at h
    · cases h
    · next hne =>
      split at h
      · cases h
      · cases h
        exact ⟨rfl, rfl, lookupIn_lt ht, checkIdentifier_ok htable, checkIdentifier_ok hsource,
          checkIdentifier_ok htgt, by simpa using hne⟩

/-- Linking entity `i` gives it registered implementations linked through its own columns, and
relations resolved as `resolveRelation_resolved` says, each named by an identifier. -/
theorem resolveLinks_resolved {impls : List Implementation} {rels : List Relation}
    (htargets : ∀ t ∈ (structures[i]?.getD default).targets, ∀ e ∈ t, e.index < ds.length)
    (h : resolveLinks ds structures i d = .ok (impls, rels)) :
    (∀ im ∈ impls, im.entity.index < ds.length ∧
      im.linkColumn < (structures[i]?.getD default).columns.length) ∧
    ∀ r ∈ rels, r.owner = (structures[i]?.getD default).id ∧ r.target.index < ds.length ∧
      isIdentifier r.name = true ∧
      r.kind.Resolved (fun e => structures[e.index]?.getD default) (structures[i]?.getD default)
        r.target := by
  unfold resolveLinks at h
  obtain ⟨impls', himpls, h⟩ := except_bind_ok h
  obtain ⟨⟨names, rels'⟩, hrels, h⟩ := except_bind_ok h
  cases h
  constructor
  · intro im him
    obtain ⟨⟨entity, link⟩, -, hf⟩ := mapM_ok_mem himpls im him
    obtain ⟨e, he, hf⟩ := except_bind_ok hf
    dsimp only at hf
    split at hf
    · cases hf
    · obtain ⟨c, hc, hf⟩ := except_bind_ok hf
      cases hf
      exact ⟨lookupIn_lt he, ownColumn_ok hc⟩
  · -- every relation a step appends was resolved, under a name it checked
    refine foldlM_ok_invariant (I := fun acc : List String × List Relation => ∀ r ∈ acc.2,
      r.owner = (structures[i]?.getD default).id ∧ r.target.index < ds.length ∧
      isIdentifier r.name = true ∧
      r.kind.Resolved (fun e => structures[e.index]?.getD default) (structures[i]?.getD default)
        r.target) ?_ _ _ _ (by simp) hrels
    rintro ⟨names, acc⟩ rd ⟨names', acc'⟩ hI hstep
    obtain ⟨u, hname, hstep⟩ := except_bind_ok hstep
    dsimp only at hstep
    split at hstep
    · cases hstep
    · obtain ⟨r, hr, hstep⟩ := except_bind_ok hstep
      cases hstep
      obtain ⟨hrname, howner, htarget, hkind⟩ := resolveRelation_resolved htargets hr
      intro r' hr'
      rcases List.mem_append.mp hr' with hr' | hr'
      · exact hI r' hr'
      · rw [List.mem_singleton.mp hr']
        exact ⟨howner, htarget, hrname ▸ checkIdentifier_ok hname, hkind⟩

end Links

/-! ## The phases of building -/

/-- Two arrays of entities that agree on everything but implementations and relations. -/
def AgreeBeforeLinks (a b : Array Structure) : Prop :=
  ∀ j : Nat, Structure.withoutLinks (a[j]?.getD default) = Structure.withoutLinks (b[j]?.getD default)

/-- Linking entity after entity changes only each one's implementations and relations, resolved
against entities that agree with the starting ones on everything else. -/
theorem foldlM_link {f : Array Structure → EntityDescriptor × Nat → Except Error (Array Structure)}
    (hf : ∀ a d k a', f a (d, k) = .ok a' → ∃ impls rels,
      resolveLinks ds a k d = .ok (impls, rels) ∧
      a' = a.modify k fun s => { s with implementations := impls, relations := rels })
    {arr₀ arr : Array Structure} (hsize : arr₀.size = ds.length)
    (h : ds.zipIdx.foldlM f arr₀ = .ok arr) :
    arr.size = ds.length ∧ AgreeBeforeLinks arr arr₀ ∧ ∀ j (hj : j < ds.length),
      ∃ b, AgreeBeforeLinks b arr₀ ∧ resolveLinks ds b j ds[j] =
        .ok ((arr[j]?.getD default).implementations, (arr[j]?.getD default).relations) := by
  -- after `k` steps the first `k` entities are linked and the others are as they started
  have hI := foldlM_ok_index (fun k (a : Array Structure) =>
      a.size = ds.length ∧ AgreeBeforeLinks a arr₀ ∧ (∀ j, k ≤ j → a[j]? = arr₀[j]?) ∧
      ∀ j (hj : j < ds.length), j < k → ∃ b, AgreeBeforeLinks b arr₀ ∧ resolveLinks ds b j ds[j] =
        .ok ((a[j]?.getD default).implementations, (a[j]?.getD default).relations)) ?step ?init h
  case init => exact ⟨hsize, fun _ => rfl, fun _ _ => rfl, fun _ _ hj => absurd hj (by omega)⟩
  case step =>
    rintro k a a' hk ⟨hsz, hagree, hrest, hdone⟩ hstep
    simp only [List.getElem_zipIdx, Nat.zero_add] at hstep
    rw [List.length_zipIdx] at hk
    obtain ⟨impls, rels, hl, rfl⟩ := hf _ _ _ _ hstep
    refine ⟨by simp [hsz], fun j => ?_, fun j hj => ?_, fun j hj hjk => ?_⟩
    · rw [← hagree j, Array.getElem?_modify]
      split
      · cases a[j]? <;> rfl
      · rfl
    · rw [Array.getElem?_modify, if_neg (by omega)]
      exact hrest j (by omega)
    · rw [Array.getElem?_modify]
      rcases Nat.lt_succ_iff_lt_or_eq.mp hjk with hjk | rfl
      · rw [if_neg (by omega)]
        exact hdone j hj hjk
      · rw [if_pos rfl, Array.getElem?_eq_getElem (by omega)]
        exact ⟨a, hagree, hl⟩
  rw [List.length_zipIdx] at hI
  exact ⟨hI.1, hI.2.1, fun j hj => hI.2.2.2 j hj hj⟩

/-- Entity `i` of `reg` is what the phases of building make of descriptor `d`: its columns
resolved, its ancestors chained, and its implementations and relations resolved against entities
that agree with the registry's on everything but their links. -/
structure BuiltAt (ds : List EntityDescriptor) (reg : Registry) (i : Nat) (d : EntityDescriptor) :
    Prop where
  columns : resolveColumns ds i d = .ok { (reg.get ⟨i⟩).withoutLinks with parents := [] }
  parents : parentChain ds i d = .ok (reg.get ⟨i⟩).parents
  links : ∃ b : Array Structure, (∀ e, (b[e.index]?.getD default).withoutLinks =
      (reg.get e).withoutLinks) ∧
    resolveLinks ds b i d = .ok ((reg.get ⟨i⟩).implementations, (reg.get ⟨i⟩).relations)

theorem withoutLinks_clear {s : Structure} (hp : s.parents = []) (hi : s.implementations = [])
    (hr : s.relations = []) (ps : List EntityId) :
    { ({ s with parents := ps } : Structure).withoutLinks with parents := [] } = s := by
  cases s
  simp_all [Structure.withoutLinks]

/-- A registry that builds has checked the names of the descriptors, has one entity for each, and
made each one through the three phases. -/
theorem build_phases {reg : Registry} (h : build ds = .ok reg) :
    checkNames ds = .ok () ∧ reg.size = ds.length ∧
      ∀ i (hi : i < ds.length), BuiltAt ds reg i ds[i] := by
  unfold build at h
  obtain ⟨u, hnames, h⟩ := except_bind_ok h
  obtain ⟨ss, hss, h⟩ := except_bind_ok h
  obtain ⟨ss', hss', h⟩ := except_bind_ok h
  obtain ⟨arr, hfold, h⟩ := except_bind_ok h
  have hreg : reg.structures = arr := by
    cases h
    rfl
  obtain ⟨hlen, hcols⟩ := mapM_ok_getElem hss
  obtain ⟨hlen', hpar⟩ := mapM_ok_getElem hss'
  simp only [List.length_zipIdx, List.length_zip] at hlen hlen'
  -- the first phase resolves the columns of each descriptor, the second adds its ancestors
  have hentity : ∀ k (hk : k < ds.length), ∃ s₀ ps, resolveColumns ds k ds[k] = .ok s₀ ∧
      parentChain ds k ds[k] = .ok ps ∧ ss'[k]? = some { s₀ with parents := ps } := by
    intro k hk
    have hk₁ := hcols k (by simpa using hk)
    have hk₂ := hpar k (by simp; omega)
    simp only [List.getElem_zipIdx, List.getElem_zip, Nat.zero_add] at hk₁ hk₂
    obtain ⟨ps, hps, hk₂⟩ := except_bind_ok hk₂
    refine ⟨_, ps, hk₁, hps, ?_⟩
    rw [List.getElem?_eq_getElem (by omega)]
    exact congrArg some (Except.ok.inj hk₂).symm
  -- the third phase links each entity in turn
  obtain ⟨hsize, hagree, hlinks⟩ := foldlM_link (by
      intro a d k a' hstep
      obtain ⟨⟨impls, rels⟩, hl, hstep⟩ := except_bind_ok hstep
      exact ⟨impls, rels, hl, (Except.ok.inj hstep).symm⟩) (by simp [hlen', hlen]) hfold
  have hget : ∀ e, reg.get e = arr[e.index]?.getD default := by
    intro e
    rw [get, get?, hreg]
  refine ⟨hnames, by rw [size, hreg, hsize], fun i hi => ?_⟩
  obtain ⟨s₀, ps, hcol, hps, hs₀⟩ := hentity i hi
  obtain ⟨-, -, -, -, hp₀, hi₀, hr₀, -⟩ := resolveColumns_columned hcol
  have hskel : (reg.get ⟨i⟩).withoutLinks = ({ s₀ with parents := ps } : Structure).withoutLinks := by
    simpa [hget, hs₀] using hagree i
  refine ⟨?_, ?_, ?_⟩
  · rw [hskel, withoutLinks_clear hp₀ hi₀ hr₀]
    exact hcol
  · have hparents : (reg.get ⟨i⟩).parents = ps := by
      simpa using congrArg Structure.parents hskel
    rw [hparents]
    exact hps
  · obtain ⟨b, hb, hres⟩ := hlinks i hi
    refine ⟨b, fun e => ?_, by simpa [hget] using hres⟩
    rw [hb e.index, hget, hagree e.index]

/-! ## Built registries -/

/-- Checking the names of the descriptors checks that every entity name is an identifier. -/
theorem checkNames_names {u : Unit} (h : checkNames ds = .ok u) :
    ∀ d ∈ ds, isIdentifier d.name = true := by
  unfold checkNames at h
  obtain ⟨acc, hfold, -⟩ := except_bind_ok h
  refine foldlM_ok_forall ?_ _ _ _ hfold
  rintro ⟨names, tables⟩ d b' hs
  obtain ⟨u, hn, -⟩ := except_bind_ok hs
  exact checkIdentifier_ok hn

theorem get_of_size_le {reg : Registry} {e : EntityId} (h : reg.size ≤ e.index) :
    reg.get e = default := by
  rw [get, get?, Array.getElem?_eq_none h]
  rfl

section Built

variable {reg : Registry}

/-- A built entity has the descriptor's name, table and columns, and the facts its columns give. -/
theorem BuiltAt.columned (hb : BuiltAt ds reg i d) :
    (reg.get ⟨i⟩).id = ⟨i⟩ ∧ (reg.get ⟨i⟩).name = d.name ∧ (reg.get ⟨i⟩).table = d.table ∧
      (reg.get ⟨i⟩).columns = d.columns ∧ (reg.get ⟨i⟩).Columned ds.length := by
  obtain ⟨hid, hname, htable, hcols, -, -, -, hcolumned⟩ := resolveColumns_columned hb.columns
  exact ⟨hid, hname, htable, hcols, hcolumned.of_withoutLinks⟩

/-- A built entity's implementations and relations, read against the registry. -/
theorem BuiltAt.linked (hb : BuiltAt ds reg i d) :
    (∀ im ∈ (reg.get ⟨i⟩).implementations, im.entity.index < ds.length ∧
      im.linkColumn < (reg.get ⟨i⟩).columns.length) ∧
    ∀ r ∈ (reg.get ⟨i⟩).relations, r.owner = ⟨i⟩ ∧ r.target.index < ds.length ∧
      isIdentifier r.name = true ∧ r.kind.Resolved reg.get (reg.get ⟨i⟩) r.target := by
  obtain ⟨b, hb', hres⟩ := hb.links
  obtain ⟨hid, -, -, -, hcolumned⟩ := hb.columned
  -- the entities linking resolved against agree with the registry's but for their links
  have howner := hb' ⟨i⟩
  have hcols : (b[i]?.getD default).columns = (reg.get ⟨i⟩).columns := by
    simpa using congrArg Structure.columns howner
  have htargets : (b[i]?.getD default).targets = (reg.get ⟨i⟩).targets := by
    simpa using congrArg Structure.targets howner
  have hbid : (b[i]?.getD default).id = ⟨i⟩ := by
    simpa [hid] using congrArg Structure.id howner
  obtain ⟨himpls, hrels⟩ := resolveLinks_resolved (htargets ▸ hcolumned.targets_lt) hres
  refine ⟨fun im him => hcols ▸ himpls im him, fun r hr => ?_⟩
  obtain ⟨howner', htarget, hname, hkind⟩ := hrels r hr
  exact ⟨howner'.trans hbid, htarget, hname, hkind.congr hb' howner⟩

/-- A built entity's ancestors are those of the entity its descriptor names as parent, then that
entity; an entity whose descriptor names none has none. -/
theorem BuiltAt.parent (hbuilt : ∀ i (hi : i < ds.length), BuiltAt ds reg i ds[i]) (hb : BuiltAt ds reg i d) :
    (d.parent = none ∧ (reg.get ⟨i⟩).parents = []) ∨ ∃ name p, d.parent = some name ∧
      lookupIn ds d.name name = .ok p ∧ (reg.get ⟨i⟩).parents = (reg.get p).parents ++ [p] := by
  cases hname : d.parent with
  | none => exact .inl ⟨rfl, parentChain_none hb.parents hname⟩
  | some name =>
    obtain ⟨p, hp, hchain⟩ := parentChain_some hb.parents hname
    have hlt := lookupIn_lt hp
    exact .inr ⟨name, p, rfl, hp,
      hchain (List.getElem?_eq_getElem hlt) (hbuilt p.index hlt).parents⟩

end Built

/-- The position of a name among the entities of a registry that numbers the descriptors in
order is its position among the descriptors. -/
theorem entityId?_eq {reg : Registry} (hsize : reg.size = ds.length)
    (hnames : ∀ i (h : i < ds.length), (reg.get ⟨i⟩).name = ds[i].name) (name : String) :
    reg.entityId? name = (ds.findIdx? (·.name == name)).map (⟨·⟩) := by
  obtain ⟨⟨l⟩⟩ := reg
  have hmap : l.map (·.name) = ds.map (·.name) := by
    refine List.ext_getElem (by simpa [size] using hsize) fun i h₁ h₂ => ?_
    simp only [List.getElem_map]
    have := hnames i (by simpa using h₂)
    simpa [get, get?, List.getElem?_eq_getElem (by simpa using h₁)] using this
  have hfind : l.findIdx? (·.name == name) = ds.findIdx? (·.name == name) := by
    have h := congrArg (List.findIdx? (· == name)) hmap
    simpa only [List.findIdx?_map, Function.comp_def] using h
  simp only [entityId?]
  rw [← hfind]
  exact congrArg (Option.map _) (List.findIdx?_toArray _ l)

/-- A registry that builds is well formed, and numbers the descriptors in order with each
parent resolved to its entity. -/
theorem build_wellFormed {reg : Registry} (h : build ds = .ok reg) :
    reg.WellFormed ∧ reg.Registers ds := by
  obtain ⟨hnames, hsize, hbuilt⟩ := build_phases h
  have hdesc : ∀ i (hi : i < ds.length), (reg.get ⟨i⟩).name = ds[i].name ∧
      (reg.get ⟨i⟩).table = ds[i].table ∧ (reg.get ⟨i⟩).columns = ds[i].columns := fun i hi =>
    have hc := (hbuilt i hi).columned
    ⟨hc.2.1, hc.2.2.1, hc.2.2.2.1⟩
  -- an entity number below the size is that of a built entity, any other gives the blank entity
  have hblank : ∀ e : EntityId, ¬ e.index < ds.length → reg.get e = default :=
    fun e he => get_of_size_le (hsize ▸ Nat.le_of_not_lt he)
  have hparent : ∀ i (hi : i < ds.length), (ds[i].parent = none ∧ (reg.get ⟨i⟩).parents = []) ∨
      ∃ name p, ds[i].parent = some name ∧ lookupIn ds ds[i].name name = .ok p ∧
        (reg.get ⟨i⟩).parents = (reg.get p).parents ++ [p] :=
    fun i hi => (hbuilt i hi).parent hbuilt
  refine ⟨⟨fun e he => (hbuilt e.index (hsize ▸ he)).columned.1, fun e he => ?_, fun e he => ?_,
    fun e => ?_, fun e => ?_, fun e p hp => ?_, fun e => ?_, fun e => ?_⟩,
    ⟨hsize, hdesc, fun i hi => ?_⟩⟩
  · have hi : e.index < ds.length := hsize ▸ he
    have hmem := List.getElem_mem hi
    rw [(hdesc e.index hi).1, (hdesc e.index hi).2.1]
    exact ⟨checkNames_names hnames _ hmem, checkNames_tables hnames _ hmem⟩
  · exact hsize ▸ (hbuilt e.index (hsize ▸ he)).columned.2.2.2.2
  · by_cases he : e.index < ds.length
    · obtain ⟨hnd, hps⟩ := parentChain_nodup (hbuilt e.index he).parents
      exact ⟨hnd, fun hmem => (hps e hmem).1 rfl⟩
    · simp [hblank e he]
  · by_cases he : e.index < ds.length
    · intro p hp
      exact hsize ▸ ((parentChain_nodup (hbuilt e.index he).parents).2 p hp).2
    · simp [hblank e he]
  · by_cases he : e.index < ds.length
    · rcases hparent e.index he with ⟨-, hnil⟩ | ⟨name, p', -, -, hps⟩
      · simp [Structure.parent?, hnil] at hp
      · have hpp : p' = p := by simpa [Structure.parent?, hps] using hp
        rw [← hpp]
        exact hps
    · simp [hblank e he, Structure.parent?] at hp
  · by_cases he : e.index < ds.length
    · intro im him
      exact hsize ▸ (hbuilt e.index he).linked.1 im him
    · simp [hblank e he]
  · by_cases he : e.index < ds.length
    · intro r hr
      exact hsize ▸ (hbuilt e.index he).linked.2 r hr
    · simp [hblank e he]
  · -- the parent a descriptor names is found by the registry's own lookup
    rcases hparent i hi with ⟨hnone, hnil⟩ | ⟨name, p, hname, hp, hps⟩
    · simp [Structure.parent?, hnil, hnone]
    · rw [hname, Option.bind_some, entityId?_eq hsize (fun i hi => (hdesc i hi).1), lookupIn_ok hp]
      simp [Structure.parent?, hps]

/-- Heroes, registered before the people they inherit from, with their teams, missions and powers:
a reference, a collection of children, a link table, an implementation and a sequence column. -/
def leagueDescriptors : List EntityDescriptor :=
  [{ name := "Hero", table := "hero", parent := some "Person",
     columns := [Column.primary "id", Column.ordinary "alias" .text,
       Column.reference "team_id" "Team", Column.reference "powers_id" "Powers"],
     implementations := [("Powers", "powers_id")],
     relations := [.reference "team" "team_id", .children "missions" "Mission" "hero_id"] },
   { name := "Person", table := "person",
     columns := [Column.primary "id", Column.ordinary "name" .text] },
   { name := "Team", table := "team",
     columns := [Column.primary "id", Column.ordinary "title" .text],
     relations := [.children "members" "Hero" "team_id",
       .association "rivals" "Team" "rivalry" "team_id" "rival_id"] },
   { name := "Mission", table := "mission", sequenced := some "number",
     columns := [Column.primary "id", Column.ordinary "number" .integer,
       Column.reference "hero_id" "Hero"] },
   { name := "Powers", table := "powers",
     columns := [Column.primary "id", Column.ordinary "level" .integer] }]

theorem league_registry_wellFormed :
    ∃ reg, build leagueDescriptors = .ok reg ∧ reg.WellFormed ∧ reg.Registers leagueDescriptors :=
  -- the kernel runs the build; the registry is then the one it returns
  have h := Except.eq_ok_of_isSome (x := build leagueDescriptors) (by decide +kernel)
  ⟨_, h, build_wellFormed h⟩

end Registry

end EntityGraph
