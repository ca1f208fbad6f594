import EntityGraph.Proofs.Graph.Records

/-!
# Relations a scan rebuilds

Reading a row attaches the instance of every joined node to the instance of the node it was
joined from, through the node's relation. For one instance `o` and one relation name `r`, the
targets a scan reaches are those of the nodes joined through `r` whose parent node's record is
read as `o`, row after row and in layout order within a row (`Scan.reached`).

What the scan makes of the entry of `r` on `o` depends only on the entry before the scan and on
those targets (`Scan.rebuilt`): nothing changes when nothing is reached; a reference takes the
last target reached unless an assignment is pending; a collection's stored members become the
distinct targets reached, in order of first appearance, that are neither added nor removed,
while its added and removed members stay.

The proof follows one entry through the scan (`Scan.view`): reading an instance keeps it, an
attachment to another relation or instance keeps it, and an attachment to `r` on `o` advances
it by one target.
-/

namespace EntityGraph

namespace Scan

/-! ## The rebuilt entry -/

/-- Whether a collection keeps a target among its stored members: one neither added nor removed
since the last save. -/
def keeps (added removed : List InstanceId) (t : InstanceId) : Bool :=
  !added.contains t && !removed.contains t

/-- What a scan makes of the entry `entry` of a relation of kind `kind` when it reaches the
`targets`, in order: the entry itself when it reaches none; for a reference, the last target
unless an assignment is pending; for a collection, the distinct targets it keeps as its stored
members, in order of first appearance, with its added and removed members as they were. -/
def rebuilt (kind : RelationKind) (entry : Option RelationalData)
    (targets : List (Option InstanceId)) : Option RelationalData :=
  match targets.getLast? with
  | none => entry
  | some last =>
    match kind with
    | .reference _ =>
      match entry with
      | some (.reference t true) => some (.reference t true)
      | _ => some (.reference last false)
    | _ =>
      match entry.getD .emptyCollection with
      | .collection _ added removed =>
        some (.collection (((targets.filterMap id).filter (keeps added removed)).eraseDups)
          added removed)
      | other => some other

/-- One more target: it joins the stored members when it is new to them and kept. -/
theorem members_snoc (added removed : List InstanceId) (ts : List (Option InstanceId))
    (t : Option InstanceId) :
    (((ts ++ [t]).filterMap id).filter (keeps added removed)).eraseDups =
      match t with
      | some x =>
        let existing := ((ts.filterMap id).filter (keeps added removed)).eraseDups
        if existing.contains x || added.contains x || removed.contains x then existing
        else existing ++ [x]
      | none => ((ts.filterMap id).filter (keeps added removed)).eraseDups := by
  cases t with
  | none => simp
  | some x =>
    have hsplit : ((ts ++ [some x]).filterMap id).filter (keeps added removed) =
        (ts.filterMap id).filter (keeps added removed) ++ [x].filter (keeps added removed) := by
      simp [List.filterMap_append, List.filter_append]
    rw [hsplit, List.eraseDups_append]
    generalize (ts.filterMap id).filter (keeps added removed) = X
    dsimp only
    by_cases hk : keeps added removed x = true
    · -- a kept target joins unless it is there already
      have hadded : x ∉ added := by simp_all [keeps]
      have hremoved : x ∉ removed := by simp_all [keeps]
      by_cases hx : x ∈ X
      · simp [List.removeAll, hk, hx]
      · simp [List.removeAll, List.eraseDups_cons, hk, hx, hadded, hremoved]
    · have hdrop : x ∈ added ∨ x ∈ removed := by
        by_cases ha : x ∈ added
        · exact Or.inl ha
        · exact Or.inr (by simp_all [keeps])
      have hif : (x ∈ X ∨ x ∈ added) ∨ x ∈ removed := by
        rcases hdrop with h | h
        · exact Or.inl (Or.inr h)
        · exact Or.inr h
      simp [hk, hif]

/-- One more target for a reference: it becomes the target unless an assignment is pending. -/
theorem rebuilt_snoc_reference (column : Nat) (entry : Option RelationalData)
    (ts : List (Option InstanceId)) (t : Option InstanceId) :
    rebuilt (.reference column) entry (ts ++ [t]) =
      match rebuilt (.reference column) entry ts with
      | some (.reference t' true) => some (.reference t' true)
      | _ => some (.reference t false) := by
  -- a pending assignment is what the entry was, whatever was reached before
  rcases List.eq_nil_or_concat ts with rfl | ⟨ts', last, rfl⟩
  · cases entry with
    | none => rfl
    | some d => cases d with
      | reference t' dirty => cases dirty <;> rfl
      | collection => rfl
  · simp only [rebuilt, List.concat_eq_append, List.getLast?_append, List.getLast?_singleton,
      Option.some_or]
    cases entry with
    | none => rfl
    | some d => cases d with
      | reference t' dirty => cases dirty <;> rfl
      | collection => rfl

/-- One more target for a collection: the first reached empties the stored members, and a kept
target new to them joins them. -/
theorem rebuilt_snoc_collection (kind : RelationKind) (hkind : ∀ column, kind ≠ .reference column)
    (entry : Option RelationalData) (ts : List (Option InstanceId)) (t : Option InstanceId) :
    rebuilt kind entry (ts ++ [t]) =
      some (match (rebuilt kind entry ts).getD .emptyCollection with
        | .collection existing added removed =>
          let existing := if ts.isEmpty then [] else existing
          let existing := match t with
            | some t =>
              if existing.contains t || added.contains t || removed.contains t then existing
              else existing ++ [t]
            | none => existing
          .collection existing added removed
        | other => other) := by
  rcases List.eq_nil_or_concat ts with rfl | ⟨ts', last, rfl⟩
  · -- the first target: the stored members start empty
    simp only [rebuilt, List.nil_append, List.getLast?_singleton, List.getLast?_nil,
      List.isEmpty_nil, if_true]
    cases hentry : entry.getD .emptyCollection with
    | collection existing added removed =>
      have hm := members_snoc added removed [] t
      simp only [List.nil_append] at hm
      dsimp only
      rw [hm]
      cases t <;> simp
    | reference target dirty => rfl
  · have hne : (ts' ++ [last]).isEmpty = false := by simp
    simp only [rebuilt, List.concat_eq_append, List.getLast?_append, List.getLast?_singleton,
      Option.some_or, hne, Bool.false_eq_true, if_false]
    cases hentry : entry.getD .emptyCollection with
    | collection existing added removed =>
      dsimp only [Option.getD_some]
      rw [members_snoc]
    | reference target dirty => rfl

/-! ## The targets of a row -/

/-- Whether the node at position `i` of the layout `nodes` attaches its record in `row` to the
relation `r` of `o`: it is joined through `r` from a node before it whose record is `o`. -/
def attachesTo (nodes : List CompiledNode) (a : Arena) (o : InstanceId) (r : String)
    (row : List Value) (node : CompiledNode) (i : Nat) : Bool :=
  match node.parent, node.relation with
  | some p, some r' =>
    r' == r && decide (p < i) && (nodes[p]?.bind (instanceAt a · row)) == some o
  | _, _ => false

/-- The targets a row offers the relation `r` of `o`, in layout order: the records, in the arena
`a`, of the nodes that attach to it. -/
def targetsIn (nodes : List CompiledNode) (a : Arena) (o : InstanceId) (r : String)
    (row : List Value) : List (Option InstanceId) :=
  (nodes.zipIdx.filter fun p => attachesTo nodes a o r row p.1 p.2).map
    fun p => instanceAt a p.1 row

/-! ## One entry through a scan -/

/-- The entry of the relation `r` of the instance `o` in a load state, and whether the scan has
reached that relation of that instance yet. -/
def view (o : InstanceId) (r : String) (st : LoadState) : Option RelationalData × Bool :=
  ((st.arena.get? o).bind (·.relation? r), st.reset.contains (o, r))

/-- The entry of the relation `r` of `o` is what a scan makes of the entry `e₀` it started with
after reaching the targets `ts`, for the relation the registry resolves `r` to on the entity of
`o`; while `o` does not exist, the scan has reached nothing of it. -/
structure Tracks (s : Scan) (o : InstanceId) (r : String) (e₀ : Option RelationalData)
    (ts : List (Option InstanceId)) (st : LoadState) : Prop where
  absent : st.arena.get? o = none → e₀ = none ∧ ts = [] ∧ st.reset.contains (o, r) = false
  present : ∀ i rel, st.arena.get? o = some i → s.reg.findRelation? i.entity r = some rel →
    view o r st = (rebuilt rel.kind e₀ ts, !ts.isEmpty)

variable (s : Scan) {o : InstanceId} {r : String}

theorem view_loadBlock (h : InstanceId) (block : ProjectionBlock) (row : List Value)
    (st : LoadState) : view o r ((s.loadBlock h block row).run st).2 = view o r st := by
  rcases loadBlock_run s h block row st with hSame | ⟨slot, ref, pool, hFilled⟩
  · rw [hSame]
  · rw [hFilled]
    simp only [view, Arena.get?_modify]
    by_cases hh : h = o
    · cases st.arena.get? o <;> simp [hh]
    · simp [hh]

/-- Reading a node keeps every entry: a new instance has no relations yet, and loading its
blocks fills row slots only. -/
theorem view_hydrate (node : CompiledNode) (row : List Value) (st : LoadState) :
    view o r ((s.hydrate node row).run st).2 = view o r st := by
  have hLoads : ∀ h (st₁ : LoadState), view o r ((do
      forIn node.blocks PUnit.unit fun block _ => do
        s.loadBlock h block row
        Pure.pure (ForInStep.yield PUnit.unit)
      Pure.pure (some h) : StateM LoadState (Option InstanceId)).run st₁).2 = view o r st₁ := by
    intro h st₁
    refine Keeps.bind (P := fun st' => view o r st' = view o r st₁)
      (Keeps.forIn (fun block _ => Keeps.bind (fun st' hst' => ?_) fun _ => Keeps.pure _) _ _)
      (fun _ => Keeps.pure _) st₁ rfl
    rw [view_loadBlock]
    exact hst'
  unfold hydrate
  dsimp only
  split
  · split
    · simp only [StateT.run_bind, StateT.run_get, pure_bind]
      split
      · exact hLoads _ st
      · simp only [Arena.push]
        rw [StateT.run_bind, StateT.run_set]
        simp only [pure_bind]
        rw [hLoads]
        simp only [view, Arena.get?_bind]
        -- the new instance sits past the old ones and has no relations yet
        by_cases hsize : o.index = st.arena.instances.size
        · simp [Arena.get?, hsize, Instance.relation?, Instance.unloaded]
        · simp [Arena.get?, Array.getElem?_push, hsize]
    · rfl
  · rfl

/-- An attachment to another relation, or to another instance, keeps the entry. -/
theorem view_attach_other {o' : InstanceId} {r' : String} (hne : (o', r') ≠ (o, r))
    (t : Option InstanceId) (st : LoadState) :
    view o r ((s.attach o' r' t).run st).2 = view o r st := by
  -- the attachment marks `r'` on `o'` reached and sets its entry, and nothing else
  have hvisit : ∀ c : Bool, view o r (if c = true then
      { st with reset := st.reset ++ [(o', r')] } else st) = view o r st := by
    intro c
    split
    · have hnot : (o, r) ≠ (o', r') := fun he => hne he.symm
      simp only [view, List.contains_append, List.contains_cons, List.contains_nil,
        beq_eq_false_iff_ne.mpr hnot, Bool.or_false]
    · rfl
  have hset : ∀ (st₁ : LoadState) d, view o r st₁ = view o r st →
      view o r { st₁ with arena := st₁.arena.modify o' (·.setRelation r' d) } = view o r st := by
    intro st₁ d h₁
    rw [← h₁]
    simp only [view, Arena.get?_modify]
    by_cases ho : o' = o
    · subst ho
      have hr : r ≠ r' := fun he => hne (by rw [he])
      cases st₁.arena.get? o' <;> simp [Instance.relation?_setRelation, hr]
    · simp [ho]
  have hv := hvisit (!st.reset.contains (o', r'))
  unfold attach
  simp only [StateT.run_bind, StateT.run_get, pure_bind]
  generalize (if (!st.reset.contains (o', r')) = true then
    { st with reset := st.reset ++ [(o', r')] } else st) = st₁ at hv ⊢
  split
  · split
    · split
      · split
        · exact hv
        · exact hset st₁ _ hv
      · exact hset st₁ _ hv
    · rfl
  · rfl

/-- An attachment to the relation advances its entry by one target, and marks it reached. -/
theorem view_attach_self {st : LoadState} {inst : Instance} {rel : Relation}
    (hinst : st.arena.get? o = some inst) (hrel : s.reg.findRelation? inst.entity r = some rel)
    {entry : Option RelationalData} {ts : List (Option InstanceId)}
    (hview : view o r st = (rebuilt rel.kind entry ts, !ts.isEmpty)) (t : Option InstanceId) :
    view o r ((s.attach o r t).run st).2 = (rebuilt rel.kind entry (ts ++ [t]), true) := by
  have hentry : inst.relation? r = rebuilt rel.kind entry ts := by
    have := congrArg Prod.fst hview
    simpa [view, hinst] using this
  have hfirst : (!st.reset.contains (o, r)) = ts.isEmpty := by
    have := congrArg Prod.snd hview
    simp only [view] at this
    rw [this, Bool.not_not]
  -- after the attachment the relation counts as reached, and the arena is the one before
  have hreached : ∀ c : Bool, (!st.reset.contains (o, r)) = c →
      ((if c = true then { st with reset := st.reset ++ [(o, r)] } else st).reset.contains (o, r)
        = true ∧ (if c = true then { st with reset := st.reset ++ [(o, r)] } else st).arena =
          st.arena) := by
    intro c hc
    cases c with
    | true => simp
    | false => simp only [Bool.not_eq_false'] at hc; simpa using hc
  obtain ⟨hr, ha⟩ := hreached _ hfirst
  have hset : ∀ (st₁ : LoadState), st₁.reset.contains (o, r) = true → st₁.arena = st.arena →
      ∀ d, view o r { st₁ with arena := st₁.arena.modify o (·.setRelation r d) } =
        (some d, true) := by
    intro st₁ hr₁ ha₁ d
    have hmem : (o, r) ∈ st₁.reset := by simpa using hr₁
    simp [view, Arena.get?_modify, ha₁, hinst, hmem, Instance.relation?_setRelation]
  unfold attach
  simp only [StateT.run_bind, StateT.run_get, pure_bind, hinst, hrel, hfirst, hentry]
  generalize (if ts.isEmpty = true then
    { st with reset := st.reset ++ [(o, r)] } else st) = st₁ at hr ha ⊢
  cases hkind : rel.kind with
  | reference column =>
    rw [rebuilt_snoc_reference]
    -- a pending assignment leaves the entry as it was
    cases hpending : rebuilt (.reference column) entry ts with
    | some d =>
      cases d with
      | reference t' dirty =>
        cases dirty with
        | true =>
          show view o r st₁ = _
          simp only [view, ha, hinst, hr, Option.bind_some, hentry, hkind, hpending]
        | false => exact hset st₁ hr ha _
      | collection => exact hset st₁ hr ha _
    | none => exact hset st₁ hr ha _
  | children backReference =>
    rw [rebuilt_snoc_collection _ (fun _ h => by cases h)]
    exact hset st₁ hr ha _
  | association table source target =>
    rw [rebuilt_snoc_collection _ (fun _ h => by cases h)]
    exact hset st₁ hr ha _

/-! ## Tracking an entry -/

variable {e₀ : Option RelationalData} {ts : List (Option InstanceId)}

/-- A step that keeps the instances and the entry keeps what the entry tracks: an instance that
appears in it is new, with no relations and nothing reached. -/
theorem Tracks.of_frame {st st' : LoadState} (hframe : Frame s.reg st st')
    (hview : view o r st' = view o r st) (h : Tracks s o r e₀ ts st) : Tracks s o r e₀ ts st' where
  absent hnone := by
    have hst : st.arena.get? o = none := by
      cases hget : st.arena.get? o with
      | none => rfl
      | some i =>
        obtain ⟨i', hi', -⟩ := hframe.instances o i hget
        rw [hi'] at hnone
        cases hnone
    obtain ⟨he, hts, hreset⟩ := h.absent hst
    refine ⟨he, hts, ?_⟩
    have hsnd := congrArg Prod.snd hview
    simp only [view] at hsnd
    rw [hsnd, hreset]
  present i' rel hi' hrel := by
    rw [hview]
    cases hget : st.arena.get? o with
    | none =>
      obtain ⟨he, hts, hreset⟩ := h.absent hget
      subst he hts
      simpa [view, hget, rebuilt] using hreset
    | some i =>
      obtain ⟨i'', hi'', hkeep⟩ := hframe.instances o i hget
      rw [hi'] at hi''
      cases hi''
      exact h.present i rel hget (by rw [← hkeep.entity]; exact hrel)

theorem hydrate_frame (node : CompiledNode) (row : List Value) (st : LoadState) :
    Frame s.reg st ((s.hydrate node row).run st).2 :=
  hydrate_keeps (P := Frame s.reg st) s
    (fun st₁ i entity id h₁ => h₁.trans (frame_push st₁ i entity id))
    (fun h block row st₁ h₁ => h₁.trans (loadBlock_frame s h block row st₁)) node row st
    (Frame.refl _ _)

theorem tracks_hydrate (node : CompiledNode) (row : List Value) {st : LoadState}
    (h : Tracks s o r e₀ ts st) : Tracks s o r e₀ ts ((s.hydrate node row).run st).2 :=
  h.of_frame s (hydrate_frame s node row st) (view_hydrate s node row st)

theorem tracks_attach_other {o' : InstanceId} {r' : String} (hne : (o', r') ≠ (o, r))
    (t : Option InstanceId) {st : LoadState} (h : Tracks s o r e₀ ts st) :
    Tracks s o r e₀ ts ((s.attach o' r' t).run st).2 :=
  h.of_frame s (attach_frame s o' r' t st) (view_attach_other s hne t st)

/-- An attachment to the relation of an instance that exists reaches one more target. -/
theorem tracks_attach_self {st : LoadState} {i : Instance} (hi : st.arena.get? o = some i)
    (h : Tracks s o r e₀ ts st) (t : Option InstanceId) :
    Tracks s o r e₀ (ts ++ [t]) ((s.attach o r t).run st).2 where
  absent hnone := by
    obtain ⟨i', hi', -⟩ := (attach_frame s o r t st).instances o i hi
    rw [hi'] at hnone
    cases hnone
  present i' rel hi' hrel := by
    obtain ⟨i'', hi'', hkeep⟩ := (attach_frame s o r t st).instances o i hi
    rw [hi'] at hi''
    cases hi''
    have hrel₀ : s.reg.findRelation? i.entity r = some rel := by
      rw [← hkeep.entity]
      exact hrel
    rw [view_attach_self s hi hrel₀ (h.present i rel hi hrel₀) t]
    simp

/-! ## Reading a row -/

/-- Reading the node at position `done.length` of the layout, after the nodes `done`, reaches the
node's record when it attaches to `r` of `o`; `A` is an arena that remembers the one the step
leaves. -/
theorem readNode_tracks (row : List Value) (A : Arena) {done l : List CompiledNode}
    {node : CompiledNode} (hnodes : done ++ node :: l = s.query.nodes) {st : LoadState}
    (hdone : ∀ n ∈ done, Settled st.arena n row) (hcons : st.arena.Consistent)
    (h : Tracks s o r e₀ ts st)
    (hA : ((s.readNode row (done.map (instanceAt st.arena · row)) node).run st).2.arena.Remembers
      A) :
    Tracks s o r e₀ (ts ++ if attachesTo s.query.nodes A o r row node done.length
        then [instanceAt A node row] else [])
      ((s.readNode row (done.map (instanceAt st.arena · row)) node).run st).2 := by
  have hstA := (readNode_result s row _ node st).2.2.trans hA
  unfold readNode at hA ⊢
  rw [run_bind] at hA ⊢
  have hhyd := hydrate_result s node row st
  have htr := tracks_hydrate s node row h
  have hcons₁ := hydrate_consistent s node row st hcons
  generalize (s.hydrate node row).run st = step at hhyd htr hcons₁ hA ⊢
  obtain ⟨inst, st₁⟩ := step
  obtain ⟨hval, hset, hrem⟩ := hhyd
  dsimp only at hval hset hrem htr hcons₁ hA ⊢
  -- a node that attaches nothing leaves the entry where the node's instance left it
  have hnone : attachesTo s.query.nodes A o r row node done.length = false →
      Tracks s o r e₀ (ts ++ if attachesTo s.query.nodes A o r row node done.length
        then [instanceAt A node row] else []) st₁ := by
    intro hno
    rw [hno, if_neg Bool.false_ne_true, List.append_nil]
    exact htr
  cases hpar : node.parent with
  | none => exact hnone (by simp [attachesTo, hpar])
  | some p =>
    cases hrn : node.relation with
    | none => exact hnone (by simp [attachesTo, hpar, hrn])
    | some r' =>
      rw [hpar, hrn] at hA
      dsimp only at hA ⊢
      have hatt : attachesTo s.query.nodes A o r row node done.length =
          (r' == r && decide (p < done.length) &&
            (s.query.nodes[p]?.bind (instanceAt A · row)) == some o) := by
        simp only [attachesTo, hpar, hrn]
      rw [List.getElem?_map] at hA ⊢
      cases hd : done[p]? with
      | none =>
        -- the parent is not among the nodes read: nothing attaches
        have hp : ¬p < done.length := by simpa using hd
        exact hnone (by simp [hatt, hp])
      | some d =>
        have hp : p < done.length := (List.getElem?_eq_some_iff.mp hd).1
        have hnp : s.query.nodes[p]? = some d := by
          rw [← hnodes, List.getElem?_append_left hp, hd]
        have hdA : instanceAt A d row = instanceAt st.arena d row :=
          instanceAt_of_remembers hstA (hdone d (List.mem_of_getElem? hd))
        cases hown : instanceAt st.arena d row with
        | none =>
          simp only [Option.map_some, hown]
          exact hnone (by simp [hatt, hnp, hdA, hown])
        | some owner =>
          simp only [hd, hown, Option.map_some] at hA ⊢
          have h₁A : st₁.arena.Remembers A :=
            (Arena.Remembers.of_lookup (attach_lookup s owner r' inst st₁)).trans hA
          have hinst : instanceAt A node row = inst := by
            rw [instanceAt_of_remembers h₁A hset, hval]
          show Tracks s o r e₀ _ ((s.attach owner r' inst).run st₁).2
          by_cases hor : owner = o ∧ r' = r
          · obtain ⟨rfl, rfl⟩ := hor
            have hyes : attachesTo s.query.nodes A owner r' row node done.length = true := by
              simp [hatt, hp, hnp, hdA, hown]
            rw [hyes, if_pos rfl, hinst]
            -- the owner exists: the identity map names it, and the arena is consistent
            obtain ⟨i, hi, -⟩ := instanceAt_entity hcons₁
              ((instanceAt_of_remembers hrem (hdone d (List.mem_of_getElem? hd))).trans hown)
            exact tracks_attach_self s hi htr inst
          · have hno : attachesTo s.query.nodes A o r row node done.length = false := by
              rw [hatt, hnp, Option.bind_some, hdA, hown]
              by_cases hr : r' = r
              · have ho : owner ≠ o := fun he => hor ⟨he, hr⟩
                simp [ho]
              · simp [hr]
            rw [hno, if_neg Bool.false_ne_true, List.append_nil]
            exact tracks_attach_other s (fun he => hor (Prod.mk.inj he)) inst htr

/-- The targets of the nodes `l` at positions from `k` on: those of the first node, then those
of the rest. -/
theorem targets_cons (nodes : List CompiledNode) (a : Arena) (row : List Value)
    (node : CompiledNode) (l : List CompiledNode) (k : Nat) :
    (((node :: l).zipIdx k).filter fun p => attachesTo nodes a o r row p.1 p.2).map
        (fun p => instanceAt a p.1 row) =
      (if attachesTo nodes a o r row node k then [instanceAt a node row] else []) ++
        ((l.zipIdx (k + 1)).filter fun p => attachesTo nodes a o r row p.1 p.2).map
          fun p => instanceAt a p.1 row := by
  rw [List.zipIdx_cons, List.filter_cons]
  split <;> simp_all

/-- Reading the nodes `l` after the nodes `done` reaches, in layout order, the records of those
that attach to `r` of `o`. -/
theorem foldlM_tracks (row : List Value) (A : Arena) :
    ∀ (l done : List CompiledNode) (st : LoadState) (ts : List (Option InstanceId)),
      done ++ l = s.query.nodes → (∀ n ∈ done, Settled st.arena n row) → st.arena.Consistent →
      Tracks s o r e₀ ts st →
      ((l.foldlM (s.readNode row) (done.map (instanceAt st.arena · row))).run st).2.arena.Remembers
        A →
      Tracks s o r e₀ (ts ++ ((l.zipIdx done.length).filter fun p =>
          attachesTo s.query.nodes A o r row p.1 p.2).map fun p => instanceAt A p.1 row)
        ((l.foldlM (s.readNode row) (done.map (instanceAt st.arena · row))).run st).2
  | [], done, st, ts, _, _, _, h, _ => by
    rw [List.zipIdx_nil, List.filter_nil, List.map_nil, List.append_nil]
    exact h
  | node :: l, done, st, ts, hnodes, hdone, hcons, h, hA => by
    rw [List.foldlM_cons, run_bind] at hA ⊢
    have hstep := fun hA₁ => readNode_tracks s row A hnodes hdone hcons h hA₁
    obtain ⟨hacc, hdone₁, -⟩ := readNode_instances s row done node st hdone
    have hcons₁ := readNode_consistent s row (done.map (instanceAt st.arena · row)) node st hcons
    generalize (s.readNode row (done.map (instanceAt st.arena · row)) node).run st = step
      at hstep hacc hdone₁ hcons₁ hA ⊢
    obtain ⟨acc, st₁⟩ := step
    dsimp only at hstep hacc hdone₁ hcons₁ hA ⊢
    rw [hacc] at hA ⊢
    -- the step's arena is remembered by the one the rest of the row leaves
    have h₁A := (foldlM_instances s row l (done ++ [node]) st₁ hdone₁).2.2.trans hA
    have ih := foldlM_tracks row A l (done ++ [node]) st₁ _ (by simpa using hnodes) hdone₁
      hcons₁ (hstep h₁A) hA
    rw [targets_cons, ← List.append_assoc]
    simpa using ih

/-- Reading a row reaches the targets the row offers `r` of `o`. -/
theorem readRow_tracks (row : List Value) (A : Arena) {st : LoadState}
    (hcons : st.arena.Consistent) (h : Tracks s o r e₀ ts st)
    (hA : ((s.readRow row).run st).2.arena.Remembers A) :
    Tracks s o r e₀ (ts ++ targetsIn s.query.nodes A o r row) ((s.readRow row).run st).2 :=
  foldlM_tracks s row A s.query.nodes [] st ts rfl (by simp) hcons h hA

/-! ## Reading rows -/

/-- Reading rows one after another reaches the targets of each, row after row. -/
theorem readRows_tracks (A : Arena) :
    ∀ (rows : List (List Value)) {st : LoadState} {ts : List (Option InstanceId)},
      st.arena.Consistent → Tracks s o r e₀ ts st →
      ((s.readRows rows).run st).2.arena.Remembers A →
      Tracks s o r e₀ (ts ++ rows.flatMap (targetsIn s.query.nodes A o r))
        ((s.readRows rows).run st).2
  | [], st, ts, _, h, _ => by
    rw [List.flatMap_nil, List.append_nil]
    exact h
  | row :: rows, st, ts, hcons, h, hA => by
    have h₁A := (readRows_result s rows ((s.readRow row).run st).2).2.trans hA
    have ih := readRows_tracks A rows (readRow_consistent s row st hcons)
      (readRow_tracks s row A hcons h h₁A) hA
    rw [List.flatMap_cons, ← List.append_assoc]
    exact ih

/-! ## The graph a scan rebuilds -/

/-- Rows read one after another, from a state where nothing has been reached yet, rebuild every
relation they reach: the entry of `r` on `o` is what the scan makes of the entry before it with
the targets of all the rows, row after row, read in the arena the rows leave. -/
theorem readRows_relations (rows : List (List Value)) (st : LoadState)
    (hcons : st.arena.Consistent) :
    let st' := ((s.readRows rows).run { st with reset := [] }).2
    ∀ o i r rel, st'.arena.get? o = some i → s.reg.findRelation? i.entity r = some rel →
      i.relation? r = rebuilt rel.kind ((st.arena.get? o).bind (·.relation? r))
        (rows.flatMap (targetsIn s.query.nodes st'.arena o r)) := by
  intro st' o i r rel hi hrel
  -- at the start the entry is the one before the scan, and nothing is reached
  have h₀ : Tracks s o r ((st.arena.get? o).bind (·.relation? r)) [] { st with reset := [] } :=
    { absent := fun hnone => ⟨by simp [hnone], rfl, rfl⟩
      present := fun i₀ rel₀ hi₀ _ => by simp [view, hi₀, rebuilt] }
  have htr := readRows_tracks s st'.arena rows
    (show ({ st with reset := [] } : LoadState).arena.Consistent from hcons) h₀
    (Arena.Remembers.refl _)
  have hv : (view o r st').1 = _ := congrArg Prod.fst (htr.present i rel hi hrel)
  simpa only [view, hi, Option.bind_some, List.nil_append] using hv

end Scan

/-- What a scan of `rows` from `st` rebuilds, `found` and `positions` being what it returns, `st'`
the state it leaves and `root` the first node of the layout. -/
structure Scan.Rebuilds (s : Scan) (root : CompiledNode) (rows : List (List Value))
    (st : LoadState) (found : List InstanceId) (positions : List Nat) (st' : LoadState) :
    Prop where
  /-- One record for each maximal run of rows with one root key, in order: the instance of the
  root record of its rows. -/
  records : List.Forall₂ (fun h run => ∀ row ∈ run, Scan.instanceAt st'.arena root row = some h)
    found (rows.splitBy (Scan.sameKey root))
  /-- Each read ends where its run does; the last, past the rows, finds nothing. -/
  positions : positions =
    ((rows.splitBy (Scan.sameKey root)).scanl (fun p run => p + run.length) 0).tail ++
      [rows.length]
  /-- The identity map keeps every record it had. -/
  remembers : st.arena.Remembers st'.arena
  /-- Every record of the identity map names an instance of its entity. -/
  consistent : st'.arena.Consistent
  /-- Every record of every node in every row has its instance. -/
  settled : ∀ row ∈ rows, ∀ node ∈ s.query.nodes, Scan.Settled st'.arena node row
  /-- Every relation is what the scan makes of its entry before the scan with the targets the
  rows offer it, row after row. -/
  relations : ∀ o i r rel, st'.arena.get? o = some i →
    s.reg.findRelation? i.entity r = some rel →
    i.relation? r = Scan.rebuilt rel.kind ((st.arena.get? o).bind (·.relation? r))
      (rows.flatMap (Scan.targetsIn s.query.nodes st'.arena o r))
  /-- Without repeats, the records are the distinct root instances of the rows. -/
  distinct : found.eraseDups = (rows.filterMap (Scan.instanceAt st'.arena root ·)).eraseDups

namespace Scan

/-- A scan rebuilds the graph its rows hold, when every row holds a root key and the identity map
it starts with is consistent. -/
theorem records_rebuild (s : Scan) {root : CompiledNode} (hroot : s.query.nodes.head? = some root)
    (rows : List (List Value)) (hkeys : ∀ row ∈ rows, (keyOf root row).isSome) (st : LoadState)
    (hcons : st.arena.Consistent) :
    let res := (s.records rows).run st
    s.Rebuilds root rows st res.1.1 res.1.2 res.2 := by
  obtain ⟨hst, hfound, hpositions⟩ := records_runs s hroot rows hkeys st
  have hdistinct := records_distinct s hroot rows hkeys st
  obtain ⟨hsettled, hrem⟩ := readRows_result s rows { st with reset := [] }
  have hcons' := readRows_consistent s rows { st with reset := [] } hcons
  have hrel := readRows_relations s rows st hcons
  dsimp only at hst hfound hpositions hdistinct hsettled hrem hcons' hrel ⊢
  rw [← hst] at hsettled hrem hcons' hrel
  exact ⟨hfound, hpositions, hrem, hcons', hsettled, hrel, hdistinct⟩

/-- Two rows of one record and a row of another, read by a one-node layout into an empty arena. -/
theorem records_rebuild_two_records :
    let root : CompiledNode :=
      { entity := ⟨0⟩, parent := none, relation := none,
        blocks := [{ entity := ⟨0⟩, tableAlias := "t0", offset := 0, columns := [0] }] }
    let s : Scan :=
      { reg := default, query := { sql := "", params := [], nodes := [root], width := 1 } }
    let rows := [[Value.bigInt 1], [Value.bigInt 1], [Value.bigInt 2]]
    let st : LoadState := { pool := default, arena := {} }
    s.Rebuilds root rows st ((s.records rows).run st).1.1 ((s.records rows).run st).1.2
      ((s.records rows).run st).2 :=
  records_rebuild _ rfl _ (by decide) _ fun _ _ _ h => by cases h

end Scan

end EntityGraph
