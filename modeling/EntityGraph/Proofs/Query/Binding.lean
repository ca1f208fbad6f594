import Mathlib.Data.List.Forall2
import EntityGraph.Proofs.Query.Values
import EntityGraph.Proofs.Session.Statements

/-!
# Binding the parameters of a compiled query

A compiled query sends its parameters in placeholder order. Binding fills its slots from the
arguments by position: it succeeds exactly when every slot has an argument, that is when there are
at least `slotCount` arguments, and then the value bound at each position is the parameter at that
position, a slot replaced by its argument encoded for the slot's type (`bind_eq_ok_iff`).
-/

namespace EntityGraph

section Traversals

variable {ε α β : Type}

/-- A traversal succeeds with the results of a successful step at every element, in order. -/
theorem mapM_eq_ok_iff {f : α → Except ε β} :
    ∀ {l : List α} {bs : List β}, l.mapM f = .ok bs ↔ List.Forall₂ (fun a b => f a = .ok b) l bs
  | [], bs => by
    rw [List.forall₂_nil_left_iff]
    constructor
    · intro h
      cases h
      rfl
    · rintro rfl
      rfl
  | a :: l, bs => by
    rw [List.mapM_cons, List.forall₂_cons_left_iff]
    cases ha : f a with
    | error e =>
      constructor
      · intro h
        cases h
      · rintro ⟨b, _, hb, _⟩
        cases hb
    | ok b =>
      cases hl : l.mapM f with
      | error e =>
        constructor
        · intro h
          cases h
        · rintro ⟨_, bs', _, hl', _⟩
          rw [← mapM_eq_ok_iff, hl] at hl'
          cases hl'
      | ok bs' =>
        constructor
        · intro h
          cases h
          exact ⟨b, bs', rfl, mapM_eq_ok_iff.mp hl, rfl⟩
        · rintro ⟨b', bs'', hb, hl', rfl⟩
          cases hb
          rw [← mapM_eq_ok_iff, hl] at hl'
          cases hl'
          rfl

end Traversals

namespace CompiledQuery

/-- The value a statement sends for a parameter given the slot arguments: a fixed value as it
is, a slot as the argument at its position encoded for the slot's type. -/
inductive BindsTo (args : List Value) : CompiledParam → Value → Prop
  | value (v : Value) : BindsTo args (.value v) v
  | slot {i : Nat} {a : Value} (t : ColumnType) : args[i]? = some a → BindsTo args (.slot i t) (t.encode a)

/-- A parameter has a value exactly when its slot, if any, has an argument. -/
theorem bindsTo_exists_iff (args : List Value) (p : CompiledParam) :
    (∃ v, BindsTo args p v) ↔ p.slotCount ≤ args.length := by
  cases p with
  | value v => exact ⟨fun _ => Nat.zero_le _, fun _ => ⟨v, .value v⟩⟩
  | slot i t =>
    constructor
    · rintro ⟨v, hv⟩
      cases hv with
      | slot _ ha => exact (List.getElem?_eq_some_iff.mp ha).1
    · intro hi
      exact ⟨_, .slot t (List.getElem?_eq_getElem hi)⟩

theorem slotCount_le_iff (cq : CompiledQuery) (n : Nat) :
    cq.slotCount ≤ n ↔ ∀ p ∈ cq.params, p.slotCount ≤ n := by
  -- the fold keeps the largest bound seen so far
  have fold : ∀ (g : Nat → CompiledParam → Nat), (∀ m p, g m p = max m p.slotCount) →
      ∀ (l : List CompiledParam) (m : Nat), l.foldl g m ≤ n ↔ m ≤ n ∧ ∀ p ∈ l, p.slotCount ≤ n := by
    intro g hg l
    induction l with
    | nil => simp
    | cons p l ih =>
      intro m
      rw [List.foldl_cons, ih, hg, Nat.max_le, List.forall_mem_cons, and_assoc]
  rw [slotCount, fold _ (fun m p => by cases p <;> simp [CompiledParam.slotCount]) cq.params 0]
  simp

/-- Binding succeeds with the value of every parameter, in placeholder order. -/
theorem bind_eq_ok_iff {cq : CompiledQuery} {args vs : List Value} :
    cq.bind args = .ok vs ↔ List.Forall₂ (BindsTo args) cq.params vs := by
  rw [bind, mapM_eq_ok_iff]
  constructor
  · refine fun h => h.imp fun p v hp => ?_
    cases p with
    | value w =>
      cases hp
      exact .value _
    | slot i t =>
      cases ha : args[i]? with
      | none => simp [ha] at hp
      | some a =>
        simp only [ha] at hp
        cases hp
        exact .slot t ha
  · refine fun h => h.imp fun p v hp => ?_
    cases hp with
    | value w => rfl
    | slot t ha =>
      simp only [ha]
      rfl

/-- A list of parameters has values exactly when each of them has one. -/
theorem forall₂_bindsTo_exists_iff (args : List Value) :
    ∀ ps : List CompiledParam, (∃ vs, List.Forall₂ (BindsTo args) ps vs) ↔ ∀ p ∈ ps, ∃ v, BindsTo args p v
  | [] => ⟨fun _ _ hp => (by cases hp), fun _ => ⟨[], .nil⟩⟩
  | p :: ps => by
    rw [List.forall_mem_cons, ← forall₂_bindsTo_exists_iff args ps]
    constructor
    · rintro ⟨_, h⟩
      cases h with
      | cons hv hvs => exact ⟨⟨_, hv⟩, _, hvs⟩
    · rintro ⟨⟨v, hv⟩, vs, hvs⟩
      exact ⟨v :: vs, .cons hv hvs⟩

/-- Binding succeeds exactly when there are arguments for all slots. -/
theorem bind_ok_iff (cq : CompiledQuery) (args : List Value) :
    (∃ vs, cq.bind args = .ok vs) ↔ cq.slotCount ≤ args.length := by
  simp only [bind_eq_ok_iff, forall₂_bindsTo_exists_iff, bindsTo_exists_iff, slotCount_le_iff]

end CompiledQuery

/-! ## Compiled queries -/

/-- The largest of a list of numbers, zero for none, is below a bound exactly when each is. -/
theorem foldr_max_le_iff {n : Nat} : ∀ {l : List Nat}, l.foldr max 0 ≤ n ↔ ∀ x ∈ l, x ≤ n
  | [] => by simp
  | x :: l => by rw [List.foldr_cons, Nat.max_le, foldr_max_le_iff, List.forall_mem_cons]

section Compile

variable {ds : List EntityDescriptor} {reg : Registry} (hreg : Registry.build ds = .ok reg)
  {options : CompileOptions} (hschema : Sql.Unmarked (options.schema.getD ""))
  {q : Query} {cq : CompiledQuery} (h : q.compile reg options = .ok cq)
include hreg hschema h

/-- A compiled query sends the parameters of the filters its statement renders, in the order it
renders them, and its text shows their placeholders in order: as many as its node filters have
parameter tokens, the primary filter's twice under key paging. Its slots are those of its node
filters. -/
theorem Query.compile_params :
    ∃ nodes page, q.plan reg = .ok nodes ∧
      Compiler.pageMode { reg, options, nodes } q.limit q.offset = .ok page ∧
      cq.params = (Compiler.renderedFilters { reg, options, nodes } page).flatMap
        (Compiler.filterParams { reg, options, nodes }) ∧
      Sql.marks cq.sql = Statement.placeholders options 1 cq.params.length ∧
      cq.params.length = (nodes.toList.map fun n => n.filter.parameterCount).foldr (· + ·) 0 +
        (if page = .keys then (Compiler.node { reg, options, nodes } 0).filter.parameterCount else 0) ∧
      cq.slotCount = (nodes.toList.map fun n => n.filter.slotCount).foldr max 0 := by
  obtain ⟨nodes, ps, -, hplan, hrun, hparams⟩ := Query.compile_ok h
  have hc := Compiler.named hreg hplan options
  obtain ⟨page, hmode, hadds⟩ := hc.statement_adds hschema.avoids hrun
  -- the statement starts from no parameters, so it sends exactly those it adds
  have hsent : cq.params = (Compiler.renderedFilters { reg, options, nodes } page).flatMap
      (Compiler.filterParams { reg, options, nodes }) := by
    rw [hparams, hadds.1]
    rfl
  refine ⟨nodes, page, hplan, hmode, hsent, ?_, ?_, ?_⟩
  · rw [hadds.2, hsent]
    rfl
  · rw [hsent]
    exact hc.statement_params_length hrun hmode
  · -- both are the least bound of the slots of the node filters
    have hbound : ∀ n, cq.slotCount ≤ n ↔
        (nodes.toList.map fun n => n.filter.slotCount).foldr max 0 ≤ n := fun n => by
      rw [CompiledQuery.slotCount_le_iff, hsent, hc.statement_slots hrun hmode n, foldr_max_le_iff,
        List.forall_mem_map]
    exact Nat.le_antisymm ((hbound _).mpr (Nat.le_refl _)) ((hbound _).mp (Nat.le_refl _))

end Compile

/-- How a compiled query of `q` sends its parameters. Its text shows their placeholders in order.
They are the parameters of the filters its statement renders, in the order it renders them: as
many as its node filters have parameter tokens, the primary filter's twice under key paging. Its
slots are those of its node filters. A query alike but for its values compiles to the same text
and as many parameters. Binding succeeds exactly when every slot has an argument, with the value
of every parameter in placeholder order. -/
structure CompiledQuery.SendsParameters (reg : Registry) (options : CompileOptions) (q : Query)
    (cq : CompiledQuery) : Prop where
  placeholders : Sql.marks cq.sql = Statement.placeholders options 1 cq.params.length
  filters : ∃ nodes page, q.plan reg = .ok nodes ∧
    Compiler.pageMode { reg, options, nodes } q.limit q.offset = .ok page ∧
    cq.params = (Compiler.renderedFilters { reg, options, nodes } page).flatMap
      (Compiler.filterParams { reg, options, nodes }) ∧
    cq.params.length = (nodes.toList.map fun n => n.filter.parameterCount).foldr (· + ·) 0 +
      (if page = .keys then (Compiler.node { reg, options, nodes } 0).filter.parameterCount else 0) ∧
    cq.slotCount = (nodes.toList.map fun n => n.filter.slotCount).foldr max 0
  values : ∀ q' : Query, q'.shape = q.shape →
    ∃ cq', q'.compile reg options = .ok cq' ∧ cq'.sql = cq.sql ∧ cq'.params.length = cq.params.length
  bind_ok : ∀ args, (∃ vs, cq.bind args = .ok vs) ↔ cq.slotCount ≤ args.length
  bind : ∀ args vs, cq.bind args = .ok vs ↔ List.Forall₂ (CompiledQuery.BindsTo args) cq.params vs

/-- Over a registry built from descriptors and a schema without placeholder characters, a
compiled query sends its parameters as its placeholders show them, and so does every statement a
save or a delete sends. -/
theorem parameters_align_with_placeholders {ds : List EntityDescriptor} {reg : Registry}
    (hreg : Registry.build ds = .ok reg) {options : CompileOptions}
    (hschema : Sql.Unmarked (options.schema.getD "")) {q : Query} {cq : CompiledQuery}
    (h : q.compile reg options = .ok cq) :
    cq.SendsParameters reg options q ∧ ∀ st, Statement.Built reg options st → st.Aligned options := by
  obtain ⟨nodes, page, hplan, hmode, hsent, hmarks, hlength, hslots⟩ :=
    Query.compile_params hreg hschema h
  refine ⟨⟨hmarks, ⟨nodes, page, hplan, hmode, hsent, hlength, hslots⟩, ?_, ?_, ?_⟩, ?_⟩
  · exact fun q' hq => Query.compile_alike hq h
  · exact fun args => cq.bind_ok_iff args
  · exact fun args vs => CompiledQuery.bind_eq_ok_iff
  · exact fun st hst => Statement.built_aligned hreg hschema hst

/-- The registry of the heroes and their missions. -/
def heroRegistry : Registry := (Registry.build heroDescriptors).toOption.getD default

/-- Options with numbered placeholders and the schema `main`. -/
def numberedMain : CompileOptions := { dialect := .numbered, schema := some "main" }

/-- `alphaRescues` compiled over the heroes with numbered placeholders. -/
def alphaRescuesNumbered : CompiledQuery :=
  (alphaRescues.compile heroRegistry numberedMain).toOption.getD default

theorem alphaRescuesNumbered_sends_parameters :
    Registry.build heroDescriptors = .ok heroRegistry ∧ Sql.Unmarked (numberedMain.schema.getD "") ∧
      alphaRescues.compile heroRegistry numberedMain = .ok alphaRescuesNumbered ∧
      alphaRescuesNumbered.SendsParameters heroRegistry numberedMain alphaRescues ∧
      ∀ st, Statement.Built heroRegistry numberedMain st → st.Aligned numberedMain :=
  have hreg : Registry.build heroDescriptors = .ok heroRegistry := by rfl
  have hschema : Sql.Unmarked (numberedMain.schema.getD "") := by decide
  have h : alphaRescues.compile heroRegistry numberedMain = .ok alphaRescuesNumbered := by rfl
  ⟨hreg, hschema, h, parameters_align_with_placeholders hreg hschema h⟩

end EntityGraph
