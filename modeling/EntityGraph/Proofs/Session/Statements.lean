import EntityGraph.Proofs.Query.Parameters

/-!
# The placeholders of row statements

A save or a delete sends statements built from the names of a registry: inserting, updating and
deleting the rows of an entity's tables, and inserting and deleting the rows of the tables of its
associations. Each shows its parameters as placeholders in order, `?` for each or `$1`, `$2`, ...
(`Statement.Aligned`): every other part of its text is a keyword, a comma or a name. A registry
built from descriptors names its tables and columns by identifiers, so every statement built over
it is aligned (`Statement.built_aligned`). The schema prefix, which nothing checks, is assumed to
have no placeholder character.

The texts are read left to right: a keyword or a name adds no placeholder
(`marks_unmarked_append`), and a placeholder followed by a keyword reads as itself
(`marks_placeholder_append`).
-/

namespace EntityGraph

open Sql

namespace Sql

theorem noLeadingDigit_placeholder (d : Dialect) (i : Nat) : NoLeadingDigit (d.placeholder i) := by
  cases d with
  | question => show NoLeadingDigit "?"; decide
  | numbered => exact noLeadingDigit_of_head rfl rfl _

/-- A placeholder followed by text that cannot continue it reads as itself. -/
theorem marks_placeholder_append (d : Dialect) (i : Nat) {b : String} (hb : NoLeadingDigit b) :
    marks (d.placeholder i ++ b) = d.placeholder i :: marks b := by
  rw [marks_append hb, marks_placeholder, List.singleton_append]

/-- Placeholders joined by commas read as themselves. -/
theorem marks_placeholders (options : CompileOptions) (start count : Nat) :
    marks (", ".intercalate (Statement.placeholders options start count)) =
      Statement.placeholders options start count := by
  rw [marks_intercalate (by decide) rfl rfl, Statement.placeholders, List.map_map,
    ← List.flatMap_def, List.map_eq_flatMap]
  simp only [Function.comp_def, marks_placeholder]

theorem marks_placeholders_append (options : CompileOptions) (start count : Nat) {b : String}
    (hb : NoLeadingDigit b) :
    marks (", ".intercalate (Statement.placeholders options start count) ++ b) =
      Statement.placeholders options start count ++ marks b := by
  rw [marks_append hb, marks_placeholders]

theorem unmarked_of_isIdentifier {s : String} (h : isIdentifier s = true) : Unmarked s :=
  (name_of_isIdentifier h).avoids.unmarked_of_special

theorem unmarked_qualifyTable {schema : Option String} {table : String}
    (hs : Unmarked (schema.getD "")) (ht : Unmarked table) : Unmarked (qualifyTable schema table) := by
  cases schema with
  | none => exact ht
  | some s => exact (hs.append (by decide)).append ht

end Sql

/-! ## The names a row statement writes -/

/-- The names of an entity that its row statements write hold no placeholder character. -/
structure Structure.Unmarked (s : Structure) : Prop where
  table : Sql.Unmarked s.table
  columns : ∀ c ∈ s.columns, Sql.Unmarked c.name

namespace Structure.Unmarked

variable {s : Structure} (hs : s.Unmarked)
include hs

theorem columnName (i : Nat) : Sql.Unmarked (((s.column? i).map (·.name)).getD "") := by
  cases hc : s.column? i with
  | none => exact fun _ h => by cases h
  | some c => exact hs.columns c (List.mem_of_getElem? hc)

theorem primaryKeyName : Sql.Unmarked s.primaryKeyName := hs.columnName s.primaryKey

theorem tableOf {options : CompileOptions} (hschema : Sql.Unmarked (options.schema.getD "")) :
    Sql.Unmarked (Statement.tableOf options s) :=
  unmarked_qualifyTable hschema hs.table

end Structure.Unmarked

theorem Structure.Named.unmarked {s : Structure} (h : s.Named) : s.Unmarked :=
  ⟨unmarked_of_isIdentifier h.table, fun c hc => unmarked_of_isIdentifier (h.columns c hc)⟩

/-- Every entity a registry of named entities gives is unmarked, the blank one too. -/
theorem Registry.get_unmarked {reg : Registry} (hreg : ∀ s ∈ reg.structures, s.Named)
    (e : EntityId) : (reg.get e).Unmarked := by
  unfold Registry.get Registry.get?
  cases h : reg.structures[e.index]? with
  | none => exact ⟨fun _ h => (by cases h), fun _ h => (by cases h)⟩
  | some s => exact (hreg s (Array.mem_of_getElem? h)).unmarked

/-! ## Aligned statements -/

namespace Statement

/-- The text of a statement shows the placeholders of its parameters in order, and no other. -/
def Aligned (options : CompileOptions) (st : Statement) : Prop :=
  marks st.sql = placeholders options 1 st.params.length

section Builders

variable {options : CompileOptions} (hschema : Sql.Unmarked (options.schema.getD ""))
include hschema

theorem insertRow_aligned {s : Structure} (hs : s.Unmarked) (row : ModelRow)
    (explicitId : Option Int64) : (insertRow options s row explicitId).Aligned options := by
  have ht := hs.tableOf hschema
  unfold insertRow Aligned
  extract_lets items sql
  -- every item is a column, named as the entity names it
  have hnames : Sql.Unmarked (", ".intercalate (items.map (·.1))) := by
    refine (avoids_intercalate (by decide) fun x hx => ?_).unmarked
    obtain ⟨⟨n, v⟩, hi, rfl⟩ := List.mem_map.mp hx
    simp only [items, List.mem_filterMap] at hi
    obtain ⟨⟨c, i⟩, hci, hc⟩ := hi
    have hmem : c ∈ s.columns := List.fst_mem_of_mem_zipIdx hci
    have hn : n = c.name := by
      split at hc
      · obtain ⟨_, -, hc⟩ := Option.map_eq_some_iff.mp hc
        cases hc
        rfl
      · cases hc
        rfl
    exact hn ▸ (hs.columns c hmem).avoids
  simp only [sql]
  split
  · next he =>
    rw [List.isEmpty_iff.mp he]
    exact (((show Sql.Unmarked "INSERT INTO " by decide).append ht).append (by decide)).marks
  · simp (disch := first | decide | assumption) only [String.append_assoc, marks_unmarked_append,
      marks_placeholders_append, Unmarked.marks, List.append_nil, List.length_map]

theorem updateColumn_aligned {s : Structure} (hs : s.Unmarked) (column : Nat) (v : Value)
    (id : Int64) : (updateColumn options s column v id).Aligned options := by
  have ht := hs.tableOf hschema
  have hname := hs.columnName column
  have hkey := hs.primaryKeyName
  unfold updateColumn Aligned
  simp (disch := first | decide | assumption | exact noLeadingDigit_of_head rfl rfl _) only
    [String.append_assoc, marks_unmarked_append, marks_placeholder_append, marks_placeholder]
  rfl

theorem deleteRow_aligned {s : Structure} (hs : s.Unmarked) (id : Int64) :
    (deleteRow options s id).Aligned options := by
  have ht := hs.tableOf hschema
  have hkey := hs.primaryKeyName
  unfold deleteRow Aligned
  simp (disch := first | decide | assumption) only
    [String.append_assoc, marks_unmarked_append, marks_placeholder]
  rfl

theorem updateRow_aligned {s : Structure} (hs : s.Unmarked) {row : ModelRow} {st : Statement}
    (h : updateRow options s row = some st) : st.Aligned options := by
  have ht := hs.tableOf hschema
  have hkey := hs.primaryKeyName
  unfold updateRow at h
  cases hid : row.id with
  | none => rw [hid] at h; cases h
  | some id =>
    rw [hid] at h
    extract_lets items assignments sql at h
    dsimp only [bind, Option.bind] at h
    split at h
    · cases h
    · cases h
      -- every item is a column, named as the entity names it
      have hnames : ∀ x ∈ items, Sql.Unmarked x.1 := by
        intro x hx
        simp only [items, List.mem_filterMap] at hx
        obtain ⟨i, -, hi⟩ := hx
        split at hi
        · cases hi
        · obtain ⟨c, hc, rfl⟩ := Option.map_eq_some_iff.mp hi
          exact hs.columns c (List.mem_of_getElem? hc)
      -- the assignment of the item at position k shows placeholder k + 1
      have hset : marks (", ".intercalate assignments) = placeholders options 1 items.length := by
        simp only [assignments]
        rw [marks_intercalate (by decide) rfl rfl, List.map_map,
          List.map_congr_left (g := fun x => [options.dialect.placeholder (x.2 + 1)]) ?_,
          ← List.flatMap_def, ← List.map_eq_flatMap, placeholders, List.range_eq_range',
          ← List.zipIdx_map_snd 0 items, List.map_map]
        · exact List.map_congr_left fun x _ => by simp only [Function.comp, Nat.add_comm]
        · rintro ⟨⟨name, v⟩, k⟩ hx
          have hname := hnames _ (List.fst_mem_of_mem_zipIdx hx)
          simp only [Function.comp]
          rw [marks_unmarked_append (hname.append (by decide)), marks_placeholder]
      have hset' : ∀ b, NoLeadingDigit b →
          marks (", ".intercalate assignments ++ b) = placeholders options 1 items.length ++ marks b :=
        fun b hb => by rw [marks_append hb, hset]
      simp only [Aligned, sql]
      simp (disch := first | decide | assumption | exact noLeadingDigit_of_head rfl rfl _) only
        [String.append_assoc, marks_unmarked_append, hset', marks_placeholder]
      rw [List.length_append, List.length_map, List.length_singleton, placeholders_add]
      simp [placeholders, Nat.add_comm]

section Links

variable {table : String} (ht : Sql.Unmarked table)
include ht

theorem insertLink_aligned {source target : String} (hsource : Sql.Unmarked source)
    (htarget : Sql.Unmarked target) (a b : Int64) :
    (insertLink options table source target a b).Aligned options := by
  have hq := unmarked_qualifyTable hschema ht
  unfold insertLink Aligned
  simp (disch := first | decide | assumption) only [String.append_assoc, marks_unmarked_append,
    marks_placeholders_append, Unmarked.marks, List.append_nil]
  rfl

theorem deleteLink_aligned {source target : String} (hsource : Sql.Unmarked source)
    (htarget : Sql.Unmarked target) (a b : Int64) :
    (deleteLink options table source target a b).Aligned options := by
  have hq := unmarked_qualifyTable hschema ht
  unfold deleteLink Aligned
  simp (disch := first | decide | assumption | exact noLeadingDigit_of_head rfl rfl _) only
    [String.append_assoc, marks_unmarked_append, marks_placeholder_append, marks_placeholder]
  rfl

theorem deleteLinks_aligned {column : String} (hcolumn : Sql.Unmarked column) (id : Int64) :
    (deleteLinks options table column id).Aligned options := by
  have hq := unmarked_qualifyTable hschema ht
  unfold deleteLinks Aligned
  simp (disch := first | decide | assumption) only
    [String.append_assoc, marks_unmarked_append, marks_placeholder]
  rfl

end Links

end Builders

/-! ## The statements a save or a delete sends -/

/-- The statements a save or a delete sends over a registry: the rows of its entities' tables,
and the rows of the tables of the associations its entities declare. -/
inductive Built (reg : Registry) (options : CompileOptions) : Statement → Prop
  | insertRow (e : EntityId) (row : ModelRow) (explicitId : Option Int64) :
      Built reg options (insertRow options (reg.get e) row explicitId)
  | updateRow (e : EntityId) (row : ModelRow) {st : Statement} :
      updateRow options (reg.get e) row = some st → Built reg options st
  | updateColumn (e : EntityId) (column : Nat) (v : Value) (id : Int64) :
      Built reg options (updateColumn options (reg.get e) column v id)
  | deleteRow (e : EntityId) (id : Int64) : Built reg options (deleteRow options (reg.get e) id)
  | insertLink {s : Structure} {r : Relation} {table source target : String} :
      s ∈ reg.structures → r ∈ s.relations → r.kind = .association table source target →
      ∀ a b : Int64, Built reg options (insertLink options table source target a b)
  | deleteLink {s : Structure} {r : Relation} {table source target : String} :
      s ∈ reg.structures → r ∈ s.relations → r.kind = .association table source target →
      ∀ a b : Int64, Built reg options (deleteLink options table source target a b)
  | deleteLinks {s : Structure} {r : Relation} {table source target column : String} :
      s ∈ reg.structures → r ∈ s.relations → r.kind = .association table source target →
      column = source ∨ column = target →
      ∀ id : Int64, Built reg options (deleteLinks options table column id)

/-- The table and link columns of an association an entity of a built registry declares hold no
placeholder character. -/
theorem association_unmarked {reg : Registry} (hnamed : ∀ s ∈ reg.structures, s.Named)
    {s : Structure} {r : Relation} {table source target : String} (hs : s ∈ reg.structures)
    (hr : r ∈ s.relations) (hk : r.kind = .association table source target) :
    Sql.Unmarked table ∧ Sql.Unmarked source ∧ Sql.Unmarked target := by
  have hn := (hnamed s hs).relations r hr
  rw [hk] at hn
  obtain ⟨ht, hsource, htarget⟩ := hn
  exact ⟨unmarked_of_isIdentifier ht, unmarked_of_isIdentifier hsource,
    unmarked_of_isIdentifier htarget⟩

/-- Every statement a save or a delete sends over a built registry shows the placeholders of its
parameters in order. -/
theorem built_aligned {ds : List EntityDescriptor} {reg : Registry}
    (hreg : Registry.build ds = .ok reg) {options : CompileOptions}
    (hschema : Sql.Unmarked (options.schema.getD "")) {st : Statement}
    (h : Built reg options st) : st.Aligned options := by
  have hnamed := Registry.build_named hreg
  cases h with
  | insertRow e row explicitId =>
    exact insertRow_aligned hschema (Registry.get_unmarked hnamed e) row explicitId
  | updateRow e row hst => exact updateRow_aligned hschema (Registry.get_unmarked hnamed e) hst
  | updateColumn e column v id =>
    exact updateColumn_aligned hschema (Registry.get_unmarked hnamed e) column v id
  | deleteRow e id => exact deleteRow_aligned hschema (Registry.get_unmarked hnamed e) id
  | insertLink hs hr hk a b =>
    obtain ⟨ht, hsource, htarget⟩ := association_unmarked hnamed hs hr hk
    exact insertLink_aligned hschema ht hsource htarget a b
  | deleteLink hs hr hk a b =>
    obtain ⟨ht, hsource, htarget⟩ := association_unmarked hnamed hs hr hk
    exact deleteLink_aligned hschema ht hsource htarget a b
  | deleteLinks hs hr hk hcolumn id =>
    obtain ⟨ht, hsource, htarget⟩ := association_unmarked hnamed hs hr hk
    have hc : Sql.Unmarked _ := hcolumn.elim (fun e => e ▸ hsource) (fun e => e ▸ htarget)
    exact deleteLinks_aligned hschema ht hc id

end Statement

end EntityGraph
