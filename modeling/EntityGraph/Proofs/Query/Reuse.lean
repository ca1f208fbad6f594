import EntityGraph.Query.Cache
import EntityGraph.Proofs.Cache.Recency

/-!
# Kept compiled forms are never stale

A `CachedQuery` keeps the compiled form of its query together with the options it was compiled
with, and `UniqueLookups` keeps one such form per entity and column. Main statement: whatever a
query goes through (edits of every kind, copies, compiles with any options, failed or not), each
compile answers what a fresh compile of the query as it then stands gives with the same options;
a failed compile leaves the kept form as it was; and every unique lookup answers a fresh compile
of its lookup query, whatever options earlier lookups used (`kept_forms_are_fresh`).

Every builder of a query, an edit through its filter and a change of page are the one operation
`CachedQuery.edit`, each with its own change of the query, so a run of a query is a list of
`QueryUse`s. A copy of a kept query is the same value, and goes on with a run of its own.

The proof is an invariant: a kept form is the compile of the current query with the options kept
beside it (`CachedQuery.Fresh`, `UniqueLookups.Fresh`). Nothing is kept at the start; an edit
drops the form; a compile keeps only what it compiled; and a form is handed out only for the
options kept with it.
-/

namespace EntityGraph

/-- One use of a kept query: a change of the query (a builder, an edit of its filter, a new
page), or a compile with some options. -/
inductive QueryUse where
  | edit (f : Query → Query)
  | compile (options : CompileOptions)

/-- The answers of a run of uses with nothing kept: each compile compiles the query as it then
stands. -/
def Query.freshAnswers (reg : Registry) : Query → List QueryUse → List (Except Error CompiledQuery)
  | _, [] => []
  | q, .edit f :: uses => freshAnswers reg (f q) uses
  | q, .compile o :: uses => q.compile reg o :: freshAnswers reg q uses

namespace CachedQuery

variable {reg : Registry} {c : CachedQuery} {o : CompileOptions}

/-- The compiled forms that the compiles of a run of uses hand out, in order. -/
def answers (reg : Registry) : CachedQuery → List QueryUse → List (Except Error CompiledQuery)
  | _, [] => []
  | c, .edit f :: uses => answers reg (c.edit f) uses
  | c, .compile o :: uses =>
    let (r, c') := c.compile reg o
    r.map (·.1) :: answers reg c' uses

/-- A kept form is the compile of the current query with the options kept beside it. -/
def Fresh (reg : Registry) (c : CachedQuery) : Prop :=
  ∀ kept form, c.compiled = some (kept, form) → c.query.compile reg kept = .ok form

@[simp] theorem edit_query (c : CachedQuery) (f : Query → Query) : (c.edit f).query = f c.query :=
  rfl

theorem fresh_ofQuery (reg : Registry) (q : Query) : (ofQuery q).Fresh reg := by
  intro kept form h
  cases h

theorem Fresh.edit (c : CachedQuery) (f : Query → Query) : (c.edit f).Fresh reg := by
  intro kept form h
  cases h

/-- Compiling never changes the query. -/
@[simp] theorem compile_query (c : CachedQuery) : (c.compile reg o).2.query = c.query := by
  unfold compile compile.fresh
  split
  · split
    · rfl
    · split <;> rfl
  · split <;> rfl

/-- A failed compile leaves the kept form, and everything else, as it was. -/
theorem compile_error {e : Error} (h : (c.compile reg o).1 = .error e) : (c.compile reg o).2 = c := by
  unfold compile compile.fresh at *
  split at *
  · split at *
    · cases h
    · split at * <;> simp_all
  · split at * <;> simp_all

/-- What a compile hands out is the fresh compile, when the kept form is fresh. -/
theorem Fresh.compile_answer (hc : c.Fresh reg) :
    (c.compile reg o).1.map (·.1) = c.query.compile reg o := by
  unfold compile compile.fresh
  split
  · next kept form hkept =>
    split
    · next heq =>
      -- the kept form is handed out only for the options it was compiled with
      rw [← eq_of_beq heq, hc kept form hkept]
      rfl
    · split <;> simp_all [Except.map]
  · split <;> simp_all [Except.map]

theorem Fresh.compile (hc : c.Fresh reg) : (c.compile reg o).2.Fresh reg := by
  intro kept form h
  rw [compile_query]
  unfold CachedQuery.compile compile.fresh at h
  split at h
  · split at h
    · exact hc kept form h
    · split at h
      · next hok =>
        cases h
        exact hok
      · exact hc kept form h
  · split at h
    · next hok =>
      cases h
      exact hok
    · exact hc kept form h

/-- A run from a fresh state hands out what the same run with nothing kept does. -/
theorem Fresh.answers (hc : c.Fresh reg) (uses : List QueryUse) :
    c.answers reg uses = c.query.freshAnswers reg uses := by
  induction uses generalizing c with
  | nil => rfl
  | cons u uses ih =>
    cases u with
    | edit f => exact ih (Fresh.edit c f)
    | compile o =>
      simp only [CachedQuery.answers, Query.freshAnswers]
      rw [hc.compile_answer, ih hc.compile, compile_query]

end CachedQuery

namespace UniqueLookups

variable {reg : Registry} {u : UniqueLookups}

/-- The compiled forms that a run of lookups hands out, in order. -/
def answers (reg : Registry) :
    UniqueLookups → List (EntityId × String × CompileOptions) → List (Except Error CompiledQuery)
  | _, [] => []
  | u, (e, column, o) :: lookups =>
    let (r, u') := u.compiled reg e column o
    r.map (·.1) :: answers reg u' lookups

/-- Every kept form is the compile of its lookup query with the options kept beside it. -/
def Fresh (reg : Registry) (u : UniqueLookups) : Prop :=
  ∀ e column kept form, u.kept? e column = some (kept, form) →
    (Query.uniqueLookup e column).compile reg kept = .ok form

/-- Storing into a slot changes that slot only. -/
theorem kept?_store (u : UniqueLookups) (key : EntityId × String) (form : Option CompiledFor)
    (e : EntityId) (column : String) :
    (u.store key form).kept? e column = if (e, column) = key then form else u.kept? e column := by
  unfold store kept?
  split
  · next hany =>
    -- the slot is open: it is replaced in place
    have hopen : (u.slots.lookup key).isSome := by rwa [lookup_isSome]
    rw [lookup_map_replace key (fun _ => form) u.slots (e, column)]
    split
    · obtain ⟨x, hx⟩ := Option.isSome_iff_exists.mp hopen
      simp [hx]
    · rfl
  · next hany =>
    -- the slot is new: it is opened at the end
    have hnew : u.slots.lookup key = none := by
      rw [← Option.not_isSome_iff_eq_none, lookup_isSome]
      exact hany
    rw [lookup_append_new hnew]
    split <;> rfl

theorem fresh_empty (reg : Registry) : ({} : UniqueLookups).Fresh reg := by
  intro e column kept form h
  cases h

/-- Storing a form that is the compile of the slot's lookup query keeps every form fresh. -/
theorem Fresh.store {e : EntityId} {column : String} {f : Option CompiledFor} (hu : u.Fresh reg)
    (hf : ∀ kept form, f = some (kept, form) →
      (Query.uniqueLookup e column).compile reg kept = .ok form) :
    (u.store (e, column) f).Fresh reg := by
  intro e' column' kept form h
  rw [kept?_store] at h
  split at h
  · next heq =>
    obtain ⟨rfl, rfl⟩ := Prod.mk.inj heq
    exact hf kept form h
  · exact hu e' column' kept form h

variable {e : EntityId} {column : String} {o : CompileOptions}

/-- What a lookup hands out is the fresh compile of its query, when the kept forms are fresh. -/
theorem Fresh.compiled_answer (hu : u.Fresh reg) :
    (u.compiled reg e column o).1.map (·.1) = (Query.uniqueLookup e column).compile reg o := by
  unfold compiled compiled.fresh
  split
  · next kept form hkept =>
    split
    · next heq =>
      -- the kept form is handed out only for the options it was compiled with
      rw [← eq_of_beq heq, hu e column kept form hkept]
      rfl
    · split <;> simp_all [Except.map]
  · split <;> simp_all [Except.map]

theorem Fresh.compiled (hu : u.Fresh reg) : (u.compiled reg e column o).2.Fresh reg := by
  unfold UniqueLookups.compiled compiled.fresh
  split
  · split
    · exact hu
    · split
      · next form hok => exact hu.store fun kept form' h => by cases h; exact hok
      · exact hu.store (hu e column)
  · split
    · next form hok => exact hu.store fun kept form' h => by cases h; exact hok
    · exact hu.store (hu e column)

/-- A run of lookups from fresh slots hands out the fresh compile of each lookup query. -/
theorem Fresh.answers (hu : u.Fresh reg) (lookups : List (EntityId × String × CompileOptions)) :
    u.answers reg lookups =
      lookups.map fun (e, column, o) => (Query.uniqueLookup e column).compile reg o := by
  induction lookups generalizing u with
  | nil => rfl
  | cons l lookups ih =>
    obtain ⟨e, column, o⟩ := l
    simp only [UniqueLookups.answers, List.map_cons]
    rw [hu.compiled_answer, ih hu.compiled]

end UniqueLookups

/-- Kept compiled forms are never stale. From any query, every run of edits and compiles hands
out, at each compile, the fresh compile of the query as it then stands with that compile's
options; a failed compile leaves the kept query as it was; and every run of unique lookups from
none kept hands out, at each lookup, the fresh compile of the lookup query of its entity and
column with its options. -/
theorem kept_forms_are_fresh (reg : Registry) :
    (∀ (q : Query) (uses : List QueryUse),
      (CachedQuery.ofQuery q).answers reg uses = q.freshAnswers reg uses) ∧
    (∀ (c : CachedQuery) (o : CompileOptions) (e : Error),
      (c.compile reg o).1 = .error e → (c.compile reg o).2 = c) ∧
    (∀ lookups : List (EntityId × String × CompileOptions),
      ({} : UniqueLookups).answers reg lookups =
        lookups.map fun (e, column, o) => (Query.uniqueLookup e column).compile reg o) :=
  ⟨fun q uses => (CachedQuery.fresh_ofQuery reg q).answers uses,
    fun _ _ _ h => CachedQuery.compile_error h,
    fun lookups => (UniqueLookups.fresh_empty reg).answers lookups⟩

end EntityGraph
