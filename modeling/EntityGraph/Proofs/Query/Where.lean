import Mathlib.Data.List.Defs
import EntityGraph.Proofs.Query.Names

/-!
# The `WHERE` clause of a compiled query

`Compiler.clauses` lists the clauses of a statement's outer `WHERE`: the key clause under key
paging, then the filter of every node in node order, the primary filter left out under subquery
paging, where the page subquery applies it. `Compiler.whereClause` joins them with `AND`,
putting a clause in parentheses when there is more than one and its filter has a connective of
its own.

Read by SQL precedence, that text is the conjunction of the clauses' meanings in order
(`whereClause_reads`): the key clause is one atom, the primary key tested against the keys of
the page, and each node filter is its left-to-right reading. The key clause is an atom only if
its subquery's parentheses match; they do, because every name a statement writes is a plain word
and the schema prefix, which is not checked anywhere, has no parentheses (`keyClause_atom`).
-/

namespace EntityGraph

open Sql

/-! ## Plain names -/

namespace Sql

/-- Text with no space and no parenthesis: it lies within one word. -/
def Unbroken (s : String) : Prop := ∀ c ∈ s.toList, isBreak c = false

instance (s : String) : Decidable (Unbroken s) :=
  decidable_of_iff (s.toList.all fun c => !isBreak c) (by simp [Unbroken])

instance (s : String) : Decidable (ParenFree s) := inferInstanceAs (Decidable (parens s = []))

theorem Unbroken.append {a b : String} (ha : Unbroken a) (hb : Unbroken b) : Unbroken (a ++ b) := by
  intro c hc
  rw [String.toList_append, List.mem_append] at hc
  exact hc.elim (ha c) (hb c)

theorem Unbroken.parenFree {s : String} (h : Unbroken s) : ParenFree s := by
  unfold ParenFree parens
  rw [List.filterMap_eq_nil_iff]
  intro c hc
  have hb := h c hc
  simp only [isBreak, Bool.or_eq_false_iff, beq_eq_false_iff_ne] at hb
  simp [parenOf, hb.1.2, hb.2]

/-- A name: letters, digits and underscores, possibly none. -/
def Name (s : String) : Prop := ∀ c ∈ s.toList, isIdentifierPart c = true

theorem Name.append {a b : String} (ha : Name a) (hb : Name b) : Name (a ++ b) := by
  intro c hc
  rw [String.toList_append, List.mem_append] at hc
  exact hc.elim (ha c) (hb c)

theorem name_empty : Name "" := by
  intro c hc
  cases hc

theorem name_of_isIdentifier {s : String} (h : isIdentifier s = true) : Name s := by
  unfold isIdentifier at h
  split at h
  · cases h
  · next c rest hs =>
    simp only [Bool.and_eq_true, List.all_eq_true] at h
    rw [Name, hs]
    intro x hx
    rcases List.mem_cons.mp hx with rfl | hx
    · simp [isIdentifierPart, h.1]
    · exact h.2 x hx

theorem name_toString (n : Nat) : Name (toString n) := by
  intro c hc
  rw [Nat.toString_eq_repr, Nat.toList_repr] at hc
  have hd : c.isDigit = true := Nat.isDigit_of_mem_toDigits (by decide) (by decide) hc
  simp only [Char.isDigit, Bool.and_eq_true, decide_eq_true_eq] at hd
  simp only [isIdentifierPart, Bool.or_eq_true, Bool.and_eq_true, decide_eq_true_eq]
  exact Or.inr ⟨hd.1, hd.2⟩

theorem IsAlias.name {a : String} (h : IsAlias a) : Name a := by
  obtain ⟨k, rfl⟩ := h
  exact (show Name "t" by intro c hc; simp at hc; subst hc; rfl).append (name_toString k)

theorem Name.unbroken {s : String} (h : Name s) : Unbroken s := by
  intro c hc
  have hp := h c hc
  cases hb : isBreak c with
  | false => rfl
  | true =>
    have : c = ' ' ∨ c = '(' ∨ c = ')' := by simpa [isBreak, or_assoc] using hb
    rcases this with rfl | rfl | rfl <;> exact absurd hp (by decide)

theorem IsColumnWord.parenFree {s : String} (h : IsColumnWord s) : ParenFree s :=
  Unbroken.parenFree h.2.1

/-- A name, a dot and a name make a column word. -/
theorem isColumnWord_dot {a b : String} (ha : Unbroken a) (hb : Unbroken b) :
    IsColumnWord (a ++ "." ++ b) := by
  have hdot : '.' ∈ (a ++ "." ++ b).toList := by simp
  refine ⟨fun e => (by rw [e] at hdot; cases hdot), (ha.append (by decide)).append hb, ?_⟩
  intro hm
  simp only [reserved, List.mem_cons, List.not_mem_nil, or_false] at hm
  rcases hm with h | h | h | h | h | h | h <;> rw [h] at hdot <;> revert hdot <;> decide

theorem ParenFree.nil : ParenFree "" := rfl

/-- Characters that SQL text reads specially: parentheses, and the characters that start a
placeholder. -/
def isSpecial (c : Char) : Bool := c == '(' || c == ')' || c == '?' || c == '$'

/-- The parenthesis characters. -/
def isParenChar (c : Char) : Bool := c == '(' || c == ')'

/-- The characters placeholders start with. -/
def isMarkChar (c : Char) : Bool := c == '?' || c == '$'

/-- Text none of whose characters is `bad`. -/
def Avoids (bad : Char → Bool) (s : String) : Prop := ∀ c ∈ s.toList, bad c = false

instance (bad : Char → Bool) (s : String) : Decidable (Avoids bad s) :=
  decidable_of_iff (s.toList.all fun c => !bad c) (by simp [Avoids])

@[simp] theorem avoids_append {bad : Char → Bool} {a b : String} :
    Avoids bad (a ++ b) ↔ Avoids bad a ∧ Avoids bad b := by
  simp only [Avoids, String.toList_append, List.mem_append]
  constructor
  · intro h
    exact ⟨fun c hc => h c (.inl hc), fun c hc => h c (.inr hc)⟩
  · rintro ⟨ha, hb⟩ c (hc | hc)
    · exact ha c hc
    · exact hb c hc

theorem Avoids.mono {bad bad' : Char → Bool} {s : String} (h : Avoids bad s)
    (hb : ∀ c, bad' c = true → bad c = true) : Avoids bad' s := by
  intro c hc
  cases e : bad' c with
  | false => rfl
  | true => have := h c hc; rw [hb c e] at this; cases this

theorem avoids_empty {bad : Char → Bool} : Avoids bad "" := by
  intro c hc
  cases hc

theorem avoids_join {bad : Char → Bool} :
    ∀ {l : List String}, (∀ s ∈ l, Avoids bad s) → Avoids bad (String.join l)
  | [], _ => avoids_empty
  | s :: l, h => by
    rw [String.join_cons, avoids_append]
    exact ⟨h s List.mem_cons_self, avoids_join fun t ht => h t (List.mem_cons_of_mem s ht)⟩

/-- A name has no special character. -/
theorem Name.avoids {s : String} (h : Name s) : Avoids isSpecial s := by
  intro c hc
  have hp := h c hc
  cases hb : isSpecial c with
  | false => rfl
  | true =>
    have : c = '(' ∨ c = ')' ∨ c = '?' ∨ c = '$' := by simpa [isSpecial, or_assoc] using hb
    rcases this with rfl | rfl | rfl | rfl <;> exact absurd hp (by decide)

theorem isParenChar_special (c : Char) (h : isParenChar c = true) : isSpecial c = true := by
  simp only [isParenChar, isSpecial, Bool.or_eq_true] at h ⊢
  exact Or.inl (Or.inl h)

theorem isMarkChar_special (c : Char) (h : isMarkChar c = true) : isSpecial c = true := by
  simp only [isMarkChar, isSpecial, Bool.or_eq_true] at h ⊢
  rcases h with h | h
  · exact Or.inl (Or.inr h)
  · exact Or.inr h

theorem Avoids.parenFree {s : String} (h : Avoids isParenChar s) : ParenFree s := by
  unfold ParenFree parens
  rw [List.filterMap_eq_nil_iff]
  intro c hc
  have hb := h c hc
  simp only [isParenChar, Bool.or_eq_false_iff, beq_eq_false_iff_ne] at hb
  simp [parenOf, hb.1, hb.2]

theorem ParenFree.avoids {s : String} (h : ParenFree s) : Avoids isParenChar s := by
  intro c hc
  unfold ParenFree parens at h
  rw [List.filterMap_eq_nil_iff] at h
  have hp := h c hc
  simp only [parenOf] at hp
  split at hp
  · cases hp
  · next h1 =>
    split at hp
    · cases hp
    · next h2 => simp [isParenChar, h1, h2]

/-- Text whose parentheses match. -/
def Matched (s : String) : Prop := Balanced (parens s)

theorem ParenFree.matched {s : String} (h : ParenFree s) : Matched s := by
  unfold Matched
  rw [h]
  exact Balanced.nil

theorem Matched.append {a b : String} (ha : Matched a) (hb : Matched b) : Matched (a ++ b) := by
  unfold Matched
  rw [parens_append]
  exact Balanced.append ha hb

theorem matched_of_expr {s : String} {ℓ : Level} {m : Cond Atom} (h : Expr ℓ (lex s) m) :
    Matched s :=
  (balanced_lex_iff s).mp h.balanced

theorem matched_intercalate {sep : String} (hsep : ParenFree sep) :
    ∀ {l : List String}, (∀ s ∈ l, Matched s) → Matched (sep.intercalate l)
  | [], _ => ParenFree.nil.matched
  | [a], h => by simpa using h a List.mem_cons_self
  | a :: b :: rest, h => by
    rw [String.intercalate_cons_cons]
    exact ((h a List.mem_cons_self).append hsep.matched).append
      (matched_intercalate hsep fun s hs => h s (List.mem_cons_of_mem a hs))

/-- `AND` between two texts is a word of its own. -/
theorem lex_and (a b : String) : lex (a ++ " AND " ++ b) = lex a ++ .word "AND" :: lex b := by
  have h : a ++ " AND " ++ b = a ++ " " ++ ("AND" ++ " " ++ b) := by
    simp only [String.append_assoc]
    rfl
  rw [h, lex_append_space, lex_append_space, show lex "AND" = [.word "AND"] by decide]
  rfl

theorem lex_and_intercalate : ∀ (ps : List String) (p : String),
    lex (" AND ".intercalate (p :: ps)) = lex p ++ (ps.map fun q => .word "AND" :: lex q).flatten
  | [], p => by simp
  | q :: ps, p => by
    rw [String.intercalate_cons_cons, lex_and, lex_and_intercalate ps q]
    simp

/-- A membership test of a column in a subquery. -/
theorem lex_member {k : String} (hk : IsColumnWord k) (inner : String) :
    lex (k ++ " IN (" ++ inner ++ ")") = .word k :: .word "IN" :: .lparen :: (lex inner ++ [.rparen]) := by
  have h : k ++ " IN (" ++ inner ++ ")" = k ++ " " ++ ("IN" ++ " " ++ ("(" ++ inner ++ ")")) := by
    simp only [String.append_assoc]
    rfl
  rw [h, lex_append_space, lex_append_space, lex_wrap, hk.lex, show lex "IN" = [.word "IN"] by decide]
  rfl

/-- Terms joined by `AND` after a conjunction make a conjunction, each `AND` applied to
everything before it. -/
theorem Expr.and_chain : ∀ {L : List Lexeme} {acc : Cond Atom} {ps : List String}
    {ms : List (Cond Atom)}, Expr .conjunction L acc →
    List.Forall₂ (fun p m => Expr .negation (lex p) m) ps ms →
    Expr .conjunction (L ++ (ps.map fun q => .word "AND" :: lex q).flatten) (ms.foldl .and acc)
  | _, _, [], [], h, .nil => by simpa using h
  | _, _, _ :: _, _ :: _, h, .cons hp hr => by
    simpa using Expr.and_chain (Expr.and h hp) hr

end Sql

/-! ## What a `WHERE` clause means -/

/-- The conjunction of conditions in order, each `AND` applied to everything before it; none of
no condition. -/
def Cond.all {α : Type} : List (Cond α) → Option (Cond α)
  | [] => none
  | c :: cs => some (cs.foldl .and c)

/-- A `WHERE` clause meaning `m`: nothing for no condition, else `WHERE` and a text whose one
reading by SQL precedence is `m`. -/
def WhereMeans (text : String) : Option (Cond Atom) → Prop
  | none => text = ""
  | some m => ∃ w, text = " WHERE " ++ w ∧ ∀ u, Expr .disjunction (lex w) u ↔ u = m

theorem WhereMeans.matched : ∀ {text : String} {m : Option (Cond Atom)}, WhereMeans text m → Matched text
  | _, none, h => h ▸ ParenFree.nil.matched
  | _, some m, ⟨_, rfl, hw⟩ =>
    (show ParenFree " WHERE " by decide).matched.append (matched_of_expr ((hw m).mpr rfl))

/-- A clause meaning `m`: read alone, and as one term of a conjunction when it has no connective
of its own. -/
def ClauseMeans (clause : String × Bool) (m : Cond Atom) : Prop :=
  Expr .disjunction (lex clause.1) m ∧ (clause.2 = false → Expr .negation (lex clause.1) m)

/-- A clause among several: in parentheses when it has a connective of its own. -/
def grouped (x : String × Bool) : String := if x.2 = true then "(" ++ x.1 ++ ")" else x.1

/-- Grouped, a clause is one term of a conjunction. -/
theorem ClauseMeans.term {x : String × Bool} {m : Cond Atom} (h : ClauseMeans x m) :
    Expr .negation (lex (grouped x)) m := by
  unfold EntityGraph.grouped
  cases hc : x.2 with
  | true => rw [if_pos rfl, lex_wrap]; exact .paren h.1
  | false => rw [if_neg Bool.false_ne_true]; exact h.2 hc

theorem ClauseMeans.terms : ∀ {cl : List (String × Bool)} {ms : List (Cond Atom)},
    List.Forall₂ ClauseMeans cl ms →
    List.Forall₂ (fun p m => Expr .negation (lex p) m) (cl.map grouped) ms
  | [], [], .nil => .nil
  | _ :: _, _ :: _, .cons h hs => .cons h.term (ClauseMeans.terms hs)

/-- Several clauses are joined by `AND`, each grouped. -/
theorem whereClause_several {x y : String × Bool} (cl : List (String × Bool)) :
    Compiler.whereClause (x :: y :: cl) = " WHERE " ++ " AND ".intercalate ((x :: y :: cl).map grouped) := by
  simp only [Compiler.whereClause, List.isEmpty_cons, Bool.false_eq_true, if_false]
  congr 2

/-- The `WHERE` clause of clauses that mean `ms` means their conjunction in order. -/
theorem whereClause_means : ∀ {cl : List (String × Bool)} {ms : List (Cond Atom)},
    List.Forall₂ ClauseMeans cl ms → WhereMeans (Compiler.whereClause cl) (Cond.all ms)
  | [], [], .nil => rfl
  | [x], [m], .cons hx .nil => ⟨x.1, by simp [Compiler.whereClause], hx.1.iff_eq⟩
  | x :: y :: cl, m :: n :: ms, .cons hx (.cons hy h) => by
    refine ⟨_, whereClause_several cl, Expr.iff_eq ?_⟩
    rw [List.map_cons, lex_and_intercalate]
    exact .ofConjunction (Expr.and_chain (.ofNegation hx.term) (ClauseMeans.terms (.cons hy h)))

/-- An empty filter is not a condition. -/
theorem Filter.read_of_isEmpty {f : Filter} (h : f.isEmpty = true) : f.read = none := by
  obtain ⟨_ | ⟨t, ts⟩⟩ := f
  · simp [Filter.read, Reading.start]
  · cases h

/-- A table name qualified by a schema avoids what the schema avoids, among special
characters. -/
theorem avoids_qualifyTable {bad : Char → Bool} (hbad : ∀ c, bad c = true → isSpecial c = true)
    {schema : Option String} {table : String} (hs : Avoids bad (schema.getD "")) (ht : Name table) :
    Avoids bad (qualifyTable schema table) := by
  have hn := ht.avoids.mono hbad
  cases schema with
  | none => exact hn
  | some s => exact avoids_append.mpr ⟨avoids_append.mpr ⟨hs, (show Avoids isSpecial "." by decide).mono hbad⟩, hn⟩

/-! ## The names a compiler writes -/

namespace PlannedNode.Named

variable {n : PlannedNode}

theorem aliasOf (hn : n.Named) (e : EntityId) : Name ((n.aliasOf? e).getD "") := by
  cases h : n.aliasOf? e with
  | none => exact name_empty
  | some a =>
    simp only [PlannedNode.aliasOf?, Option.map_eq_some_iff] at h
    obtain ⟨t, ht, rfl⟩ := h
    exact IsAlias.name (hn.tables t (List.mem_of_find?_eq_some ht))

theorem ownAlias (hn : n.Named) : Name n.ownAlias := by
  unfold PlannedNode.ownAlias
  cases h : n.tables.head? with
  | none => exact name_empty
  | some t => exact IsAlias.name (hn.tables t (List.mem_of_head? h))

theorem link (hn : n.Named) : Name (n.linkAlias.getD "") := by
  cases h : n.linkAlias with
  | none => exact name_empty
  | some a => exact IsAlias.name (hn.linkAlias a h)

end PlannedNode.Named

namespace Compiler

variable {c : Compiler}

/-- The node at any position is named: a missing one is the blank node. -/
theorem Named.node (hc : c.Named) (i : Nat) : (c.node i).Named := by
  unfold Compiler.node
  cases h : c.nodes[i]? with
  | none => exact ⟨fun _ ht => (by cases ht), fun _ e => (by cases e), fun _ e => (by cases e)⟩
  | some n => exact hc.nodes n (Array.mem_of_getElem? h)

/-- The table of the entity with any number is a name: a missing entity has none. -/
theorem Named.table (hc : c.Named) (e : EntityId) : Name (c.reg.get e).table := by
  unfold Registry.get Registry.get?
  cases h : c.reg.structures[e.index]? with
  | none => exact name_empty
  | some s => exact name_of_isIdentifier (hc.structures s (Array.mem_of_getElem? h)).table

theorem Named.columnName (hc : c.Named) (e : EntityId) (i : Nat) :
    Name ((((c.reg.get e).column? i).map (·.name)).getD "") := by
  cases h : (c.reg.get e).column? i with
  | none => exact name_empty
  | some col =>
    have hcol := List.mem_of_getElem? h
    exact name_of_isIdentifier
      ((hc.structures _ (Registry.get_mem (.inl (List.ne_nil_of_mem hcol)))).columns col hcol)

theorem Named.primaryKeyName (hc : c.Named) (e : EntityId) : Name (c.reg.get e).primaryKeyName :=
  hc.columnName e _

/-- The key of a node is a column word. -/
theorem Named.primaryKeyOf (hc : c.Named) {n : PlannedNode} (hn : n.Named) :
    IsColumnWord (c.primaryKeyOf n) :=
  isColumnWord_dot hn.ownAlias.unbroken (hc.primaryKeyName n.entity).unbroken

theorem Named.primaryKeyOf_avoids (hc : c.Named) {n : PlannedNode} (hn : n.Named) :
    Avoids isSpecial (c.primaryKeyOf n) := by
  unfold Compiler.primaryKeyOf
  simp +decide only [avoids_append, hn.ownAlias.avoids, (hc.primaryKeyName n.entity).avoids, and_true]

/-- A field resolves to an alias, a dot and a column name. -/
theorem Named.resolveSql (hc : c.Named) {i : Nat} {name : String} {r : Resolved}
    (h : c.resolve i name = .ok r) : Avoids isSpecial r.sql := by
  obtain ⟨i', field, hi⟩ := resolveField_sql h
  obtain ⟨n, hn, t, ht, col, hcol, hsql⟩ := resolveIn_sql hi
  have hname := name_of_isIdentifier
    ((hc.structures _ (Registry.get_mem (.inl (List.ne_nil_of_mem hcol)))).columns col hcol)
  rw [hsql]
  simp +decide only [avoids_append, (IsAlias.name ((hc.nodes n hn).tables t ht)).avoids,
    hname.avoids, and_true]

theorem paging_avoids (limit offset : Option Nat) : Avoids isSpecial (c.paging limit offset) := by
  unfold Compiler.paging
  split
  · decide
  · simp +decide only [avoids_append, (name_toString _).avoids, and_true]
  · simp +decide only [avoids_append, (name_toString _).avoids, and_true]
  · split <;> simp +decide only [avoids_append, (name_toString _).avoids, and_true]

/-! ## Texts without special characters

Every part of a statement other than the filters and the ordering is built from keywords, table
names, aliases and column names: its only special characters are those of the schema. -/

section Texts

variable {bad : Char → Bool} (hbad : ∀ c, bad c = true → isSpecial c = true) (hc : c.Named)
  (hs : Avoids bad (c.options.schema.getD ""))
include hbad hc hs

theorem Named.tableName (e : EntityId) : Avoids bad (c.tableName e) :=
  avoids_qualifyTable hbad hs (hc.table e)

theorem Named.levelJoins {n : PlannedNode} (hn : n.Named) (primary : Bool) :
    Avoids bad (c.levelJoins n primary) := by
  unfold Compiler.levelJoins
  have lit : ∀ s, Avoids isSpecial s → Avoids bad s := fun s h => h.mono hbad
  have hk : Avoids isSpecial (if primary then "INNER JOIN" else "LEFT JOIN") := by
    cases primary <;> decide
  refine avoids_append.mpr ⟨avoids_join ?_, avoids_join ?_⟩
  · simp only [List.mem_map]
    rintro _ ⟨⟨t, a⟩, hm, rfl⟩
    have ha := IsAlias.name (hn.tables _ (List.mem_of_mem_take (List.mem_filter.mp hm).1))
    simp +decide only [avoids_append, lit _ hk, hc.tableName hbad hs t, lit _ ha.avoids,
      lit _ (hc.primaryKeyName t).avoids, lit _ (hn.aliasOf n.anchor).avoids,
      lit _ (hc.primaryKeyName n.anchor).avoids, lit, and_true]
  · simp only [List.mem_map]
    rintro _ ⟨⟨impl, t, a⟩, hm, rfl⟩
    have ha := IsAlias.name (hn.tables _ (List.mem_of_mem_drop (List.of_mem_zip hm).2))
    simp +decide only [avoids_append, hc.tableName hbad hs t, lit _ ha.avoids,
      lit _ (hc.primaryKeyName t).avoids, lit _ hn.ownAlias.avoids,
      lit _ (hc.columnName n.entity impl.linkColumn).avoids, lit, and_true]

theorem Named.relationJoin {n : PlannedNode} (hn : n.Named) : Avoids bad (c.relationJoin n) := by
  unfold Compiler.relationJoin
  have lit : ∀ s, Avoids isSpecial s → Avoids bad s := fun s h => h.mono hbad
  split
  · next rel parent hr _ =>
    have hown := (hc.node parent).aliasOf rel.owner
    cases hk : rel.kind with
    | reference column =>
      simp +decide only [avoids_append, hc.tableName hbad hs n.anchor, lit _ (hn.aliasOf n.anchor).avoids,
        lit _ (hc.primaryKeyName n.anchor).avoids, lit _ hown.avoids,
        lit _ (hc.columnName rel.owner column).avoids, lit, and_true]
    | children back =>
      simp +decide only [avoids_append, hc.tableName hbad hs n.anchor, lit _ (hn.aliasOf n.anchor).avoids,
        lit _ (hc.columnName back.entity back.index).avoids, lit _ hown.avoids,
        lit _ (hc.primaryKeyName rel.owner).avoids, lit, and_true]
    | association table source target =>
      have hnamed := hn.relation rel hr
      rw [hk] at hnamed
      obtain ⟨ht, hsrc, htgt⟩ := hnamed
      simp +decide only [avoids_append, hc.tableName hbad hs n.anchor, lit _ (hn.aliasOf n.anchor).avoids,
        avoids_qualifyTable hbad hs (name_of_isIdentifier ht), lit _ hn.link.avoids,
        lit _ (name_of_isIdentifier hsrc).avoids, lit _ (name_of_isIdentifier htgt).avoids,
        lit _ (hc.primaryKeyName n.anchor).avoids, lit _ hown.avoids,
        lit _ (hc.primaryKeyName rel.owner).avoids, lit, and_true]
  · exact avoids_empty

theorem Named.rootSource : Avoids bad c.rootSource := by
  unfold Compiler.rootSource
  have lit : ∀ s, Avoids isSpecial s → Avoids bad s := fun s h => h.mono hbad
  simp +decide only [avoids_append, hc.tableName hbad hs, lit _ (hc.node 0).ownAlias.avoids,
    hc.levelJoins hbad hs (hc.node 0), lit, and_true]

theorem Named.joins : Avoids bad c.joins := by
  unfold Compiler.joins
  refine avoids_join ?_
  simp only [List.mem_map]
  rintro _ ⟨n, hm, rfl⟩
  have hn := hc.nodes n (Array.mem_toList_iff.mp (List.mem_of_mem_drop hm))
  exact avoids_append.mpr ⟨hc.relationJoin hbad hs hn, hc.levelJoins hbad hs hn false⟩

end Texts

/-! ## The texts of the page -/

/-- The left-to-right reading of the filter of node `i`, its fields written as that node's
filter writes them. -/
def reading (c : Compiler) (i : Nat) : Option (Cond Atom) :=
  (c.node i).filter.read.map (Cond.map (c.context i).atomOf)

theorem Named.filterOf (hc : c.Named) {i : Nat} {ps ps' : Array CompiledParam} {text : String}
    (h : (c.filterOf i).run ps = .ok (text, ps')) :
    ∃ m, c.reading i = some m ∧ ClauseMeans (text, (c.node i).filter.hasConnective) m := by
  obtain ⟨⟨r, hr⟩, hres⟩ := read_of_renderFilter (hc.plain i) h
  obtain ⟨text', ps'', e, hx, hneg⟩ := renderFilter_reads (hc.plain i) hr hres ps
  rw [show (c.filterOf i).run ps = (renderFilter (c.context i) (c.node i).filter).run ps from rfl] at h
  rw [h] at e
  cases e
  exact ⟨_, by simp [reading, hr], hx, hneg⟩

/-- The subquery's `WHERE` means the primary filter read left to right. -/
theorem Named.rootWhere (hc : c.Named) {ps ps' : Array CompiledParam} {w : String}
    (h : c.rootWhere.run ps = .ok (w, ps')) : WhereMeans w (c.reading 0) := by
  unfold Compiler.rootWhere at h
  split at h
  · next he =>
    obtain ⟨rfl, -⟩ := run_pure_ok h
    simp only [reading, Filter.read_of_isEmpty he, Option.map_none]
    rfl
  · obtain ⟨text, ps₁, ht, hw⟩ := run_bind_ok h
    obtain ⟨rfl, -⟩ := run_pure_ok hw
    obtain ⟨m, hm, hx, -⟩ := hc.filterOf ht
    rw [hm]
    exact ⟨text, rfl, hx.iff_eq⟩

/-- The grouping of the key subquery names columns; each of its ordering terms is a column, or
a column under `MIN` or `MAX`, and a direction. -/
theorem Named.pageOrder (hc : c.Named) {group order : List String}
    (h : c.pageOrder = .ok (group, order)) :
    (∀ g ∈ group, Avoids isSpecial g) ∧ ∀ t ∈ order, Matched t ∧ Avoids isMarkChar t := by
  unfold Compiler.pageOrder at h
  obtain ⟨⟨g, ts⟩, hfold, hrest⟩ := except_bind_ok h
  have hkey := hc.primaryKeyOf_avoids (hc.node 0)
  have hkey' : Matched (c.primaryKeyOf (c.node 0)) ∧ Avoids isMarkChar (c.primaryKeyOf (c.node 0)) :=
    ⟨(hkey.mono isParenChar_special).parenFree.matched, hkey.mono isMarkChar_special⟩
  have push : ∀ {P : String → Prop} {l : List String} {a : String},
      (∀ x ∈ l, P x) → P a → ∀ x ∈ l ++ [a], P x :=
    fun h ha => List.forall_mem_append.mpr ⟨h, List.forall_mem_singleton.mpr ha⟩
  have hinv := foldlM_ok_invariant
    (I := fun p => (∀ g ∈ p.1, Avoids isSpecial g) ∧ ∀ t ∈ p.2, Matched t ∧ Avoids isMarkChar t)
    ?_ _ _ _ ⟨List.forall_mem_singleton.mpr hkey, by simp⟩ hfold
  · cases hrest
    refine ⟨hinv.1, ?_⟩
    split
    · exact hinv.2
    · exact push hinv.2 hkey'
  · -- one ordering term: a primary column joins the grouping, a joined one is aggregated
    rintro ⟨g, ts⟩ o ⟨g', ts'⟩ ⟨hg, hts⟩ hs
    dsimp only at hs
    obtain ⟨r, hr, hs⟩ := except_bind_ok hs
    have hspecial := hc.resolveSql hr
    have hsql : parens r.sql = [] := (hspecial.mono isParenChar_special).parenFree
    have hsp : parens " " = [] := by decide
    have hdir : Avoids isSpecial o.direction.sql := by cases o.direction <;> decide
    by_cases hn : (r.node == 0) = true
    · rw [if_pos hn] at hs
      cases hs
      refine ⟨?_, push hts ⟨?_, ?_⟩⟩
      · split
        · exact hg
        · exact push hg hspecial
      · have hdir' : parens o.direction.sql = [] := (hdir.mono isParenChar_special).parenFree
        simp only [Matched, parens_append, hsql, hsp, hdir', List.append_nil]
        exact Balanced.nil
      · simp +decide only [avoids_append, hspecial.mono isMarkChar_special,
          hdir.mono isMarkChar_special, and_true]
    · rw [if_neg hn] at hs
      cases hs
      refine ⟨hg, push hts ?_⟩
      have hagg : ∀ f d : String, parens f = [.lparen] → Avoids isMarkChar f → Avoids isSpecial d →
          Matched (f ++ r.sql ++ ")" ++ " " ++ d) ∧ Avoids isMarkChar (f ++ r.sql ++ ")" ++ " " ++ d) := by
        intro f d hf hfm hd
        have hd' : parens d = [] := (hd.mono isParenChar_special).parenFree
        refine ⟨?_, ?_⟩
        · simp only [Matched, parens_append, hf, hsql, hsp, hd', List.append_nil,
            show parens ")" = [.rparen] by decide]
          exact Balanced.nil.wrap
        · simp +decide only [avoids_append, hfm, hspecial.mono isMarkChar_special,
            hd.mono isMarkChar_special, and_true]
      cases o.direction
      · exact hagg "MIN(" _ (by decide) (by decide) (by decide)
      · exact hagg "MAX(" _ (by decide) (by decide) (by decide)

/-- The parentheses of the key subquery match: only its filter and its aggregates have any. -/
theorem Named.keySubquery (hc : c.Named) (hs : ParenFree (c.options.schema.getD ""))
    {limit offset : Option Nat} {ps ps' : Array CompiledParam} {inner : String}
    (h : (c.keySubquery limit offset).run ps = .ok (inner, ps')) : Matched inner := by
  unfold Compiler.keySubquery at h
  obtain ⟨w, ps₁, hw, h⟩ := run_bind_ok h
  obtain ⟨⟨group, order⟩, ps₂, hpo, h⟩ := run_bind_ok h
  obtain ⟨rfl, -⟩ := run_pure_ok h
  obtain ⟨hg, ho⟩ := hc.pageOrder (run_lift_ok hpo).1
  have head : Avoids isParenChar ("SELECT " ++ c.primaryKeyOf (c.node 0) ++ " FROM " ++
      c.rootSource ++ c.joins) := by
    simp +decide only [avoids_append, (hc.primaryKeyOf (hc.node 0)).parenFree.avoids,
      hc.rootSource isParenChar_special hs.avoids, hc.joins isParenChar_special hs.avoids, and_true]
  have hsep : ParenFree ", " := by decide
  have hgroup := matched_intercalate hsep fun g hg' =>
    ((hg g hg').mono isParenChar_special).parenFree.matched
  have horder := matched_intercalate hsep fun t ht => (ho t ht).1
  exact (((((head.parenFree.matched.append (hc.rootWhere hw).matched).append
    (show ParenFree " GROUP BY " by decide).matched).append hgroup).append
    (show ParenFree " ORDER BY " by decide).matched).append horder).append
    ((paging_avoids limit offset).mono isParenChar_special).parenFree.matched

/-- The key clause is one atom: the primary key is among the keys its subquery chooses. -/
theorem Named.keyClause (hc : c.Named) (hs : ParenFree (c.options.schema.getD ""))
    {limit offset : Option Nat} {ps ps' : Array CompiledParam} {text : String}
    (h : (c.keyClause limit offset).run ps = .ok (text, ps')) :
    ∃ inner, (c.keySubquery limit offset).run ps = .ok (inner, ps') ∧
      ClauseMeans (text, false) (.atom (.member (c.primaryKeyOf (c.node 0)) (lex inner))) := by
  unfold Compiler.keyClause at h
  obtain ⟨inner, ps₁, hk, h⟩ := run_bind_ok h
  obtain ⟨rfl, rfl⟩ := run_pure_ok h
  have hkey := hc.primaryKeyOf (hc.node 0)
  have hatom : Expr .negation (lex (c.primaryKeyOf (c.node 0) ++ " IN (" ++ inner ++ ")"))
      (.atom (.member (c.primaryKeyOf (c.node 0)) (lex inner))) := by
    rw [lex_member hkey]
    exact .atom (.member hkey.2.2 ((balanced_lex_iff inner).mpr (hc.keySubquery hs hk)))
  exact ⟨inner, hk, hatom.toDisjunction, fun _ => hatom⟩

/-! ## The outer `WHERE` -/

/-- Whether the outer `WHERE` applies the filter of node `i`: the filter is not empty, and it is
not the primary filter when the page subquery applies that one. -/
def appliesFilter (c : Compiler) (page : Paging) (i : Nat) : Bool :=
  !(c.node i).filter.isEmpty && !(page == .subquery && i == 0)

/-- The conditions before the node filters: under key paging, the primary key among the keys
the subquery `inner` chooses. -/
def keyConditions (c : Compiler) (page : Paging) (inner : String) : List (Cond Atom) :=
  if page = .keys then [.atom (.member (c.primaryKeyOf (c.node 0)) (lex inner))] else []

/-- The filter clauses from node `i` on: that of node `i` when the outer `WHERE` applies its
filter, then those of the rest. -/
theorem filterClauses_cons (page : Paging) (i : Nat) (is : List Nat) :
    c.filterClauses page (i :: is) =
      if c.appliesFilter page i then do
        let rendered ← c.filterOf i
        let rest ← c.filterClauses page is
        pure ((rendered, (c.node i).filter.hasConnective) :: rest)
      else c.filterClauses page is := by
  rw [filterClauses, appliesFilter, ← Bool.not_or]
  cases ((c.node i).filter.isEmpty || (page == .subquery && i == 0)) <;> rfl

/-- The clauses of the outer `WHERE`: the key clause under key paging, then the filter clauses
of every node. -/
theorem clauses_ok {page : Paging} {limit offset : Option Nat} {ps ps' : Array CompiledParam}
    {cl : List (String × Bool)} (h : (c.clauses page limit offset).run ps = .ok (cl, ps')) :
    ∃ keys filters ps₁, (c.filterClauses page (List.range c.nodes.size)).run ps₁ = .ok (filters, ps') ∧
      cl = keys ++ filters ∧
      ((page = .keys ∧ ∃ text, (c.keyClause limit offset).run ps = .ok (text, ps₁) ∧
          keys = [(text, false)]) ∨
        (page ≠ .keys ∧ keys = [] ∧ ps₁ = ps)) := by
  unfold Compiler.clauses at h
  -- both branches continue with the filter clauses
  dsimp only at h
  split at h
  · next hp =>
    obtain ⟨text, ps₁, ht, h₁⟩ := run_bind_ok h
    obtain ⟨keys, ps₂, hk, h₂⟩ := run_bind_ok h₁
    obtain ⟨filters, ps₃, hf, h₃⟩ := run_bind_ok h₂
    obtain ⟨rfl, rfl⟩ := run_pure_ok hk
    obtain ⟨rfl, rfl⟩ := run_pure_ok h₃
    exact ⟨_, filters, ps₂, hf, rfl, .inl ⟨beq_iff_eq.mp hp, text, ht, rfl⟩⟩
  · next hp =>
    obtain ⟨keys, ps₂, hk, h₁⟩ := run_bind_ok h
    obtain ⟨filters, ps₃, hf, h₂⟩ := run_bind_ok h₁
    obtain ⟨rfl, rfl⟩ := run_pure_ok hk
    obtain ⟨rfl, rfl⟩ := run_pure_ok h₂
    exact ⟨[], _, _, hf, rfl, .inr ⟨fun e => hp (beq_iff_eq.mpr e), rfl, rfl⟩⟩

/-- The filter clauses are those of the applied filters in node order, each meaning its
reading. -/
theorem Named.filterClauses (hc : c.Named) (page : Paging) : ∀ (is : List Nat)
    {ps ps' : Array CompiledParam} {cl : List (String × Bool)},
    (c.filterClauses page is).run ps = .ok (cl, ps') →
    ∃ ms, List.Forall₂ (fun i m => c.reading i = some m) (is.filter (c.appliesFilter page)) ms ∧
      List.Forall₂ ClauseMeans cl ms
  | [], _, _, _, h => by
    obtain ⟨rfl, -⟩ := run_pure_ok h
    exact ⟨[], .nil, .nil⟩
  | i :: is, _, _, _, h => by
    rw [filterClauses_cons] at h
    split at h
    · next happ =>
      obtain ⟨text, ps₁, ht, h⟩ := run_bind_ok h
      obtain ⟨rest, ps₂, hr, h⟩ := run_bind_ok h
      obtain ⟨rfl, -⟩ := run_pure_ok h
      obtain ⟨m, hm, hmeans⟩ := hc.filterOf ht
      obtain ⟨ms, hms, hcl⟩ := Named.filterClauses hc page is hr
      rw [List.filter_cons_of_pos happ]
      exact ⟨m :: ms, .cons hm hms, .cons hmeans hcl⟩
    · next hskip =>
      rw [List.filter_cons_of_neg hskip]
      exact Named.filterClauses hc page is h

/-- The outer `WHERE` means the key condition under key paging, then the reading of every
applied node filter, joined by `AND` in node order. -/
theorem Named.clauses (hc : c.Named) (hs : ParenFree (c.options.schema.getD ""))
    {page : Paging} {limit offset : Option Nat} {ps ps' : Array CompiledParam}
    {cl : List (String × Bool)} (h : (c.clauses page limit offset).run ps = .ok (cl, ps')) :
    ∃ inner ms, (page = .keys → ∃ ps₁, (c.keySubquery limit offset).run ps = .ok (inner, ps₁)) ∧
      List.Forall₂ (fun i m => c.reading i = some m)
        ((List.range c.nodes.size).filter (c.appliesFilter page)) ms ∧
      WhereMeans (whereClause cl) (Cond.all (c.keyConditions page inner ++ ms)) := by
  obtain ⟨keys, filters, ps₁, hf, rfl, hkeys⟩ := clauses_ok h
  obtain ⟨ms, hms, hcl⟩ := hc.filterClauses page _ hf
  rcases hkeys with ⟨hp, text, ht, rfl⟩ | ⟨hp, rfl, -⟩
  · obtain ⟨inner, hi, hmeans⟩ := hc.keyClause hs ht
    refine ⟨inner, ms, fun _ => ⟨_, hi⟩, hms, whereClause_means ?_⟩
    rw [keyConditions, if_pos hp]
    exact .cons hmeans hcl
  · refine ⟨"", ms, fun e => absurd e hp, hms, whereClause_means ?_⟩
    rw [keyConditions, if_neg hp]
    exact hcl

end Compiler

/-! ## Filters read left to right -/

/-- A compiler reads filters left to right:

* every filter whose fields resolve renders, for any node, to a text whose only reading by SQL
  precedence is the filter read left to right;
* the outer `WHERE` means the key condition under key paging, then the reading of every node
  filter it applies, in node order, joined by `AND`;
* the `WHERE` of the page subquery means the primary filter. -/
def Compiler.ReadsFiltersLeftToRight (c : Compiler) : Prop :=
  (∀ (i : Nat) (f : Filter) (r : Cond Comparison), f.read = some r →
    (c.context i).Resolves (tokensColumns f.tokens) → ∀ ps : Array CompiledParam, ∃ text ps',
      (renderFilter (c.context i) f).run ps = .ok (text, ps') ∧
      ∀ u, Expr .disjunction (lex text) u ↔ u = r.map (c.context i).atomOf) ∧
  (∀ (page : Paging) (limit offset : Option Nat) (ps ps' : Array CompiledParam)
    (cl : List (String × Bool)), (c.clauses page limit offset).run ps = .ok (cl, ps') →
    ∃ inner ms, (page = .keys → ∃ ps₁, (c.keySubquery limit offset).run ps = .ok (inner, ps₁)) ∧
      List.Forall₂ (fun i m => c.reading i = some m)
        ((List.range c.nodes.size).filter (c.appliesFilter page)) ms ∧
      WhereMeans (Compiler.whereClause cl) (Cond.all (c.keyConditions page inner ++ ms))) ∧
  (∀ (ps ps' : Array CompiledParam) (w : String), c.rootWhere.run ps = .ok (w, ps') →
    WhereMeans w (c.reading 0))

/-- The compiler of a query over a built registry reads filters left to right, when its schema
has no parentheses. -/
theorem compiled_filters_read_left_to_right {ds : List EntityDescriptor} {q : Query} {c : Compiler}
    (hreg : Registry.build ds = .ok c.reg) (hplan : q.plan c.reg = .ok c.nodes)
    (hs : ParenFree (c.options.schema.getD "")) : c.ReadsFiltersLeftToRight := by
  have hc : c.Named := Compiler.named hreg hplan c.options
  refine ⟨fun i f r hr hres ps => ?_, fun _ _ _ _ _ _ h => hc.clauses hs h,
    fun _ _ _ h => hc.rootWhere h⟩
  obtain ⟨text, ps', hrun, hx, -⟩ := renderFilter_reads (hc.plain i) hr hres ps
  exact ⟨text, ps', hrun, hx.iff_eq⟩

/-- Heroes and their missions, a mission's `hero_id` being the back reference of its hero's
`missions`. -/
def heroDescriptors : List EntityDescriptor :=
  [{ name := "Hero", table := "hero",
     columns := [Column.primary "id", Column.ordinary "alias" .text],
     relations := [.children "missions" "Mission" "hero_id"] },
   { name := "Mission", table := "mission",
     columns := [Column.primary "id", Column.ordinary "title" .text,
       Column.reference "hero_id" "Hero"] }]

/-- The first two heroes called Alpha with their rescue missions. -/
def alphaRescues : Query :=
  { entity := ⟨0⟩, filter := Filter.empty.is "alias" (.text "Alpha"), limit := some 2,
    joins := [{ relation := "missions", filter := Filter.empty.is "title" (.text "Rescue") }] }

/-- The compiler of `alphaRescues` in the schema `main`. -/
def alphaRescuesCompiler : Compiler :=
  let reg := (Registry.build heroDescriptors).toOption.getD default
  { reg, options := { schema := some "main" }, nodes := (alphaRescues.plan reg).toOption.getD #[] }

theorem alphaRescuesCompiler_reads_left_to_right :
    Registry.build heroDescriptors = .ok alphaRescuesCompiler.reg ∧
      alphaRescues.plan alphaRescuesCompiler.reg = .ok alphaRescuesCompiler.nodes ∧
      ParenFree (alphaRescuesCompiler.options.schema.getD "") ∧
      alphaRescuesCompiler.ReadsFiltersLeftToRight :=
  have hreg : Registry.build heroDescriptors = .ok alphaRescuesCompiler.reg := by rfl
  have hplan : alphaRescues.plan alphaRescuesCompiler.reg = .ok alphaRescuesCompiler.nodes := by rfl
  have hs : ParenFree (alphaRescuesCompiler.options.schema.getD "") := by decide
  ⟨hreg, hplan, hs, compiled_filters_read_left_to_right hreg hplan hs⟩

end EntityGraph
