import EntityGraph.Query.Filter

/-!
# Reading a condition by SQL precedence

The text of a `WHERE` condition is read in two steps. Lexing splits it into words at spaces and
sets every parenthesis apart (`Sql.lex`); the words are then grouped by SQL precedence
(`Sql.Expr`): an atom (a column compared with a placeholder, a column tested for `NULL`, a
column tested for membership in a parenthesized subquery) binds tightest, then `NOT`, then
`AND`, then `OR`, and `AND` and `OR` group to the left. The grammar has one level per
precedence, so a derivation at a level is a condition whose loosest operator is no looser than
the level.

The grammar is unambiguous (`Sql.Expr.unique`): a list of lexemes derives at most one
condition. The argument counts parentheses: every derivable list is balanced, and an `AND` (an
`OR`) stands outside all parentheses only where a conjunction (a disjunction) splits the list,
so the last such connective outside parentheses is the only place a derivation can split.
-/

namespace EntityGraph

/-- A boolean condition over atoms. -/
inductive Cond (α : Type) where
  | atom (a : α)
  | not (c : Cond α)
  | and (l r : Cond α)
  | or (l r : Cond α)
  deriving DecidableEq, Repr

namespace Cond

variable {α β : Type}

/-- Rename the atoms of a condition. -/
def map (f : α → β) : Cond α → Cond β
  | .atom a => .atom (f a)
  | .not c => .not (c.map f)
  | .and l r => .and (l.map f) (r.map f)
  | .or l r => .or (l.map f) (r.map f)

/-- A condition negated `n` times. -/
def negate : Nat → Cond α → Cond α
  | 0, c => c
  | n + 1, c => .not (negate n c)

/-- Two conditions joined by a connective: `OR` gives their disjunction, any other operator
their conjunction. -/
def connect : Operator → Cond α → Cond α → Cond α
  | .or, l, r => .or l r
  | _, l, r => .and l r

@[simp] theorem map_negate (f : α → β) (n : Nat) (c : Cond α) :
    (negate n c).map f = negate n (c.map f) := by
  induction n with
  | zero => rfl
  | succ n ih => simp [negate, map, ih]

@[simp] theorem map_connect (f : α → β) (o : Operator) (l r : Cond α) :
    (connect o l r).map f = connect o (l.map f) (r.map f) := by
  cases o <;> rfl

end Cond

namespace Sql

/-! ## Lexing -/

/-- A lexeme of SQL text: a word, or a parenthesis. -/
inductive Lexeme where
  | word (s : String)
  | lparen
  | rparen
  deriving DecidableEq, Repr

/-- Whether a character ends a word: a space or a parenthesis. -/
def isBreak (c : Char) : Bool := c == ' ' || c == '(' || c == ')'

/-- The lexemes a breaking character stands for: a parenthesis is one, a space none. -/
def breakLexemes (c : Char) : List Lexeme :=
  if c = '(' then [.lparen] else if c = ')' then [.rparen] else []

/-- The word collected so far, as a lexeme when it is not empty. -/
def flush (w : List Char) : List Lexeme := if w = [] then [] else [.word (String.ofList w)]

/-- Split characters into lexemes, `w` being the word collected so far. -/
def lexFrom (w : List Char) : List Char → List Lexeme
  | [] => flush w
  | c :: cs => if isBreak c then flush w ++ breakLexemes c ++ lexFrom [] cs else lexFrom (w ++ [c]) cs

/-- The lexemes of SQL text: the words between spaces and parentheses, and the parentheses. -/
def lex (s : String) : List Lexeme := lexFrom [] s.toList

theorem lexFrom_append_break (c : Char) (hc : isBreak c = true) (b : List Char) :
    ∀ (a w : List Char), lexFrom w (a ++ c :: b) = lexFrom w a ++ breakLexemes c ++ lexFrom [] b
  | [], w => by simp [lexFrom, hc]
  | x :: a, w => by
    by_cases hx : isBreak x = true
    · simp only [List.cons_append, lexFrom, hx, if_true, lexFrom_append_break c hc b a [],
        List.append_assoc]
    · simp only [List.cons_append, lexFrom, hx, Bool.false_eq_true, if_false,
        lexFrom_append_break c hc b a (w ++ [x])]

/-- Characters with no break in them continue the word being collected. -/
theorem lexFrom_plain : ∀ (a w : List Char), (∀ c ∈ a, isBreak c = false) →
    lexFrom w a = flush (w ++ a)
  | [], w, _ => by simp [lexFrom]
  | x :: a, w, h => by
    have hx : isBreak x = false := h x (by simp)
    simp only [lexFrom, hx, Bool.false_eq_true, if_false]
    rw [lexFrom_plain a (w ++ [x]) (fun c hc => h c (by simp [hc]))]
    simp

theorem lex_append_space (a b : String) : lex (a ++ " " ++ b) = lex a ++ lex b := by
  have h := lexFrom_append_break ' ' rfl b.toList a.toList []
  simp only [lex, String.toList_append]
  simpa [breakLexemes] using h

theorem lex_wrap (s : String) : lex ("(" ++ s ++ ")") = .lparen :: lex s ++ [.rparen] := by
  have h := lexFrom_append_break ')' rfl [] s.toList []
  simp only [lex, String.toList_append]
  simp [lexFrom, isBreak, flush, breakLexemes, h]

theorem lex_intercalate : ∀ parts : List String,
    lex (" ".intercalate parts) = (parts.map lex).flatten
  | [] => rfl
  | [a] => by simp
  | a :: b :: rest => by
    rw [String.intercalate_cons_cons, lex_append_space, lex_intercalate (b :: rest)]
    simp

/-- Text with no space or parenthesis is one word. -/
theorem lex_word {s : String} (hs : s ≠ "") (h : ∀ c ∈ s.toList, isBreak c = false) :
    lex s = [.word s] := by
  have hne : s.toList ≠ [] := by simpa using hs
  simp [lex, lexFrom_plain _ _ h, flush, hne]

/-! ## Parentheses -/

/-- How a lexeme changes the parenthesis depth. -/
def Lexeme.weight : Lexeme → Int
  | .lparen => 1
  | .rparen => -1
  | .word _ => 0

/-- The parenthesis depth at the end of a list: opened minus closed. -/
def depth : List Lexeme → Int
  | [] => 0
  | x :: l => x.weight + depth l

@[simp] theorem depth_nil : depth [] = 0 := rfl

@[simp] theorem depth_cons (x : Lexeme) (l : List Lexeme) : depth (x :: l) = x.weight + depth l :=
  rfl

@[simp] theorem depth_append (l r : List Lexeme) : depth (l ++ r) = depth l + depth r := by
  induction l with
  | nil => simp
  | cons x l ih => simp [ih, Int.add_assoc]

/-- No prefix closes more parentheses than it opened. -/
def Nested (l : List Lexeme) : Prop := ∀ p s, l = p ++ s → 0 ≤ depth p

/-- The parentheses match: no prefix closes more than it opened, and the whole closes all. -/
def Balanced (l : List Lexeme) : Prop := depth l = 0 ∧ Nested l

/-- `k` occurs only inside parentheses. -/
def Enclosed (k : Lexeme) (l : List Lexeme) : Prop := ∀ p s, l = p ++ k :: s → 0 < depth p

theorem Nested.append {l r : List Lexeme} (hl : Nested l) (h0 : depth l = 0) (hr : Nested r) :
    Nested (l ++ r) := by
  intro p s h
  rcases List.append_eq_append_iff.mp h with ⟨a, rfl, rfl⟩ | ⟨c, rfl, rfl⟩
  · have := hr a s rfl
    simp [h0, this]
  · exact hl p c rfl

theorem Nested.cons {x : Lexeme} {l : List Lexeme} (hx : 0 ≤ x.weight) (hl : Nested l) :
    Nested (x :: l) := by
  intro p s h
  rcases List.cons_eq_append_iff.mp h with ⟨rfl, rfl⟩ | ⟨p', rfl, rfl⟩
  · simp
  · have := hl p' s rfl
    simp only [depth_cons]
    omega

theorem Balanced.append {l r : List Lexeme} (hl : Balanced l) (hr : Balanced r) :
    Balanced (l ++ r) :=
  ⟨by simp [hl.1, hr.1], hl.2.append hl.1 hr.2⟩

theorem Balanced.word_cons {w : String} {l : List Lexeme} (hl : Balanced l) :
    Balanced (.word w :: l) :=
  ⟨by simp [Lexeme.weight, hl.1], hl.2.cons (by simp [Lexeme.weight])⟩

/-- A balanced list in parentheses is balanced. -/
theorem Balanced.wrap {l : List Lexeme} (hl : Balanced l) :
    Balanced (.lparen :: (l ++ [.rparen])) := by
  refine ⟨by simp [Lexeme.weight, hl.1], ?_⟩
  intro p s h
  rcases List.cons_eq_append_iff.mp h with ⟨rfl, -⟩ | ⟨p', rfl, hp⟩
  · simp
  · rcases List.append_eq_append_iff.mp hp with ⟨a, rfl, ha⟩ | ⟨b, hb, -⟩
    · rcases List.singleton_eq_append_iff.mp ha with ⟨rfl, -⟩ | ⟨rfl, -⟩ <;>
        simp [Lexeme.weight, hl.1]
    · have := hl.2 p' b hb
      simp only [depth_cons, Lexeme.weight]
      omega

theorem Balanced.nil : Balanced [] := by
  refine ⟨rfl, fun p s h => ?_⟩
  obtain ⟨rfl, -⟩ := List.nil_eq_append_iff.mp h
  simp

theorem Enclosed.of_not_mem {k : Lexeme} {l : List Lexeme} (h : k ∉ l) : Enclosed k l := by
  intro p s hl
  exact absurd (hl ▸ List.mem_append_right p List.mem_cons_self) h

/-- A word other than `k` before a list where `k` is enclosed. -/
theorem Enclosed.word_cons {k : Lexeme} {w : String} {l : List Lexeme} (hk : k ≠ .word w)
    (hl : Enclosed k l) : Enclosed k (.word w :: l) := by
  intro p s h
  rcases List.cons_eq_append_iff.mp h with ⟨rfl, h'⟩ | ⟨p', rfl, hp⟩
  · exact absurd (List.cons.inj h').1 hk
  · have := hl p' s hp
    simp [Lexeme.weight, this]

/-- Two lists where `k` is enclosed, joined by another word. -/
theorem Enclosed.join {k : Lexeme} {w : String} {l r : List Lexeme} (hk : k ≠ .word w)
    (hl : Enclosed k l) (h0 : depth l = 0) (hr : Enclosed k r) : Enclosed k (l ++ .word w :: r) := by
  intro p s h
  rcases List.append_eq_append_iff.mp h with ⟨a, rfl, ha⟩ | ⟨c, hc, hs⟩
  · cases a with
    | nil => exact absurd (List.cons.inj ha).1 hk.symm
    | cons y a =>
      obtain ⟨rfl, hr'⟩ := List.cons.inj ha
      have := hr a s hr'
      simp [Lexeme.weight, h0, this]
  · cases c with
    | nil => exact absurd (List.cons.inj hs).1 hk
    | cons y c =>
      obtain ⟨rfl, -⟩ := List.cons.inj hs
      exact hl p c hc

/-- A word is enclosed in a parenthesized list whose prefixes never close early. -/
theorem Enclosed.wrap {w : String} {l : List Lexeme} (hl : Nested l) :
    Enclosed (.word w) (.lparen :: (l ++ [.rparen])) := by
  intro p s h
  rcases List.cons_eq_append_iff.mp h with ⟨rfl, h'⟩ | ⟨p', rfl, hp⟩
  · cases h'
  · rcases List.append_eq_append_iff.mp hp with ⟨a, -, ha⟩ | ⟨b, hb, -⟩
    · rcases List.singleton_eq_append_iff.mp ha with ⟨-, h2⟩ | ⟨-, h2⟩ <;> simp at h2
    · have := hl p' b hb
      simp only [depth_cons, Lexeme.weight]
      omega

/-- Where two lists split at `k` outside parentheses, the split is the same. -/
theorem split_unique {w : String} {l r l' r' : List Lexeme}
    (h : l ++ .word w :: r = l' ++ .word w :: r') (hl : depth l = 0) (hl' : depth l' = 0)
    (hr : Enclosed (.word w) r) (hr' : Enclosed (.word w) r') : l = l' ∧ r = r' := by
  rcases List.append_eq_append_iff.mp h with ⟨a, rfl, ha⟩ | ⟨c, rfl, hc⟩
  · cases a with
    | nil => simp_all
    | cons y a =>
      obtain ⟨rfl, hr1⟩ := List.cons.inj ha
      have := hr a r' hr1
      simp [Lexeme.weight, hl] at hl'
      omega
  · cases c with
    | nil => simp_all
    | cons y c =>
      obtain ⟨rfl, hr1⟩ := List.cons.inj hc
      have := hr' c r hr1
      simp [Lexeme.weight, hl'] at hl
      omega

/-! ## Parentheses of a text

Whether lexemes are balanced depends on their parentheses alone, and the parentheses of a text
are its parenthesis characters, whichever way the text splits into words. So the balance of a
text put together from pieces is read off the pieces (`balanced_lex_iff`, `parens_append`).
-/

/-- Whether a lexeme is a parenthesis. -/
def Lexeme.isParen : Lexeme → Bool
  | .word _ => false
  | _ => true

/-- The parenthesis a character stands for. -/
def parenOf (c : Char) : Option Lexeme :=
  if c = '(' then some .lparen else if c = ')' then some .rparen else none

/-- The parentheses of a text, in order. -/
def parens (s : String) : List Lexeme := s.toList.filterMap parenOf

/-- Text without parentheses. -/
def ParenFree (s : String) : Prop := parens s = []

@[simp] theorem parens_append (a b : String) : parens (a ++ b) = parens a ++ parens b := by
  simp [parens]

theorem ParenFree.append {a b : String} (ha : ParenFree a) (hb : ParenFree b) :
    ParenFree (a ++ b) := by
  simp_all [ParenFree]

theorem lexFrom_parens : ∀ (w cs : List Char),
    (lexFrom w cs).filter Lexeme.isParen = cs.filterMap parenOf
  | w, [] => by
    unfold lexFrom flush
    split <;> rfl
  | w, c :: cs => by
    by_cases hc : isBreak c = true
    · have hb : c = ' ' ∨ c = '(' ∨ c = ')' := by simpa [isBreak, or_assoc] using hc
      simp only [lexFrom, hc, if_true, List.filter_append, lexFrom_parens [] cs, List.filterMap_cons]
      rcases hb with rfl | rfl | rfl <;> simp [flush, breakLexemes, parenOf, Lexeme.isParen] <;>
        split <;> rfl
    · have hp : parenOf c = none := by
        simp only [isBreak, Bool.or_eq_true, beq_iff_eq, not_or] at hc
        simp [parenOf, hc.1.2, hc.2]
      simp only [lexFrom, hc, Bool.false_eq_true, if_false, lexFrom_parens (w ++ [c]) cs,
        List.filterMap_cons, hp]

/-- The parentheses among the lexemes of a text are its parenthesis characters. -/
theorem lex_parens (s : String) : (lex s).filter Lexeme.isParen = parens s :=
  lexFrom_parens [] s.toList

theorem depth_filter_isParen : ∀ l : List Lexeme, depth (l.filter Lexeme.isParen) = depth l
  | [] => rfl
  | .word _ :: l => by simp [Lexeme.isParen, Lexeme.weight, depth_filter_isParen l]
  | .lparen :: l => by
    show depth (.lparen :: l.filter Lexeme.isParen) = _
    simp [depth_filter_isParen l]
  | .rparen :: l => by
    show depth (.rparen :: l.filter Lexeme.isParen) = _
    simp [depth_filter_isParen l]

/-- Lexemes are balanced exactly when their parentheses are. -/
theorem balanced_filter_isParen_iff (l : List Lexeme) :
    Balanced (l.filter Lexeme.isParen) ↔ Balanced l := by
  refine ⟨fun ⟨h0, hn⟩ => ⟨?_, fun p s e => ?_⟩, fun ⟨h0, hn⟩ => ⟨?_, fun p' s' e => ?_⟩⟩
  · rwa [depth_filter_isParen] at h0
  · have := hn (p.filter Lexeme.isParen) (s.filter Lexeme.isParen) (by rw [e, List.filter_append])
    rwa [depth_filter_isParen] at this
  · rwa [depth_filter_isParen]
  · obtain ⟨p, s, rfl, rfl, -⟩ := List.filter_eq_append_iff.mp e
    rw [depth_filter_isParen]
    exact hn p s rfl

/-- The lexemes of a text are balanced exactly when its parentheses are. -/
theorem balanced_lex_iff (s : String) : Balanced (lex s) ↔ Balanced (parens s) := by
  rw [← balanced_filter_isParen_iff, lex_parens]

/-! ## Atoms -/

/-- Words that cannot stand for a column. -/
def reserved : List String := ["AND", "OR", "NOT", "IS", "NULL", "IN", "LIKE"]

/-- A placeholder: `?`, or `$` followed by a number. -/
def IsPlaceholder (s : String) : Prop := s = "?" ∨ ∃ n : Nat, s = "$" ++ toString n

/-- An atom of a condition. -/
inductive Atom where
  /-- A column compared by an operator with a placeholder, or tested for `NULL`. -/
  | compare (column : String) (op : Operator)
  /-- A column tested for membership in the rows of a subquery. -/
  | member (column : String) (subquery : List Lexeme)
  deriving DecidableEq, Repr

/-- The lexemes of an atom. -/
inductive IsAtom : List Lexeme → Atom → Prop
  | compare {c p : String} {o : Operator} : c ∉ reserved → o.takesParameter = true →
      IsPlaceholder p → IsAtom [.word c, .word o.sql, .word p] (.compare c o)
  | isNull {c : String} : c ∉ reserved → IsAtom [.word c, .word "IS", .word "NULL"] (.compare c .isNull)
  | notNull {c : String} : c ∉ reserved →
      IsAtom [.word c, .word "IS", .word "NOT", .word "NULL"] (.compare c .notNull)
  | member {c : String} {s : List Lexeme} : c ∉ reserved → Balanced s →
      IsAtom (.word c :: .word "IN" :: .lparen :: (s ++ [.rparen])) (.member c s)

theorem placeholder_not_reserved {p : String} (h : IsPlaceholder p) : p ∉ reserved := by
  rcases h with rfl | ⟨n, rfl⟩
  · decide
  · intro hm
    have hhead : ("$" ++ toString n).toList.head? = some '$' := by simp
    simp only [reserved, List.mem_cons, List.not_mem_nil, or_false] at hm
    rcases hm with h | h | h | h | h | h | h <;> rw [h] at hhead <;> simp at hhead

/-- A word that is not reserved is not a reserved word. -/
theorem word_ne_of_not_reserved {c w : String} (hc : c ∉ reserved) (hw : w ∈ reserved) :
    Lexeme.word w ≠ .word c := by
  intro e
  cases e
  exact hc hw

/-- A connective is not the word of a comparison operator. -/
theorem connective_ne_sql {w : String} {o : Operator} (hw : w = "AND" ∨ w = "OR")
    (ho : o.takesParameter = true) : Lexeme.word w ≠ .word o.sql := by
  intro e
  cases e
  cases o <;> simp_all [Operator.takesParameter, Operator.sql]

namespace IsAtom

theorem head {l : List Lexeme} {a : Atom} (h : IsAtom l a) :
    ∃ c rest, l = .word c :: rest ∧ c ∉ reserved := by
  cases h <;> exact ⟨_, _, rfl, by assumption⟩

theorem balanced {l : List Lexeme} {a : Atom} (h : IsAtom l a) : Balanced l := by
  cases h with
  | compare => exact Balanced.nil.word_cons.word_cons.word_cons
  | isNull => exact Balanced.nil.word_cons.word_cons.word_cons
  | notNull => exact Balanced.nil.word_cons.word_cons.word_cons.word_cons
  | member _ hs => exact hs.wrap.word_cons.word_cons

/-- A connective occurs in an atom only inside its subquery. -/
theorem enclosed {l : List Lexeme} {a : Atom} (h : IsAtom l a) {w : String}
    (hw : w = "AND" ∨ w = "OR") : Enclosed (.word w) l := by
  have hr : w ∈ reserved := by rcases hw with rfl | rfl <;> decide
  have hk : ∀ k : String, k ∈ ["IS", "NULL", "NOT", "IN"] → Lexeme.word w ≠ .word k := by
    intro k hk e
    cases e
    rcases hw with rfl | rfl <;> simp at hk
  have nil : Enclosed (.word w) [] := Enclosed.of_not_mem (by simp)
  cases h with
  | compare hc ho hp =>
    exact ((nil.word_cons (word_ne_of_not_reserved (placeholder_not_reserved hp) hr)).word_cons
      (connective_ne_sql hw ho)).word_cons (word_ne_of_not_reserved hc hr)
  | isNull hc =>
    exact ((nil.word_cons (hk _ (by simp))).word_cons (hk _ (by simp))).word_cons
      (word_ne_of_not_reserved hc hr)
  | notNull hc =>
    exact (((nil.word_cons (hk _ (by simp))).word_cons (hk _ (by simp))).word_cons
      (hk _ (by simp))).word_cons (word_ne_of_not_reserved hc hr)
  | member hc hs =>
    exact ((Enclosed.wrap hs.2).word_cons (hk _ (by simp))).word_cons (word_ne_of_not_reserved hc hr)

/-- Lexemes are the lexemes of at most one atom. -/
theorem unique {l : List Lexeme} {a b : Atom} (ha : IsAtom l a) (hb : IsAtom l b) : a = b := by
  cases ha with
  | @compare c p o _ ho _ =>
    generalize hL : [Lexeme.word c, .word o.sql, .word p] = L at hb
    cases hb with
    | @compare c' p' o' _ ho' _ =>
      simp only [List.cons.injEq, Lexeme.word.injEq, and_true] at hL
      obtain ⟨rfl, hs, -⟩ := hL
      cases o <;> cases o' <;> simp_all [Operator.sql, Operator.takesParameter]
    | isNull =>
      simp only [List.cons.injEq, Lexeme.word.injEq, and_true] at hL
      cases o <;> simp_all [Operator.sql, Operator.takesParameter]
    | notNull => simp at hL
    | member => simp at hL
  | @isNull c _ =>
    generalize hL : [Lexeme.word c, .word "IS", .word "NULL"] = L at hb
    cases hb with
    | @compare c' p' o' _ ho' _ =>
      simp only [List.cons.injEq, Lexeme.word.injEq, and_true] at hL
      cases o' <;> simp_all [Operator.sql, Operator.takesParameter]
    | isNull => simp_all
    | notNull => simp at hL
    | member => simp at hL
  | @notNull c _ =>
    generalize hL : [Lexeme.word c, .word "IS", .word "NOT", .word "NULL"] = L at hb
    cases hb with
    | compare => simp at hL
    | isNull => simp at hL
    | notNull => simp_all
    | member => simp at hL
  | @member c s _ _ =>
    generalize hL : Lexeme.word c :: .word "IN" :: .lparen :: (s ++ [.rparen]) = L at hb
    cases hb with
    | compare => simp at hL
    | isNull => simp at hL
    | notNull => simp at hL
    | member =>
      simp only [List.cons.injEq, Lexeme.word.injEq, true_and, List.append_cancel_right_eq] at hL
      obtain ⟨rfl, rfl⟩ := hL
      rfl

end IsAtom

/-! ## Precedence -/

/-- The precedence levels, loosest first. -/
inductive Level where
  | disjunction
  | conjunction
  | negation
  deriving DecidableEq, Repr

/-- Conditions by SQL precedence: a derivation at a level is a condition whose loosest operator
binds at least as tightly as the level. -/
inductive Expr : Level → List Lexeme → Cond Atom → Prop
  | atom {l : List Lexeme} {a : Atom} : IsAtom l a → Expr .negation l (.atom a)
  | not {l : List Lexeme} {c : Cond Atom} : Expr .negation l c →
      Expr .negation (.word "NOT" :: l) (.not c)
  | paren {l : List Lexeme} {c : Cond Atom} : Expr .disjunction l c →
      Expr .negation (.lparen :: (l ++ [.rparen])) c
  /-- A negation-level condition is a conjunction of one. -/
  | ofNegation {l : List Lexeme} {c : Cond Atom} : Expr .negation l c → Expr .conjunction l c
  | and {l r : List Lexeme} {a b : Cond Atom} : Expr .conjunction l a → Expr .negation r b →
      Expr .conjunction (l ++ .word "AND" :: r) (.and a b)
  /-- A conjunction is a disjunction of one. -/
  | ofConjunction {l : List Lexeme} {c : Cond Atom} : Expr .conjunction l c →
      Expr .disjunction l c
  | or {l r : List Lexeme} {a b : Cond Atom} : Expr .disjunction l a → Expr .conjunction r b →
      Expr .disjunction (l ++ .word "OR" :: r) (.or a b)

namespace Expr

variable {ℓ : Level} {l : List Lexeme} {c : Cond Atom}

/-- Every condition is a disjunction. -/
theorem toDisjunction (h : Expr ℓ l c) : Expr .disjunction l c := by
  cases ℓ with
  | disjunction => exact h
  | conjunction => exact .ofConjunction h
  | negation => exact .ofConjunction (.ofNegation h)

/-- A negation-level condition is a condition of every level. -/
theorem ofNegationAt (h : Expr .negation l c) : ∀ ℓ', Expr ℓ' l c
  | .disjunction => h.toDisjunction
  | .conjunction => .ofNegation h
  | .negation => h

/-- `n` negations of a negation-level condition. -/
theorem nots (h : Expr .negation l c) (n : Nat) :
    Expr .negation (List.replicate n (.word "NOT") ++ l) (Cond.negate n c) := by
  induction n with
  | zero => exact h
  | succ n ih => exact .not ih

theorem balanced (h : Expr ℓ l c) : Balanced l := by
  induction h with
  | atom ha => exact ha.balanced
  | not _ ih => exact ih.word_cons
  | paren _ ih => exact ih.wrap
  | ofNegation _ ih => exact ih
  | and _ _ ihl ihr => exact ihl.append ihr.word_cons
  | ofConjunction _ ih => exact ih
  | or _ _ ihl ihr => exact ihl.append ihr.word_cons

/-- In a negation-level condition every connective is inside parentheses; in a conjunction every
`OR` is. -/
theorem enclosed (h : Expr ℓ l c) :
    (ℓ = .negation → Enclosed (.word "AND") l) ∧ (ℓ ≠ .disjunction → Enclosed (.word "OR") l) := by
  induction h with
  | atom ha => exact ⟨fun _ => ha.enclosed (.inl rfl), fun _ => ha.enclosed (.inr rfl)⟩
  | not _ ih =>
    exact ⟨fun _ => (ih.1 rfl).word_cons (by simp), fun _ => (ih.2 (by simp)).word_cons (by simp)⟩
  | paren h _ => exact ⟨fun _ => .wrap h.balanced.2, fun _ => .wrap h.balanced.2⟩
  | ofNegation _ ih => exact ⟨by simp, fun _ => ih.2 (by simp)⟩
  | and hl _ ihl ihr =>
    exact ⟨by simp, fun _ => (ihl.2 (by simp)).join (by simp) hl.balanced.1 (ihr.2 (by simp))⟩
  | ofConjunction _ _ => exact ⟨by simp, by simp⟩
  | or _ _ _ _ => exact ⟨by simp, by simp⟩

/-- A list of lexemes derives at most one condition at each level. -/
theorem unique {c₁ c₂ : Cond Atom} (h₁ : Expr ℓ l c₁) (h₂ : Expr ℓ l c₂) : c₁ = c₂ := by
  induction h₁ generalizing c₂ with
  | atom ha =>
    cases h₂ with
    | atom hb => rw [ha.unique hb]
    | not _ => obtain ⟨_, _, he, hc⟩ := ha.head; cases he; exact absurd (by simp [reserved]) hc
    | paren _ => obtain ⟨_, _, he, _⟩ := ha.head; cases he
  | not _ ih =>
    cases h₂ with
    | atom hb => obtain ⟨_, _, he, hc⟩ := hb.head; cases he; exact absurd (by simp [reserved]) hc
    | not h => rw [ih h]
  | @paren l _ _ ih =>
    generalize hL : Lexeme.lparen :: (l ++ [Lexeme.rparen]) = L at h₂
    cases h₂ with
    | atom hb => obtain ⟨_, _, he, _⟩ := hb.head; rw [← hL] at he; cases he
    | not _ => cases hL
    | paren h =>
      simp only [List.cons.injEq, List.append_cancel_right_eq, true_and] at hL
      subst hL
      exact ih h
  | ofNegation h ih =>
    generalize hL : l = L at h₂
    cases h₂ with
    | ofNegation h' => subst hL; exact ih h'
    | and hl' _ =>
      subst hL
      have := h.enclosed.1 rfl _ _ rfl
      rw [hl'.balanced.1] at this
      exact absurd this (Int.lt_irrefl 0)
  | @and l r _ _ hl hr ihl ihr =>
    generalize hL : l ++ Lexeme.word "AND" :: r = L at h₂
    cases h₂ with
    | ofNegation h' =>
      subst hL
      have := h'.enclosed.1 rfl _ _ rfl
      rw [hl.balanced.1] at this
      exact absurd this (Int.lt_irrefl 0)
    | and hl' hr' =>
      obtain ⟨rfl, rfl⟩ := split_unique hL hl.balanced.1 hl'.balanced.1 (hr.enclosed.1 rfl)
        (hr'.enclosed.1 rfl)
      rw [ihl hl', ihr hr']
  | ofConjunction h ih =>
    generalize hL : l = L at h₂
    cases h₂ with
    | ofConjunction h' => subst hL; exact ih h'
    | or hl' _ =>
      subst hL
      have := (h.enclosed.2 (by simp)) _ _ rfl
      rw [hl'.balanced.1] at this
      exact absurd this (Int.lt_irrefl 0)
  | @or l r _ _ hl hr ihl ihr =>
    generalize hL : l ++ Lexeme.word "OR" :: r = L at h₂
    cases h₂ with
    | ofConjunction h' =>
      subst hL
      have := (h'.enclosed.2 (by simp)) _ _ rfl
      rw [hl.balanced.1] at this
      exact absurd this (Int.lt_irrefl 0)
    | or hl' hr' =>
      obtain ⟨rfl, rfl⟩ := split_unique hL hl.balanced.1 hl'.balanced.1 (hr.enclosed.2 (by simp))
        (hr'.enclosed.2 (by simp))
      rw [ihl hl', ihr hr']

/-- A derivable list has exactly the derivations of its one condition. -/
theorem iff_eq (h : Expr ℓ l c) (c' : Cond Atom) : Expr ℓ l c' ↔ c' = c :=
  ⟨fun h' => h'.unique h, fun e => e ▸ h⟩

end Expr

end Sql

end EntityGraph
