import EntityGraph.Proofs.Render.Precedence

/-!
# Reading a filter left to right

A filter has no precedence of its own: its tokens are read strictly from left to right. Each
`AND` or `OR` joins everything read before it to the term after it, a `NOT` applies to the next
term, and a nested filter is one term. `readTokens` is that reading as a fold over the tokens:
the reading stands either inside a term (waiting for a column, for its operator or for its
parameter, with the negations read so far and the condition the term will be joined to) or after
a complete condition, where only a connective may follow. A filter is well formed exactly when
its reading ends after a complete condition (`Filter.read`).

The atoms of a reading are the filter's comparisons, in token order.
-/

namespace EntityGraph

/-- A comparison of a filter: a column, an operator, and the parameter of an operator that
takes one. -/
structure Comparison where
  column : String
  op : Operator
  param : Option Param
  deriving Inhabited

/-- A condition read so far together with the connective that joins it to the next term. -/
abbrev JoinTo := Option (Cond Comparison × Operator)

/-- Where a left-to-right reading of filter tokens stands. -/
inductive Reading where
  /-- Waiting for a term, after `nots` negations. -/
  | term (joinTo : JoinTo) (nots : Nat)
  /-- A column read, waiting for its operator. -/
  | operator (joinTo : JoinTo) (nots : Nat) (column : String)
  /-- A comparison read, waiting for its parameter. -/
  | parameter (joinTo : JoinTo) (nots : Nat) (column : String) (op : Operator)
  /-- A complete condition. -/
  | complete (c : Cond Comparison)
  deriving Inhabited

namespace Reading

/-- The condition a finished term makes: the term under its negations, joined to the condition
read before it. -/
def closed : JoinTo → Nat → Cond Comparison → Cond Comparison
  | none, n, t => Cond.negate n t
  | some (acc, o), n, t => Cond.connect o acc (Cond.negate n t)

/-- The reading before any token. -/
def start : Reading := .term none 0

end Reading

mutual
/-- Read tokens left to right; `none` when a token does not fit where the reading stands. -/
def readTokens : List FilterToken → Reading → Option Reading
  | [], r => some r
  | t :: ts, r => (readToken t r).bind (readTokens ts)

/-- Read one token. -/
def readToken : FilterToken → Reading → Option Reading
  | .nested ts, .term j n =>
    match readTokens ts .start with
    | some (.complete t) => some (.complete (Reading.closed j n t))
    | _ => none
  | .column c, .term j n => some (.operator j n c)
  | .op o, .term j n => if o = .not then some (.term j (n + 1)) else none
  | .op o, .operator j n c =>
    if o.takesParameter then some (.parameter j n c o)
    else if o.isNullCheck then some (.complete (Reading.closed j n (.atom ⟨c, o, none⟩)))
    else none
  | .param p, .parameter j n c o => some (.complete (Reading.closed j n (.atom ⟨c, o, some p⟩)))
  | .op o, .complete acc => if o.isConnective then some (.term (some (acc, o)) 0) else none
  | _, _ => none
end

/-- The left-to-right reading of a filter, when its tokens are well formed. -/
def Filter.read (f : Filter) : Option (Cond Comparison) :=
  match readTokens f.tokens .start with
  | some (.complete c) => some c
  | _ => none

mutual
/-- The column names of tokens, nested filters included. -/
def tokensColumns : List FilterToken → List String
  | [] => []
  | t :: ts => tokenColumns t ++ tokensColumns ts

/-- The column names of a token. -/
def tokenColumns : FilterToken → List String
  | .column c => [c]
  | .nested ts => tokensColumns ts
  | _ => []
end

/-- Whether a token is `AND` or `OR`. -/
def FilterToken.isConnective : FilterToken → Bool
  | .op o => o.isConnective
  | _ => false

@[simp] theorem readTokens_nil (r : Reading) : readTokens [] r = some r := by
  simp [readTokens]

@[simp] theorem readTokens_cons (t : FilterToken) (ts : List FilterToken) (r : Reading) :
    readTokens (t :: ts) r = (readToken t r).bind (readTokens ts) := by
  simp [readTokens]

@[simp] theorem tokensColumns_cons (t : FilterToken) (ts : List FilterToken) :
    tokensColumns (t :: ts) = tokenColumns t ++ tokensColumns ts := by
  simp [tokensColumns]

/-- A filter reads as the condition its tokens complete. -/
theorem Filter.read_eq_some_iff {f : Filter} {c : Cond Comparison} :
    f.read = some c ↔ readTokens f.tokens .start = some (.complete c) := by
  unfold Filter.read
  split
  · next c' h => rw [h, Option.some.injEq, Option.some.injEq, Reading.complete.injEq]
  · next h => exact ⟨fun e => (by cases e), fun e => absurd e (h c)⟩

/-- A well-formed nested filter is not empty. -/
theorem readTokens_start_ne_nil {ts : List FilterToken} {c : Cond Comparison}
    (h : readTokens ts .start = some (.complete c)) : ts ≠ [] := by
  rintro rfl
  simp [Reading.start] at h

end EntityGraph
