import EntityGraph.Database.Bound
import EntityGraph.Database.Scope

/-!
# The conditions of a query, as the planner sees them

A query's `WHERE` clause and inner join conditions are a conjunction; each conjunct is a
`Condition`. A condition that compares a column of one source with something else may let a
loop over that source read only matching rows, through an index or a row id, so each one
records which column it constrains and how, what the other side reads, and under which
affinity and collation it compares.

Some conditions say more than one thing the planner can use, and those get extra conditions
after the written ones, made in the order the store makes them (the written conditions
taken from last to first):

* `a.x = b.y` constrains both columns: a copy with the sides swapped constrains `b.y`;
* `x BETWEEN lo AND hi` holds the two ranges `x >= lo` and `x <= hi`;
* a comparison with the column on the right is turned around in place.

Sources are numbered by their place in the `FROM` clause, and a set of them is a bit set
(`SourceSet`).
-/

namespace EntityGraph

namespace Database

/-- A set of the sources of one query, one bit each by their place in the `FROM` clause. -/
abbrev SourceSet := Nat

/-- The set of one source. -/
def SourceSet.single (i : Nat) : SourceSet := 2 ^ i

/-- Whether a source is in a set. -/
def SourceSet.has (m : SourceSet) (i : Nat) : Bool := (m >>> i) % 2 == 1

/-- Whether every source of the first set is in the second. -/
def SourceSet.within (a b : SourceSet) : Bool := a &&& b == a

/-- The sources of the first set that are not in the second. -/
def SourceSet.without (a b : SourceSet) : SourceSet := a - (a &&& b)

/-- The set of the sources listed. -/
def SourceSet.ofList (xs : List Nat) : SourceSet := xs.foldl (fun m i => m ||| SourceSet.single i) 0

/-- How a condition constrains a column. -/
inductive Constraint where
  | eq | is | lt | le | gt | ge | isNull
  /-- Membership in a list of this many values. -/
  | inList (count : Nat)
  /-- Membership in a subquery's rows. -/
  | inQuery
  deriving DecidableEq, Inhabited, Repr

namespace Constraint

/-- The constraint with the sides of its comparison swapped. -/
def swap : Constraint → Constraint
  | .lt => .gt
  | .gt => .lt
  | .le => .ge
  | .ge => .le
  | c => c

/-- Whether it is an equality: `=` or `IS`. -/
def isEquality : Constraint → Bool
  | .eq | .is => true
  | _ => false

/-- Whether it is a membership test. -/
def isMembership : Constraint → Bool
  | .inList _ | .inQuery => true
  | _ => false

/-- Whether it bounds a range from below. -/
def isLower : Constraint → Bool
  | .gt | .ge => true
  | _ => false

/-- Whether it bounds a range from above. -/
def isUpper : Constraint → Bool
  | .lt | .le => true
  | _ => false

/-- The constraint a comparison operator makes, if any. -/
def ofCompare? : Datum.CompareOp → Option Constraint
  | .eq => some .eq
  | .is => some .is
  | .lt => some .lt
  | .le => some .le
  | .gt => some .gt
  | .ge => some .ge
  | _ => none

end Constraint

/-- A column of a source of this query: the source and the column, none for the row id. -/
abbrev SourceColumn := Nat × Option Nat

/-- One condition of a query's conjunction, as the planner uses it. -/
structure Condition where
  /-- The column it compares and how, when one side is a column of this query. -/
  target : Option (SourceColumn × Constraint) := none
  /-- Whether the other side reads nothing of the column's own sources, so that the
  comparison can choose rows of the column's source. -/
  usable : Bool := false
  /-- The affinity and collation it compares under. -/
  affinity : Option Affinity := none
  collation : Collation := .binary
  /-- The sources the side opposite the column reads. -/
  right : SourceSet := 0
  /-- Every source it reads. -/
  reads : SourceSet := 0
  /-- The columns of this query it reads directly, for whether an index holds them all. -/
  columns : List SourceColumn := []
  /-- The column on the other side, when the condition makes the two columns equal. -/
  equal : Option SourceColumn := none
  /-- The column on the other side of a comparison, whatever its kind. -/
  rightColumn : Option SourceColumn := none
  /-- Whether the planner made it from a written condition. -/
  derived : Bool := false
  /-- The written condition it was made from. -/
  parent : Option Nat := none
  /-- The source whose `LEFT JOIN` condition it is. -/
  join : Option Nat := none
  /-- The source whose inner join condition it is. -/
  innerJoin : Option Nat := none
  /-- An equality of the written kind, counted when a loop leaves it unused. -/
  equality : Bool := false
  /-- Whether the other side is the integer -1, 0 or 1, which makes the condition weaker
  evidence of few rows. -/
  small : Bool := false
  deriving Inhabited

/-- A written condition: its term, the sources it reads including through subqueries, and the
source whose `LEFT JOIN` condition it is. -/
structure WrittenCondition where
  term : Term
  sources : List Nat
  join : Option Nat := none
  innerJoin : Option Nat := none

/-- The sources of this query a term reads directly, and whether it holds a subquery that may
read more. -/
def Term.directReads : Nat → Term → SourceSet × Bool
  | 0, _ => (0, true)
  | fuel + 1, t =>
    let all (ts : List Term) : SourceSet × Bool :=
      ts.foldl (fun (m, p) u =>
        let (m', p') := Term.directReads fuel u
        (m ||| m', p || p')) (0, false)
    match t with
    | .column r => (if r.depth == 0 then SourceSet.single r.source else 0, false)
    | .const _ | .param _ | .aggregate _ _ | .window _ | .raise _ _ | .ignore | .fixed _ =>
      (0, false)
    | .neg a | .not a | .bitNot a | .truth a _ _ | .isNull _ a | .cast _ a => all [a]
    | .and a b | .or a b | .arith _ a b | .bits _ a b | .concat a b | .compare _ _ _ a b =>
      all [a, b]
    | .compareRows _ _ _ a b => all (a ++ b)
    | .inList _ a _ _ items => all (a :: items)
    | .inPlan _ ts _ _ _ => ((all ts).1, true)
    | .exists _ | .scalar _ => (0, true)
    | .call _ _ args | .coalesce args => all args
    | .case bs o => all (bs.flatMap (fun (x, y) => [x, y]) ++ o.toList)

/-- The columns of this query a term reads directly, outside subqueries. -/
def Term.directColumns : Nat → Term → List SourceColumn
  | 0, _ => []
  | fuel + 1, t =>
    let all (ts : List Term) : List SourceColumn := ts.flatMap (Term.directColumns fuel)
    match t with
    | .column r => if r.depth == 0 then [(r.source, r.column)] else []
    | .const _ | .param _ | .aggregate _ _ | .window _ | .raise _ _ | .ignore | .fixed _
    | .exists _ | .scalar _ => []
    | .neg a | .not a | .bitNot a | .truth a _ _ | .isNull _ a | .cast _ a => all [a]
    | .and a b | .or a b | .arith _ a b | .bits _ a b | .concat a b | .compare _ _ _ a b =>
      all [a, b]
    | .compareRows _ _ _ a b => all (a ++ b)
    | .inList _ a _ _ items => all (a :: items)
    | .inPlan _ ts _ _ _ => all ts
    | .call _ _ args | .coalesce args => all args
    | .case bs o => all (bs.flatMap (fun (x, y) => [x, y]) ++ o.toList)

/-- The column of this query a term is, if it is one. -/
def Term.sourceColumn? : Term → Option SourceColumn
  | .column r => if r.depth == 0 then some (r.source, r.column) else none
  | _ => none

/-- Whether a term is the integer -1, 0 or 1 as written. -/
def Term.isSmallInteger : Term → Bool
  | .const (.integer k) => -1 ≤ k.toInt && k.toInt ≤ 1
  | .neg (.const (.integer k)) => -1 ≤ k.toInt && k.toInt ≤ 1
  | _ => false

/-- What the planner needs to know of the columns of the sources: each column's affinity and
collation. -/
abbrev ColumnLookup := SourceColumn → Option Affinity × Collation

/-- Whether an equality of two columns makes them interchangeable: the comparison and both
columns compare bytewise, and the columns have the same affinity or both a numeric one. -/
def equalityCarries (cols : ColumnLookup) (coll : Collation) (a b : SourceColumn) : Bool :=
  let (fa, _) := cols a
  let (fb, cb) := cols b
  let numeric (x : Option Affinity) : Bool := match x with
    | some f => f.isNumeric
    | none => false
  coll == .binary && cb == .binary && (fa == fb || (numeric fa && numeric fb))

/-- The conditions that come from one comparison `a op b` at a position: the comparison itself,
filled in, and a swapped copy when both sides are columns. The `extra` sources are added to
what the other side reads, which keeps a `LEFT JOIN` condition from choosing rows of the
sources before its own. -/
def compareConditions (cols : ColumnLookup) (base : Condition) (op : Constraint)
    (aff : Option Affinity) (coll : Collation) (a b : Term) (rest : SourceSet) (extra : SourceSet) :
    Condition × Option Condition :=
  let (ra, pa) := Term.directReads 64 a
  let (rb, pb) := Term.directReads 64 b
  -- a side holding a subquery may read what the condition reads beyond the other side
  let left := if pa then ra ||| (SourceSet.without rest rb) else ra
  let rightReads := if pb then rb ||| (SourceSet.without rest ra) else rb
  let usable := left &&& rightReads == 0
  let base := { base with affinity := aff, collation := coll, usable,
                          equality := usable && op.isEquality, small := b.isSmallInteger }
  match a.sourceColumn?, b.sourceColumn? with
  | some ca, some cb =>
    let carries := op.isEquality && base.join.isNone && equalityCarries cols coll ca cb
    let first := { base with target := some (ca, op), right := rightReads ||| extra,
                             rightColumn := some cb, equal := if carries then some cb else none }
    let copy : Condition :=
      { base with target := some (cb, op.swap), right := left ||| extra,
                  rightColumn := some ca, equal := if carries then some ca else none,
                  derived := true, small := a.isSmallInteger, equality := false }
    (first, some copy)
  | some ca, none =>
    ({ base with target := some (ca, op), right := rightReads ||| extra }, none)
  | none, some cb =>
    -- turned around in place
    ({ base with target := some (cb, op.swap), right := left ||| extra,
                 small := a.isSmallInteger }, none)
  | none, none => ({ base with right := rightReads ||| extra, equality := false }, none)

/-- Fill in the condition at a position from its term, appending the conditions it implies. -/
def analyzeAt (cols : ColumnLookup) (conds : Array Condition) (i : Nat) (t : Term)
    (rest : SourceSet) : Array Condition :=
  let base := conds.getD i default
  -- a LEFT JOIN condition may not choose rows of the sources before its own
  let extra := match base.join with
    | some j => SourceSet.single j - 1
    | none => 0
  let put (c : Condition) (cs : Array Condition) : Array Condition := cs.set! i c
  let addCopy (cs : Array Condition) (copy : Option Condition) (parent : Nat) : Array Condition :=
    match copy with
    | some c => cs.push { c with parent := some parent }
    | none => cs
  match t with
  | .compare op aff coll a b =>
    match Constraint.ofCompare? op with
    | some k =>
      let (c, copy) := compareConditions cols base k aff coll a b rest extra
      addCopy (put c conds) copy i
    | none => put { base with right := base.reads } conds
  | .and (.compare .ge aff1 coll1 x lo) (.compare .le aff2 coll2 x' hi) =>
    -- a range written with BETWEEN: each half is a condition of its own
    let conds := put { base with right := base.reads } conds
    let half (cs : Array Condition) (aff : Option Affinity) (coll : Collation) (op : Constraint)
        (u v : Term) : Array Condition :=
      let (ru, _) := Term.directReads 64 u
      let (rv, _) := Term.directReads 64 v
      let h : Condition := { reads := ru ||| rv ||| (match base.join with | some j => SourceSet.single j | none => 0),
                             columns := Term.directColumns 64 u ++ Term.directColumns 64 v,
                             derived := true, parent := some i, join := base.join,
                             innerJoin := base.innerJoin }
      let (c, copy) := compareConditions cols h op aff coll u v (ru ||| rv) extra
      let pos := cs.size
      addCopy (cs.push c) copy pos
    let conds := half conds aff1 coll1 .ge x lo
    let _ := x'
    half conds aff2 coll2 .le x hi
  | .inList false a aff coll items =>
    let (ra, _) := Term.directReads 64 a
    let right := items.foldl (fun m u => m ||| (Term.directReads 64 u).1) 0
    match a.sourceColumn? with
    | some ca =>
      put { base with target := some (ca, .inList items.length), usable := ra &&& right == 0,
                      affinity := aff, collation := coll, right := right ||| extra } conds
    | none => put { base with right := right ||| extra } conds
  | .inPlan false [a] affs colls _ =>
    let (ra, _) := Term.directReads 64 a
    -- a subquery that reads this query may read the column's own source
    let right := rest
    match a.sourceColumn? with
    | some ca =>
      put { base with target := some (ca, .inQuery), usable := ra &&& right == 0,
                      affinity := affs.headD none,
                      collation := colls.headD .binary, right := right ||| extra } conds
    | none => put { base with right := right ||| extra } conds
  | .fixed (.inPlan false [a] affs colls _) =>
    match a.sourceColumn? with
    | some ca =>
      put { base with target := some (ca, .inQuery), usable := true, affinity := affs.headD none,
                      collation := colls.headD .binary, right := extra } conds
    | none => put { base with right := extra } conds
  | .isNull false a =>
    match a.sourceColumn? with
    | some ca => put { base with target := some (ca, .isNull), usable := true, right := extra } conds
    | none => put { base with right := extra } conds
  | _ => put { base with right := base.reads ||| extra } conds

/-- The conditions of a query: the written ones in order, then those they imply. A condition
of a `LEFT JOIN` also reads its joined source, and may not choose rows of the sources before
that one. -/
def analyzeConditions (cols : ColumnLookup) (written : List WrittenCondition) : Array Condition :=
  let base : Array Condition := (written.map fun w =>
    let (r, _) := Term.directReads 64 w.term
    let j := match w.join with
      | some j => SourceSet.single j
      | none => 0
    ({ reads := r ||| SourceSet.ofList w.sources ||| j,
       columns := Term.directColumns 64 w.term, join := w.join,
       innerJoin := w.innerJoin } : Condition)).toArray
  let n := written.length
  (List.range n).reverse.foldl (fun conds i =>
    let w := written.getD i { term := .const .null, sources := [] }
    analyzeAt cols conds i w.term (SourceSet.ofList w.sources)) base

end Database

end EntityGraph
