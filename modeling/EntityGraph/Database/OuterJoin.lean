import EntityGraph.Database.Conditions

/-!
# Outer joins

How each source of a query joins the ones before it, once the `WHERE` clause is taken into
account (`JoinShape`), and the order the planner must keep among them.

* A `LEFT` join keeps every row of the sources before it, the joined source null when nothing
  matches; a `RIGHT` join keeps every row of its own source, the sources before it null when
  nothing matches; a `FULL` join does both.
* `Term.impliesNonNullRow`: whether a condition can only hold when a source has a row, so
  that a null-extended row of that source never passes it.
* `reduceJoins`: a `LEFT` join whose source the `WHERE` clause requires to have a row is an
  inner join (a `FULL` join a `RIGHT` one); a `RIGHT` join after such a source is an inner
  join (a `FULL` join a `LEFT` one). The conditions of a join that became inner count as
  conditions of the query for the sources after it.
* `mustFollow`: the sources that have to be read before each source. A source after an outer
  or `CROSS` join, a source before a `RIGHT` join, and the source after a `RIGHT` join come
  after every source before them; once a source before a `RIGHT` join has been seen, the
  others keep what came before.

Rules that fix the results:
- `IS`, `IS NOT`, `IS NULL`, `NOT NULL`, functions, `CASE`, truth tests, row values and
  subqueries say nothing about whether a source has a row; both sides of `AND` and `OR` must
  say it; `IN` says it through its left side when the list is not empty.
- While a `RIGHT` join is reduced, the conditions of inner joins do not count.
-/

namespace EntityGraph

namespace Database

/-- How a source joins the sources before it. -/
structure JoinShape where
  /-- Its rows are null when nothing matches: a `LEFT` or `FULL` join. -/
  nullable : Bool := false
  /-- Its rows that nothing matched are kept: a `RIGHT` or `FULL` join. -/
  keepsUnmatched : Bool := false
  /-- A `RIGHT` join follows it. -/
  beforeRight : Bool := false
  /-- Joined with `CROSS JOIN`. -/
  cross : Bool := false
  deriving Inhabited, BEq, Repr

/-- Whether the conditions of the join are conditions on the null-extended rows of an outer
join, rather than conditions of the query. -/
def JoinShape.outer (s : JoinShape) : Bool := s.nullable || s.keepsUnmatched

/-- Whether only the conditions of its own join may choose the rows of the source. -/
def JoinShape.ownConditionsOnly (s : JoinShape) : Bool :=
  s.nullable || s.keepsUnmatched || s.beforeRight

/-- The shapes of sources joined as written: the join kinds, and which sources a `RIGHT` join
follows. -/
def JoinShape.ofKinds (kinds : List (Bool × Bool × Bool)) : List JoinShape :=
  let lastRight := (kinds.zipIdx.filter (fun (k, _) => k.2.1)).getLast?.map (·.2)
  kinds.zipIdx.map fun ((left, right, cross), i) =>
    { nullable := left, keepsUnmatched := right, cross,
      beforeRight := match lastRight with
        | some r => i < r
        | none => false }

/-- Whether a term, met inside a condition, reads a column of the source `src` in a way that
makes the condition null or false when the source's row is all null. -/
def Term.nullsSource (src : Nat) : Nat → Term → Bool
  | 0, _ => false
  | fuel + 1, t =>
    let go := Term.nullsSource src fuel
    match t with
    | .column r => r.depth == 0 && r.source == src
    | .neg a | .not a | .bitNot a | .cast _ a => go a
    | .arith _ a b | .bits _ a b | .concat a b => go a || go b
    | .compare op _ _ a b =>
      if op == .is || op == .isNot then false else go a || go b
    | .and a b | .or a b => go a && go b
    | .inList _ a _ _ items => !items.isEmpty && go a
    | _ => false

/-- Whether a condition of the query can only hold when the source `src` has a row. -/
def Term.impliesNonNullRow (src : Nat) : Nat → Term → Bool
  | 0, _ => false
  | fuel + 1, t =>
    match t with
    | .and a b => Term.impliesNonNullRow src fuel a || Term.impliesNonNullRow src fuel b
    | .isNull true a => Term.nullsSource src fuel a
    | _ => Term.nullsSource src fuel t

/-- The depth to which conditions are searched. -/
def nonNullFuel : Nat := 64

/-- The shapes of the sources once the query's conditions are taken into account: `plain`
holds the conditions of the `WHERE` clause, and `ons` the conditions of each source's join. -/
def reduceJoins (shapes : List JoinShape) (plain : List Term) (ons : List (List Term)) :
    List JoinShape := Id.run do
  let n := shapes.length
  let mut sh := shapes.toArray
  for i in List.range n do
    let s := sh.getD i default
    if s.nullable || s.beforeRight then
      -- the conditions of inner joins count, except while a RIGHT join is reduced
      let joined := (List.range n).flatMap fun k =>
        if (sh.getD k default).outer || s.beforeRight then [] else ons.getD k []
      if (plain ++ joined).any (Term.impliesNonNullRow i nonNullFuel) then
        if s.nullable then sh := sh.set! i { s with nullable := false }
        if s.beforeRight then
          for j in List.range n do
            if j > i then
              let t := sh.getD j default
              if t.keepsUnmatched then sh := sh.set! j { t with keepsUnmatched := false }
          let lastRight := (List.range n).reverse.find? fun k => (sh.getD k default).keepsUnmatched
          sh := sh.mapIdx fun k x =>
            { x with beforeRight := x.beforeRight && (match lastRight with
              | some r => k < r
              | none => false) }
  pure sh.toList

/-- The sources each source must be read after, in the order written. -/
def mustFollow (shapes : List JoinShape) : List SourceSet := Id.run do
  let mut prereq : SourceSet := 0
  let mut prior : SourceSet := 0
  let mut pastRight := false
  let mut seenBeforeRight := false
  let mut out : Array SourceSet := #[]
  for (s, i) in shapes.zipIdx do
    if pastRight || s.outer || s.cross || s.beforeRight then
      if s.beforeRight then seenBeforeRight := true
      prereq := prereq ||| prior
      pastRight := s.keepsUnmatched
    else if !seenBeforeRight then
      prereq := 0
    out := out.push prereq
    prior := prior ||| SourceSet.single i
  pure out.toList

end Database

end EntityGraph
