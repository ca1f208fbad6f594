import EntityGraph.Database.Conditions
import EntityGraph.Database.Estimate

/-!
# Choosing how a query reads its sources

A query over several sources runs as nested loops, one per source. A loop reads its source
whole in row id order, or through an index: every entry, a range of keys, or the entries equal
to values the outer loops know. Which source each loop reads and how decides the order rows
come out in wherever the query does not sort them fully, so the choice here follows the
store's cost model step for step.

* Every way of reading every source is a `Loop`, with the sources that must be read before it,
  a one-time setup cost, a cost per run and an estimate of the rows each run yields. Loops
  that are no better than another on every count are dropped as they are found
  (`insertLoop`).
* The nesting is chosen level by level (`solve`): each partial nesting is extended by every
  loop whose prerequisites it holds, and only a few of the cheapest are kept. A nesting whose
  rows already come out in the order the query wants saves the cost of a sort
  (`orderSatisfied`), and the search runs a second time with that cost once the number of
  rows is estimated.
* A loop through an automatic index reads its source in the order of that index's columns: the
  columns the conditions make equal, then every other column the query reads.
-/

namespace EntityGraph

namespace Database

/-! ## Ways into a source -/

/-- What a probe reads. -/
inductive ProbeKind where
  /-- The table itself, in row id order. -/
  | rowid
  /-- The primary key of a table without row ids, which holds the whole row. -/
  | primaryKey
  /-- An index of the table. -/
  | index
  deriving DecidableEq, Inhabited, Repr

/-- A column of a probe's order: the table's column (none for the row id), its collation and
its direction. -/
structure ScanColumn where
  column : Option Nat
  collation : Collation := .binary
  descending : Bool := false
  deriving Inhabited, Repr

/-- A way into a table: the table itself by row id, its primary key, or one of its indexes. -/
structure Probe where
  kind : ProbeKind
  /-- The columns of its order: the key columns, then those that tell equal keys apart. -/
  columns : Array ScanColumn
  keyCount : Nat
  unique : Bool
  /-- Unique, with no key column that may hold null. -/
  uniqueNotNull : Bool
  /-- The estimated rows for each count of leading key columns held equal, all rows first. -/
  rowEst : Array Int
  /-- The estimated width of an entry. -/
  width : Int
  deriving Inhabited

/-- The default estimates of an index over a table of `rows`: each further key column held
equal keeps ten, nine, eight, seven, six, then five rows of every run, and all key columns of
a unique index keep one. -/
def defaultRowEst (rows : Int) (keys : Nat) (unique : Bool) (columns : Nat) : Array Int :=
  let steps : List Int := [33, 32, 30, 28, 26]
  let a := #[max rows 99] ++ ((List.range keys).map fun j => steps.getD j 23).toArray
  let a := if unique then a.set! keys 0 else a
  a ++ Array.replicate (columns + 1 - a.size) 0

/-- The table itself read by row id. -/
def rowidProbe (rows : Int) : Probe :=
  { kind := .rowid, columns := #[{ column := none }], keyCount := 1, unique := true,
    uniqueNotNull := true, rowEst := #[rows, 0], width := 3 }

/-- The estimated width of the entries of a probe over some columns of a table. -/
def Table.entryWidth (t : Table) (cols : List ScanColumn) : Int :=
  logEst (4 * cols.foldl (fun w c => w + match c.column with
    | some j => columnWidth (t.column j).declaredType
    | none => 1) 0)

/-- Whether a column of a table may hold null: not when declared `NOT NULL`, nor in the
primary key of a table without row ids. -/
def Table.mayBeNull (t : Table) (j : Nat) : Bool :=
  (t.column j).notNull.isNone && !(t.withoutRowid && t.primaryKey.contains j)

/-- An index of a table as a probe. Indexes with a condition or over expressions are not
read by the planner. -/
def Table.indexProbe (t : Table) (rows : Int) (i : Index) : Option Probe :=
  if i.filter.isSome || i.keys.any (·.column.isNone) then none
  else
    let keyCols : List ScanColumn := i.keys.map fun k =>
      { column := if k.column == t.rowidColumn then none else k.column, collation := k.collation,
        descending := k.descending }
    let rest : List ScanColumn :=
      if t.withoutRowid then
        (t.primaryKey.filter fun c => !(i.keys.any (·.column == some c))).map fun c =>
          { column := some c, collation := (t.column c).collation }
      else [{ column := none }]
    let cols := keyCols ++ rest
    let notNull (c : ScanColumn) : Bool := match c.column with
      | some j => !t.mayBeNull j
      | none => true
    some { kind := .index, columns := cols.toArray, keyCount := i.keys.length, unique := i.unique,
           uniqueNotNull := i.unique && keyCols.all notNull,
           rowEst := defaultRowEst rows i.keys.length i.unique cols.length,
           width := t.entryWidth cols }

/-- The primary key of a table without row ids as a probe: its key columns, then the others. -/
def Table.primaryKeyProbe (t : Table) (rows : Int) : Probe :=
  let keyCols : List ScanColumn := t.primaryKey.map fun c =>
    { column := some c, collation := (t.column c).collation }
  let rest : List ScanColumn := ((List.range t.columns.size).filter fun c =>
    !t.primaryKey.contains c).map fun c => { column := some c }
  let cols := keyCols ++ rest
  { kind := .primaryKey, columns := cols.toArray, keyCount := t.primaryKey.length, unique := true,
    uniqueNotNull := true, rowEst := defaultRowEst rows t.primaryKey.length true cols.length,
    width := t.entryWidth cols }

/-- Whether a probe's column at a position cannot hold null. -/
def Probe.notNullAt (p : Probe) (t : Option Table) (j : Nat) : Bool :=
  match (p.columns.getD j default).column, t with
  | none, _ => true
  | some c, some tbl => !tbl.mayBeNull c
  | some _, none => false

/-- A source as the planner sees it. -/
structure PlanSource where
  /-- The stored table, when it is one. -/
  table : Option Table := none
  columns : List ColumnInfo := []
  /-- The ways into it, in the order they are tried. -/
  probes : List Probe := []
  rowEstimate : Int := 200
  tableWidth : Int := 0
  hasRowid : Bool := true
  /-- Made for the query: a view, subquery or common table expression. -/
  ephemeral : Bool := false
  /-- Whether an automatic index may be built over it. -/
  indexable : Bool := true
  /-- Only the conditions of its own join may choose its rows: the source of an outer join, or
  one before a `RIGHT` join. -/
  ownConditionsOnly : Bool := false
  /-- The sources that must be read before it, as outer and `CROSS` joins require. -/
  follows : SourceSet := 0
  /-- The columns the query reads, other than the row id. -/
  used : List Nat := []
  /-- For a table-valued function: the sources its arguments read, which outer loops must read,
  and the estimated cost of one run. -/
  function : Option (SourceSet × Int) := none
  deriving Inhabited

/-- The estimated cost of running a table-valued function with no document to read: so high
that any other way is taken first. -/
def functionScanCost : Int := 3290

/-- The estimated rows of a table-valued function. -/
def functionRows : Int := 46

/-- A stored table as a source: read by row id (or by primary key without one), then through
its indexes in the order given. -/
def PlanSource.ofTable (t : Table) (indexes : List Index) (used : List Nat) : PlanSource :=
  let rows : Int := 200
  let own := indexes.filterMap (t.indexProbe rows)
  let probes := if t.withoutRowid then own ++ [t.primaryKeyProbe rows]
    else rowidProbe rows :: own
  { table := some t,
    columns := t.columns.toList.map fun c =>
      { name := c.name, affinity := some c.affinity, collation := c.collation },
    probes, rowEstimate := rows, tableWidth := t.rowWidth, hasRowid := !t.withoutRowid,
    used }

/-- Rows made for the query, estimated at `rows`. -/
def PlanSource.ofRows (cols : List ColumnInfo) (rows : Int) (indexable : Bool) (used : List Nat) :
    PlanSource :=
  { columns := cols, probes := [rowidProbe rows], rowEstimate := rows, ephemeral := true,
    indexable, used }

/-- Whether a column is the first key column of one of a source's indexes, where an automatic
index would add nothing. -/
def PlanSource.leadsIndex (s : PlanSource) (c : Nat) : Bool :=
  s.probes.any fun p => p.kind != .rowid && (p.columns.getD 0 default).column == some c

/-! ## Finding the conditions on a column -/

/-- Whether a comparison's affinity suits an index column's: any comparison without one, a
text comparison a text column, and a numeric comparison a numeric column. -/
def affinityFits (cmp : Option Affinity) (idx : Option Affinity) : Bool :=
  match cmp with
  | none | some .blob => true
  | some .text => idx == some .text
  | some _ => match idx with
    | some a => a.isNumeric
    | none => false

/-- The conditions that constrain a column, in the order the store finds them: those on the
column, then those on each column an equality makes it equal to (up to eleven columns in all).
Only conditions that can choose rows and whose constraint `ops` accepts are found; an index
column (`check`) also needs a suitable affinity and the same collation, and an equality of the
column with itself is passed over. -/
def scanColumn (conds : Array Condition) (start : SourceColumn) (ops : Constraint → Bool)
    (check : Option (Option Affinity × Collation)) : List Nat := Id.run do
  let mut equiv : Array SourceColumn := #[start]
  let mut found : Array Nat := #[]
  for k in [0:11] do
    if k < equiv.size then
      let cur := equiv.getD k start
      for i in [0:conds.size] do
        let c := conds.getD i default
        match c.target with
        | some (col, op) =>
          if col == cur && (k == 0 || c.join.isNone) then
            if let some e := c.equal then
              if equiv.size < 11 && !equiv.contains e then equiv := equiv.push e
            if c.usable && ops op then
              let fits := match check with
                | some (aff, coll) => op == .isNull || (affinityFits c.affinity aff && c.collation == coll)
                | none => true
              let selfEqual := op.isEquality && c.rightColumn == some start
              if fits && !selfEqual then found := found.push i
        | none => pure ()
  return found.toList

/-- The condition on a column that the outer loops `ready` settle: the first constant equality
if there is one, else the first found. -/
def findCondition (conds : Array Condition) (col : SourceColumn) (ready : SourceSet)
    (ops : Constraint → Bool) : Option Nat :=
  let found := (scanColumn conds col ops none).filter fun i =>
    SourceSet.within (conds.getD i default).right ready
  let constantEq := found.find? fun i =>
    let c := conds.getD i default
    c.right == 0 && (match c.target with
      | some (_, op) => op.isEquality
      | none => false)
  match constantEq with
  | some i => some i
  | none => found.head?

/-! ## Loops -/

/-- One way to read one source inside the loops of the others. -/
structure Loop where
  source : Nat
  /-- The sources that must be read in outer loops. -/
  prereq : SourceSet := 0
  setup : Int := 0
  run : Int := 0
  out : Int := 0
  /-- The probe read, by its place in the source's list; none for an automatic index. -/
  probe : Option Nat := none
  /-- How many leading columns of the probe are held equal. -/
  eqCount : Nat := 0
  /-- The conditions that choose its rows, by position. -/
  terms : List Nat := []
  /-- Reads the table by row id. -/
  byRowid : Bool := false
  indexed : Bool := false
  indexOnly : Bool := false
  columnEq : Bool := false
  columnRange : Bool := false
  columnIn : Bool := false
  columnNull : Bool := false
  oneRow : Bool := false
  auto : Bool := false
  lower : Bool := false
  upper : Bool := false
  /-- The probe's place counted from one when it may give the wanted order, else zero. Loops
  with different places are not compared. -/
  sortIdx : Nat := 0
  /-- Runs a table-valued function, whose rows come in no order the planner knows. -/
  virtual : Bool := false
  deriving Inhabited

/-- The order a query wants from its loops. -/
inductive OrderMode where
  | orderBy
  /-- Grouping: rows of a group together, in either direction. -/
  | groupBy
  /-- Duplicate rows together, for `DISTINCT`. -/
  | distinctBy
  deriving DecidableEq, Inhabited, Repr

/-- One key of a wanted order. -/
structure OrderKey where
  term : Term
  collation : Collation := .binary
  descending : Bool := false
  /-- Nulls placed against the direction's usual place. -/
  bigNull : Bool := false

/-- An order a query wants. -/
structure OrderRequest where
  keys : List OrderKey
  mode : OrderMode
  /-- A grouping whose keys are also the ordering, directions included. -/
  sortByGroup : Bool := false

/-- Everything the planner knows of a query. -/
structure PlanQuery where
  sources : Array PlanSource
  conds : Array Condition
  /-- How many of the conditions were written; the rest were derived from them. -/
  written : Nat
  order : Option OrderRequest := none
  wantDistinct : Bool := false
  /-- The estimate of a constant `LIMIT`. -/
  limit : Option Int := none
  resultCount : Nat := 1
  /-- The estimated number of times the query runs, for a subquery. -/
  startRows : Int := 0

/-- Lower a loop's estimate of rows for the conditions on its source it does not use: one for
each, and at least a quarter (a half for comparisons with -1, 0 or 1) of all rows for an
equality. -/
def outputAdjust (q : PlanQuery) (l : Loop) (rows : Int) : Loop :=
  let self := SourceSet.single l.source
  let allowed := l.prereq ||| self
  let (out, reduce) := (List.range q.written).foldl (fun (acc : Int × Int) i =>
    let (out, reduce) := acc
    let c := q.conds.getD i default
    if SourceSet.without c.reads allowed != 0 || c.reads &&& self == 0 || c.derived then acc
    else if l.terms.any (fun j => j == i || (q.conds.getD j default).parent == some i) then acc
    else if c.equality then (out - 1, max reduce (if c.small then 10 else 20))
    else (out - 1, reduce)) (l.out, 0)
  { l with out := if out > rows - reduce then rows - reduce else out }

/-- Whether the first loop uses fewer conditions than the second, all of them among the
second's, at no greater cost on both counts. -/
def cheaperSubset (x y : Loop) : Bool :=
  x.terms.length < y.terms.length && !(x.run > y.run && x.out > y.out) &&
    x.terms.all (y.terms.contains ·) && !(x.indexOnly && !y.indexOnly)

/-- Make a new indexed loop cost no more than the loops it extends, and no less than those
that extend it. -/
def adjustCost (loops : List Loop) (t : Loop) : Loop :=
  if !t.indexed then t
  else loops.foldl (fun t p =>
    if p.source != t.source || !p.indexed then t
    else if cheaperSubset p t then { t with run := min p.run t.run, out := min (p.out - 1) t.out }
    else if cheaperSubset t p then { t with run := max p.run t.run, out := max (p.out + 1) t.out }
    else t) t

/-- Where a new loop goes among those found, looking from a place on: none when one found is
at least as good, else the place of the first it is at least as good as, or the end. An index
with equalities always beats an automatic index. -/
def findLesser (loops : List Loop) (t : Loop) (start : Nat) : Option Nat :=
  go (loops.drop start) start
where
  go : List Loop → Nat → Option Nat
  | [], k => some k
  | p :: rest, k =>
    if p.source != t.source || p.sortIdx != t.sortIdx then go rest (k + 1)
    else if p.auto && t.indexed && t.columnEq && SourceSet.within t.prereq p.prereq then some k
    else if SourceSet.within p.prereq t.prereq && p.setup ≤ t.setup && p.run ≤ t.run &&
        p.out ≤ t.out then none
    else if SourceSet.within t.prereq p.prereq && p.run ≥ t.run && p.out ≥ t.out then some k
    else go rest (k + 1)

/-- Drop the loops from a place on that a new loop is at least as good as, until one is better. -/
def pruneAfter (t : Loop) : Nat → List Loop → Nat → List Loop
  | 0, loops, _ => loops
  | fuel + 1, loops, start =>
    match findLesser loops t start with
    | some j => if j < loops.length then pruneAfter t fuel (loops.eraseIdx j) j else loops
    | none => loops

/-- Add a loop to those found: dropped when one found is as good, else in place of the first
it is as good as (and of any later ones), else at the end. -/
def insertLoop (loops : List Loop) (t : Loop) : List Loop :=
  let t := adjustCost loops t
  match findLesser loops t 0 with
  | none => loops
  | some k =>
    if k < loops.length then (pruneAfter t loops.length loops (k + 1)).set k t
    else loops ++ [t]

/-- Whether the wanted order names a column of this source that a probe's key holds, or its
row id, so that reading through the probe might give the order. -/
def helpsOrder (q : PlanQuery) (i : Nat) (p : Probe) : Bool :=
  match q.order with
  | none => false
  | some o => o.keys.any fun k =>
    match k.term.sourceColumn? with
    | some (s, c) =>
      s == i && (c.isNone || (p.columns.toList.take p.keyCount).any (·.column == c))
    | none => false

/-- Whether a probe holds every column of a source that a condition reads. -/
def coveredBy (c : Condition) (i : Nat) (p : Probe) : Bool :=
  c.columns.all fun (s, col) => s != i || p.columns.any (·.column == col)

/-- The cost of looking up the table row of every index entry read, less what the leading
conditions the index alone can check save. -/
def lookupCost (q : PlanQuery) (i : Nat) (p : Probe) (rows : Int) : Int :=
  go q.conds.toList (rows + 16)
where
  go : List Condition → Int → Int
  | [], n => n
  | c :: rest, n =>
    if !coveredBy c i p then n
    else
      let eq := c.usable && (match c.target with
        | some (_, op) => op.isEquality
        | none => false)
      go rest (if eq then n - 20 else n - 1)

/-- The rows a range keeps: a quarter for each bound, a further quarter when both are given,
and never fewer than two. -/
def rangeEstimate (out : Int) (lower upper : Bool) : Int :=
  let n := out - (if lower then 20 else 0) - (if upper then 20 else 0) -
    (if lower && upper then 20 else 0)
  let whole := out - (if lower then 1 else 0) - (if upper then 1 else 0)
  min (max n 10) whole

/-- Add the loops that read a probe with conditions on its columns from `base.eqCount` on:
for every condition on the next column, the loop that uses it, then the loops that go on to
the columns after it. -/
def addProbeLoops (q : PlanQuery) (i : Nat) (p : Probe) : Nat → Loop → Int → List Loop → List Loop
  | 0, _, _, loops => loops
  | fuel + 1, base, inMul, loops =>
    let s := q.sources.getD i default
    let self := SourceSet.single i
    let col := p.columns.getD base.eqCount default
    let ops : Constraint → Bool := if base.lower then Constraint.isUpper else fun _ => true
    let check := match col.column with
      | some c => some ((s.columns.getD c default).affinity, col.collation)
      | none => none
    let rows := p.rowEst.getD 0 s.rowEstimate
    let rowsLog := estLog rows
    (scanColumn q.conds (i, col.column) ops check).foldl (fun loops ti =>
      let c := q.conds.getD ti default
      let op := (c.target.map (·.2)).getD .eq
      if op == Constraint.isNull && p.notNullAt s.table base.eqCount then loops
      else if c.right &&& self != 0 then loops
      else if s.ownConditionsOnly && c.join != some i && c.innerJoin != some i then loops
      else
        let l : Loop := { base with terms := base.terms ++ [ti],
                                    prereq := SourceSet.without (base.prereq ||| c.right) self }
        let inCount : Int := match op with
          | .inQuery => 46
          | .inList n => logEst n
          | _ => 0
        let l := match op with
          | .inList _ | .inQuery => { l with columnIn := true }
          | .eq | .is =>
            let l := { l with columnEq := true }
            let byRowid := col.column.isNone
            if byRowid || (inMul == 0 && base.eqCount + 1 == p.keyCount) then
              if byRowid || p.uniqueNotNull || (p.keyCount == 1 && p.unique && op == Constraint.eq) then
                { l with oneRow := true }
              else l
            else l
          | .isNull => { l with columnNull := true }
          | .gt | .ge => { l with columnRange := true, lower := true }
          | .lt | .le => { l with columnRange := true, upper := true }
        let (out, l) :=
          if l.columnRange then (rangeEstimate base.out l.lower l.upper, l)
          else
            let n := base.eqCount + 1
            (base.out + (p.rowEst.getD n 0 - p.rowEst.getD (n - 1) 0) +
              (if op == Constraint.isNull then 10 else 0), { l with eqCount := n })
        let cost := if p.kind == .rowid then out + 16
          else out + 1 + (15 * p.width) / s.tableWidth
        let cost := logEstAdd rowsLog cost
        let run := if l.indexOnly || l.byRowid then cost else logEstAdd cost (out + 16)
        let counted : Loop := { l with run := run + inMul + inCount, out := out + inMul + inCount }
        let placed := outputAdjust q counted rows
        let loops := insertLoop loops placed
        let next := { l with out := if l.columnRange then base.out else out }
        if !l.upper && next.eqCount < p.columns.size &&
            (next.eqCount < p.keyCount || p.kind != .primaryKey) then
          addProbeLoops q i p fuel next (inMul + inCount) loops
        else loops) loops

/-- Whether a condition can key an automatic index over a source: an equality on one of its
columns, of a suitable affinity, on a column no index already leads with. -/
def drivesIndex (s : PlanSource) (i : Nat) (c : Condition) : Bool :=
  match c.target with
  | some ((src, some col), op) =>
    src == i && c.usable && op.isEquality &&
      (!s.ownConditionsOnly || c.join == some i || c.innerJoin == some i) &&
      affinityFits c.affinity (s.columns.getD col default).affinity && !s.leadsIndex col
  | _ => false

/-- Add every way of reading one source: automatic indexes first, then each probe whole and
with conditions on its columns. -/
def addSourceLoops (q : PlanQuery) (loops : List Loop) (i : Nat) (prereq : SourceSet) : List Loop :=
  let s := q.sources.getD i default
  match s.function with
  | some (reads, run) =>
    insertLoop loops { source := i, prereq := prereq ||| reads, run, out := functionRows,
                       virtual := true }
  | none =>
    let self := SourceSet.single i
    let rows := s.rowEstimate
    let loops :=
      if s.indexable && s.hasRowid then
        let rowsLog := estLog rows
        (List.range q.conds.size).foldl (fun loops ti =>
          let c := q.conds.getD ti default
          if c.right &&& self != 0 || !drivesIndex s i c then loops
          else
            let setup := max 0 (rowsLog + rows + (if s.ephemeral then -10 else 28))
            insertLoop loops { source := i, prereq := prereq ||| c.right, setup, out := 43,
                               run := logEstAdd rowsLog 43, auto := true, terms := [ti],
                               eqCount := 1 }) loops
      else loops
    let (loops, _) := s.probes.zipIdx.foldl (fun (acc : List Loop × Nat) (p, pi) =>
      let (loops, place) := acc
      let helps := helpsOrder q i p
      let rows := p.rowEst.getD 0 rows
      let base : Loop := { source := i, prereq, out := rows, probe := some pi,
                           sortIdx := if helps then place else 0 }
      let (loops, template) := match p.kind with
        | .rowid =>
          let l := { base with byRowid := true, run := rows + 16 }
          (insertLoop loops (outputAdjust q l rows), { base with byRowid := true })
        | _ =>
          let covering := p.kind == .primaryKey ||
            s.used.all fun c => p.columns.any (·.column == some c)
          let l := { base with indexed := true, indexOnly := covering }
          if helps || !s.hasRowid || (covering && p.width < s.tableWidth) then
            let run := rows + 1 + (15 * p.width) / s.tableWidth
            let run := if covering then run else logEstAdd run (lookupCost q i p rows)
            (insertLoop loops (outputAdjust q { l with run } rows), l)
          else (loops, { l with sortIdx := 0 })
      (addProbeLoops q i p (p.columns.size + 2) template 0 loops, place + 1)) (loops, 1)
    loops

/-- Every way of reading every source, with the sources that must come first. -/
def allLoops (q : PlanQuery) : List Loop :=
  q.sources.toList.zipIdx.foldl (fun loops (s, i) => addSourceLoops q loops i s.follows) []

/-! ## Orders -/

/-- Whether a term reads no column and no subquery, so that it is the same for every row. -/
def Term.readsNothing : Nat → Term → Bool
  | 0, _ => false
  | fuel + 1, t =>
    match t with
    | .const _ | .param _ => true
    | .neg a | .not a | .bitNot a | .cast _ a => Term.readsNothing fuel a
    | .arith _ a b | .bits _ a b | .concat a b | .and a b | .or a b | .compare _ _ _ a b =>
      Term.readsNothing fuel a && Term.readsNothing fuel b
    | _ => false

/-- How many keys of the wanted order the loops give, nested as listed with `last` innermost,
and which of them (by position) must run backwards for it: all keys, some leading keys, or -1
when the loops give the order so far and whatever follows may extend it. -/
def orderSatisfied (q : PlanQuery) (keys : Array OrderKey) (anyDirection anyOrder limitMode : Bool)
    (path : List Loop) (last : Loop) : Int × SourceSet := Id.run do
  let n := keys.size
  if n > 63 then return (0, 0)
  let done : Nat := 2 ^ n - 1
  let bit (i : Nat) : Nat := 2 ^ i
  let isEqOp (op : Constraint) : Bool :=
    op == .eq || op == .is || op == .isNull || (limitMode && op.isMembership)
  let mut sat : Nat := 0
  let mut distinct := true
  let mut distinctMask : SourceSet := 0
  let mut ready : SourceSet := 0
  let mut rev : SourceSet := 0
  let loops := path ++ [last]
  for (loop, iLoop) in loops.zipIdx do
    if !distinct || sat == done then break
    if iLoop > 0 then
      ready := ready ||| SourceSet.single (loops.getD (iLoop - 1) default).source
    if limitMode && iLoop < path.length then continue
    if loop.virtual then break
    let src := loop.source
    -- keys made constant by an equality on an outer loop
    for i in [0:n] do
      if sat &&& bit i != 0 then continue
      let key := keys.getD i { term := .const .null }
      match key.term.sourceColumn? with
      | some (s, c) =>
        if s != src then continue
        match findCondition q.conds (s, c) ready isEqOp with
        | none => continue
        | some ti =>
          let cond := q.conds.getD ti default
          let op := (cond.target.map (·.2)).getD .eq
          if op.isMembership && !loop.terms.contains ti then continue
          if op.isEquality && c.isSome && key.collation != cond.collation then continue
          sat := sat ||| bit i
      | none => continue
    if !loop.oneRow then
      let probe : Option Probe := loop.probe.bind fun pi => (q.sources.getD src default).probes[pi]?
      let (cols, keyCount, ok) : Array ScanColumn × Nat × Bool :=
        if loop.byRowid then (#[{ column := none }], 0, true)
        else match probe with
          | some p => (p.columns, p.keyCount, true)
          | none => (#[], 0, false)
      if !ok || loop.auto then return (0, rev)
      if !loop.byRowid then
        distinct := (probe.map (·.unique)).getD false
      let table := (q.sources.getD src default).table
      let mut revSet := false
      let mut backwards := false
      let mut distinctColumns := false
      for j in [0:cols.size] do
        if j < loop.eqCount then
          let op := ((q.conds.getD (loop.terms.getD j 0) default).target.map (·.2)).getD .eq
          if isEqOp op then
            if op == .is || op == .isNull then distinct := false
            continue
        let sc := cols.getD j default
        if distinct then
          match sc.column, table with
          | some c, some t => if j ≥ loop.eqCount && t.mayBeNull c then distinct := false
          | some _, none => if j ≥ loop.eqCount then distinct := false
          | none, _ => pure ()
        let mut matched : Option Nat := none
        for i in [0:n] do
          if sat &&& bit i != 0 then continue
          let key := keys.getD i { term := .const .null }
          let isCol := key.term.sourceColumn? == some (src, sc.column)
          let collOk := sc.column.isNone || key.collation == sc.collation
          if isCol && collOk then
            matched := some i
            break
          if !anyOrder then break
        let mut isMatch := matched.isSome
        let ki := matched.getD 0
        let key := keys.getD ki { term := .const .null }
        if isMatch && !anyDirection then
          if revSet then
            if (backwards != sc.descending) != key.descending then isMatch := false
          else
            backwards := sc.descending != key.descending
            if backwards then rev := rev ||| SourceSet.single iLoop
            revSet := true
        if isMatch && key.bigNull && j != loop.eqCount then isMatch := false
        if isMatch then
          if sc.column.isNone then distinctColumns := true
          sat := sat ||| bit ki
        else
          if j == 0 || j < keyCount then distinct := false
          break
      if distinctColumns then distinct := true
    if distinct then
      distinctMask := distinctMask ||| SourceSet.single src
      for i in [0:n] do
        if sat &&& bit i != 0 then continue
        let t := (keys.getD i { term := .const .null }).term
        let (m, sub) := Term.directReads 64 t
        if sub then continue
        if m == 0 && !Term.readsNothing 64 t then continue
        if SourceSet.within m distinctMask then sat := sat ||| bit i
  if sat == done then return (n, rev)
  if !distinct then
    for i' in [0:n] do
      let i := n - 1 - i'
      if i > 0 && sat &&& (bit i - 1) == bit i - 1 then return (i, rev)
    return (0, rev)
  return (-1, rev)

/-- The estimated cost of sorting the rows for the keys a nesting leaves out of order. -/
def sortingCost (q : PlanQuery) (rows : Int) (nKeys : Nat) (sorted : Int) : Int :=
  let width := logEst ((q.resultCount + 59) / 30)
  let cost := rows + width
  let cost := if sorted > 0 then
      cost + logEst ((((nKeys : Int) - sorted) * 100 / nKeys).toNat) - 66
    else cost
  let (cost, rows) := match q.limit with
    | some lim => (cost + 10 + (if sorted != 0 then 6 else 0), min rows lim)
    | none => (cost, if q.wantDistinct && rows > 10 then rows - 10 else rows)
  cost + estLog rows

/-- A partial nesting: its sources, those of its loops that run backwards (by position), its
estimated rows and costs, how many keys of the wanted order it gives (-1 for not known yet),
and its loops from the outermost. -/
structure Path where
  mask : SourceSet := 0
  rev : SourceSet := 0
  rows : Int := 0
  cost : Int := 0
  unsorted : Int := 0
  ordered : Int := 0
  loops : List Loop := []
  deriving Inhabited

/-- Extend the kept nestings by one loop each way the prerequisites allow, keeping the `keep`
cheapest for each set of sources and for whether the order is known. -/
def extendPaths (q : PlanQuery) (loops : List Loop) (keep : Nat) (rowEst : Int) (nKeys : Nat)
    (keys : Array OrderKey) (anyDirection anyOrder : Bool) (iLoop : Nat) (froms : List Path) :
    List Path := Id.run do
  let mut tos : Array Path := #[]
  let mut worst := 0
  let mut worstCost : Int := 0
  let mut worstUnsorted : Int := 0
  for f in froms do
    for w in loops do
      if !SourceSet.within w.prereq f.mask then continue
      if f.mask.has w.source then continue
      if w.auto && f.rows < 3 then continue
      let mut unsorted := w.run + f.rows
      if w.setup != 0 then unsorted := logEstAdd w.setup unsorted
      unsorted := logEstAdd unsorted f.unsorted
      let out := f.rows + w.out
      let mask := f.mask ||| SourceSet.single w.source
      let (ordered, rev) :=
        if f.ordered < 0 then orderSatisfied q keys anyDirection anyOrder false f.loops w
        else (f.ordered, f.rev)
      let mut cost := unsorted
      if ordered ≥ 0 && ordered < nKeys then
        cost := logEstAdd unsorted (sortingCost q rowEst nKeys ordered) + 3
      else
        unsorted := unsorted - 2
      let cand : Path := { mask, rev, rows := out, cost, unsorted, ordered,
                           loops := f.loops ++ [w] }
      let _ := iLoop
      match tos.findIdx? (fun p => p.mask == mask && ((p.ordered < 0) == (ordered < 0))) with
      | none =>
        if tos.size ≥ keep && (cost > worstCost || (cost == worstCost && unsorted ≥ worstUnsorted))
        then continue
        if tos.size < keep then tos := tos.push cand
        else tos := tos.set! worst cand
      | some jj =>
        let p := tos.getD jj default
        if p.cost < cost || (p.cost == cost && p.rows < out) ||
            (p.cost == cost && p.rows == out && p.unsorted ≤ unsorted) then continue
        tos := tos.set! jj cand
      if tos.size ≥ keep then
        worst := 0
        worstCost := (tos.getD 0 default).cost
        worstUnsorted := (tos.getD 0 default).rows
        for jj in [1:keep] do
          let p := tos.getD jj default
          if p.cost > worstCost || (p.cost == worstCost && p.unsorted > worstUnsorted) then
            worstCost := p.cost
            worstUnsorted := p.unsorted
            worst := jj
  return tos.toList

/-- The cheapest nesting of all the sources, with `rowEst` the estimated rows of the query for
the cost of sorting them (zero to leave sorting out). -/
def solve (q : PlanQuery) (loops : List Loop) (rowEst : Int) : Option Path :=
  let n := q.sources.size
  let keep := if n ≤ 1 then 1 else if n == 2 then 5 else 12
  let keys : Array OrderKey := ((q.order.map (·.keys)).getD []).toArray
  let nKeys := if rowEst == 0 then 0 else keys.size
  let mode := (q.order.map (·.mode)).getD .orderBy
  let anyDirection := mode == .groupBy
  let anyOrder := mode != .orderBy
  let start : Path := { rows := min q.startRows 48,
                        ordered := if nKeys > 0 then (if n > 0 then -1 else nKeys) else 0 }
  let final := (List.range n).foldl (fun froms iLoop =>
    extendPaths q loops keep rowEst nKeys keys anyDirection anyOrder iLoop froms) [start]
  final.foldl (fun (best : Option Path) p => match best with
    | some b => if b.cost > p.cost then some p else best
    | none => some p) none

/-- Between the two searches: for the leading loops of the first choice that hold columns
equal, drop the loops over the same sources that use no condition. -/
def narrowLoops (loops : List Loop) (chosen : Path) : List Loop :=
  let leading := chosen.loops.takeWhile fun l => l.columnEq || l.columnNull || l.columnIn
  let sources := leading.map (·.source)
  loops.map fun l =>
    if sources.contains l.source && !(l.columnEq || l.columnRange || l.columnIn ||
        l.columnNull || l.auto) then
      { l with prereq := 2 ^ 64 - 1 }
    else l

/-- A loop of the chosen nesting: its source and the order it reads the source in. -/
structure PlannedLoop where
  source : Nat
  order : List ScanColumn
  deriving Inhabited

/-- The chosen nesting and the estimated rows of the query. -/
structure PlanChoice where
  loops : List PlannedLoop
  rows : Int

/-- The order a loop reads its source in, backwards when asked: its probe's columns, or for an
automatic index the columns conditions settled by the outer loops hold equal, then the other
columns the query reads (every column of rows made for the query), then the row id. -/
def loopOrder (q : PlanQuery) (l : Loop) (backwards : Bool) (notReady : SourceSet) :
    List ScanColumn :=
  let s := q.sources.getD l.source default
  let flip (cs : List ScanColumn) : List ScanColumn :=
    if backwards then cs.map fun c => { c with descending := !c.descending } else cs
  if l.auto then
    let keyCols := (q.conds.toList.filter fun c =>
      drivesIndex s l.source c && c.right &&& notReady == 0).filterMap fun c =>
        match c.target with
        | some ((_, some col), _) => some (col, c.collation)
        | _ => none
    let keyCols := keyCols.foldl (fun acc (col, coll) =>
      if acc.any (·.1 == col) then acc else acc ++ [(col, coll)]) []
    let extra := (List.range s.columns.length).filter fun c =>
      !keyCols.any (·.1 == c) && (s.ephemeral || s.used.contains c)
    keyCols.map (fun (col, coll) => ({ column := some col, collation := coll } : ScanColumn)) ++
      extra.map (fun c => ({ column := some c } : ScanColumn)) ++ [{ column := none }]
  else
    match l.probe.bind fun pi => s.probes[pi]? with
    | some p => if p.kind == .rowid && !backwards then [] else flip p.columns.toList
    | none => []

/-- Whether `DISTINCT` can remove no row of a query over one table: its results hold the row
id, or every key column of a unique index, each set to a constant by an equality or a result
that cannot be null. -/
def distinctRedundant (q : PlanQuery) (results : List (Term × Collation)) : Bool :=
  match q.sources.toList with
  | [s] =>
    s.table.isSome &&
    (results.any (fun (t, _) => t.sourceColumn? == some (0, none)) ||
     s.probes.any fun p => p.kind != .rowid && p.unique &&
       (List.range p.keyCount).all fun j =>
         let pc := p.columns.getD j default
         let check := pc.column.map fun c => ((s.columns.getD c default).affinity, pc.collation)
         let settled := (scanColumn q.conds (0, pc.column) (· == Constraint.eq) check).any fun ti =>
           (q.conds.getD ti default).right == 0
         let shown := results.any fun (t, coll) =>
           t.sourceColumn? == some (0, pc.column) && coll == pc.collation
         settled || (shown && p.notNullAt s.table j))
  | _ => false

/-- Choose how the query reads its sources: the nesting from the outermost loop, each with the
order it reads in. -/
def planQuery (q : PlanQuery) : PlanChoice :=
  let n := q.sources.size
  let loops := allLoops q
  let first := solve q loops 0
  let best := match q.order, first with
    | some _, some f =>
      match solve q (narrowLoops loops f) (if f.rows < 0 then 1 else f.rows + 1) with
      | some p => some p
      | none => first
    | _, _ => first
  match best with
  | none => { loops := (List.range n).map fun i => { source := i, order := [] }, rows := 0 }
  | some p =>
    let keys : Array OrderKey := ((q.order.map (·.keys)).getD []).toArray
    let rev := match q.order with
      | some o =>
        let nSat := p.ordered
        let rev :=
          if o.mode == OrderMode.distinctBy then 0
          else if nSat ≤ 0 && n > 0 then
            let lastLoop := p.loops.getLastD default
            if !lastLoop.oneRow && !(lastLoop.byRowid && lastLoop.columnIn) then
              let (r, m) := orderSatisfied q keys false false true p.loops.dropLast lastLoop
              if r == keys.size then m else p.rev
            else p.rev
          else p.rev
        if o.sortByGroup && nSat == keys.size && n > 0 then
          let (r, m) := orderSatisfied q keys false false false p.loops.dropLast
            (p.loops.getLastD default)
          if r == keys.size then m else rev
        else rev
      | none => 0
    let all : SourceSet := 2 ^ n - 1
    let (planned, _) := p.loops.zipIdx.foldl (fun (acc : List PlannedLoop × SourceSet) (l, pos) =>
      let (out, done) := acc
      let notReady := SourceSet.without all done
      (out ++ [{ source := l.source, order := loopOrder q l (SourceSet.has rev pos) notReady }],
       done ||| SourceSet.single l.source)) ([], 0)
    { loops := planned, rows := p.rows }

end Database

end EntityGraph
