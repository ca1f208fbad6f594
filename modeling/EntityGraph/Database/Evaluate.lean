import EntityGraph.Database.Bound

/-!
# Running queries

The evaluator of bound terms and plans. A block runs its sources as nested loops in the order
the planner chose, keeps the rows its filter accepts, groups them and computes its aggregates,
computes its window functions, and projects its results; a plan combines its blocks, orders the
rows and pages them.

Rules that fix the results:
- Rows come out in the order the loops produce them unless an ordering says otherwise; every
  sort is stable, so rows that tie keep that order.
- Groups come out in the order of their keys. A group's other columns come from its first row,
  or, when the block has `min` or `max`, from the row the last of them chose.
- `UNION`, `INTERSECT` and `EXCEPT` give their rows in the order of the result columns, without
  duplicates; `UNION ALL` keeps both sides in order.
- `DISTINCT` keeps the first of equal rows.
- `LIMIT` and `OFFSET` must be integers; a negative limit is no limit.
- `AND` and `OR` do not evaluate their right side once the left decides; `CASE`, `coalesce` and
  `iif` evaluate only the branch they take.
-/

namespace EntityGraph

namespace Database

/-- A row of a source: its row id, if it has one, and its values. -/
structure SourceRow where
  rowid : Option Int64 := none
  values : Array Datum
  /-- The columns whose values carry the JSON mark: arrays and objects that a table-valued
  function gives. -/
  marked : List Nat := []
  deriving Inhabited, BEq

/-- The row a block is at: one row per source (none for the missing side of a left join), and
the block's aggregate and window values. -/
structure RowFrame where
  sources : Array (Option SourceRow)
  aggregates : Array Datum := #[]
  windows : Array Datum := #[]
  deriving Inhabited

/-- The rows of the blocks a term is inside, innermost first. -/
abbrev Env := List RowFrame

/-- What evaluation reads besides rows. -/
structure EvalContext where
  catalog : Catalog
  params : Array Datum := #[]
  lastRowid : Int64 := 0
  changes : Nat := 0
  totalChanges : Nat := 0
  seed : Nat := 0
  /-- The rows of the recursive common table expressions being built, innermost first. -/
  current : List (List SourceRow) := []
  deriving Inhabited

/-- A row of a block's output: its result values and the values of its sort keys. -/
structure OutputRow where
  values : List Datum
  keys : List Datum := []
  deriving Inhabited

/-- An evaluator of terms under an environment. -/
abbrev Evaluator := Env → Term → Except Fault Datum

/-- Signals a `RAISE(IGNORE)`: the trigger's row is skipped. -/
def Fault.ignoreRow : Fault := { code := 0, message := "RAISE(IGNORE)" }

/-! ## Ordering -/

/-- The order of two values under a sort key: descending keys reverse it, and nulls go first
unless the key says otherwise. -/
def SortKey.compareValues (k : SortKey) (a b : Datum) : Ordering :=
  let nullsFirst := k.nullsFirst.getD (!k.descending)
  match a.isNull, b.isNull with
  | true, true => .eq
  | true, false => if nullsFirst then .lt else .gt
  | false, true => if nullsFirst then .gt else .lt
  | false, false =>
    let o := Datum.compareWith k.collation a b
    if k.descending then o.swap else o

/-- The order of two lists of key values under a list of sort keys. -/
def compareKeys : List SortKey → List Datum → List Datum → Ordering
  | k :: ks, a :: as, b :: bs =>
    match k.compareValues a b with
    | .eq => compareKeys ks as bs
    | o => o
  | _, _, _ => .eq

/-- Sort stably by a comparison. -/
def stableSort {α : Type} (cmp : α → α → Ordering) (xs : List α) : List α :=
  xs.mergeSort fun a b => cmp a b != .gt

/-- The order of two lists of values under a collation per position. -/
def compareUnder : List Collation → List Datum → List Datum → Ordering
  | c :: cs, a :: as, b :: bs =>
    match Datum.compareWith c a b with
    | .eq => compareUnder cs as bs
    | o => o
  | [], a :: as, b :: bs =>
    match Datum.compare a b with
    | .eq => compareUnder [] as bs
    | o => o
  | _, _, _ => .eq

/-- Keep the first of rows equal under the collations. -/
def distinctRows {α : Type} (key : α → List Datum) (colls : List Collation) (xs : List α) : List α :=
  let rec go : List α → List (List Datum) → List α
    | [], _ => []
    | x :: rest, seen =>
      if seen.any (fun s => compareUnder colls s (key x) == .eq) then go rest seen
      else x :: go rest (key x :: seen)
  go xs []

/-- Split a sorted list into runs of equal keys. -/
def runsOf {α : Type} (same : α → α → Bool) : List α → List (List α)
  | [] => []
  | x :: rest =>
    match runsOf same rest with
    | (y :: ys) :: more => if same x y then (x :: y :: ys) :: more else [x] :: (y :: ys) :: more
    | _ => [[x]]

/-- The value of `LIMIT` or `OFFSET`: an integer, or a value that converts to one exactly. -/
def pagingValue (d : Datum) : Except Fault Int :=
  match d with
  | .integer n => pure n.toInt
  | .real x =>
    let i := realToInt x
    if (Binary64.ofInt i).eqv x then pure i else throw Fault.mismatch
  | .text b =>
    match Datum.numericOfText b true with
    | .integer n => pure n.toInt
    | _ => throw Fault.mismatch
  | _ => throw Fault.mismatch

/-- Rows after an offset and within a limit (a negative limit is none). -/
def page {α : Type} (limit offset : Option Int) (xs : List α) : List α :=
  let xs := match offset with
    | some o => if o > 0 then xs.drop o.toNat else xs
    | none => xs
  match limit with
  | some l => if l < 0 then xs else xs.take l.toNat
  | none => xs

/-! ## Built-in functions -/

/-- The version of the store. -/
def storeVersionText : String := "3.51.3"

/-- The source identifier of the store's build. -/
def storeSourceId : String :=
  "2026-03-13 10:38:09 737ae4a34738ffa0c3ff7f9bb18df914dd1cad163f28fd6b32114af0b6ade0a6"

/-- Apply a built-in scalar function to its argument values. -/
def applyBuiltin (ctx : EvalContext) (fn : Builtin) (coll : Collation) (args : List Datum) :
    Except Fault Datum :=
  let a0 := args.getD 0 .null
  let a1 := args.getD 1 .null
  let a2 := args.getD 2 .null
  let opt (i : Nat) : Option Datum := args[i]?
  match fn with
  | .ltrim => pure (Scalar.trim true false a0 (opt 1))
  | .rtrim => pure (Scalar.trim false true a0 (opt 1))
  | .trim => pure (Scalar.trim true true a0 (opt 1))
  | .min => pure (Scalar.least coll args)
  | .max => pure (Scalar.greatest coll args)
  | .typeof => pure (Datum.ofString a0.storageName)
  | .subtype => pure (.integer 0)
  | .length => pure (Scalar.length a0)
  | .octetLength => pure (Scalar.octetLength a0)
  | .instr => pure (Scalar.instr a0 a1)
  | .printf => pure (Scalar.printf args)
  | .unicode => pure (Scalar.unicode a0)
  | .char => pure (Scalar.char args)
  | .abs => Scalar.abs a0
  | .sign => pure (Scalar.sign a0)
  | .round => pure (Scalar.round a0 (opt 1))
  | .upper => pure (Scalar.upper a0)
  | .lower => pure (Scalar.lower a0)
  | .hex => pure (Scalar.hex a0)
  | .unhex => pure (Scalar.unhex a0 (opt 1))
  | .concat => pure (Scalar.concat args)
  | .concatWs => pure (Scalar.concatWs a0 (args.drop 1))
  | .random => pure (Scalar.random ctx.seed)
  | .randomblob => Scalar.randomBlob ctx.seed a0
  | .nullif => pure (Scalar.nullif coll a0 a1)
  | .version => pure (Datum.ofString storeVersionText)
  | .sourceId => pure (Datum.ofString storeSourceId)
  | .log => pure .null
  | .quote => pure (.text a0.quoted)
  | .lastInsertRowid => pure (.integer ctx.lastRowid)
  | .changes => pure (Datum.ofInt ctx.changes)
  | .totalChanges => pure (Datum.ofInt ctx.totalChanges)
  | .replace => pure (Scalar.replace a0 a1 a2)
  | .zeroblob => Scalar.zeroblob a0
  | .substr => pure (Scalar.substr a0 a1 (opt 2))
  | .like => Scalar.matchFunction .like a0 a1 (opt 2)
  | .glob => Scalar.matchFunction .glob a0 a1 none
  | .soundex => pure (Scalar.soundex a0)
  | .compileOptionUsed => pure (Scalar.compileOptionUsed a0)
  | .compileOptionGet => pure (Scalar.compileOptionGet a0)
  | .julianday => pure (Scalar.julianday args)
  | .unixepoch => pure (Scalar.unixepoch args)
  | .date => pure (Scalar.date args)
  | .time => pure (Scalar.time args)
  | .datetime => pure (Scalar.datetime args)
  | .strftime => pure (Scalar.strftime args)
  | .timediff => pure (Scalar.timediff a0 a1)
  | .currentDate => pure (Scalar.date [])
  | .currentTime => pure (Scalar.time [])
  | .currentTimestamp => pure (Scalar.datetime [])
  | .json f binary =>
    (·.value) <$> (if binary then f.applyBinary else f.apply) (args.map Marked.plain)

/-- Apply a built-in scalar function to its argument values with their JSON marks: the JSON
functions read the marks and mark what they give, `subtype` tells a marked value by the
letter `J`, and the other functions see only the values. -/
def applyMarked (ctx : EvalContext) (fn : Builtin) (coll : Collation) (args : List Marked) :
    Except Fault Marked :=
  match fn with
  | .json f binary => if binary then f.applyBinary args else f.apply args
  | .subtype => pure (.plain (.integer (if (args.headD default).json then 74 else 0)))
  | _ => Marked.plain <$> applyBuiltin ctx fn coll (args.map (·.value))

/-! ## Comparisons of row values -/

/-- Compare two row values element by element: equality holds when every pair is equal, and
an ordering is decided by the first pair that differs. -/
def compareRowValues (op : Datum.CompareOp) (affs : List (Option Affinity)) (colls : List Collation)
    (a b : List Datum) : Option Bool :=
  let triples := (a.zip b).zip (affs.zip colls)
  match op with
  | .eq | .ne =>
    let r := triples.foldl (fun acc ((x, y), (aff, coll)) =>
      match acc with
      | some false => some false
      | _ =>
        match Datum.compareBy .eq aff coll x y with
        | some false => some false
        | none => none
        | some true => acc) (some true)
    if op == .eq then r else r.map (!·)
  | .is | .isNot =>
    let r := triples.all fun ((x, y), (aff, coll)) => Datum.compareBy .is aff coll x y == some true
    some (if op == .is then r else !r)
  | _ =>
    let strict : Datum.CompareOp := match op with
      | .le => .lt
      | .ge => .gt
      | o => o
    let rec go : List ((Datum × Datum) × (Option Affinity × Collation)) → Option Bool
      | [] => some false
      | [((x, y), (aff, coll))] => Datum.compareBy op aff coll x y
      | ((x, y), (aff, coll)) :: rest =>
        match Datum.compareBy .eq aff coll x y with
        | none => none
        | some true => go rest
        | some false => Datum.compareBy strict aff coll x y
    go triples

/-- Whether a value is among a list of values: unknown when it is null or when it is not found
but a null is in the list. -/
def membership (aff : Option Affinity) (coll : Collation) (v : Datum) (items : List Datum) :
    Option Bool :=
  if items.isEmpty then some false
  else if v.isNull then none
  else if items.any (fun w => Datum.compareBy .eq aff coll v w == some true) then some true
  else if items.any Datum.isNull then none
  else some false

/-- Whether a row value is among rows. -/
def rowMembership (affs : List (Option Affinity)) (colls : List Collation) (v : List Datum)
    (rows : List (List Datum)) : Option Bool :=
  if rows.isEmpty then some false
  else
    let results := rows.map fun r => compareRowValues .eq affs colls v r
    if results.any (· == some true) then some true
    else if results.any (· == none) then none
    else some false

/-! ## Aggregates and windows -/

/-- The values of a list of terms. -/
def evalAll (ev : Evaluator) (env : Env) (ts : List Term) : Except Fault (List Datum) :=
  ts.mapM (ev env)

/-- Whether a column's value carries the JSON mark. -/
def columnMarked (env : Env) (r : ColumnRef) : Bool :=
  match env[r.depth]?, r.column with
  | some f, some c =>
    match f.sources[r.source]? with
    | some (some row) => row.marked.contains c
    | _ => false
  | _, _ => false

/-- Whether a term is a column whose value carries the JSON mark. -/
def Term.markedIn (env : Env) : Term → Bool
  | .column r => columnMarked env r
  | _ => false

/-- The frames of a group that an aggregate call takes, with their argument values and whether
each carries the JSON mark, in the order the call asks for. -/
def aggregateInputs (ev : Evaluator) (outer : Env) (call : AggregateCall) (frames : List RowFrame) :
    Except Fault (List (RowFrame × List Datum × List Bool)) := do
  let mut taken : List ((RowFrame × List Datum × List Bool) × List Datum) := []
  for f in frames do
    let env := f :: outer
    let keep ← match call.filter with
      | some t => pure ((← ev env t).truth false)
      | none => pure true
    if keep then
      let args ← evalAll ev env call.args
      let keys ← evalAll ev env (call.orderBy.map (·.term))
      taken := ((f, args, call.args.map (Term.markedIn env)), keys) :: taken
  let ordered := taken.reverse
  let ordered := if call.orderBy.isEmpty then ordered
    else stableSort (fun (_, a) (_, b) => compareKeys call.orderBy a b) ordered
  let ordered := if call.distinct then
      distinctRows (fun ((_, args, _), _) => args.take 1) [call.collation]
        (ordered.filter fun ((_, args, _), _) => !(args.headD .null).isNull)
    else ordered
  pure (ordered.map (·.1))

/-- Run an aggregate call over the frames of a group; its value, and the frame its steps chose
last. -/
def runAggregate (ev : Evaluator) (outer : Env) (call : AggregateCall) (frames : List RowFrame) :
    Except Fault (Datum × Option RowFrame) := do
  let inputs ← aggregateInputs ev outer call frames
  let (acc, chosen) := inputs.foldl (fun (acc, chosen) (f, args, marks) =>
    let s := (call.fn.withMarks marks).step call.collation acc args
    (s.state, if s.keepsRow then some f else chosen)) (call.fn.start, none)
  let v ← call.fn.finish acc
  pure (v, chosen)

/-- A frame of all-null source rows. -/
def nullFrame (sourceCount : Nat) : RowFrame := { sources := Array.replicate sourceCount none }

/-- The frame of a group: the aggregate values, over the row the other columns come from. -/
def groupFrame (ev : Evaluator) (outer : Env) (body : SelectBody) (frames : List RowFrame) :
    Except Fault RowFrame := do
  let mut values : Array Datum := #[]
  let mut chosen : Option RowFrame := none
  let mut i := 0
  for call in body.aggregates do
    let (v, c) ← runAggregate ev outer call frames
    values := values.push v
    if body.chooser == some i then chosen := c
    i := i + 1
  let base := match body.chooser, chosen with
    | some _, some f => f
    | _, _ => frames.headD (nullFrame body.sourceCount)
  pure { base with aggregates := values }

/-- The bounds of a window frame within a partition, for the row at a position; the frame is
empty when the start passes the end. -/
structure FrameSpan where
  start : Int
  finish : Int

/-- An offset of a window frame: a non-negative integer. -/
def frameOffset (d : Datum) (starting : Bool) : Except Fault Int :=
  let bad := Fault.error ("frame " ++ (if starting then "starting" else "ending") ++
    " offset must be a non-negative integer")
  match d with
  | .integer n => if n.toInt < 0 then throw bad else pure n.toInt
  | .real x =>
    let i := realToInt x
    if (Binary64.ofInt i).eqv x && i ≥ 0 then pure i else throw bad
  | _ => throw bad

/-- The first and last positions of the peers of each position, peers being rows with equal
ordering keys. -/
def peerBounds (keys : Array (List Datum)) (orderBy : List SortKey) : Array (Nat × Nat) :=
  let n := keys.size
  let same (i j : Nat) : Bool := compareKeys orderBy (keys.getD i []) (keys.getD j []) == .eq
  let firsts := (List.range n).foldl (fun (acc : Array Nat) i =>
    if i > 0 && same (i - 1) i then acc.push (acc.getD (i - 1) 0) else acc.push i) #[]
  let lasts := (List.range n).reverse.foldl (fun (acc : List Nat) i =>
    match acc with
    | l :: _ => if i + 1 < n && same i (i + 1) then l :: acc else i :: acc
    | [] => [i]) []
  (firsts.toList.zip lasts).toArray

/-- The peer group number of each position, from 0. -/
def peerGroups (bounds : Array (Nat × Nat)) : Array Nat :=
  let n := bounds.size
  (List.range n).foldl (fun (acc : Array Nat) i =>
    if i == 0 then acc.push 0
    else if (bounds.getD i (0, 0)).1 == i then acc.push (acc.getD (i - 1) 0 + 1)
    else acc.push (acc.getD (i - 1) 0)) #[]

/-- The positions of a partition in the frame of the row at a position. -/
def frameMembers (ev : Evaluator) (env : Env) (w : WindowCall) (keys : Array (List Datum))
    (bounds : Array (Nat × Nat)) (groups : Array Nat) (i : Nat) : Except Fault (List Nat) := do
  let n := keys.size
  let (peerFirst, peerLast) := bounds.getD i (i, i)
  let group := groups.getD i 0
  let groupCount : Int := (groups.toList.getLast?.map (fun g => ((g + 1 : Nat) : Int))).getD 0
  let firstOfGroup (g : Int) : Int :=
    if g < 0 then 0 else ((List.range n).find? fun j => (groups.getD j 0 : Int) ≥ g).map (Int.ofNat) |>.getD (n : Int)
  let lastOfGroup (g : Int) : Int :=
    if g < 0 then -1
    else if g ≥ groupCount then (n : Int) - 1
    else (((List.range n).reverse.find? fun j => (groups.getD j 0 : Int) ≤ g).map Int.ofNat).getD (-1)
  -- the value of the single ordering key, for offsets of a range frame
  let keyValue (j : Nat) : Datum := (keys.getD j []).headD .null
  let descending := (w.orderBy.headD { term := default }).descending
  let rangeEdge (starting : Bool) (delta : Int) : Except Fault Int := do
    -- rows whose key lies within `delta` of this row's key, in the order's direction
    let v := keyValue i
    if v.isNull then
      pure (if starting then peerFirst else peerLast)
    else
      let target := Datum.arith .add v (Datum.ofInt (if descending then -delta else delta))
      let within (j : Nat) : Bool :=
        let x := keyValue j
        if x.isNull then false
        else
          let o := Datum.compare x target
          if starting then (if descending then o != .gt else o != .lt)
          else (if descending then o != .lt else o != .gt)
      if starting then
        pure ((((List.range n).find? within).map Int.ofNat).getD (n : Int))
      else
        pure ((((List.range n).reverse.find? within).map Int.ofNat).getD (-1))
  let edge (e : FrameEdge) (starting : Bool) : Except Fault Int := do
    match e with
    | .unboundedPreceding => pure 0
    | .unboundedFollowing => pure ((n : Int) - 1)
    | .currentRow =>
      match w.unit with
      | .rows => pure i
      | _ => pure (if starting then peerFirst else peerLast)
    | .preceding t =>
      let k ← frameOffset (← ev env t) starting
      match w.unit with
      | .rows => pure ((i : Int) - k)
      | .groups => pure (if starting then firstOfGroup (group - k) else lastOfGroup (group - k))
      | .range => rangeEdge starting (-k)
    | .following t =>
      let k ← frameOffset (← ev env t) starting
      match w.unit with
      | .rows => pure ((i : Int) + k)
      | .groups => pure (if starting then firstOfGroup (group + k) else lastOfGroup (group + k))
      | .range => rangeEdge starting k
  let s ← edge w.start true
  let e ← edge w.finish false
  let s := max s 0
  let e := min e ((n : Int) - 1)
  let members : List Nat := (List.range n).filter fun (j : Nat) => decide (s ≤ Int.ofNat j) && decide (Int.ofNat j ≤ e)
  let members := match w.exclusion with
    | .noOthers => members
    | .currentRow => members.filter (· != i)
    | .group => members.filter fun j => j < peerFirst || j > peerLast
    | .ties => members.filter fun j => j == i || j < peerFirst || j > peerLast
  pure members

/-- A positive integer argument of a window function. -/
def positiveArgument (d : Datum) (message : String) : Except Fault Nat :=
  match d with
  | .integer n => if n.toInt > 0 then pure n.toInt.toNat else throw (Fault.error message)
  | .real x =>
    let i := realToInt x
    if (Binary64.ofInt i).eqv x && i > 0 then pure i.toNat else throw (Fault.error message)
  | _ => throw (Fault.error message)

/-- The values of a window call for the rows of one partition, in partition order. -/
def partitionValues (ev : Evaluator) (outer : Env) (w : WindowCall) (rows : Array RowFrame) :
    Except Fault (Array Datum) := do
  let n := rows.size
  let envOf (j : Nat) : Env := rows.getD j default :: outer
  let keys ← (List.range n).mapM fun j => evalAll ev (envOf j) (w.orderBy.map (·.term))
  let keys := keys.toArray
  let bounds := if w.orderBy.isEmpty then Array.replicate n (0, n - 1) else peerBounds keys w.orderBy
  let groups := peerGroups bounds
  let argsAt (j : Nat) : Except Fault (List Datum) := evalAll ev (envOf j) w.args
  let mut out : Array Datum := #[]
  for i in List.range n do
    let (peerFirst, peerLast) := bounds.getD i (i, i)
    let v ← match w.fn with
      | .rank .rowNumber => pure (Datum.ofInt (i + 1))
      | .rank .rank => pure (Datum.ofInt (peerFirst + 1))
      | .rank .denseRank => pure (Datum.ofInt (groups.getD i 0 + 1))
      | .rank .percentRank =>
        pure (.real (if n ≤ 1 then Binary64.zero false
          else Binary64.divide (Binary64.ofInt peerFirst) (Binary64.ofInt (n - 1))))
      | .rank .cumeDist =>
        pure (.real (Binary64.divide (Binary64.ofInt (peerLast + 1)) (Binary64.ofInt n)))
      | .rank .ntile =>
        let args ← argsAt i
        let buckets ← positiveArgument (args.headD .null) "argument of ntile must be a positive integer"
        let size := n / buckets
        let large := n % buckets
        if size == 0 then pure (Datum.ofInt (i + 1))
        else if i < large * (size + 1) then pure (Datum.ofInt (i / (size + 1) + 1))
        else pure (Datum.ofInt ((i - large * (size + 1)) / size + large + 1))
      | .rank .lag | .rank .lead =>
        let args ← argsAt i
        let offset : Int := match args[1]? with
          | some d => d.toInt
          | none => 1
        let target : Int := if w.fn matches .rank .lag then (i : Int) - offset else (i : Int) + offset
        if 0 ≤ target && target < n then
          let targetArgs ← argsAt target.toNat
          pure (targetArgs.headD .null)
        else pure (args.getD 2 .null)
      | .rank .firstValue | .rank .lastValue | .rank .nthValue =>
        let members ← frameMembers ev (envOf i) w keys bounds groups i
        let pick ← match w.fn with
          | .rank .firstValue => pure members.head?
          | .rank .lastValue => pure members.getLast?
          | _ =>
            let args ← argsAt i
            let k ← positiveArgument (args.getD 1 .null)
              "second argument to nth_value must be a positive integer"
            pure members[k - 1]?
        match pick with
        | some j => pure ((← argsAt j).headD .null)
        | none => pure .null
      | .aggregate f =>
        let members ← frameMembers ev (envOf i) w keys bounds groups i
        let mut inputs : List (List Datum) := []
        for j in members do
          let keep ← match w.filter with
            | some t => pure ((← ev (envOf j) t).truth false)
            | none => pure true
          if keep then inputs := (← argsAt j) :: inputs
        let ordered := inputs.reverse
        let ordered := if w.distinct then
            distinctRows (fun args => args.take 1) [w.collation]
              (ordered.filter fun args => !(args.headD .null).isNull)
          else ordered
        f.run w.collation ordered
    out := out.push v
  pure out

/-- Compute a window call over the frames of a block; the value for each frame by position, and
the positions in the window's order. -/
def windowColumn (ev : Evaluator) (outer : Env) (w : WindowCall) (frames : Array RowFrame) :
    Except Fault (Array Datum × List Nat) := do
  let n := frames.size
  let keyed ← (List.range n).mapM fun j => do
    let env := frames.getD j default :: outer
    let part ← evalAll ev env (w.partitionBy.map (·.1))
    let ord ← evalAll ev env (w.orderBy.map (·.term))
    pure (j, part, ord)
  let partKeys : List SortKey := w.partitionBy.map fun (t, c) => { term := t, collation := c }
  let sorted := stableSort (fun (_, p1, o1) (_, p2, o2) =>
    match compareKeys partKeys p1 p2 with
    | .eq => compareKeys w.orderBy o1 o2
    | o => o) keyed
  let parts := runsOf (fun (_, p1, _) (_, p2, _) => compareKeys partKeys p1 p2 == .eq) sorted
  let mut values : Array Datum := Array.replicate n .null
  for part in parts do
    let rows := (part.map fun (j, _, _) => frames.getD j default).toArray
    let vs ← partitionValues ev outer w rows
    for ((j, _, _), v) in part.zip vs.toList do
      values := values.set! j v
  pure (values, sorted.map (·.1))

/-- Compute all window calls of a block; the frames with their window values, in the order of
the last window computed. -/
def computeWindows (ev : Evaluator) (outer : Env) (calls : List WindowCall) (frames : List RowFrame) :
    Except Fault (List RowFrame) := do
  if calls.isEmpty then return frames
  let arr := frames.toArray
  let mut columns : Array (Array Datum) := #[]
  let mut order : List Nat := List.range arr.size
  for w in calls do
    let (vs, o) ← windowColumn ev outer w arr
    columns := columns.push vs
    order := o
  pure (order.map fun j =>
    let f := arr.getD j default
    { f with windows := columns.map fun col => col.getD j .null })

end Database

end EntityGraph
