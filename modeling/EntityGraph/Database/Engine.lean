import EntityGraph.Database.Evaluate

/-!
# The evaluator's recursion

Terms, blocks, plans and row sources evaluated in terms of each other: a term may hold a
subquery, a block reads sources that may be subqueries, and a recursive common table expression
runs blocks again and again over the rows it found last. Each function takes a fuel argument that
bounds the nesting, so that all of them are total; no statement the grammar accepts nests deeply
enough to exhaust it.

The loops of a block run nested in the order the planner chose. A `LEFT` join gives a null row
of its source when nothing matched; a `RIGHT` join notes each row of its source that matched,
and once every loop has run, the rows nothing matched go through the loops after it with every
source before it null (`unmatchedFrames`), after all the other rows.

A recursive common table expression keeps a queue of rows: the rows of its first queries start
it, and each row taken from the queue is given out and fed to the recursive queries, whose rows
join the queue (all of them under `UNION ALL`, only new ones under `UNION`). The queue is first
in, first out, or ordered by the expression's own `ORDER BY`.
-/

namespace EntityGraph

namespace Database

/-- The fault of nesting beyond the evaluator's bound. -/
def Fault.tooDeep : Fault := Fault.error "Expression tree is too large (maximum depth 1000)"

/-- The most rows a recursive common table expression gives. -/
def recursionBound : Nat := 1000000

/-- The truth of a condition in a filter: null counts as false. -/
def accepts (ev : Evaluator) (env : Env) (t : Term) : Except Fault Bool := do
  pure ((← ev env t).truth false)

/-- Whether every condition holds. -/
def acceptsAll (ev : Evaluator) (env : Env) (ts : List Term) : Except Fault Bool :=
  ts.allM (accepts ev env)

/-- The rows a loop reads, given the rows of the block and the blocks around it so far: the same
rows every time, except for a table-valued function whose arguments read earlier loops. -/
abbrev StepRows := Env → Except Fault (List SourceRow)

/-- The rows of sources that keep their unmatched rows that some row of the other sources
matched, by the place of the source in the block's row. -/
abbrev MatchedRows := List (Nat × SourceRow)

/-- Run the nested loops of a block's joins: every combination of source rows its conditions
accept, in loop order. A row of a source that keeps its unmatched rows is noted as matched once
the condition of its join holds. -/
def joinLoop (ev : Evaluator) (outer : Env) (frame : RowFrame) :
    List (JoinStep × StepRows) → StateT MatchedRows (Except Fault) (List RowFrame)
  | [] => pure [frame]
  | (step, rowsAt) :: rest => do
    let rows ← rowsAt (frame :: outer)
    let mut out : Array RowFrame := #[]
    let mut matched := false
    for r in rows do
      let f := { frame with sources := frame.sources.set! step.slot (some r) }
      let env := f :: outer
      let onOk ← match step.on with
        | some t => accepts ev env t
        | none => pure true
      if onOk then
        matched := true
        if step.keepsUnmatched then
          modify fun m => if m.any (· == (step.slot, r)) then m else (step.slot, r) :: m
        if ← acceptsAll ev env step.filters then
          out := out ++ (← joinLoop ev outer f rest)
    if step.outer && !matched then
      let f := { frame with sources := frame.sources.set! step.slot none }
      if ← acceptsAll ev (f :: outer) step.filters then
        out := out ++ (← joinLoop ev outer f rest)
    pure out.toList

/-- The rows a right join adds once every loop has run: for each source that keeps its unmatched
rows, in loop order, each of its rows that nothing matched, read in its own order with every
source before it null, run through the loops after it. -/
def unmatchedFrames (ev : Evaluator) (outer : Env) (empty : RowFrame) :
    List (JoinStep × StepRows × List SourceRow) → StateT MatchedRows (Except Fault) (List RowFrame)
  | [] => pure []
  | (step, _, scan) :: rest => do
    let mut out : Array RowFrame := #[]
    if step.keepsUnmatched then
      for r in scan do
        if !((← get).any (· == (step.slot, r))) then
          let f := { empty with sources := empty.sources.set! step.slot (some r) }
          if ← acceptsAll ev (f :: outer) step.filters then
            out := out ++ (← joinLoop ev outer f (rest.map fun (s, rowsAt, _) => (s, rowsAt)))
    pure (out.toList ++ (← unmatchedFrames ev outer empty rest))

/-- The rows of a block's sources that pass its filter, then grouped and windowed: the frames
the results are computed in. -/
def blockFrames (ev : Evaluator) (outer : Env) (body : SelectBody)
    (stepRows : List (JoinStep × StepRows × List SourceRow)) : Except Fault (List RowFrame) := do
  let empty := nullFrame body.sourceCount
  let pass ← acceptsAll ev (empty :: outer) body.filter
  let loops := stepRows.map fun (s, rowsAt, _) => (s, rowsAt)
  let frames ← if pass then
      (do
        let main ← joinLoop ev outer empty loops
        let extra ← unmatchedFrames ev outer empty stepRows
        pure (main ++ extra)).run' []
    else pure []
  let frames ← if body.grouped then do
      let groups ← if body.groupBy.isEmpty then pure [frames]
        else do
          let keyed ← frames.mapM fun f => do
            pure (f, ← evalAll ev (f :: outer) (body.groupBy.map (·.1)))
          let colls := body.groupBy.map (·.2)
          let sorted := stableSort (fun (_, a) (_, b) => compareUnder colls a b) keyed
          let runs := runsOf (fun (_, a) (_, b) => compareUnder colls a b == .eq) sorted
          pure (runs.map fun run => run.map (·.1))
      let mut out : Array RowFrame := #[]
      for g in groups do
        let f ← groupFrame ev outer body g
        let keep ← match body.having with
          | some t => accepts ev (f :: outer) t
          | none => pure true
        if keep then out := out.push f
      pure out.toList
    else pure frames
  computeWindows ev outer body.windows frames

/-- The output rows of a block's frames: results, and the keys of an ordering over them. -/
def outputRows (ev : Evaluator) (outer : Env) (results : List Term) (keys : List SortKey)
    (frames : List RowFrame) : Except Fault (List OutputRow) :=
  frames.mapM fun f => do
    let env := f :: outer
    let values ← evalAll ev env results
    let ks ← keys.mapM fun k => match k.output with
      | some i => pure (values.getD i .null)
      | none => ev env k.term
    pure { values, keys := ks }

/-- Combine the rows so far with the rows of the next query of a compound. -/
def combine (colls : List Collation) (op : CompoundOp) (acc rows : List (List Datum)) :
    List (List Datum) :=
  let sortDistinct (xs : List (List Datum)) : List (List Datum) :=
    distinctRows id colls (stableSort (compareUnder colls) xs)
  let member (r : List Datum) (xs : List (List Datum)) : Bool :=
    xs.any fun x => compareUnder colls x r == .eq
  match op with
  | .unionAll => acc ++ rows
  | .union => sortDistinct (acc ++ rows)
  | .intersect => sortDistinct (acc.filter fun r => member r rows)
  | .except => sortDistinct (acc.filter fun r => !member r rows)

/-- Evaluate `LIMIT` and `OFFSET`. -/
def pagingOf (ev : Evaluator) (env : Env) (limit offset : Option Term) :
    Except Fault (Option Int × Option Int) := do
  let l ← limit.mapM fun t => do pagingValue (← ev env t)
  let o ← offset.mapM fun t => do pagingValue (← ev env t)
  pure (l, o)

/-- The rows of `json_each` or `json_tree` over argument values, numbered from 0, with the value
column marked where it holds an array or object. -/
def documentSourceRows (walk : DocumentWalk) (args : List Datum) : Except Fault (List SourceRow) := do
  let rows ← documentRows walk args
  pure (rows.zipIdx.map fun (r, i) =>
    { rowid := some (Int64.ofInt i), values := r.values.toArray,
      marked := if r.marked then [1] else [] })

mutual

/-- The value of a term. -/
def evalTerm : Nat → EvalContext → Env → Term → Except Fault Datum
  | 0, _, _, _ => throw Fault.tooDeep
  | fuel + 1, ctx, env, t =>
    let ev := evalTerm fuel ctx
    match t with
    | .const d => pure d
    | .param i => pure (ctx.params.getD (i - 1) .null)
    | .column r =>
      match env[r.depth]? with
      | some f =>
        match f.sources[r.source]? with
        | some (some row) =>
          match r.column with
          | some c => pure (row.values.getD c .null)
          | none => pure (match row.rowid with
            | some id => .integer id
            | none => .null)
        | _ => pure .null
      | none => pure .null
    | .aggregate d slot => pure (((env[d]?).map (·.aggregates.getD slot .null)).getD .null)
    | .window slot => pure (((env.head?).map (·.windows.getD slot .null)).getD .null)
    | .neg a => do pure (Datum.negate (← ev env a))
    | .not a => do pure (Datum.ofTruth ((← ev env a).truth?.map (!·)))
    | .bitNot a => do pure (Datum.bitNot (← ev env a))
    | .and a b => do
      let x := (← ev env a).truth?
      if x == some false then pure (.integer 0)
      else
        let y := (← ev env b).truth?
        match x, y with
        | _, some false => pure (.integer 0)
        | some true, some true => pure (.integer 1)
        | _, _ => pure .null
    | .or a b => do
      let x := (← ev env a).truth?
      if x == some true then pure (.integer 1)
      else
        let y := (← ev env b).truth?
        match x, y with
        | _, some true => pure (.integer 1)
        | some false, some false => pure (.integer 0)
        | _, _ => pure .null
    | .arith op a b => do
      let x ← ev env a
      let y ← ev env b
      pure (Datum.arith op x y)
    | .bits op a b => do
      let x ← ev env a
      let y ← ev env b
      pure (match op with
        | .and => Datum.bitOp Datum.bitAnd x y
        | .or => Datum.bitOp Datum.bitOr x y
        | .shiftLeft => Datum.bitOp (Datum.shift true) x y
        | .shiftRight => Datum.bitOp (Datum.shift false) x y)
    | .concat a b => do
      let x ← ev env a
      let y ← ev env b
      pure (Datum.concat x y)
    | .compare op aff coll a b => do
      let x ← ev env a
      let y ← ev env b
      pure (Datum.ofTruth (Datum.compareBy op aff coll x y))
    | .compareRows op affs colls as bs => do
      let xs ← as.mapM (ev env)
      let ys ← bs.mapM (ev env)
      pure (Datum.ofTruth (compareRowValues op affs colls xs ys))
    | .truth a value negated => do
      let r := (← ev env a).truth? == some value
      pure (Datum.ofBool (if negated then !r else r))
    | .isNull negated a => do
      let x ← ev env a
      pure (Datum.ofBool (x.isNull != negated))
    | .inList negated a aff coll items => do
      if items.isEmpty then pure (Datum.ofBool negated)
      else
        let v ← ev env a
        let ws ← items.mapM (ev env)
        let r := membership aff coll v ws
        pure (Datum.ofTruth (if negated then r.map (!·) else r))
    | .inPlan negated ts affs colls p => do
      let vs ← ts.mapM (ev env)
      let rows ← runPlan fuel ctx env p
      let r := match vs with
        | [v] => membership (affs.headD none) (colls.headD .binary) v (rows.map (·.headD .null))
        | _ => rowMembership affs colls vs rows
      pure (Datum.ofTruth (if negated then r.map (!·) else r))
    | .exists p => do
      let rows ← runPlan fuel ctx env p
      pure (Datum.ofBool !rows.isEmpty)
    | .scalar p => do
      let rows ← runPlan fuel ctx env p
      pure ((rows.head?.bind (·.head?)).getD .null)
    | .fixed t => ev env t
    | .call fn coll args => do
      let vs ← args.mapM (evalMarked fuel ctx env)
      pure (← applyMarked ctx fn coll vs).value
    | .coalesce args => do
      let mut result := Datum.null
      for a in args do
        if result.isNull then result ← ev env a
      pure result
    | .case branches otherwise => do
      let mut result : Option Datum := none
      for (c, v) in branches do
        if result.isNone then
          if (← ev env c).truth false then result := some (← ev env v)
      match result with
      | some v => pure v
      | none =>
        match otherwise with
        | some o => ev env o
        | none => pure .null
    | .cast aff a => do pure (Datum.cast aff (← ev env a))
    | .raise _ message => throw { code := 19, message }
    | .ignore => throw Fault.ignoreRow

/-- The value of a term with whether it carries the JSON mark, which only a function's result
can. -/
def evalMarked : Nat → EvalContext → Env → Term → Except Fault Marked
  | 0, _, _, _ => throw Fault.tooDeep
  | fuel + 1, ctx, env, t =>
    match t with
    | .call fn coll args => do
      let vs ← args.mapM (evalMarked fuel ctx env)
      applyMarked ctx fn coll vs
    | .column r => do pure { value := ← evalTerm fuel ctx env t, json := columnMarked env r }
    | _ => Marked.plain <$> evalTerm fuel ctx env t

/-- The rows of a query. -/
def runPlan : Nat → EvalContext → Env → Plan → Except Fault (List (List Datum))
  | 0, _, _, _ => throw Fault.tooDeep
  | fuel + 1, ctx, env, p => do
    let ev := evalTerm fuel ctx
    let (limit, offset) ← pagingOf ev env p.limit p.offset
    if limit == some 0 then return []
    if p.rest.isEmpty then
      let rows ← runBlock fuel ctx env p.first p.orderBy
      let rows := if p.orderBy.isEmpty then rows
        else stableSort (fun a b => compareKeys p.orderBy a.keys b.keys) rows
      pure (page limit offset (rows.map (·.values)))
    else
      let first ← runBlock fuel ctx env p.first []
      let mut acc := first.map (·.values)
      for (op, b) in p.rest do
        let rows ← runBlock fuel ctx env b []
        acc := combine p.collations op acc (rows.map (·.values))
      let ordered := if p.orderBy.isEmpty then acc
        else
          let keysOf (r : List Datum) : List Datum :=
            p.orderBy.map fun k => r.getD (k.output.getD 0) .null
          stableSort (fun a b => compareKeys p.orderBy (keysOf a) (keysOf b)) acc
      pure (page limit offset ordered)

/-- The output rows of one query of a compound, with the keys of an ordering. -/
def runBlock : Nat → EvalContext → Env → Block → List SortKey → Except Fault (List OutputRow)
  | 0, _, _, _, _ => throw Fault.tooDeep
  | fuel + 1, ctx, env, b, keys =>
    let ev := evalTerm fuel ctx
    match b with
    | .values rows =>
      rows.mapM fun r => do
        let values ← evalAll ev (nullFrame 0 :: env) r
        pure { values, keys := keys.map fun k => values.getD (k.output.getD 0) .null }
    | .select body => do
      let stepRows ← body.joins.mapM fun step => do
        match step.source with
        | .document walk args =>
          let rowsAt : StepRows := fun here => do documentSourceRows walk (← evalAll ev here args)
          let scan ← if step.keepsUnmatched then rowsAt (nullFrame body.sourceCount :: env)
            else pure []
          pure (step, rowsAt, scan)
        | _ =>
          let rows ← sourceRows fuel ctx env step.source
          if step.order.isEmpty then pure (step, fun _ => pure rows, rows)
          else
            let keyed ← rows.mapM fun r => do
              let f : RowFrame := { sources := #[some r] }
              pure (r, ← evalAll ev [f] (step.order.map (·.term)))
            let sorted := (stableSort (fun (_, a) (_, b) => compareKeys step.order a b) keyed).map (·.1)
            pure (step, fun _ => pure sorted, rows)
      let frames ← blockFrames ev env body stepRows
      let rows ← outputRows ev env body.results keys frames
      pure (if body.distinct then distinctRows (·.values) body.collations rows else rows)

/-- The rows of a source. -/
def sourceRows : Nat → EvalContext → Env → RowSource → Except Fault (List SourceRow)
  | 0, _, _, _ => throw Fault.tooDeep
  | fuel + 1, ctx, env, s =>
    match s with
    | .single => pure [{ values := #[] }]
    | .rows rs => pure (rs.map fun r => { values := r.toArray })
    | .current level => pure (ctx.current.getD level [])
    | .table schema name order => do
      match (ctx.catalog.schema schema).table? name with
      | none => pure []
      | some t =>
        let rows := t.rows.map fun r =>
          ({ rowid := if t.withoutRowid then none else some r.rowid, values := r.values } : SourceRow)
        if order.isEmpty then pure rows
        else
          let keyed ← rows.mapM fun r => do
            let f : RowFrame := { sources := #[some r] }
            pure (r, ← evalAll (evalTerm fuel ctx) [f] (order.map (·.term)))
          pure ((stableSort (fun (_, a) (_, b) => compareKeys order a b) keyed).map (·.1))
    | .plan p keep => do
      let rows ← runPlan fuel ctx (env.drop (env.length - keep)) p
      pure (rows.map fun r => { values := r.toArray })
    | .recursive r keep => runRecursion fuel ctx (env.drop (env.length - keep)) r
    | .document walk args => do documentSourceRows walk (← evalAll (evalTerm fuel ctx) env args)

/-- The rows of a recursive common table expression. -/
def runRecursion : Nat → EvalContext → Env → Recursion → Except Fault (List SourceRow)
  | 0, _, _, _ => throw Fault.tooDeep
  | fuel + 1, ctx, env, r => do
    let ev := evalTerm fuel ctx
    let (limit, offset) ← pagingOf ev env r.limit r.offset
    let colls : List Collation := []
    -- the first queries, combined as a compound of their own
    let mut start : List (List Datum) := []
    let mut firstDone := false
    for (op, b) in r.setup do
      let rows ← runBlock fuel ctx env b []
      let vals := rows.map (·.values)
      if !firstDone then
        start := vals
        firstDone := true
      else start := combine colls op start vals
    let initial := if r.unionAll then start else distinctRows id colls start
    let keyOf (row : List Datum) : List Datum :=
      r.orderBy.map fun k => row.getD (k.output.getD 0) .null
    let mut queue : List (List Datum) := initial
    let mut seen : List (List Datum) := if r.unionAll then [] else initial
    let mut out : Array (List Datum) := #[]
    let mut skip : Int := offset.getD 0
    let mut remaining : Option Int := match limit with
      | some l => if l < 0 then none else some l
      | none => none
    for _ in List.range recursionBound do
      if remaining == some 0 then break
      -- take the next row: the first, or the least under the ordering
      let next : Option (List Datum × List (List Datum)) :=
        if r.orderBy.isEmpty then
          match queue with
          | x :: rest => some (x, rest)
          | [] => none
        else
          match queue with
          | [] => none
          | x :: rest =>
            let best := rest.foldl (fun b y =>
              if compareKeys r.orderBy (keyOf y) (keyOf b) == .lt then y else b) x
            let rec removeFirst : List (List Datum) → List (List Datum)
              | [] => []
              | y :: ys => if compareUnder [] y best == .eq then ys else y :: removeFirst ys
            some (best, removeFirst queue)
      match next with
      | none => break
      | some (row, rest) =>
        queue := rest
        if skip > 0 then skip := skip - 1
        else
          out := out.push row
          remaining := remaining.map (· - 1)
        let current : List SourceRow := [{ values := row.toArray }]
        let inner := { ctx with current := current :: ctx.current }
        for b in r.steps do
          let rows ← runBlock fuel inner env b []
          for x in rows do
            if r.unionAll then queue := queue ++ [x.values]
            else if !(seen.any fun s => compareUnder colls s x.values == .eq) then
              seen := x.values :: seen
              queue := queue ++ [x.values]
    pure (out.toList.map fun v => { values := v.toArray })

end

/-- The fuel the evaluator starts with. -/
def evaluationFuel : Nat := 100000

/-- The value of a term in a context. -/
def Term.eval (ctx : EvalContext) (env : Env) (t : Term) : Except Fault Datum :=
  evalTerm evaluationFuel ctx env t

/-- The rows of a query in a context. -/
def Plan.rows (ctx : EvalContext) (env : Env) (p : Plan) : Except Fault (List (List Datum)) :=
  runPlan evaluationFuel ctx env p

end Database

end EntityGraph
