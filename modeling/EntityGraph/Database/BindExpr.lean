import EntityGraph.Database.Scope

/-!
# Binding expressions

An expression as written becomes a term (`bindExpr`): names become column references found
through the scope, operators carry the affinity and collation they compare under, function
names become built-in functions, and aggregate and window calls are handed to the query level
that computes them, leaving a reference to their value behind.

Subqueries are bound by a query binder passed in (`QueryBinder`), so that this module does not
depend on how queries are bound; the query binder in turn binds its expressions here.

Rules that fix the results:
- An aggregate call belongs to the innermost level whose columns its arguments read, or to the
  level it is written in when they read none. Its arguments are then bound again from that
  level, so that their references count levels from it.
- Identical aggregate calls of a level share one value.
- `x IN (y)` with a single constant `y` is the comparison `x = y`; `x IN ()` is false (true
  when negated) without `x` being looked at.
- `x IS TRUE` and `x IS FALSE` test truth values unless a column is named `true` or `false`.
- An unknown name written in double quotes is a string; `true` and `false` are 1 and 0.
-/

namespace EntityGraph

namespace Database

/-- A bound query: its plan, its columns as a source sees them, its result names as a
statement reports them, and what the results of its leftmost query are. -/
structure BoundQuery where
  plan : Plan
  columns : List ColumnInfo
  names : List String
  infos : List TermInfo

/-- Binds a subquery. -/
abbrev QueryBinder := Select → BindM BoundQuery

/-- Where an expression sits, which decides what it may contain. -/
structure ExprCtx where
  aggregates : Bool := false
  windows : Bool := false
  /-- Aggregates are accepted here but fail when the statement is prepared. -/
  lateAggregates : Bool := false
  /-- The kind of definition the expression belongs to when functions that vary are refused
  in it. -/
  restriction : Option String := none

/-- The fuel an expression is bound with: more than the deepest expression the grammar reads. -/
def exprFuel : Nat := 5000

/-- An expression without its `COLLATE` clauses. -/
def Expr.skipCollate : Expr → Expr
  | .collate e _ => e.skipCollate
  | e => e

/-- Whether an expression as written is constant: literals, parameters, `true` and `false`,
and operators over them. -/
def Expr.isConstant : Nat → Expr → Bool
  | 0, _ => false
  | fuel + 1, e =>
    match e with
    | .null | .integer _ | .float _ | .string _ | .blob _ | .param _ => true
    | .name n _ => sameName n "true" || sameName n "false"
    | .unary _ a | .collate a _ | .cast a _ | .isNull _ a | .truth a _ _ => Expr.isConstant fuel a
    | .binary _ a b => Expr.isConstant fuel a && Expr.isConstant fuel b
    | .between _ a b c => Expr.isConstant fuel a && Expr.isConstant fuel b && Expr.isConstant fuel c
    | .vector items => items.all (Expr.isConstant fuel)
    | .pattern _ _ a b esc =>
      Expr.isConstant fuel a && Expr.isConstant fuel b && esc.all (Expr.isConstant fuel)
    | .case op branches other =>
      op.all (Expr.isConstant fuel) &&
        branches.all (fun (w, t) => Expr.isConstant fuel w && Expr.isConstant fuel t) &&
        other.all (Expr.isConstant fuel)
    | .inList _ a items => Expr.isConstant fuel a && items.all (Expr.isConstant fuel)
    | _ => false

/-- The value of a literal, or a fault reported when the statement is prepared. -/
def literal (r : Except Fault Datum) : BindM Datum :=
  match r with
  | .ok d => pure d
  | .error f => do deferFault f; pure .null

/-- The fault of a subquery of the wrong width. -/
def subselectWidth (got expected : Nat) : Fault :=
  Fault.error ("sub-select returns " ++ toString got ++ " columns - expected " ++ toString expected)

/-- The fault of a row value where one value belongs. -/
def rowValueMisused : Fault := Fault.error "row value misused"

/-- Bind a name: a column, a result alias, or a string or truth value when nothing has it. -/
def bindName (ctx : ExprCtx) (schema table : Option String) (col : String) (quoted : Bool) :
    BindM (Term × TermInfo) := do
  match ← lookupName schema table col with
  | .term t info => pure (t, info)
  | .aliasName a =>
    if !ctx.aggregates && a.hasAggregate then
      throw (Fault.error ("misuse of aliased aggregate " ++ col))
    if a.hasWindow && !ctx.windows then
      throw (Fault.error ("misuse of aliased window function " ++ col))
    pure (a.term, { a.info with columnName := none, baseName := none })
  | .missing =>
    if table.isNone && quoted then pure (.const (Datum.ofString col), {})
    else if table.isNone && !quoted && sameName col "true" then pure (.const (.integer 1), {})
    else if table.isNone && !quoted && sameName col "false" then pure (.const (.integer 0), {})
    else throw (Fault.noSuchColumn (nameText schema table col))

/-- The comparison operator of a binary operator, if it is one. -/
def BinaryOp.comparison? : BinaryOp → Option Datum.CompareOp
  | .eq => some .eq
  | .ne => some .ne
  | .lt => some .lt
  | .le => some .le
  | .gt => some .gt
  | .ge => some .ge
  | .is => some .is
  | .isNot => some .isNot
  | _ => none

/-- The term of an arithmetic, bit or concatenation operator. -/
def BinaryOp.apply (op : BinaryOp) (a b : Term) : Term :=
  match op with
  | .add => .arith .add a b
  | .sub => .arith .sub a b
  | .mul => .arith .mul a b
  | .div => .arith .div a b
  | .rem => .arith .rem a b
  | .bitAnd => .bits .and a b
  | .bitOr => .bits .or a b
  | .shiftLeft => .bits .shiftLeft a b
  | .shiftRight => .bits .shiftRight a b
  | .concat => .concat a b
  | .and => .and a b
  | .or => .or a b
  | _ => .const .null

/-- Whether the columns read since a point all belong to levels from `depth` inwards, so that a
subquery bound at that depth reads nothing of the queries around it. -/
def readsOnlyFrom (before depth : Nat) : BindM Bool := do
  let s ← get
  let fresh := s.refs.take (s.refs.length - before)
  pure (fresh.all fun (l, _, _) => l ≥ depth)

/-- A subquery term, marked as fixed when it reads nothing around it. -/
def fixedIf (fixed : Bool) (t : Term) : Term := if fixed then .fixed t else t

/-- Give an aggregate call to the innermost level, sharing the value of an identical call. -/
def registerAggregate (call : AggregateCall) : BindM Nat := do
  let l ← topLevel
  let rank := l.clause
  match l.aggregates.toList.findIdx? (· == call) with
  | some i =>
    modifyTop fun l =>
      { l with ranks := l.ranks.set! i (min (l.ranks.getD i rank) rank),
               aggregateUses := l.aggregateUses + 1 }
    pure i
  | none =>
    modifyTop fun l =>
      { l with aggregates := l.aggregates.push call, ranks := l.ranks.push rank,
               aggregateUses := l.aggregateUses + 1 }
    pure l.aggregates.size

/-- Give a window call to the innermost level. -/
def registerWindow (call : WindowCall) : BindM Nat := do
  let l ← topLevel
  modifyTop fun l => { l with windows := l.windows.push call }
  pure l.windows.size

/-- The window a call names or writes, with the named window it builds on merged in: its
partitioning, ordering and frame. -/
def resolveWindow (defs : List (String × Window)) (w : Window) :
    Except Fault (List Expr × List OrderTerm × Option Frame) := do
  let find (n : String) : Except Fault Window :=
    match defs.find? (fun (m, _) => sameName m n) with
    | some (_, d) => pure d
    | none => throw (Fault.error ("no such window: " ++ n))
  let flat (d : Window) : List Expr × List OrderTerm × Option Frame :=
    match d with
    | .spec _ p o f => (p, o, f)
    | .named _ => ([], [], none)
  match w with
  | .named n => pure (flat (← find n))
  | .spec none p o f => pure (p, o, f)
  | .spec (some b) p o f =>
    let (bp, bo, bf) := flat (← find b)
    if !p.isEmpty then throw (Fault.error ("cannot override PARTITION clause of window: " ++ b))
    if !bo.isEmpty && !o.isEmpty then
      throw (Fault.error ("cannot override ORDER BY clause of window: " ++ b))
    if bf.isSome then throw (Fault.error ("cannot override frame specification of window: " ++ b))
    pure (bp, if o.isEmpty then bo else o, f)

/-- The innermost level, counted from the outermost, among the column reads recorded since a
point, at or outside the current level. -/
def ownerLevel (before : Nat) : BindM Nat := do
  let s ← get
  let cur := s.levels.length - 1
  let fresh := s.refs.take (s.refs.length - before)
  pure (fresh.foldl (fun best (l, _, _) => if l ≤ cur && l > best then l else best) 0 |>
    fun best => if fresh.any (fun (l, _, _) => l ≤ cur) then best else cur)

mutual

/-- Bind an expression. -/
def bindExpr (sub : QueryBinder) : Nat → ExprCtx → Expr → BindM (Term × TermInfo)
  | 0, _, _ => throw Fault.tooDeep
  | fuel + 1, ctx, e => do
    let go := bindExpr sub fuel ctx
    match e with
    | .null => pure (.const .null, {})
    | .integer text => pure (.const (← literal (integerLiteral text false)), {})
    | .float text => pure (.const (realLiteral text false), {})
    | .string s => pure (.const (Datum.ofString s), {})
    | .blob b => pure (.const (.blob b), {})
    | .param i => pure (.param i, {})
    | .name n quoted => bindName ctx none none n quoted
    | .qualified s t c => bindName ctx s (some t) c false
    | .unary .neg (.integer text) => pure (.const (← literal (integerLiteral text true)), {})
    | .unary .neg (.float text) => pure (.const (realLiteral text true), {})
    | .unary op a => do
      let (t, i) ← go a
      match op with
      | .neg => pure (.neg t, TermInfo.inherit [i])
      | .plus => pure (t, { i with affinity := none, columnName := none, baseName := none })
      | .not => pure (.not t, TermInfo.inherit [i])
      | .bitNot => pure (.bitNot t, TermInfo.inherit [i])
    | .binary op a b =>
      match op.comparison? with
      | some cmp => bindComparison sub fuel ctx cmp a b
      | none => do
        let (ta, ia) ← go a
        let (tb, ib) ← go b
        pure (op.apply ta tb, TermInfo.inherit [ia, ib])
    | .truth a value negated => do
      let (t, i) ← go a
      pure (.truth t value negated, TermInfo.inherit [i])
    | .pattern op negated subject pattern escape => do
      let name := match op with
        | .like => "LIKE"
        | .glob => "GLOB"
        | .regexp => "REGEXP"
        | .matches => "MATCH"
      let (t, i) ← go (.call name false false ([pattern, subject] ++ escape.toList) [] none none)
      pure (if negated then .not t else t, { i with columnName := none, baseName := none })
    | .isNull negated a => do
      let (t, i) ← go a
      pure (.isNull negated t, TermInfo.inherit [i])
    | .between negated x lo hi => do
      let (tx, ix) ← go x
      let (tl, il) ← go lo
      let (th, ih) ← go hi
      let ge := Term.compare .ge (compareAffinity ix.affinity il.affinity) (compareCollation ix il) tx tl
      let le := Term.compare .le (compareAffinity ix.affinity ih.affinity) (compareCollation ix ih) tx th
      let t := Term.and ge le
      pure (if negated then .not t else t, TermInfo.inherit [ix, il, ih])
    | .inList negated x items =>
      match items with
      | [] => pure (.const (Datum.ofBool negated), {})
      | [single] =>
        if Expr.isConstant 64 single && !(x matches .vector _) then
          bindComparison sub fuel ctx (if negated then .ne else .eq) x single
        else bindInList sub fuel ctx negated x items
      | _ => bindInList sub fuel ctx negated x items
    | .inSelect negated x q => do
      let before := (← get).refs.length
      let depth := (← get).levels.length
      let bq ← sub q
      let fixed ← readsOnlyFrom before depth
      let lhs := match x with
        | .vector items => items
        | e => [e]
      let bound ← lhs.mapM go
      if bq.columns.length != lhs.length then deferFault (subselectWidth bq.columns.length lhs.length)
      let pairs := bound.zip (bq.infos ++ List.replicate lhs.length (default : TermInfo))
      let affs := pairs.map fun ((_, il), ir) => compareAffinity ir.affinity il.affinity
      let colls := pairs.map fun ((_, il), ir) => compareCollation il ir
      pure (fixedIf fixed (.inPlan negated (bound.map (·.1)) affs colls bq.plan),
        TermInfo.inherit (bound.map (·.2)))
    | .exists q => do
      let before := (← get).refs.length
      let depth := (← get).levels.length
      let bq ← sub q
      let fixed ← readsOnlyFrom before depth
      pure (fixedIf fixed (.exists bq.plan), {})
    | .subquery q => do
      let before := (← get).refs.length
      let depth := (← get).levels.length
      let bq ← sub q
      let fixed ← readsOnlyFrom before depth
      if bq.columns.length != 1 then deferFault (subselectWidth bq.columns.length 1)
      pure (fixedIf fixed (.scalar bq.plan), { affinity := (bq.infos.headD {}).affinity })
    | .call name distinct star args orderBy filter windowSpec =>
      bindCall sub fuel ctx name distinct star args orderBy filter windowSpec
    | .cast a typeName => do
      let (t, i) ← go a
      let aff := Affinity.ofDeclaredType typeName
      pure (.cast aff t, { i with affinity := some aff, columnName := none, baseName := none })
    | .case operand branches otherwise => do
      let x ← operand.mapM go
      let mut bound : List (Term × Term) := []
      let mut infos : List TermInfo := (x.map (·.2)).toList
      for (w, v) in branches do
        let (tw, iw) ← go w
        let (tv, iv) ← go v
        let cond := match x with
          | some (tx, ix) =>
            Term.compare .eq (compareAffinity ix.affinity iw.affinity) (compareCollation ix iw) tx tw
          | none => tw
        bound := bound ++ [(cond, tv)]
        infos := infos ++ [iw, iv]
      let other ← otherwise.mapM go
      pure (.case bound (other.map (·.1)), TermInfo.inherit (infos ++ (other.map (·.2)).toList))
    | .collate a c =>
      match Collation.ofName? c with
      | none => throw (Fault.error ("no such collation sequence: " ++ c))
      | some coll => do
        let (t, i) ← go a
        pure (t, { i with collation := some coll, explicit := true, columnName := none })
    | .vector _ => throw rowValueMisused
    | .raise action message => do
      if !(← get).inTrigger then
        throw (Fault.error "RAISE() may only be used within a trigger-program")
      let text := match message with
        | some (.string s) => s
        | _ => ""
      match action with
      | "IGNORE" => pure (.ignore, {})
      | "ROLLBACK" => pure (.raise .rollback text, {})
      | "FAIL" => pure (.raise .fail text, {})
      | _ => pure (.raise .abort text, {})

/-- Bind a comparison, of single values or of row values. -/
def bindComparison (sub : QueryBinder) : Nat → ExprCtx → Datum.CompareOp → Expr → Expr →
    BindM (Term × TermInfo)
  | 0, _, _, _, _ => throw Fault.tooDeep
  | fuel + 1, ctx, op, a, b => do
    let go := bindExpr sub fuel ctx
    -- `x IS TRUE` and `x IS FALSE`
    let truthTest : Option Bool ← if op == .is || op == .isNot then
        match b.skipCollate with
        | .name n false =>
          if sameName n "true" || sameName n "false" then do
            match ← lookupName none none n with
            | .missing => pure (some (sameName n "true"))
            | _ => pure none
          else pure none
        | _ => pure none
      else pure none
    match truthTest with
    | some value => do
      let (t, i) ← go a
      pure (.truth t value (op == .isNot), TermInfo.inherit [i])
    | none =>
      match a, b with
      | .vector xs, .vector ys =>
        if xs.length != ys.length then throw rowValueMisused
        else do
          let bx ← xs.mapM go
          let by_ ← ys.mapM go
          let pairs := bx.zip by_
          let affs := pairs.map fun ((_, ia), (_, ib)) => compareAffinity ia.affinity ib.affinity
          let colls := pairs.map fun ((_, ia), (_, ib)) => compareCollation ia ib
          pure (.compareRows op affs colls (bx.map (·.1)) (by_.map (·.1)), {})
      | .vector _, _ | _, .vector _ => throw rowValueMisused
      | _, _ => do
        let (ta, ia) ← go a
        let (tb, ib) ← go b
        pure (.compare op (compareAffinity ia.affinity ib.affinity) (compareCollation ia ib) ta tb,
          TermInfo.inherit [ia, ib])

/-- Bind `x IN (list)`. -/
def bindInList (sub : QueryBinder) : Nat → ExprCtx → Bool → Expr → List Expr →
    BindM (Term × TermInfo)
  | 0, _, _, _, _ => throw Fault.tooDeep
  | fuel + 1, ctx, negated, x, items => do
    let go := bindExpr sub fuel ctx
    if x matches .vector _ then throw rowValueMisused
    let (tx, ix) ← go x
    let bound ← items.mapM go
    pure (.inList negated tx ix.affinity ix.collationOr (bound.map (·.1)),
      TermInfo.inherit (ix :: bound.map (·.2)))

/-- Bind the keys of an ordering inside an aggregate or window. -/
def bindOrderTerms (sub : QueryBinder) : Nat → ExprCtx → List OrderTerm → BindM (List SortKey)
  | 0, _, _ => throw Fault.tooDeep
  | fuel + 1, ctx, terms =>
    terms.mapM fun ot => do
      let (t, i) ← bindExpr sub fuel ctx ot.expr
      pure { term := t, collation := i.collationOr, descending := ot.descending,
             nullsFirst := ot.nullsFirst : SortKey }

/-- Bind the arguments, filter and ordering of an aggregate call and give it to the innermost
level. -/
def bindAggregateHere (sub : QueryBinder) : Nat → ExprCtx → AggregateFn → Bool → List Expr →
    List OrderTerm → Option Expr → BindM Nat
  | 0, _, _, _, _, _, _ => throw Fault.tooDeep
  | fuel + 1, ctx, f, distinct, args, orderBy, filter => do
    let bound ← args.mapM (bindExpr sub fuel ctx)
    let tfilter ← filter.mapM (bindExpr sub fuel ctx)
    let keys ← bindOrderTerms sub fuel ctx orderBy
    let coll := if f == .min || f == .max then
        ((bound.find? (·.2.collation.isSome)).bind (·.2.collation)).getD .binary
      else .binary
    let call : AggregateCall :=
      { fn := f.withArgs (bound.map (·.1)), args := bound.map (·.1), distinct,
        filter := tfilter.map (·.1), orderBy := keys, collation := coll }
    registerAggregate call

/-- Bind a function call. -/
def bindCall (sub : QueryBinder) : Nat → ExprCtx → String → Bool → Bool → List Expr →
    List OrderTerm → Option Expr → Option Window → BindM (Term × TermInfo)
  | 0, _, _, _, _, _, _, _, _ => throw Fault.tooDeep
  | fuel + 1, ctx, name, distinct, _, args, orderBy, filter, windowSpec => do
    let argc := args.length
    let found := lookupFunction name argc
    -- the probability of `likelihood`
    if let .found .passThrough := found then
      if argc == 2 then
        let ok := match args.getD 1 .null with
          | .float t =>
            let x := (readReal (Bytes.ofString t)).1
            !(Binary64.lt (Binary64.ofInt 1) x)
          | _ => false
        if !ok then
          throw (Fault.error ("second argument to " ++ name ++
            "() must be a constant between 0.0 and 1.0"))
    let isAgg := match found with
      | .found (.aggregate _) | .found (.window _) => true
      | _ => false
    let windowOnly := match found with
      | .found (.window _) => true
      | _ => false
    let known := match found with
      | .missing => false
      | _ => true
    if windowSpec.isSome && known && !isAgg then
      throw (Fault.error (name ++ "() may not be used as a window function"))
    if isAgg && (!ctx.aggregates || (windowOnly && windowSpec.isNone) || (windowSpec.isSome && !ctx.windows)) then
      throw (Fault.error ("misuse of " ++ (if windowOnly || windowSpec.isSome then "window" else "aggregate") ++
        " function " ++ name ++ "()"))
    match found with
    | .missing => throw (Fault.noSuchFunction name)
    | .wrongCount _ => throw (Fault.argumentCount name)
    | .found kind =>
      if !isAgg && filter.isSome then
        throw (Fault.error ("FILTER may not be used with non-aggregate " ++ name ++ "()"))
      if !isAgg && !orderBy.isEmpty then
        throw (Fault.error ("ORDER BY may not be used with non-aggregate " ++ name ++ "()"))
      if let some place := ctx.restriction then
        if !kind.deterministic then
          throw (Fault.error ("non-deterministic functions prohibited in " ++ place))
      let go := bindExpr sub fuel ctx
      match kind with
      | .scalar b => do
        let bound ← args.mapM go
        let coll := if kind.needsCollation then
            ((bound.find? (·.2.collation.isSome)).bind (·.2.collation)).getD .binary
          else .binary
        pure (.call b coll (bound.map (·.1)), TermInfo.inherit (bound.map (·.2)))
      | .coalesce => do
        let bound ← args.mapM go
        pure (.coalesce (bound.map (·.1)), TermInfo.inherit (bound.map (·.2)))
      | .choice => do
        let bound ← args.mapM go
        let ts := bound.map (·.1)
        let rec pairs : List Term → List (Term × Term) × Option Term
          | c :: v :: rest => let (ps, o) := pairs rest; ((c, v) :: ps, o)
          | [o] => ([], some o)
          | [] => ([], none)
        let (ps, o) := pairs ts
        pure (.case ps o, TermInfo.inherit (bound.map (·.2)))
      | .passThrough => do
        let bound ← args.mapM go
        let (t, i) := bound.headD (.const .null, {})
        pure (t, { TermInfo.inherit (bound.map (·.2)) with baseName := i.baseName })
      | .aggregate f =>
        let marked (r : Term × TermInfo) : Term × TermInfo :=
          if f.givesJson then (.call (.json .mark f.givesBinary) .binary [r.1], r.2) else r
        match windowSpec with
        | some w => marked <$> bindWindowCall sub fuel ctx (.aggregate f) distinct args filter w
        | none => do
          if distinct && argc != 1 then
            throw (Fault.error "DISTINCT aggregates must have exactly one argument")
          if ctx.lateAggregates then deferFault (Fault.error ("misuse of aggregate: " ++ name ++ "()"))
          let argCtx : ExprCtx := { ctx with aggregates := false, windows := false }
          let f := if f == .count && argc == 0 then .countAll else f
          let saved ← get
          let before := saved.refs.length
          let slot ← bindAggregateHere sub fuel argCtx f distinct args orderBy filter
          let owner ← ownerLevel before
          let cur := saved.levels.length - 1
          if owner < cur then
            -- the call belongs to an outer level: bind it again from there
            set saved
            let slot ← withOuterLevels (owner + 1)
              (bindAggregateHere sub fuel argCtx f distinct args orderBy filter)
            pure (marked (.aggregate (cur - owner) slot, {}))
          else pure (marked (.aggregate 0 slot, {}))
      | .window f =>
        match windowSpec with
        | some w => bindWindowCall sub fuel ctx (.rank f) distinct args filter w
        | none => throw (Fault.error ("misuse of window function " ++ name ++ "()"))

/-- Bind a window function call and give it to the innermost level. -/
def bindWindowCall (sub : QueryBinder) : Nat → ExprCtx → WindowFn → Bool → List Expr →
    Option Expr → Window → BindM (Term × TermInfo)
  | 0, _, _, _, _, _, _ => throw Fault.tooDeep
  | fuel + 1, ctx, fn, distinct, args, filter, windowSpec => do
    if (fn matches .rank _) && filter.isSome then
      throw (Fault.error "FILTER clause may only be used with aggregate window functions")
    if distinct then throw (Fault.error "DISTINCT is not supported for window functions")
    let wctx : ExprCtx := { ctx with windows := false }
    let go := bindExpr sub fuel wctx
    let bound ← args.mapM go
    let tfilter ← filter.mapM go
    let defs := (← topLevel).windowDefs
    let (partition, order, frame) ← match resolveWindow defs windowSpec with
      | .ok r => pure r
      | .error f => throw f
    let parts ← partition.mapM go
    let keys ← bindOrderTerms sub fuel wctx order
    let offset (e : Expr) : BindM Term := do
      if Expr.isConstant 64 e then pure (← go e).1 else pure (.const .null)
    let edge (b : FrameBound) : BindM FrameEdge := do
      match b with
      | .unboundedPreceding => pure .unboundedPreceding
      | .preceding e => pure (.preceding (← offset e))
      | .currentRow => pure .currentRow
      | .following e => pure (.following (← offset e))
      | .unboundedFollowing => pure .unboundedFollowing
    let (unit, start, finish, exclusion, framed) ← match frame with
      | some (.mk u s f x) => do pure (u, ← edge s, ← edge f, x, true)
      | none => pure (FrameUnit.range, FrameEdge.unboundedPreceding, FrameEdge.currentRow,
          FrameExclusion.noOthers, false)
    let offsetEdge (e : FrameEdge) : Bool := e matches .preceding _ || e matches .following _
    if unit == .range && (offsetEdge start || offsetEdge finish) && keys.length != 1 then
      throw (Fault.error "RANGE with offset PRECEDING/FOLLOWING requires exactly one ORDER BY term")
    let coll := match fn with
      | .aggregate .min | .aggregate .max =>
        ((bound.find? (·.2.collation.isSome)).bind (·.2.collation)).getD .binary
      | _ => .binary
    let fn := match fn with
      | .aggregate f => .aggregate (f.withArgs (bound.map (·.1)))
      | r => r
    let call : WindowCall :=
      { fn, args := bound.map (·.1),
        partitionBy := parts.map fun (t, i) => (t, i.collationOr), orderBy := keys, unit, start,
        finish, exclusion, filter := tfilter.map (·.1), collation := coll, framed }
    let slot ← registerWindow call
    pure (.window slot, {})

end

/-- Bind an expression with fresh fuel. -/
def bindTerm (sub : QueryBinder) (ctx : ExprCtx) (e : Expr) : BindM (Term × TermInfo) :=
  bindExpr sub exprFuel ctx e

end Database

end EntityGraph
