import EntityGraph.Database.Define

/-!
# The write monad and triggers

Writes run against a catalog in a state monad (`WriteM`) whose faults keep the state they were
raised in, so that a statement can keep or undo its changes as its conflict action says. The
state also carries what a statement reports (the last inserted row id, the counts of changed
rows) and the counts of rows breaking foreign keys (`ForeignKeys`).

Triggers fire for each row before and after it is written, the latest made first; a trigger
does not fire again while it runs. `RAISE(IGNORE)` in a trigger before a row is written leaves
the row alone. The statements of a trigger are run by a runner passed in (`StatementRunner`),
so that this module does not depend on how statements are dispatched.

Rules that fix the results:
- The last inserted row id and the count of changed rows are put back after a trigger; the rows a
  trigger changed count only towards `total_changes()`.
- Temporary triggers fire before those of the main schema.
-/

namespace EntityGraph

namespace Database

/-- What a write keeps while it runs. -/
structure WriteState where
  catalog : Catalog
  params : Array Datum := #[]
  lastRowid : Int64 := 0
  /-- The count of rows changed by the statement before this one, for `changes()`. -/
  priorChanges : Nat := 0
  /-- The count of rows this statement changed. -/
  changes : Nat := 0
  /-- The count of rows changed by the statements before this one, for `total_changes()`. -/
  totalChanges : Nat := 0
  /-- The count of rows changed by the triggers (and foreign key actions) that ran to their end
  in this statement, which `total_changes()` counts even when the statement fails. -/
  triggerChanges : Nat := 0
  seed : Nat := 0
  /-- Whether a fault keeps the changes made so far (an `OR FAIL` conflict). -/
  keepOnFault : Bool := false
  /-- Whether a fault also undoes the open transaction (`OR ROLLBACK`). -/
  rollback : Bool := false
  /-- The triggers running, which do not fire again. -/
  firing : List String := []
  /-- Whether foreign keys are enforced. -/
  foreignKeys : Bool := true
  /-- Whether every foreign key waits for the end of the transaction (`defer_foreign_keys`). -/
  deferAll : Bool := false
  /-- Whether the statement runs inside a transaction opened explicitly. -/
  inTransaction : Bool := false
  /-- Rows breaking an immediate foreign key, counted over the statement. -/
  immediateBreaks : Int := 0
  /-- Rows breaking a deferred foreign key, counted over the transaction. -/
  deferredBreaks : Int := 0
  /-- Rows breaking a foreign key while every key is deferred, counted over the transaction. -/
  postponedBreaks : Int := 0

/-- The write monad: faults keep the state they were raised in. -/
abbrev WriteM := ExceptT Fault (StateM WriteState)

/-- The evaluation context of the current state. -/
def WriteState.context (s : WriteState) : EvalContext :=
  { catalog := s.catalog, params := s.params, lastRowid := s.lastRowid, changes := s.priorChanges,
    totalChanges := s.totalChanges, seed := s.seed }

/-- Take the value of a computation that may fail. -/
def liftFault {α : Type} (r : Except Fault α) : WriteM α :=
  match r with
  | .ok a => pure a
  | .error f => throw f

/-- Where a statement runs: the levels around it (a trigger's `old` and `new`), their rows,
the schema its tables are looked up in, whether it is part of a trigger, and the common table
expressions it defines. -/
structure StatementScope where
  levels : List Level := []
  env : Env := []
  fixedSchema : Option SchemaId := none
  inTrigger : Bool := false
  /-- The common table expressions of the statement's `WITH` clause. -/
  ctes : List CommonTable := []
  /-- Only bind the statement, as preparing it does, without running it. -/
  prepareOnly : Bool := false

/-- Bind in the current catalog, from the levels of a scope. -/
def bindIn {α : Type} (scope : StatementScope) (act : BindM α) : WriteM α := do
  let s ← get
  let start : BindState :=
    { levels := scope.levels, fixedSchema := scope.fixedSchema, inTrigger := scope.inTrigger }
  match ((withCtes scope.ctes act).run s.catalog).run start with
  | .ok (a, bs) =>
    match bs.deferred with
    | some f => throw f
    | none => pure a
  | .error f => throw f

/-- Bind in the current catalog with one more level inside those of a scope. -/
def bindOver {α : Type} (scope : StatementScope) (level : Level) (act : BindM α) : WriteM α :=
  bindIn scope (do
    let (a, _) ← withLevel level act
    pure a)

/-- Bind an expression over one level inside those of a scope. -/
def bindTermOver (scope : StatementScope) (level : Level) (ctx : ExprCtx) (e : Expr) : WriteM Term := do
  let (t, _) ← bindOver scope level (bindExprTerm ctx e)
  pure t

/-- The value of a term in the current state. -/
def evalIn (env : Env) (t : Term) : WriteM Datum := do
  liftFault (Term.eval (← get).context env t)

/-- The rows of a plan in the current state. -/
def planRows (env : Env) (p : Plan) : WriteM (List (List Datum)) := do
  liftFault (Plan.rows (← get).context env p)

/-- Replace the fixed subqueries of a term by their values in the current state: a scalar or
`EXISTS` subquery by its value, the query of an `IN` by its rows. -/
def settleFixed : Nat → Env → Term → WriteM Term
  | 0, _, t => pure t
  | fuel + 1, env, t =>
    let go := settleFixed fuel env
    match t with
    | .fixed (.inPlan n ts affs colls p) => do
      let rows ← planRows env p
      let items ← ts.mapM go
      pure (.inPlan n items affs colls { first := .values (rows.map (·.map Term.const)) })
    | .fixed s => do pure (.const (← evalIn env s))
    | .neg a => .neg <$> go a
    | .not a => .not <$> go a
    | .bitNot a => .bitNot <$> go a
    | .and a b => .and <$> go a <*> go b
    | .or a b => .or <$> go a <*> go b
    | .arith op a b => .arith op <$> go a <*> go b
    | .bits op a b => .bits op <$> go a <*> go b
    | .concat a b => .concat <$> go a <*> go b
    | .compare op aff coll a b => .compare op aff coll <$> go a <*> go b
    | .compareRows op affs colls a b => .compareRows op affs colls <$> a.mapM go <*> b.mapM go
    | .truth a v n => (Term.truth · v n) <$> go a
    | .isNull n a => .isNull n <$> go a
    | .inList n a aff coll items => do pure (.inList n (← go a) aff coll (← items.mapM go))
    | .inPlan n ts affs colls p => do pure (.inPlan n (← ts.mapM go) affs colls p)
    | .call fn coll args => .call fn coll <$> args.mapM go
    | .coalesce args => .coalesce <$> args.mapM go
    | .case bs o => do
      pure (.case (← bs.mapM fun (c, v) => do pure (← go c, ← go v)) (← o.mapM go))
    | .cast aff a => .cast aff <$> go a
    | other => pure other

/-- What running a statement gave: rows with their column names, or nothing. -/
inductive Outcome where
  | rows (names : List String) (rows : List (List Datum))
  | done
  deriving Inhabited

/-- Runs a statement of a trigger. -/
abbrev StatementRunner := StatementScope → Statement → WriteM Outcome

/-- A stored row as a source row. -/
def Table.sourceRow (t : Table) (r : StoredRow) : SourceRow :=
  { rowid := if t.withoutRowid then none else some r.rowid, values := r.values }

/-- The frame of one stored row. -/
def Table.frame (t : Table) (r : StoredRow) : RowFrame :=
  { sources := #[some (t.sourceRow r)] }

/-- The table a statement writes, looked up as the scope says. -/
def writeTarget (scope : StatementScope) (q : QualifiedName) :
    WriteM (Option (SchemaId × Table) × Option (SchemaId × View)) := do
  let c := (← get).catalog
  let schema ← match q.schema with
    | some s =>
      match Catalog.schemaOf? s with
      | some id => pure (some id)
      | none => throw (Fault.noSuchTable (s ++ "." ++ q.name))
    | none => pure scope.fixedSchema
  pure (c.findTable? schema q.name, c.findView? schema q.name)

/-- The current state of a table. -/
def currentTable (id : SchemaId) (name : String) : WriteM Table := do
  match ((← get).catalog.schema id).table? name with
  | some t => pure t
  | none => throw (Fault.noSuchTable name)

/-- Store a table's new state. -/
def saveTable (id : SchemaId) (t : Table) : WriteM Unit :=
  modify fun s => { s with catalog := s.catalog.setTable id t }

/-- Fail with a fault under a conflict action. -/
def failUnder {α : Type} (action : ConflictAction) (f : Fault) : WriteM α := do
  match action with
  | .fail => modify fun s => { s with keepOnFault := true }
  | .rollback => modify fun s => { s with rollback := true }
  | _ => pure ()
  throw f

/-- The pseudo source of a trigger's `old` or `new` row, named only when it exists. -/
def pseudoScope (t : Table) (name : String) : ScopeSource :=
  { name, columns := (tableScope .main t none).columns, hasRowid := !t.withoutRowid,
    rowidColumn := t.rowidColumn, pseudo := true }

/-- The name of the row id column for messages. -/
def Table.rowidName (t : Table) : String :=
  match t.rowidColumn with
  | some j => (t.column j).name
  | none => "rowid"

/-- The events a trigger may fire on. -/
inductive WriteEvent where
  | insert
  | update (columns : List Nat)
  | delete

/-- Whether a trigger fires for an event. -/
def Trigger.firesOn (tr : Trigger) (t : Table) (time : TriggerTime) : WriteEvent → Bool
  | .insert => tr.time == time && (tr.event matches .insert)
  | .delete => tr.time == time && (tr.event matches .delete)
  | .update changed =>
    tr.time == time &&
      match tr.event with
      | .update none => true
      | .update (some cols) => cols.any fun n => match t.columnIndex? n with
        | some j => changed.contains j
        | none => false
      | _ => false

/-- The triggers on a table, in firing order: temporary ones, then main ones, latest made
first. -/
def triggersFor (c : Catalog) (table : String) : List (SchemaId × Trigger) :=
  ((c.temp.triggersOn table).reverse.map (SchemaId.temp, ·)) ++
    ((c.main.triggersOn table).reverse.map (SchemaId.main, ·))

/-- Fire the triggers of an event on a table for one row: false when one of them said
`RAISE(IGNORE)`. -/
def fireTriggers (run : StatementRunner) (t : Table) (time : TriggerTime) (event : WriteEvent)
    (old new : Option SourceRow) : WriteM Bool := do
  let all := triggersFor (← get).catalog t.name
  let chosen := all.filter fun (_, tr) => tr.firesOn t time event
  if chosen.isEmpty then return true
  let saved ← get
  let oldName := if old.isSome then "old" else ""
  let newName := if new.isSome then "new" else ""
  let level : Level := { sources := #[pseudoScope t oldName, pseudoScope t newName] }
  let frame : RowFrame := { sources := #[old, new] }
  let mut proceed := true
  for (id, tr) in chosen do
    if proceed && !((← get).firing.any (sameName · tr.name)) then
      let scope : StatementScope :=
        { levels := [level], env := [frame], fixedSchema := if id == .main then some .main else none,
          inTrigger := true }
      let fires ← match tr.condition with
        | some cond => do
          let term ← bindTermOver scope {} {} cond
          pure ((← evalIn ({ sources := #[] } :: scope.env) term).truth false)
        | none => pure true
      if fires then
        modify fun s => { s with firing := tr.name :: s.firing }
        let before := (← get).changes
        let mut ignored := false
        for st in tr.body do
          if !ignored then
            try
              let _ ← run scope st
            catch f =>
              if f.code == Fault.ignoreRow.code && f.message == Fault.ignoreRow.message then
                ignored := true
              else
                modify fun s => { s with firing := s.firing.drop 1 }
                throw f
        modify fun s => { s with firing := s.firing.drop 1,
                                 triggerChanges := s.triggerChanges + (s.changes - before) }
        if ignored then proceed := false
  modify fun s => { s with lastRowid := saved.lastRowid, changes := saved.changes }
  pure proceed

end Database

end EntityGraph
