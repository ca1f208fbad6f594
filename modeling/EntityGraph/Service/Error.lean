import EntityGraph.Service.Basic
import EntityGraph.Error
import EntityGraph.Schema.ColumnType

/-!
# The request service: errors

An error of the library is answered as an object naming its variant (`Schema`, `Build`,
`Database`, `Locked`, `Type`, `Session`, `Serde`, `Custom`), its kind for the variants that have
kinds, and its full message. Reports on store operations add the statement text, whether the
error is a constraint violation and whether retrying may help.
-/

namespace EntityGraph

/-- The name of a schema fault. -/
def SchemaFault.name : SchemaFault → String
  | .duplicateColumn => "DuplicateColumn"
  | .duplicateEntity => "DuplicateEntity"
  | .invalidIdentifier => "InvalidIdentifier"
  | .missingPrimaryKey => "MissingPrimaryKey"
  | .multiplePrimaryKeys => "MultiplePrimaryKeys"
  | .unknownEntity => "UnknownEntity"
  | .unknownColumn => "UnknownColumn"
  | .hierarchyCycle => "HierarchyCycle"
  | .invalidRelation => "InvalidRelation"

/-- The name of a query-building fault. -/
def BuildFault.name : BuildFault → String
  | .unknownEntity => "UnknownEntity"
  | .unknownColumn => "UnknownColumn"
  | .unknownRelation => "UnknownRelation"
  | .malformedFilter => "MalformedFilter"
  | .unboundParameter => "UnboundParameter"

/-- The name of a store fault. -/
def StoreFault.name : StoreFault → String
  | .constraint => "Constraint"
  | .busy => "Busy"
  | .invalidStatement => "Syntax"
  | .connection => "Connection"
  | .other => "Other"

/-- The name of a session fault. -/
def SessionFault.name : SessionFault → String
  | .unknownInstance => "UnknownInstance"
  | .relationKind => "RelationKind"
  | .notPersisted => "NotPersisted"
  | .noTransaction => "NoTransaction"

namespace Error

/-- The variant of an error and its kind, for variants that have kinds. -/
def variantAndKind : Error → String × Option String
  | .schema k .. => ("Schema", some k.name)
  | .build k .. => ("Build", some k.name)
  | .database k .. => ("Database", some k.name)
  | .locked .. => ("Locked", none)
  | .type .. => ("Type", none)
  | .session k .. => ("Session", some k.name)
  | .document .. => ("Serde", none)
  | .custom .. => ("Custom", none)

/-- The members every error answer has. -/
def answerFields (e : Error) : List (String × Json) :=
  let (v, k) := e.variantAndKind
  [("error", .str v), ("message", .str e.message)] ++
    (match k with
     | some k => [("kind", .str k)]
     | none => [])

/-- The answer for an error. -/
def toAnswer (e : Error) : Json := Json.object e.answerFields

/-- The answer for an error of a store operation: with the statement, whether it is a constraint
violation, and whether it may be retried. -/
def toReport (e : Error) : Json :=
  Json.object (e.answerFields ++ [("sql", Service.optStr e.sql?),
    ("constraint", .bool e.isConstraintViolation), ("retryable", .bool e.isRetryable)])

end Error

namespace Service

/-- A schema fault by name. -/
def schemaFaultOf (s : String) : Decode SchemaFault :=
  match [SchemaFault.duplicateColumn, .duplicateEntity, .invalidIdentifier, .missingPrimaryKey,
    .multiplePrimaryKeys, .unknownEntity, .unknownColumn, .hierarchyCycle, .invalidRelation].find?
      (·.name == s) with
  | some k => pure k
  | none => throw "bad schema kind"

/-- A query-building fault by name. -/
def buildFaultOf (s : String) : Decode BuildFault :=
  match [BuildFault.unknownEntity, .unknownColumn, .unknownRelation, .malformedFilter,
    .unboundParameter].find? (·.name == s) with
  | some k => pure k
  | none => throw "bad build kind"

/-- A store fault by name. -/
def storeFaultOf (s : String) : Decode StoreFault :=
  match [StoreFault.constraint, .busy, .invalidStatement, .connection, .other].find?
      (·.name == s) with
  | some k => pure k
  | none => throw "bad database kind"

/-- A session fault by name. -/
def sessionFaultOf (s : String) : Decode SessionFault :=
  match [SessionFault.unknownInstance, .relationKind, .notPersisted, .noTransaction].find?
      (·.name == s) with
  | some k => pure k
  | none => throw "bad session kind"

/-- An error report with the source of the error as well. -/
def errorWithSource (e : Error) : Json :=
  match e.toReport with
  | .obj fs => .obj (Json.setField "source" (optStr e.source?) fs)
  | j => j

/-- Build an error as the request describes and report on it: its answer, the text of its inner
part (for errors not built by a shorthand), and its answers after attaching statements one by
one. -/
def errorReport (req : Json) : Decode Json := do
  let variant ← strField req "variant"
  let helper ← boolField req "helper" false
  let message := (← optStrField req "message").getD ""
  let entity ← optStrField req "entity"
  let column ← optStrField req "column"
  let (err, inner) ← match variant with
    | "Schema" => do
      let k ← schemaFaultOf (← strField req "kind")
      if helper then pure (Error.onEntity k (entity.getD "") message, false)
      else pure (Error.schema k entity message, true)
    | "Build" => do
      let k ← buildFaultOf (← strField req "kind")
      if helper then pure (Error.buildPlain k message, false)
      else pure (Error.build k entity column message, true)
    | "Database" => do
      let k ← storeFaultOf (← strField req "kind")
      pure (Error.database k (← optStrField req "sql") message (← optStrField req "source"), true)
    | "Locked" => pure (Error.locked (entity.getD "") (column.getD ""), true)
    | "Type" => do
      let t ← match ColumnType.ofName? (← strField req "expected") with
        | some t => pure t
        | none => throw "unknown column type"
      pure (Error.type t.sqlName (← strField req "actual") column, true)
    | "Session" => do
      let k ← sessionFaultOf (← strField req "kind")
      pure (Error.session k message, !helper)
    | "Serde" => do
      match Json.parse (← strField req "json") with
      | .error m => pure (Error.document m, false)
      | .ok _ => throw "json parsed"
    | "Custom" => pure (Error.custom message, false)
    | _ => throw "unknown variant"
  let base := [("error", errorWithSource err), ("inner", if inner then str err.detail else .null)]
  match field? req "with_sql" with
  | none => pure (obj base)
  | some sqls => do
    let sqls ← (← asArr sqls).mapM asStr
    let (_, reports) := sqls.foldl (fun (e, acc) s =>
      let e' := e.withSql s
      (e', acc ++ [errorWithSource e'])) (err, [])
    pure (obj (base ++ [("with_sql", .arr reports)]))

end Service

end EntityGraph
