/-!
# Errors

Every failure of the library is one `Error`: a cause with the data that names it. The text a
failure shows is `Error.message`, built in one place from that data, and `Error.detail` is the
text of the cause alone, without the prefix that names the family of the error.

- Schema errors come from building a registry, and name the entity at fault.
- Build errors come from compiling queries and binding their parameters.
- Database errors come from the store, and carry the statement that failed once one is known.
- Locked, type and session errors come from editing and saving instances.
-/

namespace EntityGraph

/-- Why a registry could not be built. -/
inductive SchemaFault where
  | duplicateColumn
  | duplicateEntity
  | invalidIdentifier
  | missingPrimaryKey
  | multiplePrimaryKeys
  | unknownEntity
  | unknownColumn
  | hierarchyCycle
  | invalidRelation
  deriving DecidableEq, Inhabited, Repr

/-- Why a query could not be compiled or bound. -/
inductive BuildFault where
  | unknownEntity
  | unknownColumn
  | unknownRelation
  | malformedFilter
  | unboundParameter
  deriving DecidableEq, Inhabited, Repr

/-- What kind of failure the store reported. -/
inductive StoreFault where
  | constraint
  | busy
  | invalidStatement
  | connection
  | other
  deriving DecidableEq, Inhabited, Repr

/-- How a session was misused. -/
inductive SessionFault where
  | unknownInstance
  | relationKind
  | notPersisted
  | noTransaction
  deriving DecidableEq, Inhabited, Repr

/-- A failure of the library. -/
inductive Error where
  /-- Inconsistent entity descriptors, found while building a registry. -/
  | schema (fault : SchemaFault) (entity : Option String) (message : String)
  /-- A query that cannot be compiled, or parameters that cannot be bound. -/
  | build (fault : BuildFault) (entity column : Option String) (message : String)
  /-- A failure reported by the store, with the statement that failed and an underlying cause. -/
  | database (fault : StoreFault) (sql : Option String) (message : String) (source : Option String)
  /-- A write to a locked instance. -/
  | locked (entity column : String)
  /-- A value of the wrong kind for a column. -/
  | type (expected actual : String) (column : Option String)
  /-- A session used the wrong way. -/
  | session (fault : SessionFault) (message : String)
  /-- A document that could not be read. -/
  | document (message : String)
  /-- Any other failure, shown by its message alone. -/
  | custom (message : String)
  deriving Inhabited, Repr

namespace Error

/-- A schema error on one entity. -/
def onEntity (fault : SchemaFault) (entity : String) (message : String) : Error :=
  .schema fault (some entity) message

/-- A build error that names neither entity nor column. -/
def buildPlain (fault : BuildFault) (message : String) : Error :=
  .build fault none none message

/-- The text of the cause alone. -/
def detail : Error → String
  | .schema _ entity message =>
    match entity with
    | some e => e ++ ": " ++ message
    | none => message
  | .build _ entity column message =>
    match entity, column with
    | some e, some c => e ++ "." ++ c ++ ": " ++ message
    | some e, none => e ++ ": " ++ message
    | _, _ => message
  | .database _ sql message _ =>
    match sql with
    | some s => message ++ " (while executing `" ++ s ++ "`)"
    | none => message
  | .locked entity column => "cannot set '" ++ column ++ "' on a locked " ++ entity ++ " instance"
  | .type expected actual column =>
    match column with
    | some c => "expected " ++ expected ++ " for column '" ++ c ++ "', found " ++ actual
    | none => "expected " ++ expected ++ ", found " ++ actual
  | .session _ message => message
  | .document message => message
  | .custom message => message

/-- The full text of an error. -/
def message : Error → String
  | e@(.schema ..) => "Schema error: " ++ e.detail
  | e@(.build ..) => "Query build error: " ++ e.detail
  | e@(.database ..) => "Database error: " ++ e.detail
  | e@(.locked ..) => "Locked instance: " ++ e.detail
  | .type expected actual column =>
    match column with
    | some c => "Type error in column '" ++ c ++ "': expected " ++ expected ++ ", found " ++ actual
    | none => "Type error: expected " ++ expected ++ ", found " ++ actual
  | .session _ message => "Session error: " ++ message
  | .document message => "Serialization error: " ++ message
  | .custom message => message

/-- The statement a database error carries. -/
def sql? : Error → Option String
  | .database _ sql _ _ => sql
  | _ => none

/-- Attach a statement to a database error that carries none yet; other errors are unchanged. -/
def withSql (sql : String) : Error → Error
  | .database fault none message source => .database fault (some sql) message source
  | e => e

/-- Whether the store refused a write for a constraint. -/
def isConstraintViolation : Error → Bool
  | .database .constraint .. => true
  | _ => false

/-- Whether the store was busy, so that trying again may succeed. -/
def isRetryable : Error → Bool
  | .database .busy .. => true
  | _ => false

/-- The underlying cause of a database error. -/
def source? : Error → Option String
  | .database _ _ _ source => source
  | _ => none

end Error

end EntityGraph
