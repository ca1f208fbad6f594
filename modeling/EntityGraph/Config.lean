import EntityGraph.Json.Typed
import EntityGraph.Query.Query
import EntityGraph.Error

/-!
# Engine configuration

How an engine is set up: how many rows the row cache keeps per entity, how sessions behave
(whether saving and deleting open a transaction by themselves, whether fetched instances start
locked, how deep tree exports follow relations), and the options queries are compiled with.

A configuration is read from a JSON document in which every part may be left out and then
keeps its default, and is written back as a document with every field.
-/

namespace EntityGraph

/-- Row-cache retention. -/
structure RowCacheConfig where
  /-- Rows kept per entity before the least recently used one is dropped; `0` keeps none. -/
  capacityPerEntity : Nat := 10000
  deriving DecidableEq, Inhabited, Repr

/-- Session behaviour. -/
structure SessionConfig where
  /-- Whether saving and deleting open a transaction when none is open. -/
  autoBegin : Bool := true
  /-- Whether instances made by a fetch start out locked. -/
  lockLoaded : Bool := false
  /-- The depth at which tree exports stop following relations. -/
  maxTreeDepth : Nat := 4
  deriving DecidableEq, Inhabited, Repr

/-- Everything an engine is configured with. -/
structure EngineConfig where
  cache : RowCacheConfig := {}
  session : SessionConfig := {}
  compile : CompileOptions := {}
  deriving DecidableEq, Inhabited, Repr

namespace RowCacheConfig

/-- The fields of a row-cache configuration in a document. -/
def fields : List (JsonRead.FieldReader RowCacheConfig) :=
  [⟨"capacity_per_entity", fun c => do pure { c with capacityPerEntity := ← JsonRead.natural }⟩]

/-- Read a row-cache configuration. -/
def reader : JsonRead RowCacheConfig := JsonRead.record "RowCacheConfig" fields {}

/-- The configuration as a document. -/
def toJson (c : RowCacheConfig) : Json := Json.object [("capacity_per_entity", Json.int c.capacityPerEntity)]

end RowCacheConfig

namespace SessionConfig

/-- The fields of a session configuration in a document. -/
def fields : List (JsonRead.FieldReader SessionConfig) :=
  [⟨"auto_begin", fun c => do pure { c with autoBegin := ← JsonRead.boolean }⟩,
   ⟨"lock_loaded", fun c => do pure { c with lockLoaded := ← JsonRead.boolean }⟩,
   ⟨"max_tree_depth", fun c => do pure { c with maxTreeDepth := ← JsonRead.natural }⟩]

/-- Read a session configuration. -/
def reader : JsonRead SessionConfig := JsonRead.record "SessionConfig" fields {}

/-- The configuration as a document. -/
def toJson (c : SessionConfig) : Json :=
  Json.object [("auto_begin", .bool c.autoBegin), ("lock_loaded", .bool c.lockLoaded),
    ("max_tree_depth", Json.int c.maxTreeDepth)]

end SessionConfig

namespace CompileOptions

/-- The dialects by their names in documents, in declaration order. -/
def dialects : List Dialect := [.question, .numbered]

/-- The fields of compile options in a document. -/
def fields : List (JsonRead.FieldReader CompileOptions) :=
  [⟨"dialect", fun c => do
      let i ← JsonRead.variant (dialects.map (·.name))
      pure { c with dialect := dialects[i]?.getD .question }⟩,
   ⟨"schema", fun c => do pure { c with schema := ← JsonRead.optionalText }⟩]

/-- Read compile options. -/
def reader : JsonRead CompileOptions := JsonRead.record "CompileOptions" fields {}

/-- The options as a document. -/
def toJson (c : CompileOptions) : Json :=
  Json.object [("dialect", .str c.dialect.name),
    ("schema", match c.schema with
      | some s => .str s
      | none => .null)]

/-- Read compile options from a whole text; a fault is a serialization error. -/
def ofText (s : String) : Except Error CompileOptions :=
  (JsonRead.readDocument reader s).mapError Error.document

end CompileOptions

namespace EngineConfig

/-- The fields of an engine configuration in a document. -/
def fields : List (JsonRead.FieldReader EngineConfig) :=
  [⟨"cache", fun c => do pure { c with cache := ← RowCacheConfig.reader }⟩,
   ⟨"session", fun c => do pure { c with session := ← SessionConfig.reader }⟩,
   ⟨"compile", fun c => do pure { c with compile := ← CompileOptions.reader }⟩]

/-- Read an engine configuration. -/
def reader : JsonRead EngineConfig := JsonRead.record "EngineConfig" fields {}

/-- Read an engine configuration from a whole text; a fault is a serialization error. -/
def ofText (s : String) : Except Error EngineConfig :=
  (JsonRead.readDocument reader s).mapError Error.document

/-- The configuration as a document. -/
def toJson (c : EngineConfig) : Json :=
  Json.object [("cache", c.cache.toJson), ("session", c.session.toJson),
    ("compile", c.compile.toJson)]

/-- Replace the row-cache configuration. -/
def withCache (c : EngineConfig) (cache : RowCacheConfig) : EngineConfig := { c with cache }

/-- Replace the session configuration. -/
def withSession (c : EngineConfig) (session : SessionConfig) : EngineConfig := { c with session }

/-- Replace the compile options. -/
def withCompile (c : EngineConfig) (compile : CompileOptions) : EngineConfig := { c with compile }

end EngineConfig

end EntityGraph
