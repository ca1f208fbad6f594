import EntityGraph.Service.Config
import EntityGraph.Service.Graph
import EntityGraph.Service.Connection
import EntityGraph.Service.Session

/-!
# The request service

Answer one request line: read the document, run the operation it names, and write the answer.
A request that cannot be read or that the operation refuses is answered with
`{"error": "driver", "message": ...}`.
-/

namespace EntityGraph

namespace Service

/-- The answer to a request document. -/
def dispatch (req : Json) : Decode Json := do
  match ← strField req "op" with
  | "value" => okAnswer <$> valueReport req
  | "value_from" => okAnswer <$> convertedValue req
  | "identifier" => okAnswer <$> identifierReport req
  | "error" => okAnswer <$> errorReport req
  | "registry" => registryReport req
  | "mask" => maskSteps req
  | "model_row" => withRegistry req (modelRowSteps req)
  | "row" => resultRowReport req
  | "filter" => filterReport req
  | "compile" => withRegistry req (compileReport req)
  | "query" => withRegistry req (querySteps req)
  | "unique_lookups" => withRegistry req (uniqueLookupSteps req)
  | "config" => configReport req
  | "row_cache" => withRegistry req (rowCacheSteps req)
  | "materialize" => withRegistry req (materializeReport req)
  | "sqlite" => connectionSteps req
  | "sqlite_info" => storeInfoReport req
  | "session" => withRegistry req (sessionSteps req)
  | op => throw ("unknown op " ++ op)

/-- A refused request. -/
def refusal (message : String) : Json := obj [("error", str "driver"), ("message", str message)]

/-- The answer line to a request line. -/
def answer (line : String) : String :=
  match Json.parse line with
  | .error m => (refusal m).render
  | .ok req =>
    match dispatch req with
    | .ok j => j.render
    | .error m => (refusal m).render

end Service

end EntityGraph
