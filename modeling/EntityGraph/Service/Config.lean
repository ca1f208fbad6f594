import EntityGraph.Service.Query

/-!
# The request service: configuration

Read an engine configuration from its document (or start from the defaults), apply builder
calls in order, and answer with the configuration's document.
-/

namespace EntityGraph

namespace Service

/-- Apply one configuration builder call `[name, argument]`. -/
def configCall (c : EngineConfig) (b : Json) : Decode EngineConfig := do
  match ← asArr b with
  | [n, a] =>
    match ← asStr n with
    | "cache" => pure (c.withCache { capacityPerEntity := ← asNat a })
    | "capacity_per_entity" => pure (c.withCache { c.cache with capacityPerEntity := ← asNat a })
    | "auto_begin" => pure (c.withSession { c.session with autoBegin := ← asBool a })
    | "lock_loaded" => pure (c.withSession { c.session with lockLoaded := ← asBool a })
    | "max_tree_depth" => pure (c.withSession { c.session with maxTreeDepth := ← asNat a })
    | "compile" => pure (c.withCompile (← optionsOf (some a)))
    | other => throw ("unknown config builder " ++ other)
  | _ => throw "bad config builder"

/-- Read a configuration, apply builder calls, and answer with the result. -/
def configReport (req : Json) : Decode Json := do
  let start ← match field? req "json" with
    | some t => pure (EngineConfig.ofText (← asStr t))
    | none => pure (.ok {})
  match start with
  | .error e => pure e.toAnswer
  | .ok c =>
    let c ← (← listField req "builders").foldlM configCall c
    pure (okAnswer c.toJson)

end Service

end EntityGraph
