import EntityGraph.Service.Value
import EntityGraph.Service.Schema
import EntityGraph.Query.Cache
import EntityGraph.Config

/-!
# The request service: filters, queries and compiling

Filters are given as raw tokens (`{"tokens": [...]}`) or as builder calls applied in order to
the empty filter (`{"build": [[call, args...], ...]}`). A query names its entity and may carry a
filter, more filters joined with `AND`, joins (each with its own filters, ordering and joins),
an ordering of `[field, "asc" | "desc"]` pairs, a limit and an offset. Compile options are a
configuration document (`{"dialect", "schema"}`) or builder calls (`{"builder": [...]}`).

Nested filters and joins are read to at most the nesting depth of the request document, which
each level of nesting uses up.
-/

namespace EntityGraph

namespace Service

/-- An operator by name. -/
def operatorOf (s : String) : Decode Operator :=
  match Operator.ofName? s with
  | some o => pure o
  | none => throw ("unknown operator " ++ s)

/-- A parameter: `{"slot": n}` or `{"value": v}`. -/
def paramOf (j : Json) : Decode Param :=
  match field? j "slot" with
  | some n => .slot <$> asNat n
  | none => do .value <$> Value.ofTagged ((j.field? "value").getD .null)

mutual
/-- A filter token. -/
def tokenOf : (fuel : Nat) → Json → Decode FilterToken
  | 0, _ => throw "filter nested too deeply"
  | fuel + 1, j => do
    if let some c := field? j "col" then return .column (← asStr c)
    if let some o := field? j "op" then return .op (← operatorOf (← asStr o))
    if let some n := field? j "slot" then return .param (.slot (← asNat n))
    if let some f := j.field? "filter" then return .nested (← filterOf fuel f).tokens
    if let some v := j.field? "param" then return .param (.value (← Value.ofTagged v))
    throw "unknown token"

/-- Apply one builder call to a filter. -/
def applyCall : (fuel : Nat) → Filter → Json → Decode Filter
  | 0, _, _ => throw "filter nested too deeply"
  | fuel + 1, f, call => do
    let args ← asArr call
    let name ← match args with
      | n :: _ => asStr n
      | [] => throw "empty builder call"
    let arg (i : Nat) : Decode Json := match args[i]? with
      | some a => pure a
      | none => throw ("missing builder argument for " ++ name)
    let col : Decode String := do asStr (← arg 1)
    let val (i : Nat) : Decode Value := do Value.ofTagged (← arg i)
    match name with
    | "is" => return f.is (← col) (← val 2)
    | "is_slot" => return f.isSlot (← col) (← asNat (← arg 2))
    | "is_not" => return f.isNot (← col) (← val 2)
    | "is_null" => return f.isNull (← col)
    | "not_null" => return f.notNull (← col)
    | "like" => return f.like (← col) (← val 2)
    | "less_than" => return f.lessThan (← col) (← val 2)
    | "less_than_equal" => return f.lessThanEqual (← col) (← val 2)
    | "greater_than" => return f.greaterThan (← col) (← val 2)
    | "greater_than_equal" => return f.greaterThanEqual (← col) (← val 2)
    | "between" => return f.between (← col) (← val 2) (← val 3)
    | "compare" =>
      return f.compare (← col) (← operatorOf (← asStr (← arg 2))) (← paramOf (← arg 3))
    | "and" => return f.and (← filterOf fuel (← arg 1))
    | "or" => return f.or (← filterOf fuel (← arg 1))
    | "invert" => return f.invert
    | "push" => return f.push (← tokenOf fuel (← arg 1))
    | _ => throw ("unknown builder call " ++ name)

/-- A filter from raw tokens or builder calls. -/
def filterOf : (fuel : Nat) → Json → Decode Filter
  | 0, _ => throw "filter nested too deeply"
  | fuel + 1, j => do
    match field? j "tokens" with
    | some ts => return ⟨← (← asArr ts).mapM (tokenOf fuel)⟩
    | none =>
      match field? j "build" with
      | some calls => (← asArr calls).foldlM (applyCall fuel) Filter.empty
      | none => throw "filter needs tokens or build"
end

/-- A filter document. -/
def filter (j : Json) : Decode Filter := filterOf (j.depth + 1) j

/-- A token document. -/
def token (j : Json) : Decode FilterToken := tokenOf (j.depth + 1) j

mutual
/-- A token in answers: operators with their SQL, parameters as values or slots. -/
def tokenReport : FilterToken → Json
  | .column c => obj [("col", str c)]
  | .op o => obj [("op", str o.name), ("sql", str o.sql)]
  | .param (.value v) => obj [("param", v.toTagged)]
  | .param (.slot i) => obj [("slot", nat i)]
  | .nested ts => obj [("filter", .arr (tokensReport ts))]

/-- Tokens in answers. -/
def tokensReport : List FilterToken → List Json
  | [] => []
  | t :: ts => tokenReport t :: tokensReport ts
end

/-- A filter's tokens in answers. -/
def filterTokens (f : Filter) : Json := .arr (tokensReport f.tokens)

/-- Report on a filter. -/
def filterReport (req : Json) : Decode Json := do
  let f ← filter (← field req "filter")
  pure (okAnswer (obj [("tokens", filterTokens f), ("parameter_count", nat f.parameterCount),
    ("slot_count", nat f.slotCount), ("has_connective", .bool f.hasConnective),
    ("is_empty", .bool f.isEmpty)]))

/-- The filters of a query or join: `filter` first, then `filters`. -/
def filtersOf (j : Json) : Decode (List Filter) := do
  let one ← match field? j "filter" with
    | some f => pure [← filter f]
    | none => pure []
  let more ← match field? j "filters" with
    | some fs => (← asArr fs).mapM filter
    | none => pure []
  pure (one ++ more)

/-- An ordering term `[field, direction]`. -/
def orderOf (j : Json) : Decode OrderBy := do
  match ← asArr j with
  | [c, d] =>
    let dir ← match ← asStr d with
      | "asc" => pure Direction.asc
      | "desc" => pure Direction.desc
      | other => throw ("unknown direction " ++ other)
    pure ⟨← asStr c, dir⟩
  | _ => throw "bad order term"

/-- A join, its own joins read with the remaining nesting allowance. -/
def joinOf : (fuel : Nat) → Json → Decode Join
  | 0, _ => throw "joins nested too deeply"
  | fuel + 1, j => do
    let base := (← filtersOf j).foldl Join.addFilter (Join.new (← strField j "relation"))
    let order ← (← listField j "order").mapM orderOf
    let joins ← (← listField j "joins").mapM (joinOf fuel)
    pure { base with order := base.order ++ order, joins := base.joins ++ joins }

/-- A join document. -/
def join (j : Json) : Decode Join := joinOf (j.depth + 1) j

/-- A query on a given entity. -/
def queryOn (e : EntityId) (j : Json) : Decode Query := do
  let base := (← filtersOf j).foldl Query.addFilter (Query.new e)
  let order ← (← listField j "order").mapM orderOf
  let joins ← (← listField j "joins").mapM join
  pure { base with order, joins, limit := ← optNatField j "limit", offset := ← optNatField j "offset" }

/-- A query on the entity it names. -/
def queryOf (r : Registry) (j : Json) : Decode Query := do
  queryOn (← entityOf r (← strField j "entity")) j

/-- A dialect by name. -/
def dialectOf (s : String) : Decode Dialect :=
  match s with
  | "question" => pure .question
  | "numbered" => pure .numbered
  | _ => throw ("unknown dialect " ++ s)

/-- Compile options: builder calls, or a configuration document; absent or `null` gives the
defaults. -/
def optionsOf (j : Option Json) : Decode CompileOptions := do
  match j with
  | none | some .null => pure {}
  | some o =>
    match field? o "builder" with
    | some calls =>
      let step (acc : CompileOptions) (c : Json) : Decode CompileOptions := do
        match ← asArr c with
        | [n, a] =>
          match ← asStr n with
          | "dialect" => pure { acc with dialect := ← dialectOf (← asStr a) }
          | "schema" => pure { acc with schema := some (← asStr a) }
          | other => throw ("unknown options builder " ++ other)
        | _ => throw "bad options builder call"
      (← asArr calls).foldlM step {}
    | none =>
      match CompileOptions.ofText o.render with
      | .ok options => pure options
      | .error e => throw e.message

/-- A compiled parameter. -/
def compiledParamReport : CompiledParam → Json
  | .value v => obj [("value", v.toTagged)]
  | .slot i t => obj [("slot", nat i), ("type", str t.name)]

/-- A node of a compiled layout. -/
def nodeReport (r : Registry) (n : CompiledNode) : Json :=
  obj [("entity", entityName r n.entity), ("parent", optNat n.parent),
    ("relation", optStr n.relation),
    ("identity_offset", optNat (n.identityBlock?.map (·.offset))),
    ("blocks", .arr (n.blocks.map fun b => obj [("entity", entityName r b.entity),
      ("alias", str b.tableAlias), ("offset", nat b.offset), ("columns", .arr (b.columns.map nat))]))]

/-- A compiled query. -/
def compiledFields (r : Registry) (c : CompiledQuery) : List (String × Json) :=
  [("sql", str c.sql), ("params", .arr (c.params.map compiledParamReport)),
   ("parameter_count", nat c.parameterCount), ("slot_count", nat c.slotCount),
   ("width", nat c.width), ("layout", .arr (c.nodes.map (nodeReport r)))]

/-- Compile a query, bind arguments, and compile it again with other options. With
`foreign_entities`, the query's entity is resolved in a second registry and its number used
against the first. -/
def compileReport (req : Json) (r : Registry) : Decode Json := do
  let qj ← field req "query"
  let q ← match field? req "foreign_entities" with
    | some fe =>
      match ← registryOf fe with
      | .error e => return e.toAnswer
      | .ok other => queryOn (← entityOf other (← strField qj "entity")) qj
    | none => queryOf r qj
  match q.compile r (← optionsOf (req.field? "options")) with
  | .error e => pure e.toAnswer
  | .ok c =>
    let bind ← match field? req "bind" with
      | some args =>
        match c.bind (← values args) with
        | .ok vs => pure [("bind", okAnswer (.arr (vs.map Value.toTagged)))]
        | .error e => pure [("bind", e.toAnswer)]
      | none => pure []
    let again ← match field? req "recompile" with
      | some os => do
        let results ← (← asArr os).mapM fun o => do
          match q.compile r (← optionsOf (some o)) with
          | .ok c2 => pure (str c2.sql)
          | .error e => pure e.toAnswer
        pure [("recompile", .arr results)]
      | none => pure []
    pure (okAnswer (obj (compiledFields r c ++ bind ++ again)))

/-- The state of an edited query. -/
def queryState (r : Registry) (c : CachedQuery) : Json :=
  obj [("entity", entityName r c.query.entity), ("joins", .arr (c.query.joins.map (str ·.relation))),
    ("limit", optNat c.query.limit), ("filter", filterTokens c.query.filter),
    ("is_compiled", .bool c.isCompiled)]

/-- One step of editing and compiling a query. -/
def queryStep (r : Registry) (c : CachedQuery) (step : Json) : Decode (Json × CachedQuery) := do
  match ← strField step "do" with
  | "compile" =>
    let (result, c) := c.compile r (← optionsOf (step.field? "options"))
    pure (match result with
      | .ok (compiled, reused) => obj [("sql", str compiled.sql), ("reused", .bool reused)]
      | .error e => e.toAnswer, c)
  | "set_page" =>
    let limit ← optNatField step "limit"
    let offset ← optNatField step "offset"
    pure (.null, c.edit fun q => { q with limit, offset })
  | "filter_replace" =>
    let f ← filter (← field step "filter")
    pure (.null, c.edit fun q => { q with filter := f })
  | "filter_push" =>
    let t ← token (← field step "token")
    pure (.null, c.edit fun q => { q with filter := q.filter.push t })
  | "filter" =>
    let f ← filter (← field step "filter")
    pure (.null, c.edit (·.addFilter f))
  | "join" =>
    let j ← join (← field step "join")
    pure (.null, c.edit fun q => { q with joins := q.joins ++ [j] })
  | "order_by" =>
    let o ← orderOf (← field step "order")
    pure (.null, c.edit fun q => { q with order := q.order ++ [o] })
  | "limit" =>
    let n ← natField step "value"
    pure (.null, c.edit fun q => { q with limit := some n })
  | "offset" =>
    let n ← natField step "value"
    pure (.null, c.edit fun q => { q with offset := some n })
  | "clone" => pure (.null, c)
  | "placeholder" =>
    let o ← optionsOf (step.field? "options")
    pure (str (o.dialect.placeholder (← natField step "index")), c)
  | other => throw ("unknown query step " ++ other)

/-- Edit and compile one query step by step. -/
def querySteps (req : Json) (r : Registry) : Decode Json := do
  let q ← queryOf r (← field req "query")
  let step (c : CachedQuery) (s : Json) : Decode (Json × CachedQuery) := do
    let (result, c) ← queryStep r c s
    pure (obj [("result", result), ("query", queryState r c)], c)
  let (out, _) ← steps (← listField req "steps") (CachedQuery.ofQuery q) step
  pure (okAnswer (.arr out))

/-- Ask one set of unique lookups for compiled lookups, step by step. -/
def uniqueLookupSteps (req : Json) (r : Registry) : Decode Json := do
  let sizes (u : UniqueLookups) : List (String × Json) :=
    [("len", nat u.size), ("is_empty", .bool u.isEmpty)]
  let step (u : UniqueLookups) (s : Json) : Decode (Json × UniqueLookups) := do
    let e ← entityOf r (← strField s "entity")
    let (result, u) := u.compiled r e (← strField s "column") (← optionsOf (s.field? "options"))
    let res := match result with
      | .ok (c, reused) =>
        obj [("sql", str c.sql), ("slot_count", nat c.slotCount), ("reused", .bool reused)]
      | .error err => err.toAnswer
    pure (obj (("result", res) :: sizes u), u)
  let (out, _) ← steps (← listField req "steps") {} step
  pure (okAnswer (.arr (obj (sizes {}) :: out)))

end Service

end EntityGraph
