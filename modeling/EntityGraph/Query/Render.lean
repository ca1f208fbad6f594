import EntityGraph.Query.Resolve
import EntityGraph.Query.Compiled

/-!
# Rendering filters

A filter is rendered token by token against the grammar

    F ::= T ((AND | OR) T)*
    T ::= NOT T | column cmp parameter | column (IS NULL | IS NOT NULL) | (F)

where a nested filter must not be empty. Each column is resolved in the plan, each parameter
becomes the next placeholder of the whole statement, a value parameter is encoded for the type
of the column it is compared with, and a slot parameter keeps that type for binding.

Connectives are written in reading order. When the connective changes (`AND` after `OR` or the
other way round), everything rendered so far is put in parentheses, so the text read with SQL
precedence means the filter read strictly left to right. A nested filter is parenthesized when
it is negated or has a connective of its own.
-/

namespace EntityGraph

/-- What the renderer expects next. -/
inductive Expect where
  /-- A column, `NOT` or a nested filter. -/
  | term
  /-- A comparison or a null check after a column. -/
  | operator
  /-- The parameter of a comparison. -/
  | parameter
  /-- A connective, or the end. -/
  | connective
  deriving DecidableEq, Inhabited, Repr

/-- What the renderer holds while reading one filter. -/
structure RenderState where
  parts : Array String := #[]
  expect : Expect := .term
  negated : Bool := false
  columnType : Option ColumnType := none
  connective : Option Operator := none
  deriving Inhabited

/-- Everything needed to render the filters of one statement. -/
structure RenderContext where
  reg : Registry
  nodes : Array PlannedNode
  options : CompileOptions
  /-- The node that owns the filter. -/
  owner : Nat

/-- A malformed-filter error naming the owner's entity. -/
def RenderContext.malformed (ctx : RenderContext) (message : String) : Error :=
  .build .malformedFilter
    (some (ctx.reg.get ((ctx.nodes[ctx.owner]?.map (·.entity)).getD default)).name) none message

/-- The statement's parameters so far, threaded through every filter of the statement. -/
abbrev RenderM := StateT (Array CompiledParam) (Except Error)

mutual
/-- Render the tokens of a filter in order. -/
def renderTokens (ctx : RenderContext) : List FilterToken → RenderState → RenderM RenderState
  | [], st => pure st
  | t :: rest, st => do
    let st ← renderToken ctx t st
    renderTokens ctx rest st

/-- Render one token in the given state. -/
def renderToken (ctx : RenderContext) : FilterToken → RenderState → RenderM RenderState
  | .nested ts, st =>
    if st.expect == .term then
      if ts.isEmpty then throw (ctx.malformed "empty nested filter")
      else do
        let inner ← renderTokens ctx ts {}
        if inner.expect != .connective then
          throw (ctx.malformed "filter ends before its last term is complete")
        let text := " ".intercalate inner.parts.toList
        let hasConnective := ts.any fun
          | .op o => o.isConnective
          | _ => false
        let part := if st.negated || hasConnective then "(" ++ text ++ ")" else text
        pure { st with parts := st.parts.push part, negated := false, expect := .connective }
    else throw (ctx.malformed ("unexpected token " ++ (FilterToken.nested ts).describe))
  | t, st => do
    match st.expect, t with
    | .term, .column name =>
      let r ← resolveField ctx.reg ctx.nodes ctx.owner name
      pure { st with parts := st.parts.push r.sql, columnType := some r.type, negated := false,
                     expect := .operator }
    | .term, .op .not =>
      pure { st with parts := st.parts.push Operator.not.sql, negated := true, expect := .term }
    | .operator, .op o =>
      if o.takesParameter then
        pure { st with parts := st.parts.push o.sql, expect := .parameter }
      else if o.isNullCheck then
        pure { st with parts := st.parts.push o.sql, expect := .connective }
      else throw (ctx.malformed ("unexpected token " ++ t.describe))
    | .parameter, .param p =>
      match st.columnType with
      | none => throw (ctx.malformed "parameter without a column")
      | some ty =>
        let cp : CompiledParam := match p with
          | .value v => .value (ty.encode v)
          | .slot i => .slot i ty
        modify (·.push cp)
        let n := (← get).size
        pure { st with parts := st.parts.push (ctx.options.dialect.placeholder n),
                       expect := .connective }
    | .connective, .op o =>
      if o.isConnective then
        let parts := match st.connective with
          | some previous =>
            if previous != o then #["(" ++ " ".intercalate st.parts.toList ++ ")"] else st.parts
          | none => st.parts
        pure { st with parts := parts.push o.sql, connective := some o, expect := .term }
      else throw (ctx.malformed ("unexpected token " ++ t.describe))
    | _, _ => throw (ctx.malformed ("unexpected token " ++ t.describe))
end

/-- Render a whole filter of node `owner`: its text, with its parameters appended to the
statement's. -/
def renderFilter (ctx : RenderContext) (f : Filter) : RenderM String := do
  let st ← renderTokens ctx f.tokens {}
  if st.expect != .connective then
    throw (ctx.malformed "filter ends before its last term is complete")
  pure (" ".intercalate st.parts.toList)

end EntityGraph
