import EntityGraph.Database.Grammar.Reader

/-!
# Reading expressions and queries

Expressions are read by precedence climbing over these levels, loosest first:

| level | operators |
|---|---|
| 1 | `OR` |
| 2 | `AND` |
| 3 | prefix `NOT`, postfix `NOT NULL` |
| 4 | `=`, `==`, `!=`, `<>`, `IS`, `IN`, `LIKE`, `GLOB`, `REGEXP`, `MATCH`, `BETWEEN`, `ISNULL`, `NOTNULL` |
| 5 | `<`, `<=`, `>`, `>=` |
| 6 | `ESCAPE` |
| 7 | `&`, `|`, `<<`, `>>` |
| 8 | `+`, `-` |
| 9 | `*`, `/`, `%` |
| 10 | `||`, `->`, `->>` |
| 11 | `COLLATE` |
| 12 | prefix `-`, `+`, `~` |

Binary operators group to the left; the operand between `BETWEEN` and `AND` takes every
operator but `AND` and `OR`.

Queries are read as in the grammar of the language: common table expressions, then cores
joined by compound operators, each core with its own ordering and paging, of which only the
last may have any.

Every reading function takes a fuel argument that shrinks on each nested call; the fuel given is
a multiple of the number of tokens, more than any nesting the text can hold.
-/

namespace EntityGraph

namespace Database

namespace Read

/-- Fail because the text nests deeper than the reader goes. -/
def tooDeep {α : Type} : Read α := throw (.other "parser stack overflow")

/-- The precedence of a binary operator written as a symbol. -/
def symbolOp (s : String) : Option (BinaryOp × Nat) :=
  match s with
  | "=" | "==" => some (.eq, 4)
  | "!=" | "<>" => some (.ne, 4)
  | "<" => some (.lt, 5)
  | "<=" => some (.le, 5)
  | ">" => some (.gt, 5)
  | ">=" => some (.ge, 5)
  | "&" => some (.bitAnd, 7)
  | "|" => some (.bitOr, 7)
  | "<<" => some (.shiftLeft, 7)
  | ">>" => some (.shiftRight, 7)
  | "+" => some (.add, 8)
  | "-" => some (.sub, 8)
  | "*" => some (.mul, 9)
  | "/" => some (.div, 9)
  | "%" => some (.rem, 9)
  | "||" => some (.concat, 10)
  | _ => none

/-- The pattern operator a keyword stands for. -/
def patternOp? (t : Token) : Option PatternOp :=
  match t.kind with
  | .keyword "LIKE" => some .like
  | .keyword "GLOB" => some .glob
  | .keyword "REGEXP" => some .regexp
  | .keyword "MATCH" => some .matches
  | _ => none

/-- A number literal as an expression, digit separators removed. -/
def numberExpr (t : Token) : Read Expr := do
  match t.kind with
  | .integer => pure (.integer t.text)
  | .float => pure (.float t.text)
  | _ =>
    let s ← dropSeparators t.text
    let isHex := s.startsWith "0x" || s.startsWith "0X"
    if !isHex && s.any (fun c => c == '.' || c == 'e' || c == 'E') then pure (.float s)
    else pure (.integer s)

/-- A type name: names and strings, then optional sizes in parentheses; the text as written,
without quotes around it. -/
def typeName : Read String := do
  let start := (← peek).start
  let rec words : (fuel : Nat) → Bool → Read Bool
    | 0, any => pure any
    | fuel + 1, any => do
      match ← nameToken? .orString with
      | some _ => words fuel true
      | none => pure any
  let any ← words 256 false
  if !any then pure ""
  else
    if ← acceptSym "(" then
      let signed : Read Unit := do
        if ← acceptSym "+" then pure () else let _ ← acceptSym "-"
        let t ← peek
        if t.kind == .integer || t.kind == .float || t.kind == .separated then advance else fail
      signed
      if ← acceptSym "," then signed
      expectSym ")"
    let stop ← lastStop
    let s ← textBetween start stop
    pure (Token.unquote s)

/-- The bytes of a byte-string literal. -/
def blobOf (t : Token) : Bytes :=
  let rec pairs : List Char → Bytes
    | a :: b :: rest => UInt8.ofNat (Token.hexDigitValue a * 16 + Token.hexDigitValue b) :: pairs rest
    | _ => []
  pairs ((t.text.toList.drop 2).dropLast)

/-- Whether the next tokens start a query: `SELECT`, `VALUES` or `WITH`. -/
def atQuery : Read Bool := do
  let t ← peek
  pure (t.isKw "SELECT" || t.isKw "VALUES" || t.isKw "WITH")

/-- The kind of join that join keywords name. -/
def joinKind (words : List Token) : Read JoinKind := do
  let flags := words.map fun w =>
    match w.text.toUpper with
    | "NATURAL" => some (true, false, false, false, false, false)
    | "LEFT" => some (false, true, false, true, false, false)
    | "OUTER" => some (false, false, false, true, false, false)
    | "RIGHT" => some (false, false, true, true, false, false)
    | "FULL" => some (false, true, true, true, false, false)
    | "INNER" => some (false, false, false, false, true, false)
    | "CROSS" => some (false, false, false, false, true, true)
    | _ => none
  let bad := flags.any (·.isNone)
  let get (f : Bool × Bool × Bool × Bool × Bool × Bool → Bool) : Bool :=
    flags.any fun x => (x.map f).getD false
  let natural := get (·.1)
  let left := get (·.2.1)
  let right := get (·.2.2.1)
  let outer := get (·.2.2.2.1)
  let inner := get (·.2.2.2.2.1)
  let cross := get (·.2.2.2.2.2)
  if bad || (inner && outer) || (outer && !left && !right) then
    throw (.other ("unknown join type: " ++ " ".intercalate (words.map (·.text))))
  pure { natural, left, right, cross }

/-- The join operator before a source, if one follows. -/
def joinOp : Read (Option JoinKind) := do
    if ← acceptSym "," then pure (some {})
    else if ← acceptKw "JOIN" then pure (some {})
    else
      let t ← peek
      if isJoinKeyword t then
        advance
        let mut words : List Token := [t]
        let t1 ← peek
        if !t1.isKw "JOIN" then
          match ← nameToken? .object with
          | some b =>
            words := words ++ [b]
            let t2 ← peek
            if !t2.isKw "JOIN" then
              match ← nameToken? .object with
              | some c => words := words ++ [c]
              | none => pure ()
          | none => pure ()
        expectKw "JOIN"
        pure (some (← joinKind words))
      else pure none

mutual

/-- An expression whose operators bind at least as tightly as `minPrec`. -/
def expr : Nat → Nat → Read Expr
  | 0, _ => tooDeep
  | fuel + 1, minPrec => do
    let lhs ← prefixExpr fuel
    climb fuel lhs minPrec

/-- Extend `lhs` with the operators that follow it and bind at least as tightly as `minPrec`. -/
def climb : Nat → Expr → Nat → Read Expr
  | 0, _, _ => tooDeep
  | fuel + 1, lhs, minPrec => do
    let t ← peek
    match t.kind with
    | .symbol s =>
      if s == "->" || s == "->>" then
        if minPrec > 10 then pure lhs
        else
          advance
          let rhs ← expr fuel 11
          climb fuel (.call s false false [lhs, rhs] [] none none) minPrec
      else
        match symbolOp s with
        | some (op, p) =>
          if p < minPrec then pure lhs
          else
            advance
            let rhs ← expr fuel (p + 1)
            climb fuel (.binary op lhs rhs) minPrec
        | none => pure lhs
    | .keyword w =>
      if w == "OR" then
        if minPrec > 1 then pure lhs
        else advance; let rhs ← expr fuel 2; climb fuel (.binary .or lhs rhs) minPrec
      else if w == "AND" then
        if minPrec > 2 then pure lhs
        else advance; let rhs ← expr fuel 3; climb fuel (.binary .and lhs rhs) minPrec
      else if w == "COLLATE" then
        if minPrec > 11 then pure lhs
        else
          advance
          let c ← nameOf .orString
          climb fuel (.collate lhs c) minPrec
      else if w == "NOT" then
        let t1 ← peekAt 1
        if t1.isKw "NULL" then
          if minPrec > 3 then pure lhs
          else advance; advance; climb fuel (.isNull true lhs) minPrec
        else if minPrec > 4 then pure lhs
        else
          advance
          let e ← relation fuel lhs true
          climb fuel e minPrec
      else if minPrec > 4 then pure lhs
      else if w == "ISNULL" then advance; climb fuel (.isNull false lhs) minPrec
      else if w == "NOTNULL" then advance; climb fuel (.isNull true lhs) minPrec
      else if w == "IS" then
        advance
        let negated ← acceptKw "NOT"
        let distinct ← acceptKw "DISTINCT"
        if distinct then expectKw "FROM"
        let rhs ← expr fuel 5
        let isEq := negated == distinct
        climb fuel (.binary (if isEq then .is else .isNot) lhs rhs) minPrec
      else if (patternOp? t).isSome || w == "BETWEEN" || w == "IN" then
        let e ← relation fuel lhs false
        climb fuel e minPrec
      else pure lhs
    | _ => pure lhs

/-- A pattern match, range test or membership test after its left operand, the keyword next
(after any `NOT`, already read). -/
def relation : Nat → Expr → Bool → Read Expr
  | 0, _, _ => tooDeep
  | fuel + 1, lhs, negated => do
    let t ← take
    match patternOp? t with
    | some op =>
      let pattern ← expr fuel 5
      let escape ← if ← acceptKw "ESCAPE" then some <$> expr fuel 5 else pure none
      pure (.pattern op negated lhs pattern escape)
    | none =>
      if t.isKw "BETWEEN" then
        let low ← expr fuel 3
        expectKw "AND"
        let high ← expr fuel 5
        pure (.between negated lhs low high)
      else if t.isKw "IN" then
        if ← acceptSym "(" then
          if ← atQuery then
            let q ← select fuel
            expectSym ")"
            pure (.inSelect negated lhs q)
          else if ← acceptSym ")" then pure (.inList negated lhs [])
          else
            let items ← exprList fuel
            expectSym ")"
            pure (.inList negated lhs items)
        else
          let n ← qualifiedName
          let args ← if ← acceptSym "(" then
              if ← acceptSym ")" then pure [] else
                let a ← exprList fuel
                expectSym ")"
                pure a
            else pure []
          let src : Source := if args.isEmpty then .table n.schema n.name none none
            else .function n.name args none
          let core := SelectCore.select false [.all] [.mk {} src none []] none [] none []
          pure (.inSelect negated lhs (.ofCore core))
      else failAt t

/-- A prefix operator and its operand, or a primary expression. -/
def prefixExpr : Nat → Read Expr
  | 0 => tooDeep
  | fuel + 1 => do
    let t ← peek
    if t.isKw "NOT" then
      advance
      pure (.unary .not (← expr fuel 3))
    else if t.isSym "-" || t.isSym "+" then
      advance
      let e ← expr fuel 12
      let op : UnaryOp := if t.isSym "-" then .neg else .plus
      match e with
      | .unary .plus inner => pure (.unary op inner)
      | _ => pure (.unary op e)
    else if t.isSym "~" then advance; pure (.unary .bitNot (← expr fuel 12))
    else primary fuel

/-- A primary expression. -/
def primary : Nat → Read Expr
  | 0 => tooDeep
  | fuel + 1 => do
    let t ← peek
    match t.kind with
    | .integer | .float | .separated => advance; numberExpr t
    | .string =>
      if (← peekAt 1).isSym "." then nameExpr fuel
      else advance; pure (.string t.value)
    | .blob => advance; pure (.blob (blobOf t))
    | .variable => advance; pure (.param (← parameter t))
    | .symbol "(" =>
      advance
      if ← atQuery then
        let q ← select fuel
        expectSym ")"
        pure (.subquery q)
      else
        let e ← expr fuel 0
        if ← acceptSym "," then
          let more ← exprList fuel
          expectSym ")"
          pure (.vector (e :: more))
        else
          expectSym ")"
          pure e
    | .keyword "NULL" => advance; pure .null
    | .keyword "CAST" =>
      advance
      expectSym "("
      let e ← expr fuel 0
      expectKw "AS"
      let ty ← typeName
      expectSym ")"
      pure (.cast e ty)
    | .keyword "CASE" =>
      advance
      let operand ← if ← atKw "WHEN" then pure none else some <$> expr fuel 0
      let branches ← whenBranches fuel
      let otherwise ← if ← acceptKw "ELSE" then some <$> expr fuel 0 else pure none
      expectKw "END"
      pure (.case operand branches otherwise)
    | .keyword "EXISTS" =>
      advance
      expectSym "("
      let q ← select fuel
      expectSym ")"
      pure (.exists q)
    | .keyword "RAISE" =>
      advance
      expectSym "("
      let a ← take
      if a.isKw "IGNORE" then
        expectSym ")"
        pure (.raise "IGNORE" none)
      else if a.isKw "ROLLBACK" || a.isKw "ABORT" || a.isKw "FAIL" then
        expectSym ","
        let m ← expr fuel 0
        expectSym ")"
        pure (.raise (match a.kind with | .keyword w => w | _ => "") (some m))
      else failAt a
    | .keyword "CURRENT_TIME" | .keyword "CURRENT_DATE" | .keyword "CURRENT_TIMESTAMP" =>
      advance
      pure (.call t.text.toLower false false [] [] none none)
    | _ =>
      if NameKinds.inExpr.admits t then nameExpr fuel
      else failAt t

/-- A column reference or a function call, starting with a name. -/
def nameExpr : Nat → Read Expr
  | 0 => tooDeep
  | fuel + 1 => do
    let t ← take
    if t.kind != .string && (← atSym "(") then
      advance
      if ← acceptSym "*" then
        expectSym ")"
        let (filter, windowSpec) ← filterOver fuel
        pure (.call t.value false true [] [] filter windowSpec)
      else
        let distinct ← if ← acceptKw "DISTINCT" then pure true
          else do let _ ← acceptKw "ALL"; pure false
        let args ← if ← atSym ")" then pure [] else exprList fuel
        let order ← if ← atKw "ORDER" then
            advance
            expectKw "BY"
            orderTerms fuel
          else pure []
        expectSym ")"
        let (filter, windowSpec) ← filterOver fuel
        pure (.call t.value distinct false args order filter windowSpec)
    else if ← acceptSym "." then
      let second ← name
      if ← acceptSym "." then
        let third ← name
        pure (.qualified (some t.value) second third)
      else pure (.qualified none t.value second)
    else pure (.name t.value (t.kind == .name (some '"')))

/-- The `FILTER` and `OVER` clauses after a function call. -/
def filterOver : Nat → Read (Option Expr × Option Window)
  | 0 => tooDeep
  | fuel + 1 => do
    let filter ← if ← atKw "FILTER" then
        advance
        expectSym "("
        expectKw "WHERE"
        let e ← expr fuel 0
        expectSym ")"
        pure (some e)
      else pure none
    let windowSpec ← if ← acceptKw "OVER" then
        if ← acceptSym "(" then
          let w ← window fuel
          expectSym ")"
          pure (some w)
        else pure (some (.named (← name)))
      else pure none
    pure (filter, windowSpec)

/-- A window written out in parentheses. -/
def window : Nat → Read Window
  | 0 => tooDeep
  | fuel + 1 => do
    let t ← peek
    let base ← if NameKinds.object.admits t && !t.isKw "PARTITION" && !t.isKw "ORDER" &&
        !t.isKw "RANGE" && !t.isKw "ROWS" && !t.isKw "GROUPS" then
        advance; pure (some t.value)
      else pure none
    let partition ← if ← atKw "PARTITION" then
        advance; expectKw "BY"; exprList fuel
      else pure []
    let order ← if ← atKw "ORDER" then
        advance; expectKw "BY"; orderTerms fuel
      else pure []
    let frame ← frameSpec fuel
    pure (.spec base partition order frame)

/-- An optional frame of a window. -/
def frameSpec : Nat → Read (Option Frame)
  | 0 => tooDeep
  | fuel + 1 => do
    let t ← peek
    let unit? : Option FrameUnit :=
      if t.isKw "ROWS" then some .rows else if t.isKw "RANGE" then some .range
      else if t.isKw "GROUPS" then some .groups else none
    match unit? with
    | none => pure none
    | some unit =>
      advance
      let (start, finish) ← if ← acceptKw "BETWEEN" then
          let s ← frameBound fuel true
          expectKw "AND"
          let e ← frameBound fuel false
          pure (s, e)
        else
          let s ← frameBound fuel true
          pure (s, FrameBound.currentRow)
      let exclusion ← if ← acceptKw "EXCLUDE" then
          let x ← take
          if x.isKw "NO" then expectKw "OTHERS"; pure FrameExclusion.noOthers
          else if x.isKw "CURRENT" then expectKw "ROW"; pure .currentRow
          else if x.isKw "GROUP" then pure .group
          else if x.isKw "TIES" then pure .ties
          else failAt x
        else pure .noOthers
      pure (some (.mk unit start finish exclusion))

/-- One end of a frame; `atStart` for the first. -/
def frameBound : Nat → Bool → Read FrameBound
  | 0, _ => tooDeep
  | fuel + 1, atStart => do
    let t ← peek
    if t.isKw "UNBOUNDED" then
      advance
      if atStart then expectKw "PRECEDING"; pure .unboundedPreceding
      else expectKw "FOLLOWING"; pure .unboundedFollowing
    else if t.isKw "CURRENT" && (← peekAt 1).isKw "ROW" then
      advance; advance; pure .currentRow
    else
      let e ← expr fuel 0
      if ← acceptKw "PRECEDING" then pure (.preceding e)
      else if ← acceptKw "FOLLOWING" then pure (.following e)
      else fail

/-- `WHEN condition THEN result` pairs, at least one. -/
def whenBranches : Nat → Read (List (Expr × Expr))
  | 0 => tooDeep
  | fuel + 1 => do
    expectKw "WHEN"
    let c ← expr fuel 0
    expectKw "THEN"
    let r ← expr fuel 0
    if ← atKw "WHEN" then pure ((c, r) :: (← whenBranches fuel)) else pure [(c, r)]

/-- Expressions separated by commas, at least one. -/
def exprList : Nat → Read (List Expr)
  | 0 => tooDeep
  | fuel + 1 => do
    let e ← expr fuel 0
    if ← acceptSym "," then pure (e :: (← exprList fuel)) else pure [e]

/-- Ordering terms separated by commas. -/
def orderTerms : Nat → Read (List OrderTerm)
  | 0 => tooDeep
  | fuel + 1 => do
    let e ← expr fuel 0
    let descending ← if ← acceptKw "DESC" then pure true
      else do let _ ← acceptKw "ASC"; pure false
    let nulls ← if ← acceptKw "NULLS" then
        if ← acceptKw "FIRST" then pure (some true)
        else expectKw "LAST"; pure (some false)
      else pure none
    let term := OrderTerm.mk e descending nulls
    if ← acceptSym "," then pure (term :: (← orderTerms fuel)) else pure [term]

/-- An optional alias: `AS name`, or a name or string on its own. -/
def asName : Nat → Read (Option String)
  | 0 => tooDeep
  | _ + 1 => do
    if ← acceptKw "AS" then pure (some (← name))
    else
      match ← nameToken? .orString with
      | some t => pure (some t.value)
      | none => pure none

/-- Result columns separated by commas. -/
def resultColumns : Nat → Read (List ResultColumn)
  | 0 => tooDeep
  | fuel + 1 => do
    let t ← peek
    let t1 ← peekAt 1
    let t2 ← peekAt 2
    let c ← if t.isSym "*" then advance; pure ResultColumn.all
      else if NameKinds.object.admits t && t1.isSym "." && t2.isSym "*" then
        advance; advance; advance; pure (.allOf t.value)
      else
        let start := t.start
        let e ← expr fuel 0
        let stop ← here
        let span ← spanBetween start stop
        let a ← asName fuel
        pure (.expr e a span)
    if ← acceptSym "," then pure (c :: (← resultColumns fuel)) else pure [c]

/-- A source with its alias, and the join constraint after it. -/
def joinedSource : Nat → JoinKind → Read JoinItem
  | 0, _ => tooDeep
  | fuel + 1, kind => do
    let src ← if ← atSym "(" then
        advance
        if ← atQuery then
          let q ← select fuel
          expectSym ")"
          pure (Source.select q (← asName fuel))
        else
          let items ← sourceList fuel
          expectSym ")"
          pure (.nested items (← asName fuel))
      else
        let n ← qualifiedName
        if ← acceptSym "(" then
          let args ← if ← atSym ")" then pure [] else exprList fuel
          expectSym ")"
          pure (.function n.name args (← asName fuel))
        else
          let a ← asName fuel
          let indexed ← if ← atKw "INDEXED" then
              advance; expectKw "BY"; pure (some (some (← name)))
            else if (← atKw "NOT") && (← peekAt 1).isKw "INDEXED" then
              advance; advance; pure (some none)
            else pure none
          pure (.table n.schema n.name a indexed)
    if ← acceptKw "ON" then pure (.mk kind src (some (← expr fuel 0)) [])
    else if ← acceptKw "USING" then
      expectSym "("
      let cols ← idList fuel
      expectSym ")"
      pure (.mk kind src none cols)
    else pure (.mk kind src none [])

/-- Names separated by commas. -/
def idList : Nat → Read (List String)
  | 0 => tooDeep
  | fuel + 1 => do
    let n ← name
    if ← acceptSym "," then pure (n :: (← idList fuel)) else pure [n]

/-- Sources joined to each other. -/
def sourceList : Nat → Read (List JoinItem)
  | 0 => tooDeep
  | fuel + 1 => do
    let first ← joinedSource fuel {}
    pure (first :: (← moreSources fuel))

/-- The sources joined after the first. -/
def moreSources : Nat → Read (List JoinItem)
  | 0 => tooDeep
  | fuel + 1 => do
    match ← joinOp with
    | some kind =>
      let item ← joinedSource fuel kind
      pure (item :: (← moreSources fuel))
    | none => pure []

/-- Rows of `VALUES`, each in parentheses. -/
def valueRows : Nat → Read (List (List Expr))
  | 0 => tooDeep
  | fuel + 1 => do
    expectSym "("
    let row ← exprList fuel
    expectSym ")"
    if ← acceptSym "," then pure (row :: (← valueRows fuel)) else pure [row]

/-- Named windows after `WINDOW`. -/
def windowDefs : Nat → Read (List (String × Window))
  | 0 => tooDeep
  | fuel + 1 => do
    let n ← name
    expectKw "AS"
    expectSym "("
    let w ← window fuel
    expectSym ")"
    if ← acceptSym "," then pure ((n, w) :: (← windowDefs fuel)) else pure [(n, w)]

/-- One core of a query: `SELECT …` or `VALUES …`, with its own ordering and paging. -/
def core : Nat → Read (SelectCore × List OrderTerm × Option Expr × Option Expr)
  | 0 => tooDeep
  | fuel + 1 => do
    if ← acceptKw "VALUES" then
      pure (.values (← valueRows fuel), [], none, none)
    else
      expectKw "SELECT"
      let distinct ← if ← acceptKw "DISTINCT" then pure true
        else do let _ ← acceptKw "ALL"; pure false
      let columns ← resultColumns fuel
      let sources ← if ← acceptKw "FROM" then sourceList fuel else pure []
      let filter ← if ← acceptKw "WHERE" then some <$> expr fuel 0 else pure none
      let groupBy ← if ← atKw "GROUP" then
          advance; expectKw "BY"; exprList fuel
        else pure []
      let having ← if ← acceptKw "HAVING" then some <$> expr fuel 0 else pure none
      let windows ← if ← atKw "WINDOW" then
          advance
          windowDefs fuel
        else pure []
      let (orderBy, limit, offset) ← orderAndLimit fuel
      pure (.select distinct columns sources filter groupBy having windows, orderBy, limit, offset)

/-- `ORDER BY` and `LIMIT` clauses. -/
def orderAndLimit : Nat → Read (List OrderTerm × Option Expr × Option Expr)
  | 0 => tooDeep
  | fuel + 1 => do
    let orderBy ← if ← atKw "ORDER" then
        advance; expectKw "BY"; orderTerms fuel
      else pure []
    let (limit, offset) ← if ← acceptKw "LIMIT" then
        let a ← expr fuel 0
        if ← acceptKw "OFFSET" then pure (some a, some (← expr fuel 0))
        else if ← acceptSym "," then pure (some (← expr fuel 0), some a)
        else pure (some a, none)
      else pure (none, none)
    pure (orderBy, limit, offset)

/-- Common table expressions after `WITH`. -/
def commonTables : Nat → Read (List CommonTable)
  | 0 => tooDeep
  | fuel + 1 => do
    let n ← name
    let cols ← if ← acceptSym "(" then
        let cs ← idList fuel
        expectSym ")"
        pure (some cs)
      else pure none
    expectKw "AS"
    let materialized ← if ← acceptKw "MATERIALIZED" then pure (some true)
      else if (← atKw "NOT") && (← peekAt 1).isKw "MATERIALIZED" then
        advance; advance; pure (some false)
      else pure none
    expectSym "("
    let q ← select fuel
    expectSym ")"
    let cte := CommonTable.mk n cols materialized q
    if ← acceptSym "," then pure (cte :: (← commonTables fuel)) else pure [cte]

/-- Cores after the first, each with the compound operator before it. -/
def compounds : Nat →
    Read (List (CompoundOp × SelectCore × List OrderTerm × Option Expr × Option Expr))
  | 0 => tooDeep
  | fuel + 1 => do
    let t ← peek
    let op? : Option CompoundOp ←
      if t.isKw "UNION" then
        advance
        if ← acceptKw "ALL" then pure (some .unionAll) else pure (some .union)
      else if t.isKw "INTERSECT" then advance; pure (some .intersect)
      else if t.isKw "EXCEPT" then advance; pure (some .except)
      else pure none
    match op? with
    | none => pure []
    | some op =>
      let (c, o, l, f) ← core fuel
      pure ((op, c, o, l, f) :: (← compounds fuel))

/-- A query. -/
def select : Nat → Read Select
  | 0 => tooDeep
  | fuel + 1 => do
    let (recursive, ctes) ← if ← acceptKw "WITH" then
        let r ← acceptKw "RECURSIVE"
        pure (r, ← commonTables fuel)
      else pure (false, [])
    let (first, o1, l1, f1) ← core fuel
    let rest ← compounds fuel
    -- only the last core may order or page the result
    let all := (CompoundOp.union, first, o1, l1, f1) :: rest
    let ops := rest.map (·.1)
    let earlier := (all.zip ops).reverse
    match earlier.find? (fun (x, _) => !x.2.2.1.isEmpty || x.2.2.2.1.isSome) with
    | some ((_, _, o, _, _), nextOp) =>
      throw (.other ((if o.isEmpty then "LIMIT" else "ORDER BY") ++
        " clause should come after " ++ nextOp.text ++ " not before"))
    | none => pure ()
    let (orderBy, limit, offset) := match all.getLast? with
      | some (_, _, o, l, f) => (o, l, f)
      | none => ([], none, none)
    pure (.mk recursive ctes first (rest.map fun (op, c, _) => (op, c)) orderBy limit offset)

end

end Read

end Database

end EntityGraph
