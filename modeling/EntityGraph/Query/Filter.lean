import EntityGraph.Value.Basic
import EntityGraph.Json.Write
import EntityGraph.Text.Quoted

/-!
# Filters

A filter is a flat sequence of tokens read left to right: columns, operators, parameters and
nested filters. A well-formed filter alternates terms (a comparison, a null check, a negated
term or a nested filter) with the connectives `AND` and `OR`; the compiler checks that grammar
when it renders the filter.

The builders append a comparison with `AND` when the filter already holds something; `and`
and `or` join two filters, nesting the right one, and an empty side gives the other side
unchanged; `invert` negates a whole filter by nesting it after `NOT`.

`FilterToken.describe` spells a token the way malformed-filter errors quote it.
-/

namespace EntityGraph

/-- Comparison, null-check and connective operators. -/
inductive Operator where
  | eq | notEq | lt | ltEq | gt | gtEq | like | isNull | notNull | and | or | not
  deriving DecidableEq, Inhabited, Repr

namespace Operator

/-- Every operator, in declaration order. -/
def all : List Operator := [.eq, .notEq, .lt, .ltEq, .gt, .gtEq, .like, .isNull, .notNull, .and, .or, .not]

/-- The SQL spelling. -/
def sql : Operator → String
  | .eq => "="
  | .notEq => "<>"
  | .lt => "<"
  | .ltEq => "<="
  | .gt => ">"
  | .gtEq => ">="
  | .like => "LIKE"
  | .isNull => "IS NULL"
  | .notNull => "IS NOT NULL"
  | .and => "AND"
  | .or => "OR"
  | .not => "NOT"

/-- The name of the operator in descriptors and error texts. -/
def name : Operator → String
  | .eq => "Eq"
  | .notEq => "NotEq"
  | .lt => "Lt"
  | .ltEq => "LtEq"
  | .gt => "Gt"
  | .gtEq => "GtEq"
  | .like => "Like"
  | .isNull => "IsNull"
  | .notNull => "NotNull"
  | .and => "And"
  | .or => "Or"
  | .not => "Not"

/-- The operator with the given name. -/
def ofName? (s : String) : Option Operator := all.find? (·.name == s)

/-- Comparisons, which take a parameter. -/
def takesParameter : Operator → Bool
  | .eq | .notEq | .lt | .ltEq | .gt | .gtEq | .like => true
  | _ => false

/-- `IS NULL` and `IS NOT NULL`. -/
def isNullCheck : Operator → Bool
  | .isNull | .notNull => true
  | _ => false

/-- `AND` and `OR`. -/
def isConnective : Operator → Bool
  | .and | .or => true
  | _ => false

end Operator

/-- A parameter: a value given now, or a slot filled at bind time. -/
inductive Param where
  | value (v : Value)
  | slot (index : Nat)
  deriving Inhabited, Repr

/-- One token of a filter. -/
inductive FilterToken where
  | column (name : String)
  | op (o : Operator)
  | param (p : Param)
  /-- A nested filter, read as a single term. -/
  | nested (tokens : List FilterToken)
  deriving Inhabited, Repr

/-- A filter: its tokens, read left to right. -/
structure Filter where
  tokens : List FilterToken := []
  deriving Inhabited, Repr

namespace FilterToken

mutual
/-- The number of parameters in a token, nested filters counted through. -/
def parameterCount : FilterToken → Nat
  | .param _ => 1
  | .nested ts => listParameterCount ts
  | _ => 0

/-- The number of parameters in a token list. -/
def listParameterCount : List FilterToken → Nat
  | [] => 0
  | t :: ts => parameterCount t + listParameterCount ts
end

mutual
/-- One more than the largest slot in a token, `0` without slots. -/
def slotCount : FilterToken → Nat
  | .param (.slot i) => i + 1
  | .nested ts => listSlotCount ts
  | _ => 0

/-- One more than the largest slot in a token list. -/
def listSlotCount : List FilterToken → Nat
  | [] => 0
  | t :: ts => max (slotCount t) (listSlotCount ts)
end

end FilterToken

namespace Filter

/-- The empty filter. -/
def empty : Filter := {}

/-- Whether the filter has no tokens. -/
def isEmpty (f : Filter) : Bool := f.tokens.isEmpty

/-- Append one token. -/
def push (f : Filter) (t : FilterToken) : Filter := ⟨f.tokens ++ [t]⟩

/-- Whether `AND` or `OR` stands at the top level of the filter. -/
def hasConnective (f : Filter) : Bool :=
  f.tokens.any fun
    | .op o => o.isConnective
    | _ => false

/-- The number of parameters, nested filters included. -/
def parameterCount (f : Filter) : Nat := FilterToken.listParameterCount f.tokens

/-- One more than the largest slot, `0` without slots. -/
def slotCount (f : Filter) : Nat := FilterToken.listSlotCount f.tokens

/-- `AND` before what comes next, unless the filter is empty. -/
def joinWithAnd (f : Filter) : Filter := if f.isEmpty then f else f.push (.op .and)

/-- Append a comparison of a column; the parameter is kept only for operators that take one. -/
def compare (f : Filter) (column : String) (o : Operator) (p : Param) : Filter :=
  let g := (f.joinWithAnd.push (.column column)).push (.op o)
  if o.takesParameter then g.push (.param p) else g

/-- `column = value`. -/
def is (f : Filter) (column : String) (v : Value) : Filter := f.compare column .eq (.value v)

/-- `column = ?slot`. -/
def isSlot (f : Filter) (column : String) (slot : Nat) : Filter := f.compare column .eq (.slot slot)

/-- `column <> value`. -/
def isNot (f : Filter) (column : String) (v : Value) : Filter := f.compare column .notEq (.value v)

/-- `column IS NULL`. -/
def isNull (f : Filter) (column : String) : Filter := f.compare column .isNull (.value .null)

/-- `column IS NOT NULL`. -/
def notNull (f : Filter) (column : String) : Filter := f.compare column .notNull (.value .null)

/-- `column LIKE pattern`. -/
def like (f : Filter) (column : String) (v : Value) : Filter := f.compare column .like (.value v)

/-- `column < value`. -/
def lessThan (f : Filter) (column : String) (v : Value) : Filter := f.compare column .lt (.value v)

/-- `column <= value`. -/
def lessThanEqual (f : Filter) (column : String) (v : Value) : Filter :=
  f.compare column .ltEq (.value v)

/-- `column > value`. -/
def greaterThan (f : Filter) (column : String) (v : Value) : Filter := f.compare column .gt (.value v)

/-- `column >= value`. -/
def greaterThanEqual (f : Filter) (column : String) (v : Value) : Filter :=
  f.compare column .gtEq (.value v)

/-- The nested range `column >= low AND column < high`. -/
def between (f : Filter) (column : String) (low high : Value) : Filter :=
  let range := (empty.greaterThanEqual column low).lessThan column high
  f.joinWithAnd.push (.nested range.tokens)

/-- Join two filters with a connective, the right one nested; an empty side gives the other. -/
def connect (f : Filter) (o : Operator) (g : Filter) : Filter :=
  if f.isEmpty then g
  else if g.isEmpty then f
  else (f.push (.op o)).push (.nested g.tokens)

/-- Both filters. -/
def and (f g : Filter) : Filter := f.connect .and g

/-- Either filter. -/
def or (f g : Filter) : Filter := f.connect .or g

/-- The negation of a non-empty filter: `NOT` and the filter nested. -/
def invert (f : Filter) : Filter := if f.isEmpty then f else ⟨[.op .not, .nested f.tokens]⟩

end Filter

/-! ## Quoting tokens in error texts -/

/-- A float as a debug text: shortest digits, positional with a fractional part from `1e-4`
below `1e16`, otherwise with an exponent. -/
def debugFloat (x : Binary64) : String :=
  if x.isNaN then "NaN"
  else if x.isInfinite then (if x.signBit then "-inf" else "inf")
  else
    let sign := if x.signBit then "-" else ""
    if x.isZero then sign ++ "0.0"
    else
      let (d, k) := x.shortest
      let ds := decimalString d
      let len : Int := ds.length
      let kk := len + k
      if -4 < kk && kk ≤ 16 then
        let body :=
          if 0 ≤ k then ds ++ zeros k.toNat ++ ".0"
          else if 0 < kk then
            String.ofList (ds.toList.take kk.toNat) ++ "." ++ String.ofList (ds.toList.drop kk.toNat)
          else "0." ++ zeros (-kk).toNat ++ ds
        sign ++ body
      else
        let exp := "e" ++ intString (kk - 1)
        match ds.toList with
        | [c] => sign ++ String.singleton c ++ exp
        | c :: rest => sign ++ String.singleton c ++ "." ++ String.ofList rest ++ exp
        | [] => sign ++ exp

mutual
/-- A JSON document as a debug text. -/
def debugJson : Json → String
  | .null => "Null"
  | .bool b => "Bool(" ++ toString b ++ ")"
  | .num n => "Number(" ++ Json.numberText n ++ ")"
  | .str s => "String(" ++ Text.quoted s ++ ")"
  | .arr items => "Array [" ++ debugJsonItems items ++ "]"
  | .obj fields => "Object \x7b" ++ debugJsonFields fields ++ "\x7d"

/-- Array items as a debug text. -/
def debugJsonItems : List Json → String
  | [] => ""
  | [x] => debugJson x
  | x :: rest => debugJson x ++ ", " ++ debugJsonItems rest

/-- Object members as a debug text. -/
def debugJsonFields : List (String × Json) → String
  | [] => ""
  | [(k, v)] => Text.quoted k ++ ": " ++ debugJson v
  | (k, v) :: rest => Text.quoted k ++ ": " ++ debugJson v ++ ", " ++ debugJsonFields rest
end

/-- A value as a debug text. -/
def Value.describe : Value → String
  | .null => "Null"
  | .bool b => "Bool(" ++ toString b ++ ")"
  | .int n => "Int(" ++ intString n.toInt ++ ")"
  | .bigInt n => "BigInt(" ++ intString n.toInt ++ ")"
  | .double x => "Double(" ++ debugFloat x ++ ")"
  | .text s => "Text(" ++ Text.quoted s ++ ")"
  | .bytes b => "Bytes([" ++ ", ".intercalate (b.map fun x => toString x.toNat) ++ "])"
  | .timestamp n => "Timestamp(" ++ intString n.toInt ++ ")"
  | .json j => "Json(" ++ debugJson j ++ ")"

mutual
/-- A token as malformed-filter errors quote it. -/
def FilterToken.describe : FilterToken → String
  | .column n => "Column(" ++ Text.quoted n ++ ")"
  | .op o => "Operator(" ++ o.name ++ ")"
  | .param (.value v) => "Parameter(Value(" ++ v.describe ++ "))"
  | .param (.slot i) => "Parameter(Slot(" ++ toString i ++ "))"
  | .nested ts => "Filter(Filter \x7b entities: [" ++ FilterToken.describeList ts ++ "] \x7d)"

/-- Tokens separated by commas. -/
def FilterToken.describeList : List FilterToken → String
  | [] => ""
  | [t] => t.describe
  | t :: rest => t.describe ++ ", " ++ FilterToken.describeList rest
end

end EntityGraph
