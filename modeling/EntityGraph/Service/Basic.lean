import EntityGraph.Json.Write
import EntityGraph.Json.Read
import EntityGraph.Value.Basic

/-!
# The request service: reading requests

The library answers requests given as JSON documents: each request names an operation and
carries its arguments, and each answer is a document. This module holds what every operation
uses to read its arguments. A request that lacks an argument or gives one of the wrong shape is
refused with a message, which the service reports as a refused request rather than as an
error of the library.

Integers may be given as JSON integers or as decimal strings; a member that is `null` counts as
absent.
-/

namespace EntityGraph

namespace Service

/-- Reading a request: a refusal carries its reason. -/
abbrev Decode := Except String

/-- An object from its members. -/
def obj (kvs : List (String × Json)) : Json := Json.object kvs

/-- A string document. -/
def str (s : String) : Json := .str s

/-- A string, or `null` for nothing. -/
def optStr : Option String → Json
  | some s => .str s
  | none => .null

/-- A natural number document. -/
def nat (n : Nat) : Json := Json.int n

/-- A natural number, or `null` for nothing. -/
def optNat : Option Nat → Json
  | some n => nat n
  | none => .null

/-- The successful answer holding `j`. -/
def okAnswer (j : Json) : Json := obj [("ok", j)]

/-- A member that must be present (it may be `null`). -/
def field (j : Json) (k : String) : Decode Json :=
  match j.field? k with
  | some v => pure v
  | none => throw ("missing field " ++ k)

/-- A member that is present and not `null`. -/
def field? (j : Json) (k : String) : Option Json :=
  match j.field? k with
  | some .null => none
  | other => other

/-- A string argument. -/
def asStr : Json → Decode String
  | .str s => pure s
  | _ => throw "expected a string"

/-- A boolean argument. -/
def asBool : Json → Decode Bool
  | .bool b => pure b
  | _ => throw "expected a bool"

/-- An array argument. -/
def asArr : Json → Decode (List Json)
  | .arr xs => pure xs
  | _ => throw "expected an array"

/-- An integer given as a JSON integer or a decimal string. -/
def asInt : Json → Decode Int
  | .num (.nat n) => pure n
  | .num (.neg n) => pure n
  | .str s =>
    match s.toInt? with
    | some n => pure n
    | none => throw "expected an integer string"
  | _ => throw "expected an integer"

/-- A non-negative integer. -/
def asNat (j : Json) : Decode Nat := do
  let n ← asInt j
  if n < 0 then throw "expected a natural number" else pure n.toNat

/-- Whether an integer fits 32 signed bits. -/
def fitsI32 (n : Int) : Bool := -2147483648 ≤ n && n ≤ 2147483647

/-- Whether an integer fits 64 signed bits. -/
def fitsI64 (n : Int) : Bool := -9223372036854775808 ≤ n && n ≤ 9223372036854775807

/-- A 64-bit signed integer. -/
def int64Of (n : Int) : Decode Int64 :=
  if fitsI64 n then pure (Int64.ofInt n) else throw "integer out of i64 range"

/-- A string member. -/
def strField (j : Json) (k : String) : Decode String := do asStr (← field j k)

/-- A string member that may be absent. -/
def optStrField (j : Json) (k : String) : Decode (Option String) :=
  match field? j k with
  | some v => some <$> asStr v
  | none => pure none

/-- A boolean member with a default. -/
def boolField (j : Json) (k : String) (d : Bool) : Decode Bool :=
  match field? j k with
  | some v => asBool v
  | none => pure d

/-- A natural number member. -/
def natField (j : Json) (k : String) : Decode Nat := do asNat (← field j k)

/-- A natural number member with a default. -/
def natFieldD (j : Json) (k : String) (d : Nat) : Decode Nat :=
  match field? j k with
  | some v => asNat v
  | none => pure d

/-- A natural number member that may be absent. -/
def optNatField (j : Json) (k : String) : Decode (Option Nat) :=
  match field? j k with
  | some v => some <$> asNat v
  | none => pure none

/-- A 64-bit integer member. -/
def int64Field (j : Json) (k : String) : Decode Int64 := do int64Of (← asInt (← field j k))

/-- An array member; absent means empty. -/
def listField (j : Json) (k : String) : Decode (List Json) :=
  match field? j k with
  | some v => asArr v
  | none => pure []

/-- Run one step per item, threading a state and collecting one answer per step. -/
def steps {σ : Type} (items : List Json) (init : σ) (step : σ → Json → Decode (Json × σ)) :
    Decode (List Json × σ) :=
  items.foldlM (fun (acc : List Json × σ) item => do
    let (answer, s) ← step acc.2 item
    pure (acc.1 ++ [answer], s)) ([], init)

end Service

end EntityGraph
