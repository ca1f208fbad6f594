import EntityGraph.Json.Basic

/-!
# Values

A `Value` is one cell of a row: a typed scalar, a byte string or a JSON document. Integers come
in two widths, and timestamps are kept apart from plain 64-bit integers.

Equality of values is the library's own comparison `Value.same`: floats compare numerically
(a NaN equals nothing, the two zeros are equal), everything else compares exactly, and values of
different kinds are never equal, so `int 1` and `bigInt 1` differ.
-/

namespace EntityGraph

/-- One cell of a row. -/
inductive Value where
  | null
  | bool (b : Bool)
  /-- A 32-bit integer. -/
  | int (n : Int32)
  /-- A 64-bit integer. -/
  | bigInt (n : Int64)
  | double (x : Binary64)
  | text (s : String)
  | bytes (b : List UInt8)
  /-- A point in time as a 64-bit count. -/
  | timestamp (n : Int64)
  | json (j : Json)
  deriving Inhabited, Repr

namespace Value

/-- Whether the value is `null`. -/
def isNull : Value → Bool
  | .null => true
  | _ => false

/-- The name of the value's kind. -/
def typeName : Value → String
  | .null => "NULL"
  | .bool _ => "BOOLEAN"
  | .int _ => "INTEGER"
  | .bigInt _ => "BIGINT"
  | .double _ => "DOUBLE"
  | .text _ => "TEXT"
  | .bytes _ => "BLOB"
  | .timestamp _ => "TIMESTAMP"
  | .json _ => "JSON"

/-- The value as a 64-bit integer: integers of either width, timestamps, and booleans as 0 or 1. -/
def asInt64? : Value → Option Int64
  | .int n => some n.toInt64
  | .bigInt n => some n
  | .timestamp n => some n
  | .bool b => some (if b then 1 else 0)
  | _ => none

/-- The value as text, for text values only. -/
def asText? : Value → Option String
  | .text s => some s
  | _ => none

/-- The value as bytes: byte strings, and text as its UTF-8 encoding. -/
def asBytes? : Value → Option (List UInt8)
  | .bytes b => some b
  | .text s => some s.toUTF8.toList
  | _ => none

/-- The value as a JSON document: a float that is not finite becomes `null`, and a byte string an
array of numbers. -/
def toJson : Value → Json
  | .null => .null
  | .bool b => .bool b
  | .int n => Json.int n.toInt
  | .bigInt n => Json.int n.toInt
  | .timestamp n => Json.int n.toInt
  | .double x => if x.isFinite then .num (.float x) else .null
  | .text s => .str s
  | .bytes b => .arr (b.map fun byte => Json.int byte.toNat)
  | .json j => j

/-- The library's equality of values: same kind and same content, floats compared numerically. -/
def same : Value → Value → Bool
  | .null, .null => true
  | .bool a, .bool b => a == b
  | .int a, .int b => a == b
  | .bigInt a, .bigInt b => a == b
  | .double a, .double b => a.eqv b
  | .text a, .text b => a == b
  | .bytes a, .bytes b => a == b
  | .timestamp a, .timestamp b => a == b
  | .json a, .json b => a.same b
  | _, _ => false

/-- The 64-bit integer `n` as the narrowest integer value that holds it. -/
def ofInt64Narrow (n : Int64) : Value :=
  if -2147483648 ≤ n.toInt && n.toInt ≤ 2147483647 then .int (Int32.ofInt n.toInt) else .bigInt n

end Value

end EntityGraph
