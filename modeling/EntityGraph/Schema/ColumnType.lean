import EntityGraph.Value.Basic
import EntityGraph.Error
import EntityGraph.Json.Read
import EntityGraph.Json.Write

/-!
# Column types

The declared type of a column decides which values the column accepts (`ColumnType.check`), how
a value is turned into what the store keeps (`ColumnType.encode`), and how a stored value is
read back (`ColumnType.decode`).

The store keeps integers without their width, booleans as integers, JSON documents as text and
objects as bytes of JSON text; decoding restores the declared kind, and keeps a stored value
that does not decode (text that is not JSON, bytes that are not UTF-8 JSON) as it is.
-/

namespace EntityGraph

/-- The declared type of a column. -/
inductive ColumnType where
  | boolean
  | integer
  | bigInt
  | double
  | text
  | blob
  | timestamp
  | json
  /-- A JSON document kept as bytes. -/
  | object
  deriving DecidableEq, Inhabited, Repr

namespace ColumnType

/-- Every column type, in declaration order. -/
def all : List ColumnType := [.boolean, .integer, .bigInt, .double, .text, .blob, .timestamp, .json, .object]

/-- The name of the type in descriptors. -/
def name : ColumnType → String
  | .boolean => "Boolean"
  | .integer => "Integer"
  | .bigInt => "BigInt"
  | .double => "Double"
  | .text => "Text"
  | .blob => "Blob"
  | .timestamp => "Timestamp"
  | .json => "Json"
  | .object => "Object"

/-- The type with the given descriptor name. -/
def ofName? (s : String) : Option ColumnType := all.find? (·.name == s)

/-- The SQL name of the type. -/
def sqlName : ColumnType → String
  | .boolean => "BOOLEAN"
  | .integer => "INTEGER"
  | .bigInt => "BIGINT"
  | .double => "DOUBLE PRECISION"
  | .text => "TEXT"
  | .blob | .object => "BLOB"
  | .timestamp => "TIMESTAMP"
  | .json => "JSON"

/-- Whether a column of this type accepts the value: `null` always; otherwise booleans and
integers for booleans, integers of either width for integers, floats and integers for doubles,
integers and timestamps for timestamps, text for text and JSON, bytes for blobs and objects,
and documents for JSON and objects. -/
def accepts : ColumnType → Value → Bool
  | _, .null => true
  | .boolean, .bool _ | .boolean, .int _ | .boolean, .bigInt _ => true
  | .integer, .int _ | .integer, .bigInt _ => true
  | .bigInt, .int _ | .bigInt, .bigInt _ => true
  | .double, .double _ | .double, .int _ | .double, .bigInt _ => true
  | .text, .text _ => true
  | .blob, .bytes _ => true
  | .timestamp, .timestamp _ | .timestamp, .bigInt _ | .timestamp, .int _ => true
  | .json, .json _ | .object, .json _ => true
  | .json, .text _ => true
  | .object, .bytes _ => true
  | _, _ => false

/-- Accept the value for the named column, or report the type error. -/
def check (t : ColumnType) (column : String) (v : Value) : Except Error Unit :=
  if t.accepts v then .ok () else .error (.type t.sqlName v.typeName (some column))

/-- The value as the store keeps it: a document becomes its compact text for JSON columns and the
UTF-8 bytes of that text for object columns; all else is kept. -/
def encode : ColumnType → Value → Value
  | .object, .json j => .bytes (Json.render j).toUTF8.toList
  | .json, .json j => .text (Json.render j)
  | _, v => v

/-- The stored value read back as the declared type. Integers become booleans (nonzero is true),
64-bit integers, 32-bit integers where they fit, floats or timestamps; JSON text and object bytes
become documents where they read as JSON. -/
def decode : ColumnType → Value → Value
  | _, .null => .null
  | .boolean, .int n => .bool (n != 0)
  | .boolean, .bigInt n => .bool (n != 0)
  | .bigInt, .int n => .bigInt n.toInt64
  | .integer, .bigInt n => Value.ofInt64Narrow n
  | .double, .int n => .double (Binary64.ofInt n.toInt)
  | .double, .bigInt n => .double (Binary64.ofInt n.toInt)
  | .timestamp, .int n => .timestamp n.toInt64
  | .timestamp, .bigInt n => .timestamp n
  | .json, .text s =>
    match Json.parse s with
    | .ok j => .json j
    | .error _ => .text s
  | .object, .bytes b =>
    match String.fromUTF8? ⟨b.toArray⟩ with
    | some s =>
      match Json.parse s with
      | .ok j => .json j
      | .error _ => .bytes b
    | none => .bytes b
  | _, v => v

end ColumnType

end EntityGraph
