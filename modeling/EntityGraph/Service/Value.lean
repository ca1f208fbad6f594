import EntityGraph.Service.Error
import EntityGraph.Schema.ColumnType
import EntityGraph.Schema.Identifier

/-!
# The request service: values

Values travel as tagged objects, `{"t": kind, "v": ...}`: 64-bit integers and timestamps as
decimal strings, floats by their bits in sixteen hexadecimal digits, bytes in hexadecimal. In
requests a value may also be given in short: `null`, a boolean, a string (text), an integer
(32-bit when it fits, 64-bit otherwise) or a float.

Also here: the operations that report on single values, on the conversions into values, and on
identifiers.
-/

namespace EntityGraph

namespace Service

/-- Bytes in lowercase hexadecimal. -/
def hexOfBytes (bs : List UInt8) : String := String.join (bs.map fun b => hexFixed 2 b.toNat)

/-- Bytes from hexadecimal, two digits each. -/
def bytesOfHex (s : String) : Decode (List UInt8) :=
  let rec go : List Char → Decode (List UInt8)
    | [] => pure []
    | a :: b :: rest => do
      match JsonRead.hexValue a, JsonRead.hexValue b with
      | some x, some y => return (UInt8.ofNat (x * 16 + y)) :: (← go rest)
      | _, _ => throw "bad hex"
    | [_] => throw "odd hex"
  go s.toList

/-- A number from hexadecimal digits. -/
def natOfHex (s : String) : Decode Nat :=
  s.toList.foldlM (fun acc c => match JsonRead.hexValue c with
    | some v => pure (acc * 16 + v)
    | none => throw "bad hex") 0

/-- A 64-bit integer in decimal. -/
def int64Text (n : Int64) : String := intString n.toInt

/-- A float given as a JSON number or as `"nan"`, `"inf"`, `"-inf"`. -/
def doubleOfJson : Json → Decode Binary64
  | .num (.float x) => pure x
  | .num (.nat n) => pure (Binary64.ofInt n)
  | .num (.neg n) => pure (Binary64.ofInt n)
  | .str "nan" => pure Binary64.nan
  | .str "inf" => pure (Binary64.infinity false)
  | .str "-inf" => pure (Binary64.infinity true)
  | _ => throw "bad double"

/-- An integer as the narrowest integer value holding it. -/
def intValue (n : Int) : Decode Value :=
  if fitsI32 n then pure (.int (Int32.ofInt n)) else .bigInt <$> int64Of n

end Service

namespace Value

open Service

/-- The tagged form of a value. -/
def toTagged : Value → Json
  | .null => obj [("t", str "null")]
  | .bool b => obj [("t", str "bool"), ("v", .bool b)]
  | .int n => obj [("t", str "int"), ("v", Json.int n.toInt)]
  | .bigInt n => obj [("t", str "bigint"), ("v", str (int64Text n))]
  | .timestamp n => obj [("t", str "timestamp"), ("v", str (int64Text n))]
  | .double x => obj [("t", str "double"), ("bits", str (hexFixed 16 x.bits.toNat))]
  | .text s => obj [("t", str "text"), ("v", str s)]
  | .bytes b => obj [("t", str "bytes"), ("v", str (hexOfBytes b))]
  | .json j => obj [("t", str "json"), ("v", j)]

/-- A value from its tagged or short form. -/
def ofTagged (j : Json) : Decode Value :=
  match j with
  | .null => pure .null
  | .bool b => pure (.bool b)
  | .str s => pure (.text s)
  | .num (.float x) => pure (.double x)
  | .num (.nat n) => intValue n
  | .num (.neg n) => intValue n
  | .obj _ => do
    let t ← strField j "t"
    match t with
    | "null" => pure .null
    | "bool" => .bool <$> (asBool (← field j "v"))
    | "int" => do
      let n ← asInt (← field j "v")
      if fitsI32 n then pure (.int (Int32.ofInt n)) else throw "int out of range"
    | "bigint" => do .bigInt <$> int64Of (← asInt (← field j "v"))
    | "timestamp" => do .timestamp <$> int64Of (← asInt (← field j "v"))
    | "double" =>
      match field? j "bits" with
      | some b => do
        let n ← natOfHex (← asStr b)
        pure (.double ⟨UInt64.ofNat n⟩)
      | none => do .double <$> doubleOfJson (← field j "v")
    | "text" => .text <$> strField j "v"
    | "bytes" => do .bytes <$> bytesOfHex (← strField j "v")
    | "json" => pure (.json ((j.field? "v").getD .null))
    | _ => throw ("unknown value tag " ++ t)
  | .arr _ => throw "unexpected array for a value"

end Value

namespace Service

/-- A list of values. -/
def values (j : Json) : Decode (List Value) := do (← asArr j).mapM Value.ofTagged

/-- A value, or `null` for nothing. -/
def optValue : Option Value → Json
  | some v => v.toTagged
  | none => .null

/-- A column type by name. -/
def columnTypeOf (s : String) : Decode ColumnType :=
  match ColumnType.ofName? s with
  | some t => pure t
  | none => throw ("unknown column type " ++ s)

/-- Report on one value, and on it under a column type when one is given. -/
def valueReport (req : Json) : Decode Json := do
  let v ← Value.ofTagged (← field req "value")
  let column := (← optStrField req "column").getD "c"
  let base : List (String × Json) :=
    [("type_name", str v.typeName), ("is_null", .bool v.isNull),
     ("as_i64", match v.asInt64? with
       | some n => str (int64Text n)
       | none => .null),
     ("as_str", optStr v.asText?),
     ("as_bytes", match v.asBytes? with
       | some b => str (hexOfBytes b)
       | none => .null),
     ("to_json", v.toJson)]
  match ← optStrField req "type" with
  | none => pure (obj base)
  | some tn => do
    let t ← columnTypeOf tn
    let check := match t.check column v with
      | .ok () => str "ok"
      | .error e => e.toAnswer
    pure (obj (base ++ [("sql_name", str t.sqlName), ("check", check),
      ("encode", (t.encode v).toTagged), ("decode", (t.decode v).toTagged)]))

/-- The value a conversion from a plain kind of data gives. -/
def convertedValue (req : Json) : Decode Json := do
  let src ← strField req "from"
  let v ← field req "v"
  let value : Value ← match src with
    | "bool" => .bool <$> asBool v
    | "i32" => do
      let n ← asInt v
      if fitsI32 n then pure (.int (Int32.ofInt n)) else throw "i32 out of range"
    | "i64" => do .bigInt <$> int64Of (← asInt v)
    | "f64" => .double <$> doubleOfJson v
    | "string" | "str" => .text <$> asStr v
    | "bytes" => do .bytes <$> bytesOfHex (← asStr v)
    | "json" => pure (.json v)
    | "option_i64" =>
      match v with
      | .null => pure .null
      | _ => do .bigInt <$> int64Of (← asInt v)
    | "option_string" =>
      match v with
      | .null => pure .null
      | _ => .text <$> asStr v
    | _ => throw ("unknown source " ++ src)
  pure value.toTagged

/-- Whether a name is an identifier, and the table name it gives under a schema. -/
def identifierReport (req : Json) : Decode Json := do
  let name ← strField req "name"
  let schema ← optStrField req "schema"
  pure (obj [("valid", .bool (isIdentifier name)), ("qualified", str (qualifyTable schema name))])

end Service

end EntityGraph
