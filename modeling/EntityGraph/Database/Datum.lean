import EntityGraph.Database.Printf
import EntityGraph.Value.Basic
import EntityGraph.Json.Write

/-!
# Stored values

A relational store keeps every cell in one of five storage classes: null, a 64-bit integer, a
binary64 real, text, or a byte string (`Datum`). A column declares a type name, and the name
decides the column's *affinity*, the class a value is moved towards when it is stored there or
compared with it.

Rules that fix the results:
- The affinity of a declared type is found by scanning it once (`Affinity.ofDeclaredType`):
  `INT` anywhere gives integer at once; `CHAR`, `CLOB` or `TEXT` give text; `BLOB` gives none
  (`blob`) unless text was found; `REAL`, `FLOA` or `DOUB` give real if nothing was found yet;
  otherwise numeric. A column without a type has no affinity (`blob`).
- Text becomes a number under a numeric affinity when the whole text (blanks around it
  allowed) reads as one (`Numeral.readReal`): an integer when written as one and within 64
  bits, otherwise a real, which integer and numeric affinity keep as an integer when it has no
  fraction and lies strictly inside the 64-bit range. Real affinity keeps such a real as an
  integer too but reads it back as a real, so a stored negative zero reads back as zero. Under
  text affinity a number becomes its text (`realText` for reals). Byte strings are never
  converted.
- Arithmetic, truth values and functions read text by its longest numeric prefix
  (`Datum.toReal`, `Datum.toInt`), zero when there is none.
- Values order by class first (null, numbers, text, byte strings); numbers compare exactly
  across integer and real; text compares under a collation (`Collation`), byte strings bytewise.
-/

namespace EntityGraph

namespace Database

/-- A value in one of the store's five storage classes. -/
inductive Datum where
  | null
  | integer (n : Int64)
  | real (x : Binary64)
  | text (s : Bytes)
  | blob (b : Bytes)
  deriving Inhabited, Repr, BEq

/-- The class a column moves the values stored in it towards. -/
inductive Affinity where
  /-- No conversion at all: the affinity of byte-string columns and of columns without a
  declared type. -/
  | blob
  | text
  | numeric
  | integer
  | real
  deriving DecidableEq, Inhabited, Repr

/-- How text is compared. -/
inductive Collation where
  /-- Bytewise. -/
  | binary
  /-- Bytewise with ASCII letters folded to lower case. -/
  | nocase
  /-- Bytewise, trailing spaces ignored. -/
  | rtrim
  deriving DecidableEq, Inhabited, Repr

namespace Collation

/-- The collation of a name, read without regard to case. -/
def ofName? (name : String) : Option Collation :=
  match name.toUpper with
  | "BINARY" => some .binary
  | "NOCASE" => some .nocase
  | "RTRIM" => some .rtrim
  | _ => none

/-- The order of two texts under the collation. -/
def compareText : Collation → Bytes → Bytes → Ordering
  | .binary, a, b => Bytes.compareBytes a b
  | .nocase, a, b => Bytes.compareNoCase a b
  | .rtrim, a, b => Bytes.compareBytes (Bytes.trimTrailingSpaces a) (Bytes.trimTrailingSpaces b)

end Collation

namespace Affinity

/-- Whether the affinity is one of the three numeric ones. -/
def isNumeric : Affinity → Bool
  | .numeric | .integer | .real => true
  | _ => false

/-- Scan a declared type: the last four characters read so far, in lower case, decide. -/
def scanType : List Char → List Char → Affinity → Affinity
  | [], _, aff => aff
  | c :: rest, seen, aff =>
    let seen := (seen ++ [c.toLower]).drop (seen.length + 1 - 4)
    let has (w : String) : Bool := seen == w.toList
    if seen.drop (seen.length - 3) == "int".toList then .integer
    else if has "char" || has "clob" || has "text" then scanType rest seen .text
    else if has "blob" && (aff == .numeric || aff == .real) then scanType rest seen .blob
    else if (has "real" || has "floa" || has "doub") && aff == .numeric then
      scanType rest seen .real
    else scanType rest seen aff

/-- The affinity of a declared type name (numeric for a name that says nothing). -/
def ofDeclaredType (declared : String) : Affinity := scanType declared.toList [] .numeric

/-- The affinity of a column's declared type: none (`blob`) without a type. -/
def ofColumnType (declared : String) : Affinity :=
  if declared.isEmpty then .blob else ofDeclaredType declared

end Affinity

/-! ## Numbers and text -/

/-- A real converted to a 64-bit integer: truncated, saturating at the bounds; NaN gives the
least integer. -/
def realToInt (x : Binary64) : Int :=
  if x.isNaN then -2 ^ 63
  else if x.isInfinite then (if x.signBit then -2 ^ 63 else 2 ^ 63 - 1)
  else
    let t := x.truncate
    if t ≤ -2 ^ 63 then -2 ^ 63 else if t ≥ 2 ^ 63 - 1 then 2 ^ 63 - 1 else t

/-- Whether a real is the same as an integer, and small enough for that to be exact in every
conversion: zero, or bitwise the integer's own real and within `2 ^ 51`. -/
def realSameAsInt (x : Binary64) (i : Int) : Bool :=
  x.isZero || ((Binary64.ofInt i).bits == x.bits && -2 ^ 51 ≤ i && i < 2 ^ 51)

/-- A 64-bit integer from an integer within its range. -/
def int64Of (n : Int) : Int64 := Int64.ofInt n

/-- Decimal text of an integer. -/
def intText (n : Int) : String := if n < 0 then "-" ++ toString n.natAbs else toString n

namespace Datum

/-- A 64-bit integer as a datum. -/
def ofInt (n : Int) : Datum := .integer (int64Of n)

/-- A boolean as the integer 1 or 0. -/
def ofBool (b : Bool) : Datum := .integer (if b then 1 else 0)

/-- Text given as a string. -/
def ofString (s : String) : Datum := .text (Bytes.ofString s)

/-- A real result, NaN read as null. -/
def ofReal (x : Binary64) : Datum := if x.isNaN then .null else .real x

/-- The name of the storage class, as `typeof` reports it. -/
def storageName : Datum → String
  | .null => "null"
  | .integer _ => "integer"
  | .real _ => "real"
  | .text _ => "text"
  | .blob _ => "blob"

/-- Whether the datum is null. -/
def isNull : Datum → Bool
  | .null => true
  | _ => false

/-- Whether the datum is text. -/
def isText : Datum → Bool
  | .text _ => true
  | _ => false

/-- Whether the datum is a number. -/
def isNumber : Datum → Bool
  | .integer _ | .real _ => true
  | _ => false

/-- The datum as text: numbers written out, byte strings as their bytes, null as none. -/
def toText? : Datum → Option Bytes
  | .null => none
  | .integer n => some (Bytes.ofString (intText n.toInt))
  | .real x => some (Bytes.ofString (realText x))
  | .text s => some s
  | .blob b => some b

/-- The datum as text, null as empty. -/
def textOrEmpty (d : Datum) : Bytes := d.toText?.getD []

/-- The bytes of the datum, as the byte-string functions see them. -/
def bytes (d : Datum) : Bytes := d.textOrEmpty

/-- The datum as a real: text by its numeric prefix, null as zero. -/
def toReal : Datum → Binary64
  | .null => Binary64.zero false
  | .integer n => Binary64.ofInt n.toInt
  | .real x => x
  | .text b | .blob b => (readReal b).1

/-- The datum as a 64-bit integer: reals truncated and saturated, text by its integer prefix,
null as zero. -/
def toInt : Datum → Int
  | .null => 0
  | .integer n => n.toInt
  | .real x => realToInt x
  | .text b | .blob b => (readInteger b).1

/-- The truth of a datum, `ifNull` for null: integers by being nonzero, everything else by its
real value. -/
def truth (ifNull : Bool) : Datum → Bool
  | .null => ifNull
  | .integer n => n != 0
  | d => !d.toReal.isZero

/-- The truth of a datum in a condition, null being unknown. -/
def truth? : Datum → Option Bool
  | .null => none
  | d => some (d.truth false)

/-- An unknown or known truth as a datum. -/
def ofTruth : Option Bool → Datum
  | some b => ofBool b
  | none => .null

/-- The number a text stands for in arithmetic: an integer when it is written as one that fits,
or when it has no numeric prefix beyond an integer, a real otherwise. -/
def numberOfText (b : Bytes) : Datum :=
  let (x, rc) := readReal b
  let (i, irc) := readInteger b
  if rc ≤ 0 then
    if rc == 0 && irc ≤ 1 then .integer (int64Of i) else .real x
  else if rc == 1 && irc == 0 then .integer (int64Of i)
  else .real x

/-- The datum as a number for arithmetic. -/
def toNumber : Datum → Datum
  | .text b | .blob b => numberOfText b
  | d => d

/-- A real kept as an integer when it has no fraction and lies strictly inside the 64-bit
range. -/
def integerOfReal (x : Binary64) : Datum :=
  let i := realToInt x
  if !x.isNaN && (Binary64.ofInt i).eqv x && -2 ^ 63 < i && i < 2 ^ 63 - 1 then .integer (int64Of i)
  else .real x

/-- Text made a number when all of it reads as one; `tryInteger` keeps a real without fraction
as an integer. Text that is no number is left as it is. -/
def numericOfText (b : Bytes) (tryInteger : Bool) : Datum :=
  let (x, rc) := readReal b
  if rc ≤ 0 then .text b
  else
    let alsoInt : Option Int :=
      if rc == 1 then
        let i := realToInt x
        if realSameAsInt x i then some i
        else
          let (j, irc) := readInteger b
          if irc == 0 then some j else none
      else none
    match alsoInt with
    | some i => .integer (int64Of i)
    | none => if tryInteger then integerOfReal x else .real x

/-- The number a text is cast to: an integer when it reads as one or its real has an exact
small integer value, otherwise the real. -/
def numerify (b : Bytes) : Datum :=
  let (x, rc) := readReal b
  let (i, irc) := readInteger b
  if (rc == 0 || rc == 1) && irc ≤ 1 then .integer (int64Of i)
  else
    let j := realToInt x
    if realSameAsInt x j then .integer (int64Of j) else .real x

end Datum

namespace Affinity

/-- A value as a column of this affinity stores it. -/
def store : Affinity → Datum → Datum
  | .text, .integer n => .text (Bytes.ofString (intText n.toInt))
  | .text, .real x => .text (Bytes.ofString (realText x))
  | .blob, d => d
  | .text, d => d
  | .real, .text b =>
    match Datum.numericOfText b true with
    | .integer n => .real (Binary64.ofInt n.toInt)
    | d => d
  | .real, .integer n => .real (Binary64.ofInt n.toInt)
  | _, .text b => Datum.numericOfText b true
  | .real, .real x =>
    -- kept as an integer when it has no fraction, and read back as a real: a negative zero
    -- comes back positive
    match Datum.integerOfReal x with
    | .integer n => .real (Binary64.ofInt n.toInt)
    | d => d
  | .real, d => d
  | _, .real x => Datum.integerOfReal x
  | _, d => d

end Affinity

namespace Datum

/-- A value cast to an affinity. -/
def cast (aff : Affinity) : Datum → Datum
  | .null => .null
  | d =>
    match aff with
    | .text => .text d.textOrEmpty
    | .blob => .blob d.textOrEmpty
    | .integer => ofInt d.toInt
    | .real => .real d.toReal
    | .numeric =>
      match d with
      | .integer _ | .real _ => d
      | .text b | .blob b => numerify b
      | .null => .null

/-! ## Order -/

/-- The exact order of an integer and a real. -/
def compareIntReal (n : Int) (x : Binary64) : Ordering :=
  if x.isNaN then .gt
  else if x.isInfinite then (if x.signBit then .gt else .lt)
  else
    let (a, b) := x.magnitude
    let r : Int := if x.signBit then -(a : Int) else a
    compare (n * b) r

/-- The order of two values under a collation: null first, then numbers, text, byte strings. -/
def compareWith (coll : Collation) : Datum → Datum → Ordering
  | .null, .null => .eq
  | .null, _ => .lt
  | _, .null => .gt
  | .integer a, .integer b => compare a.toInt b.toInt
  | .integer a, .real y => compareIntReal a.toInt y
  | .real x, .integer b => (compareIntReal b.toInt x).swap
  | .real x, .real y => Binary64.compareFinite x y
  | .integer _, _ | .real _, _ => .lt
  | _, .integer _ | _, .real _ => .gt
  | .text a, .text b => coll.compareText a b
  | .text _, .blob _ => .lt
  | .blob _, .text _ => .gt
  | .blob a, .blob b => Bytes.compareBytes a b

/-- The order of two values under the binary collation. -/
def compare (a b : Datum) : Ordering := compareWith .binary a b

/-- Whether two values are equal in the order of values. -/
def same (a b : Datum) : Bool := compare a b == .eq

/-- Lexicographic order of two lists under an order of their elements. -/
def compareLists {α : Type} (cmp : α → α → Ordering) : List α → List α → Ordering
  | [], [] => .eq
  | [], _ :: _ => .lt
  | _ :: _, [] => .gt
  | a :: as, b :: bs =>
    match cmp a b with
    | .eq => compareLists cmp as bs
    | o => o

/-- Two operands made ready for a comparison under an affinity (none for no affinity): under a
numeric affinity text that reads as a number becomes one, when either operand is text; under
text affinity numbers become text, when either operand is text. -/
def prepare (aff : Option Affinity) (x y : Datum) : Datum × Datum :=
  match aff with
  | some a =>
    if a.isNumeric then
      if x.isText || y.isText then
        let num : Datum → Datum
          | .text b => numericOfText b false
          | d => d
        (num x, num y)
      else (x, y)
    else if a == .text && (x.isText || y.isText) then
      let txt : Datum → Datum
        | .integer n => .text (Bytes.ofString (intText n.toInt))
        | .real r => .text (Bytes.ofString (realText r))
        | d => d
      (txt x, txt y)
    else (x, y)
  | none => (x, y)

/-! ## Values of the library -/

/-- How a value is handed to the store: booleans as 0 or 1, integers and timestamps as
integers, a NaN as null, JSON documents as their compact text, bytes as a byte string. -/
def ofValue : Value → Datum
  | .null => .null
  | .bool b => .integer (if b then 1 else 0)
  | .int n => .integer n.toInt64
  | .bigInt n => .integer n
  | .timestamp n => .integer n
  | .double x => if x.isNaN then .null else .real x
  | .text s => .text (Bytes.ofString s)
  | .json j => .text (Bytes.ofString j.render)
  | .bytes b => .blob b

/-- How a datum is read back: integers within 32 bits as `int`, wider ones as `bigInt`, text
decoded with each ill-formed sequence replaced. -/
def toValue : Datum → Value
  | .null => .null
  | .integer n => Value.ofInt64Narrow n
  | .real x => .double x
  | .text s => .text (Bytes.lossy s)
  | .blob b => .bytes b

/-- Reals quoted with fifteen significant digits. -/
def shortQuoteFormat : FloatFormat :=
  { style := .general, precision := some 15, altForm2 := true, zeroPad := true }

/-- Reals quoted with twenty digits after the point, for those fifteen do not fix. -/
def longQuoteFormat : FloatFormat :=
  { style := .exponent, precision := some 20, altForm2 := true, zeroPad := true }

/-- A value written as a literal of the store's language: reals with enough digits to read
back the same, text quoted with its quotes doubled, byte strings in hexadecimal. -/
def quoted : Datum → Bytes
  | .null => Bytes.ofString "NULL"
  | .integer n => Bytes.ofString (intText n.toInt)
  | .real x =>
    let short := formatFloat shortQuoteFormat x
    if (readReal (Bytes.ofString short)).1.eqv x then Bytes.ofString short
    else Bytes.ofString (formatFloat longQuoteFormat x)
  | .text s => 39 :: (Bytes.untilNul s).flatMap (fun b => if b == 39 then [39, 39] else [b]) ++ [39]
  | .blob b => Bytes.ofString ("X'" ++ Bytes.hex b ++ "'")

end Datum

end Database

end EntityGraph
