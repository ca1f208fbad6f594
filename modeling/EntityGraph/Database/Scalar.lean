import EntityGraph.Database.Operators
import EntityGraph.Database.Fault

/-!
# Scalar functions

The store's built-in functions of one row, each a total function of its argument values.

Rules that fix the results:
- Functions of text read numbers by their text and byte strings by their bytes. Some see the
  whole value, some stop at its first NUL, as each says.
- Null arguments give null, except where a function says otherwise (`concat` skips them,
  `hex` and `quote` write them out).
- Positions count characters from 1 for text and bytes for byte strings.
- Case mapping touches ASCII letters only.
-/

namespace EntityGraph

namespace Database

namespace Scalar

/-- The text a value is read as, or none for null. -/
def text? : Datum → Option Bytes := Datum.toText?

/-- The characters of a set of characters given as text, each as its bytes; the set stops at
its first NUL. -/
def charSet (set : Bytes) : List Bytes := Bytes.chars (Bytes.untilNul set)

/-- Remove characters of a set from the front of a text, one at a time. -/
def trimFront (set : List Bytes) : (fuel : Nat) → Bytes → Bytes
  | 0, b => b
  | fuel + 1, b =>
    match set.find? fun c => Bytes.startsWith b c with
    | some c => if c.isEmpty then b else trimFront set fuel (b.drop c.length)
    | none => b

/-- Remove characters of a set from the end of a text, one at a time. -/
def trimBack (set : List Bytes) (b : Bytes) : Bytes :=
  (trimFront (set.map List.reverse) (b.length + 1) b.reverse).reverse

/-- `trim`, `ltrim` and `rtrim`: remove blanks, or the characters of a set, from the front, the
end, or both. The text is taken whole, NULs included. -/
def trim (front back : Bool) (subject : Datum) (set : Option Datum) : Datum :=
  match text? subject with
  | none => .null
  | some s =>
    let chars : Option (List Bytes) := match set with
      | none => some [[32]]
      | some d => (text? d).map charSet
    match chars with
    | none => .null
    | some cs =>
      let s := if front then trimFront cs (s.length + 1) s else s
      let s := if back then trimBack cs s else s
      .text s

/-- `min` of several values: null if any is null, else the least under the collation; of equal
values the last. -/
def least (coll : Collation) (args : List Datum) : Datum :=
  if args.any Datum.isNull then .null
  else
    match args with
    | [] => .null
    | a :: rest => rest.foldl (fun best d => if Datum.compareWith coll best d != .lt then d else best) a

/-- `max` of several values: null if any is null, else the greatest under the collation; of
equal values the first. -/
def greatest (coll : Collation) (args : List Datum) : Datum :=
  if args.any Datum.isNull then .null
  else
    match args with
    | [] => .null
    | a :: rest => rest.foldl (fun best d => if Datum.compareWith coll best d == .lt then d else best) a

/-- `length`: characters of text up to its first NUL, bytes of a byte string, characters of a
number's text. -/
def length : Datum → Datum
  | .null => .null
  | .blob b => Datum.ofInt b.length
  | .text s => Datum.ofInt (Bytes.charCount s)
  | d => Datum.ofInt (d.textOrEmpty.length)

/-- `octet_length`: the bytes of a value's text. -/
def octetLength : Datum → Datum
  | .null => .null
  | d => Datum.ofInt d.textOrEmpty.length

/-- The 1-based character position of the first occurrence of `needle` in `hay`, 0 when there
is none; `inText` steps over whole characters. -/
def findFrom (needle : Bytes) (inText : Bool) : (fuel : Nat) → Nat → Bytes → Nat
  | 0, _, _ => 0
  | fuel + 1, n, hay =>
    if needle.length > hay.length then 0
    else if Bytes.startsWith hay needle then n
    else
      let rest := hay.drop 1
      let rest := if inText then rest.dropWhile Bytes.isContinuation else rest
      findFrom needle inText fuel (n + 1) rest

/-- `instr`: the position of the first occurrence of one value in another, counted in
characters unless both are byte strings. -/
def instr (hay needle : Datum) : Datum :=
  if hay.isNull || needle.isNull then .null
  else
    let h := hay.textOrEmpty
    let n := needle.textOrEmpty
    if n.isEmpty then .integer 1
    else
      let inText := !(match hay, needle with
        | .blob _, .blob _ => true
        | _, _ => false)
      Datum.ofInt (findFrom n inText (h.length + 1) 1 h)

/-- An argument of `printf` as each conversion reads it. -/
def printfArg (d : Datum) : PrintfArg := { int := d.toInt, real := d.toReal, text := text? d }

/-- `printf` and `format`: the text of a format with the other arguments; null when the format
is null or missing. -/
def printf : List Datum → Datum
  | [] => .null
  | fmt :: args =>
    match text? fmt with
    | none => .null
    | some f => .text (printfText f (args.map printfArg))

/-- `unicode`: the code point of the first character, null for empty text. -/
def unicode (d : Datum) : Datum :=
  match text? d with
  | some s =>
    match Bytes.untilNul s with
    | [] => .null
    | b => Datum.ofInt (Bytes.readChar b).1
  | none => .null

/-- `char`: the text of code points; a value outside Unicode gives `U+FFFD`. -/
def char (args : List Datum) : Datum :=
  .text (args.flatMap fun d =>
    let x := d.toInt
    let x := if x < 0 || x > 0x10ffff then 0xfffd else x.toNat
    Bytes.encodePoint x)

/-- `abs`: integers stay integers (the least one overflows), anything else becomes a real. -/
def abs : Datum → Except Fault Datum
  | .null => pure .null
  | .integer n =>
    if n.toInt == -2 ^ 63 then throw Fault.integerOverflow
    else pure (Datum.ofInt n.toInt.natAbs)
  | d =>
    let x := d.toReal
    pure (.real (if x.lt (Binary64.zero false) then x.negate else x))

/-- `sign`: -1, 0 or 1 by the sign of a number, or of text that reads wholly as a number; null
for anything else. -/
def sign (d : Datum) : Datum :=
  let zero := Binary64.zero false
  match Affinity.numeric.store d with
  | .integer n => .integer (if n.toInt < 0 then -1 else if n.toInt > 0 then 1 else 0)
  | .real x => .integer (if x.lt zero then -1 else if zero.lt x then 1 else 0)
  | _ => .null

/-- The bound past which a real has no fraction to round. -/
def noFractionBound : Binary64 := Binary64.ofInt (2 ^ 52)

/-- `round`: a real rounded to a number of digits after the point (0 to 30), half away from
zero, as the decimal text of that many digits reads back. -/
def round (x : Datum) (digits : Option Datum) : Datum :=
  match digits with
  | some .null => .null
  | _ =>
    let n : Int := match digits with
      | some d => let v := toInt32 d.toInt; if v > 30 then 30 else if v < 0 then 0 else v
      | none => 0
    match x with
    | .null => .null
    | _ =>
      let r := x.toReal
      if r.lt noFractionBound.negate || noFractionBound.lt r then .real r
      else if n == 0 then
        let half := Binary64.ofRatio r.signBit 1 2
        .real (Binary64.ofInt (Binary64.add r half).truncate)
      else
        let t := formatFloat { style := .fixed, precision := some n.toNat, altForm2 := true } r
        .real (readReal (Bytes.ofString t)).1

/-- `upper`: ASCII letters made capital, the whole text kept. -/
def upper (d : Datum) : Datum :=
  match text? d with
  | some s => .text (Bytes.upper s)
  | none => .null

/-- `lower`: ASCII letters made small, the whole text kept. -/
def lower (d : Datum) : Datum :=
  match text? d with
  | some s => .text (Bytes.lower s)
  | none => .null

/-- `hex`: the bytes of a value's text in capital hexadecimal; empty for null. -/
def hex (d : Datum) : Datum := .text (Bytes.ofString (Bytes.hex d.textOrEmpty))

/-- The value of a hexadecimal digit byte. -/
def hexValue (b : UInt8) : Option Nat :=
  let c := b.toNat
  if 48 ≤ c && c ≤ 57 then some (c - 48)
  else if 65 ≤ c && c ≤ 70 then some (c - 55)
  else if 97 ≤ c && c ≤ 102 then some (c - 87)
  else none

/-- Decode pairs of hexadecimal digits, allowing characters of `pass` between pairs; none when
anything else is met. -/
def unhexLoop (pass : Bytes) : (fuel : Nat) → Bytes → Bytes → Option Bytes
  | 0, _, acc => some acc.reverse
  | fuel + 1, b, acc =>
    match b with
    | [] => some acc.reverse
    | 0 :: _ => some acc.reverse
    | c :: rest =>
      match hexValue c with
      | some hi =>
        match rest with
        | d :: rest' =>
          match hexValue d with
          | some lo => unhexLoop pass fuel rest' (UInt8.ofNat (hi * 16 + lo) :: acc)
          | none => none
        | [] => none
      | none =>
        let (code, after) := Bytes.readChar b
        if (Bytes.codePoints (Bytes.untilNul pass)).contains code then unhexLoop pass fuel after acc
        else none

/-- `unhex`: the bytes written in hexadecimal, with characters of the second argument allowed
between pairs of digits; null on anything else. -/
def unhex (d : Datum) (pass : Option Datum) : Datum :=
  match text? d, (match pass with
      | some p => text? p
      | none => some []) with
  | some s, some p =>
    match unhexLoop p (s.length + 1) s [] with
    | some b => .blob b
    | none => .null
  | _, _ => .null

/-- The texts of values joined by a separator; nulls and empty texts are skipped, and no
separator comes before the first text kept. -/
def joinTexts (sep : Bytes) (args : List Datum) : Bytes :=
  let texts := args.filterMap fun d => match text? d with
    | some t => if t.isEmpty then none else some t
    | none => none
  match texts with
  | [] => []
  | t :: ts => ts.foldl (fun acc x => acc ++ sep ++ x) t

/-- `concat`: the texts of the non-null arguments. -/
def concat (args : List Datum) : Datum := .text (joinTexts [] args)

/-- `concat_ws`: the texts of the non-null arguments after the first, joined by the first. -/
def concatWs (sep : Datum) (args : List Datum) : Datum :=
  match text? sep with
  | some s => .text (joinTexts s args)
  | none => .null

/-- `nullif`: null when both are the same under the collation, else the first. -/
def nullif (coll : Collation) (a b : Datum) : Datum :=
  if Datum.compareWith coll a b == .eq then .null else a

/-- Replace every occurrence of a pattern, left to right without overlap. -/
def replaceAll (pat rep : Bytes) : (fuel : Nat) → Bytes → Bytes → Bytes
  | 0, s, acc => acc.reverse ++ s
  | fuel + 1, s, acc =>
    match s with
    | [] => acc.reverse
    | c :: rest =>
      if Bytes.startsWith s pat then replaceAll pat rep fuel (s.drop pat.length) (rep.reverse ++ acc)
      else replaceAll pat rep fuel rest (c :: acc)

/-- `replace`: every occurrence of the second text in the first replaced by the third; an empty
pattern leaves the first as it is. -/
def replace (s pat rep : Datum) : Datum :=
  match text? s with
  | none => .null
  | some str =>
    match text? pat with
    | none => .null
    | some p =>
      if p.head? == some 0 || p.isEmpty then .text str
      else
        match text? rep with
        | none => .null
        | some r => .text (replaceAll p r (str.length + 1) str [])

/-- The longest byte string the store holds. -/
def maxLength : Nat := 1000000000

/-- `zeroblob`: that many zero bytes. -/
def zeroblob (d : Datum) : Except Fault Datum :=
  let n := d.toInt
  let n := if n < 0 then 0 else n.toNat
  if n > maxLength then throw Fault.tooBig else pure (.blob (List.replicate n 0))

/-- Skip characters of a text, stopping at a NUL. -/
def skipChars : Nat → Bytes → Bytes
  | 0, b => b
  | n + 1, b =>
    match b with
    | [] => []
    | 0 :: rest => 0 :: rest
    | _ => skipChars n (Bytes.splitChar b).2

/-- Take characters of a text, stopping at a NUL. -/
def takeChars : Nat → Bytes → Bytes
  | 0, _ => []
  | n + 1, b =>
    match b with
    | [] => []
    | 0 :: _ => []
    | _ => let (c, rest) := Bytes.splitChar b; c ++ takeChars n rest

/-- `substr`: the part of a value from a 1-based start (counted from the end when negative) of
a length (before the start when negative); characters for text, bytes for byte strings. -/
def substr (x start : Datum) (len : Option Datum) : Datum :=
  if start.isNull || (match len with
      | some .null => true
      | _ => false) then .null
  else
    match x with
    | .null => .null
    | _ =>
      let isBlob := match x with
        | .blob _ => true
        | _ => false
      let bytes := x.textOrEmpty
      let p1 := start.toInt
      let size : Int := if isBlob then bytes.length
        else if p1 < 0 then Bytes.charCount bytes else 0
      let (p2, negP2) : Int × Bool := match len with
        | some l => let v := l.toInt; if v < 0 then (-v, true) else (v, false)
        | none => (maxLength, false)
      let (p1, p2) : Int × Int :=
        if p1 < 0 then
          let p1 := p1 + size
          if p1 < 0 then (0, if p2 < 0 then 0 else p2 + p1) else (p1, p2)
        else if p1 > 0 then (p1 - 1, p2)
        else if p2 > 0 then (p1, p2 - 1)
        else (p1, p2)
      let (p1, p2) : Int × Int :=
        if negP2 then
          let p1 := p1 - p2
          if p1 < 0 then (0, p2 + p1) else (p1, p2)
        else (p1, p2)
      let p1 := p1.toNat
      let p2 := p2.toNat
      if isBlob then
        if p1 ≥ bytes.length then .blob []
        else .blob ((bytes.drop p1).take p2)
      else .text (takeChars p2 (skipChars p1 bytes))

/-- The longest pattern `LIKE` and `GLOB` take. -/
def maxPatternLength : Nat := 50000

/-- `like` and `glob` as functions: the pattern first, then the text, then an optional escape
character. -/
def matchFunction (rules : PatternRules) (pattern subject : Datum) (escape : Option Datum) :
    Except Fault Datum := do
  if pattern.textOrEmpty.length > maxPatternLength then
    throw (Fault.error "LIKE or GLOB pattern too complex")
  let esc : Option Nat ← match escape with
    | none => pure (some 0)
    | some e =>
      match text? e with
      | none => pure none
      | some t =>
        let t := Bytes.untilNul t
        if (Bytes.chars t).length != 1 then
          throw (Fault.error "ESCAPE expression must be a single character")
        pure (some (Bytes.readChar t).1)
  match esc, text? pattern, text? subject with
  | some e, some p, some s => pure (Datum.ofBool (patternMatches rules e p s))
  | _, _, _ => pure .null

/-- The sound code of a letter, 0 for letters that have none and for anything else. -/
def soundCode (b : UInt8) : Nat :=
  let c := b.toNat % 128
  let c := if 97 ≤ c && c ≤ 122 then c - 32 else c
  if c < 65 || c > 90 then 0
  else [0, 1, 2, 3, 0, 1, 2, 0, 0, 2, 2, 4, 5, 5, 0, 1, 2, 6, 2, 3, 0, 1, 0, 2, 0, 2].getD (c - 65) 0

/-- Whether a byte is an ASCII letter. -/
def isLetter (b : UInt8) : Bool := (65 ≤ b.toNat && b.toNat ≤ 90) || (97 ≤ b.toNat && b.toNat ≤ 122)

/-- The codes after the first letter: a code is written when it differs from the one before,
and a byte without a code clears the one before. -/
def soundDigits (prev : Nat) : Nat → Bytes → List UInt8
  | 0, _ => []
  | _, [] => []
  | n + 1, b :: rest =>
    if b == 0 then []
    else
      let code := soundCode b
      if code > 0 then
        if code != prev then UInt8.ofNat (48 + code) :: soundDigits code n rest
        else soundDigits prev (n + 1) rest
      else soundDigits 0 (n + 1) rest
termination_by n bs => (n, bs.length)

/-- `soundex`: the letter and three digits of the sound code, `?000` when there is no ASCII
letter. -/
def soundex (d : Datum) : Datum :=
  let s := Bytes.untilNul (d.toText?.getD [])
  match s.dropWhile (fun b => !isLetter b) with
  | [] => .text (Bytes.ofString "?000")
  | first :: rest =>
    let digits := soundDigits (soundCode first) 3 rest
    let digits := digits ++ List.replicate (3 - digits.length) 48
    .text (Bytes.upperByte first :: digits)

/-- The options the store was built with, as `sqlite_compileoption_get` lists them. -/
def compileOptions : List String :=
  ["ATOMIC_INTRINSICS=1", "COMPILER=gcc-12.2.0", "DEFAULT_AUTOVACUUM", "DEFAULT_CACHE_SIZE=-2000",
   "DEFAULT_FILE_FORMAT=4", "DEFAULT_FOREIGN_KEYS=1", "DEFAULT_JOURNAL_SIZE_LIMIT=-1",
   "DEFAULT_MMAP_SIZE=0", "DEFAULT_PAGE_SIZE=4096", "DEFAULT_PCACHE_INITSZ=20",
   "DEFAULT_RECURSIVE_TRIGGERS", "DEFAULT_SECTOR_SIZE=4096", "DEFAULT_SYNCHRONOUS=2",
   "DEFAULT_WAL_AUTOCHECKPOINT=1000", "DEFAULT_WAL_SYNCHRONOUS=2", "DEFAULT_WORKER_THREADS=0",
   "DIRECT_OVERFLOW_READ", "ENABLE_API_ARMOR", "ENABLE_COLUMN_METADATA", "ENABLE_DBSTAT_VTAB",
   "ENABLE_FTS3", "ENABLE_FTS3_PARENTHESIS", "ENABLE_FTS5", "ENABLE_LOAD_EXTENSION",
   "ENABLE_MEMORY_MANAGEMENT", "ENABLE_RTREE", "ENABLE_STAT4", "MALLOC_SOFT_LIMIT=1024",
   "MAX_ATTACHED=10", "MAX_COLUMN=2000", "MAX_COMPOUND_SELECT=500", "MAX_DEFAULT_PAGE_SIZE=8192",
   "MAX_EXPR_DEPTH=1000", "MAX_FUNCTION_ARG=1000", "MAX_LENGTH=1000000000",
   "MAX_LIKE_PATTERN_LENGTH=50000", "MAX_MMAP_SIZE=0x7fff0000", "MAX_PAGE_COUNT=0xfffffffe",
   "MAX_PAGE_SIZE=65536", "MAX_SQL_LENGTH=1000000000", "MAX_TRIGGER_DEPTH=1000",
   "MAX_VARIABLE_NUMBER=32766", "MAX_VDBE_OP=250000000", "MAX_WORKER_THREADS=8",
   "MUTEX_PTHREADS", "SOUNDEX", "SYSTEM_MALLOC", "TEMP_STORE=1", "THREADSAFE=1", "USE_URI"]

/-- Whether a byte may stand in a name. -/
def isNameByte (b : UInt8) : Bool :=
  isLetter b || (48 ≤ b.toNat && b.toNat ≤ 57) || b == 95 || b == 36 || b.toNat ≥ 128

/-- `sqlite_compileoption_used`: whether an option (without the library prefix) starts one of
the build options and ends at a name boundary there. -/
def compileOptionUsed (d : Datum) : Datum :=
  match text? d with
  | none => .null
  | some s =>
    let s := Bytes.untilNul s
    let pre := Bytes.ofString "SQLITE_"
    let s := if Bytes.compareNoCase (s.take 7) pre == .eq then s.drop 7 else s
    Datum.ofBool (compileOptions.any fun o =>
      let ob := Bytes.ofString o
      Bytes.compareNoCase (ob.take s.length) s == .eq && ob.length ≥ s.length &&
        !(match ob.drop s.length with
          | b :: _ => isNameByte b
          | [] => false))

/-- `sqlite_compileoption_get`: the build option at a position, null past the end. -/
def compileOptionGet (d : Datum) : Datum :=
  let i := d.toInt
  if i < 0 then .null
  else match compileOptions[i.toNat]? with
    | some o => Datum.ofString o
    | none => .null

/-- The next state of the pseudo-random generator. -/
def nextRandom (seed : Nat) : Nat := (seed * 6364136223846793005 + 1442695040888963407) % 2 ^ 64

/-- `random`: a pseudo-random 64-bit integer from a seed. -/
def random (seed : Nat) : Datum := Datum.ofInt (Datum.ofBits (nextRandom seed))

/-- `randomblob`: that many pseudo-random bytes (at least one). -/
def randomBlob (seed : Nat) (d : Datum) : Except Fault Datum :=
  let n := d.toInt
  let n := if n < 1 then 1 else n.toNat
  if n > maxLength then throw Fault.tooBig
  else
    let bytes := (List.range n).map fun i => UInt8.ofNat (nextRandom (seed + i) / 2 ^ 56)
    pure (.blob bytes)

end Scalar

end Database

end EntityGraph
