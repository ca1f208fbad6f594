import EntityGraph.Database.Numeral

/-!
# JSON documents in the store

The JSON functions of the store read text into a document (`Document`), look into it and edit
it, and write it back as text. A document keeps how each number and string was written, not
only what it means, because writing it back depends on that: a number keeps its text, and a
string keeps the bytes that stood between its quotes together with what kind of escapes they
hold (`StringForm`). The reader accepts JSON5 as well as JSON, and the writer always gives
plain JSON.

Rules that fix the results:
- A document is written without blanks: `[1,2]`, `{"a":1}`.
- Numbers and strings written as JSON are written back byte for byte. A hexadecimal integer is
  written as its decimal value, or `9.0e999` when it needs more than 64 bits; a real with no
  digit before or after its point gets a `0` there.
- A string that holds JSON5 escapes or bare control characters has them turned into JSON
  escapes; text put into a document from outside (`StringForm.raw`) is escaped in full.
- An object may hold the same label twice, and keeps its members in the order they came.
-/

namespace EntityGraph

namespace Database

/-- The byte of an ASCII character. -/
def asciiByte (c : Char) : UInt8 := UInt8.ofNat c.toNat

/-- How a number in a document was written. -/
inductive NumberForm where
  /-- A decimal integer, as JSON writes one. -/
  | integer
  /-- A hexadecimal integer such as `0x1F`, possibly signed. -/
  | hex
  /-- A real as JSON writes one. -/
  | real
  /-- A real with no digit on one side of its point, such as `.5` or `5.`. -/
  | looseReal
  deriving DecidableEq, Inhabited, Repr

/-- How a string in a document was written. -/
inductive StringForm where
  /-- Without any escape. -/
  | plain
  /-- With escapes that JSON allows. -/
  | escaped
  /-- With escapes or bare characters that only JSON5 allows. -/
  | loose
  /-- Not escaped at all: text taken into a document as it is. -/
  | raw
  deriving DecidableEq, Inhabited, Repr

/-- A string of a document: its form, and its bytes as they stood between the quotes (for a
`raw` string, the text itself). -/
structure DocText where
  form : StringForm
  bytes : Bytes
  deriving Inhabited, Repr

/-- A JSON document. Object members are labelled by strings and keep their order. -/
inductive Document where
  | null
  | bool (b : Bool)
  | number (form : NumberForm) (text : Bytes)
  | string (s : DocText)
  | array (items : List Document)
  | object (members : List (DocText × Document))
  deriving Inhabited, Repr

namespace Document

/-- The name of a document's kind, as `json_type` gives it. -/
def typeName : Document → String
  | .null => "null"
  | .bool true => "true"
  | .bool false => "false"
  | .number .integer _ | .number .hex _ => "integer"
  | .number _ _ => "real"
  | .string _ => "text"
  | .array _ => "array"
  | .object _ => "object"

/-- Whether the document is an array or an object. -/
def isContainer : Document → Bool
  | .array _ | .object _ => true
  | _ => false

end Document

/-! ## Bytes of JSON text -/

/-- Whether a byte may stand in a string without an escape: not a control character, not a
quote, an apostrophe or a backslash. -/
def isPlainByte (b : UInt8) : Bool :=
  b ≥ 0x20 && b != asciiByte '"' && b != asciiByte '\\' && b != asciiByte '\''

/-- Whether a byte is a hexadecimal digit. -/
def isHexByte (b : UInt8) : Bool :=
  isDigitByte b || (0x41 ≤ b && b ≤ 0x46) || (0x61 ≤ b && b ≤ 0x66)

/-- The value of a hexadecimal digit, taken from its low bits as any byte. -/
def hexByteValue (b : UInt8) : Nat :=
  let h := b.toNat
  (h + 9 * (h / 64 % 2)) % 16

/-- A lower-case hexadecimal digit. -/
def hexDigitByte (n : Nat) : UInt8 := if n < 10 then UInt8.ofNat (48 + n) else UInt8.ofNat (87 + n)

/-- The escape of a control character: its short form when it has one, else `\u00XX`. -/
def controlEscape (c : UInt8) : Bytes :=
  let short (x : Char) : Bytes := [asciiByte '\\', asciiByte x]
  if c == 8 then short 'b'
  else if c == 9 then short 't'
  else if c == 10 then short 'n'
  else if c == 12 then short 'f'
  else if c == 13 then short 'r'
  else Bytes.ofString "\\u00" ++ [hexDigitByte (c.toNat / 16), hexDigitByte (c.toNat % 16)]

/-- A text as a JSON string: quoted, with quotes, backslashes and control characters escaped
and every other byte as it is. -/
def quoteText (b : Bytes) : Bytes :=
  let escapeByte (c : UInt8) : Bytes :=
    if c == asciiByte '"' || c == asciiByte '\\' then [asciiByte '\\', c]
    else if c < 0x20 then controlEscape c
    else [c]
  [asciiByte '"'] ++ b.flatMap escapeByte ++ [asciiByte '"']

/-- Bytes joined with a separator between them. -/
def joinBytes (sep : Bytes) : List Bytes → Bytes
  | [] => []
  | [b] => b
  | b :: rest => b ++ sep ++ joinBytes sep rest

/-! ## Writing -/

/-- The decimal text of a hexadecimal integer's digits, or `9.0e999` once the value passes 64
bits. -/
def hexValueText (digits : Bytes) : Bytes :=
  let (value, overflow) := (digits.takeWhile isHexByte).foldl
    (fun (acc : Nat × Bool) d =>
      if acc.2 || acc.1 / 2 ^ 60 != 0 then (acc.1, true)
      else (acc.1 * 16 + hexByteValue d, false)) (0, false)
  if overflow then Bytes.ofString "9.0e999" else Bytes.ofString (toString value)

/-- A hexadecimal integer written in decimal, its sign kept if negative. -/
def hexNumberText (t : Bytes) : Bytes :=
  match t with
  | 45 :: rest => 45 :: hexValueText (rest.drop 2)
  | 43 :: rest => hexValueText (rest.drop 2)
  | rest => hexValueText (rest.drop 2)

/-- A real with a bare point written with a `0` beside it. -/
def looseRealText (t : Bytes) : Bytes :=
  let (sign, body) := match t with
    | 45 :: rest => ([(45 : UInt8)], rest)
    | rest => ([], rest)
  let lead : Bytes := if body.head? == some (asciiByte '.') then [48] else []
  let rec fill : Bytes → Bytes
    | [] => []
    | c :: rest =>
      if c == asciiByte '.' && !(rest.head?.map isDigitByte).getD false then c :: 48 :: fill rest
      else c :: fill rest
  sign ++ lead ++ fill body

/-- The body of a string that holds JSON5 escapes, with them turned into JSON ones: none when an
escape is cut short. -/
def looseStringBody : Bytes → Option Bytes
  | [] => some []
  | [92] => none
  | 92 :: 13 :: 10 :: after => looseStringBody after
  | 92 :: 0xe2 :: 0x80 :: d :: after =>
    if d == 0xa8 || d == 0xa9 then looseStringBody after else none
  | 92 :: 0x78 :: h1 :: h2 :: after =>
    (Bytes.ofString "\\u00" ++ [h1, h2] ++ ·) <$> looseStringBody after
  | 92 :: e :: after =>
    if e == asciiByte '\'' then (e :: ·) <$> looseStringBody after
    else if e == asciiByte 'v' then (Bytes.ofString "\\u000b" ++ ·) <$> looseStringBody after
    else if e == asciiByte '0' then (Bytes.ofString "\\u0000" ++ ·) <$> looseStringBody after
    else if e == asciiByte 'x' || e == 0xe2 then none
    else if e == 13 || e == 10 then looseStringBody after
    else ([92, e] ++ ·) <$> looseStringBody after
  | c :: rest =>
    if c == asciiByte '"' then ([asciiByte '\\', c] ++ ·) <$> looseStringBody rest
    else if c < 0x20 then (controlEscape c ++ ·) <$> looseStringBody rest
    else (c :: ·) <$> looseStringBody rest

/-- A string of a document as JSON text. -/
def DocText.write (s : DocText) : Option Bytes :=
  let q : Bytes := [asciiByte '"']
  match s.form with
  | .plain | .escaped => some (q ++ s.bytes ++ q)
  | .loose => (fun b => q ++ b ++ q) <$> looseStringBody s.bytes
  | .raw => some (quoteText s.bytes)

mutual

/-- A document as JSON text without blanks: none when a string in it holds an escape that is
cut short. -/
def Document.write : Document → Option Bytes
  | .null => some (Bytes.ofString "null")
  | .bool b => some (Bytes.ofString (if b then "true" else "false"))
  | .number .hex t => some (hexNumberText t)
  | .number .looseReal t => some (looseRealText t)
  | .number _ t => some t
  | .string s => s.write
  | .array items => do
    let parts ← writeItems items
    pure ([asciiByte '['] ++ joinBytes [asciiByte ','] parts ++ [asciiByte ']'])
  | .object members => do
    let parts ← writeMembers members
    pure ([asciiByte '{'] ++ joinBytes [asciiByte ','] parts ++ [asciiByte '}'])

/-- The items of an array as JSON text. -/
def writeItems : List Document → Option (List Bytes)
  | [] => some []
  | d :: rest => do pure ((← d.write) :: (← writeItems rest))

/-- The members of an object as JSON text, each `label:value`. -/
def writeMembers : List (DocText × Document) → Option (List Bytes)
  | [] => some []
  | (label, d) :: rest => do
    pure (((← label.write) ++ [asciiByte ':'] ++ (← d.write)) :: (← writeMembers rest))

end

/-- A line break followed by `level` indents. -/
def indentLine (unit : Bytes) (level : Nat) : Bytes :=
  (10 : UInt8) :: (List.replicate level unit).flatten

mutual

/-- A document as JSON text laid out over lines: each item and member on its own line,
indented by one more `unit` than its container; empty containers stay on one line. -/
def Document.pretty (unit : Bytes) (level : Nat) : Document → Option Bytes
  | .array [] => some (Bytes.ofString "[]")
  | .object [] => some (Bytes.ofString "\x7b\x7d")
  | .array items => do
    let parts ← prettyItems unit (level + 1) items
    pure ([asciiByte '['] ++ joinBytes [asciiByte ','] parts ++ indentLine unit level ++
      [asciiByte ']'])
  | .object members => do
    let parts ← prettyMembers unit (level + 1) members
    pure ([asciiByte '{'] ++ joinBytes [asciiByte ','] parts ++ indentLine unit level ++
      [asciiByte '}'])
  | d => d.write

/-- The items of an array laid out, each after its line break and indent. -/
def prettyItems (unit : Bytes) (level : Nat) : List Document → Option (List Bytes)
  | [] => some []
  | d :: rest => do
    pure ((indentLine unit level ++ (← d.pretty unit level)) :: (← prettyItems unit level rest))

/-- The members of an object laid out, each `label: value` after its line break and indent. -/
def prettyMembers (unit : Bytes) (level : Nat) : List (DocText × Document) → Option (List Bytes)
  | [] => some []
  | (label, d) :: rest => do
    pure ((indentLine unit level ++ (← label.write) ++ Bytes.ofString ": " ++
        (← d.pretty unit level)) :: (← prettyMembers unit level rest))

end

/-! ## Reading escapes -/

/-- The code point that stands for an escape the store cannot read. -/
def invalidPoint : Nat := 0xfffd

/-- The value of four hexadecimal digits. -/
def hexFour (b : Bytes) : Nat :=
  (b.take 4).foldl (fun acc d => acc * 16 + hexByteValue d) 0

/-- How many bytes at the front are line continuations: a backslash followed by a line break
or by a line or paragraph separator. -/
def continuationLength : Bytes → Nat
  | 92 :: 10 :: rest => 2 + continuationLength rest
  | 92 :: 13 :: 10 :: rest => 3 + continuationLength rest
  | 92 :: 13 :: rest => 2 + continuationLength rest
  | 92 :: 0xe2 :: 0x80 :: d :: rest =>
    if d == 0xa8 || d == 0xa9 then 4 + continuationLength rest else 0
  | _ => 0

/-- The code point of the character at the front, reading at most four bytes, and the rest. -/
def readCharLimited : Bytes → Nat × Bytes
  | [] => (0, [])
  | c :: rest =>
    if c < 0xc0 then (c.toNat, rest)
    else
      let conts := (rest.take 3).takeWhile Bytes.isContinuation
      (conts.foldl (fun acc b => acc * 64 + b.toNat % 64) (Bytes.leadBits c), rest.drop conts.length)

/-- The code point of the escape at the front of some bytes, which start with a backslash, and
the bytes after it. An escape cut short stands for `U+FFFD` and takes the rest. -/
def unescapeOne : (fuel : Nat) → Bytes → Nat × Bytes
  | 0, _ => (invalidPoint, [])
  | fuel + 1, z =>
    match z with
    | _ :: e :: rest =>
      if e == asciiByte 'u' then
        if rest.length < 4 then (invalidPoint, [])
        else
          let v := hexFour rest
          let after := rest.drop 4
          match after with
          | 92 :: 117 :: low =>
            let w := hexFour low
            if v / 1024 == 0xd800 / 1024 && low.length ≥ 4 && w / 1024 == 0xdc00 / 1024 then
              ((v % 1024) * 1024 + w % 1024 + 0x10000, low.drop 4)
            else (v, after)
          | _ => (v, after)
      else if e == asciiByte 'b' then (8, rest)
      else if e == asciiByte 'f' then (12, rest)
      else if e == asciiByte 'n' then (10, rest)
      else if e == asciiByte 'r' then (13, rest)
      else if e == asciiByte 't' then (9, rest)
      else if e == asciiByte 'v' then (11, rest)
      else if e == asciiByte '0' then
        (if (rest.head?.map isDigitByte).getD false then invalidPoint else 0, rest)
      else if e == asciiByte '\'' || e == asciiByte '"' || e == asciiByte '/' ||
          e == asciiByte '\\' then (e.toNat, rest)
      else if e == asciiByte 'x' then
        match rest with
        | h1 :: h2 :: after => (hexByteValue h1 * 16 + hexByteValue h2, after)
        | _ => (invalidPoint, [])
      else if e == 0xe2 || e == 13 || e == 10 then
        let skip := continuationLength z
        if skip == 0 then (invalidPoint, [])
        else if skip == z.length then (0, [])
        else
          let after := z.drop skip
          if after.head? == some 92 then unescapeOne fuel after
          else readCharLimited after
      else (invalidPoint, rest)
    | _ => (invalidPoint, [])

/-- The text a string's bytes stand for, escapes read; the bytes of a string without escapes
stand for themselves. -/
def unescapeText : (fuel : Nat) → Bytes → Bytes
  | 0, _ => []
  | _, [] => []
  | fuel + 1, c :: rest =>
    if c == 92 then
      let (v, after) := unescapeOne (rest.length + 1) (c :: rest)
      Bytes.encodePoint v ++ unescapeText fuel after
    else c :: unescapeText fuel rest

/-- The text a string of a document stands for. -/
def DocText.text (s : DocText) : Bytes :=
  match s.form with
  | .plain | .raw => s.bytes
  | .escaped | .loose => unescapeText (s.bytes.length + 1) s.bytes

/-- The code points of a label as labels are compared: characters read from their bytes,
escapes read unless the label is `raw` in the sense of holding none. -/
def labelPoints (escapes : Bool) : (fuel : Nat) → Bytes → List Nat
  | 0, _ => []
  | _, [] => []
  | fuel + 1, c :: rest =>
    if escapes && c == 92 then
      let (v, after) := unescapeOne (rest.length + 1) (c :: rest)
      v :: labelPoints escapes fuel after
    else
      let (v, after) := readCharLimited (c :: rest)
      v :: labelPoints escapes fuel after

/-- Whether two labels name the same member: byte for byte when neither holds escapes, else by
the characters they stand for up to the first NUL. -/
def labelsMatch (left : Bytes) (leftRaw : Bool) (right : Bytes) (rightRaw : Bool) : Bool :=
  if leftRaw && rightRaw then left == right
  else
    let cut (raw : Bool) (b : Bytes) := (labelPoints (!raw) (b.length + 1) b).takeWhile (· != 0)
    cut leftRaw left == cut rightRaw right

/-- Whether a string's bytes hold no escape, so that they compare byte for byte. -/
def DocText.isRaw (s : DocText) : Bool := s.form == .plain || s.form == .raw

end Database

end EntityGraph
