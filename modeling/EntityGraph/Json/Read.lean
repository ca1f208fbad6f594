import EntityGraph.Json.Basic

/-!
# Reading JSON text

A reader for JSON text that reports the first fault in reading order, with its line and its
column counted in bytes from the start of the line. The reader is built from small steps over a
cursor (`JsonRead`), so that typed decoders elsewhere (such as the engine configuration) read a
document in one pass and report faults in the same order and at the same places.

Faults are reported at one of two places: *here* (after the characters consumed so far) or *at
the next character* (after its first byte, at most the end of the text). A `\u` escape spans
four bytes, whatever characters they belong to.

Rules that fix the result:
- Blanks are space, tab, newline and carriage return.
- An integer without fraction or exponent is an unsigned 64-bit number, or a negative 64-bit
  number; `-0` and integers out of that range are read as floats.
- A float is built from at most 19 significant digits and a decimal exponent: the digits are
  rounded once to binary64 and then multiplied or divided by the binary64 power of ten, so some
  long inputs round differently from the nearest binary64. A result beyond the largest finite
  number is the fault `number out of range`.
- Nesting deeper than 127 arrays or objects is the fault `recursion limit exceeded`.
- A repeated key keeps the last value.

Main definitions: `Json.parse`, and the steps of `JsonRead` for typed decoders.
-/

namespace EntityGraph

/-- A fault found while reading: the reason and the reported position, given as the characters
read whole and the bytes read of the character after them. -/
structure ReadFault where
  /-- Index into the text, in characters, of the reported position. -/
  index : Nat
  /-- What went wrong. -/
  reason : String
  /-- Bytes of the character at `index` read before the fault. -/
  partialBytes : Nat := 0
  deriving Inhabited, Repr

/-- Reading JSON text: the text, and the index of the next character as state. -/
abbrev JsonRead := ReaderT (Array Char) (StateT Nat (Except ReadFault))

/-- The 1-based line and the byte column of character index `i` of a text. -/
def linePosition (text : Array Char) (i : Nat) : Nat × Nat :=
  (text.toList.take i).foldl
    (fun (line, col) c => if c == '\n' then (line + 1, 0) else (line, col + c.utf8Size)) (1, 0)

/-- The line and byte column of a fault: a line feed read in part ends its line like one read
whole. -/
def ReadFault.position (text : Array Char) (f : ReadFault) : Nat × Nat :=
  let (line, col) := linePosition text f.index
  if f.partialBytes == 0 then (line, col)
  else if text[f.index]? == some '\n' then (line + 1, 0)
  else (line, col + f.partialBytes)

/-- The message of a fault: its reason and position. -/
def ReadFault.message (text : Array Char) (f : ReadFault) : String :=
  let (line, col) := f.position text
  f.reason ++ " at line " ++ toString line ++ " column " ++ toString col

namespace JsonRead

/-- Reason texts of the faults. -/
def eofValue : String := "EOF while parsing a value"
def eofList : String := "EOF while parsing a list"
def eofObject : String := "EOF while parsing an object"
def eofString : String := "EOF while parsing a string"
def expectedValue : String := "expected value"
def expectedIdent : String := "expected ident"
def expectedColon : String := "expected `:`"
def expectedListCommaOrEnd : String := "expected `,` or `]`"
def expectedObjectCommaOrEnd : String := "expected `,` or `\x7d`"
def keyMustBeString : String := "key must be a string"
def trailingComma : String := "trailing comma"
def trailingCharacters : String := "trailing characters"
def invalidNumber : String := "invalid number"
def numberOutOfRange : String := "number out of range"
def invalidEscape : String := "invalid escape"
def controlCharacter : String := "control character (\\u0000-\\u001F) found while parsing a string"
def loneSurrogate : String := "lone leading surrogate in hex escape"
def unexpectedEndOfHexEscape : String := "unexpected end of hex escape"
def recursionLimit : String := "recursion limit exceeded"

/-- The next character, not consumed. -/
def peek : JsonRead (Option Char) := do
  let text ← read
  let i ← get
  pure text[i]?

/-- Consume one character. -/
def bump : JsonRead Unit := modify (· + 1)

/-- The next character, consumed. -/
def next : JsonRead (Option Char) := do
  let c ← peek
  if c.isSome then bump
  pure c

/-- Fail with the position after the characters consumed so far. -/
def failHere (reason : String) : JsonRead α := do
  let i ← get
  throw { index := i, reason }

/-- Fail with the position after the first byte of the next character (at most the end of the
text). -/
def failNext (reason : String) : JsonRead α := do
  let text ← read
  let i ← get
  if i < text.size then throw { index := i, reason, partialBytes := 1 }
  else throw { index := text.size, reason }

/-- Whether a character is a JSON blank. -/
def isBlank (c : Char) : Bool := c == ' ' || c == '\n' || c == '\t' || c == '\r'

/-- The first index from `i` on whose character fails `p` (or the end of the text). -/
def scanWhile (text : Array Char) (p : Char → Bool) : (fuel : Nat) → Nat → Nat
  | 0, i => i
  | fuel + 1, i =>
    match text[i]? with
    | some c => if p c then scanWhile text p fuel (i + 1) else i
    | none => i

/-- Skip blanks and return the next character, not consumed. -/
def skipBlanks : JsonRead (Option Char) := do
  let text ← read
  let i ← get
  set (scanWhile text isBlank text.size i)
  peek

/-- Consume the rest of a keyword whose first character was consumed. -/
def keyword (rest : List Char) : JsonRead Unit :=
  rest.forM fun expected => do
    match ← peek with
    | none => failHere eofValue
    | some c => if c != expected then failNext expectedIdent else bump

/-! ## Strings -/

/-- Value of a hexadecimal digit. -/
def hexValue (c : Char) : Option Nat :=
  if '0' ≤ c && c ≤ '9' then some (c.toNat - 48)
  else if 'a' ≤ c && c ≤ 'f' then some (c.toNat - 87)
  else if 'A' ≤ c && c ≤ 'F' then some (c.toNat - 55)
  else none

/-- The characters read whole within the first `n` bytes of a list, and the bytes of the next
character read in part. -/
def splitBytes : List Char → Nat → Nat × Nat
  | [], _ => (0, 0)
  | c :: cs, n =>
    if c.utf8Size ≤ n then
      let (whole, part) := splitBytes cs (n - c.utf8Size)
      (whole + 1, part)
    else (0, n)

/-- Four hexadecimal digits of a `\u` escape. The escape spans the next four bytes: fewer left in
the text is the end of the text, and a byte that is not a hexadecimal digit is a fault placed
after all four. -/
def hexEscape : JsonRead Nat := do
  let text ← read
  let i ← get
  let rest := (text.extract i text.size).toList
  if rest.foldl (fun n c => n + c.utf8Size) 0 < 4 then
    set text.size
    failHere eofString
  else
    match (rest.take 4).mapM hexValue with
    | some [a, b, c, d] =>
      set (i + 4)
      pure (((a * 16 + b) * 16 + c) * 16 + d)
    | _ =>
      let (whole, part) := splitBytes rest 4
      set (i + whole)
      throw { index := i + whole, reason := invalidEscape, partialBytes := part }

/-- The character of a `\u` escape whose `u` was consumed: a pair of surrogates joins into one
character, and an unpaired surrogate is a fault. -/
def unicodeEscape : JsonRead Char := do
  let n ← hexEscape
  if 0xDC00 ≤ n && n ≤ 0xDFFF then failHere loneSurrogate
  else if n < 0xD800 || n > 0xDBFF then pure (Char.ofNat n)
  else
    match ← peek with
    | none => failHere eofString
    | some '\\' =>
      bump
      match ← peek with
      | none => failHere eofString
      | some 'u' =>
        bump
        let n2 ← hexEscape
        if n2 < 0xDC00 || n2 > 0xDFFF then failHere loneSurrogate
        else pure (Char.ofNat ((((n - 0xD800) * 1024) ||| (n2 - 0xDC00)) + 0x10000))
      | some _ => failNext unexpectedEndOfHexEscape
    | some _ => failNext unexpectedEndOfHexEscape

/-- The character of an escape whose backslash was consumed. -/
def escape : JsonRead Char := do
  match ← peek with
  | none => failHere eofString
  | some c =>
    let simple := if c == '"' then some '"'
      else if c == '\\' then some '\\'
      else if c == '/' then some '/'
      else if c == 'b' then some (Char.ofNat 8)
      else if c == 'f' then some (Char.ofNat 12)
      else if c == 'n' then some '\n'
      else if c == 'r' then some '\r'
      else if c == 't' then some '\t'
      else none
    match simple with
    | some e => bump; pure e
    | none => if c == 'u' then do bump; unicodeEscape else failNext invalidEscape

/-- The body of a string whose opening quote was consumed, up to and including the closing
quote. Each round consumes at least one character, so `fuel` at the remaining length of the
text suffices. -/
def stringBody : (fuel : Nat) → List Char → JsonRead String
  | 0, _ => failHere eofString
  | fuel + 1, acc => do
    match ← peek with
    | none => failHere eofString
    | some c =>
      if c == '"' then
        bump
        pure (String.ofList acc.reverse)
      else if c == '\\' then
        bump
        let e ← escape
        stringBody fuel (e :: acc)
      else if c.toNat < 0x20 then
        bump
        failHere controlCharacter
      else
        bump
        stringBody fuel (c :: acc)

/-- A string whose opening quote was consumed. -/
def stringRest : JsonRead String := do
  let text ← read
  stringBody (text.size + 1) []

/-! ## Numbers -/

/-- The binary64 power of ten `10 ^ k`, the nearest to the exact power. -/
def powerOfTen (k : Nat) : Binary64 := Binary64.ofRatio false (10 ^ k) 1

/-- A float from its decimal significand and exponent: the significand rounded to binary64, then
multiplied or divided by binary64 powers of ten, at most `10 ^ 308` at a time. `none` when the
result is beyond the largest finite number. -/
def floatOfParts (neg : Bool) (significand : Nat) (exponent : Int) : Option Binary64 :=
  let rec go : (fuel : Nat) → Binary64 → Int → Option Binary64
    | 0, f, _ => some f
    | fuel + 1, f, e =>
      if e.natAbs ≤ 308 then
        if 0 ≤ e then
          let g := f.mul (powerOfTen e.toNat)
          if g.isInfinite then none else some g
        else some (f.div (powerOfTen e.natAbs))
      else if f.isZero then some f
      else if 0 ≤ e then none
      else go fuel (f.div (powerOfTen 308)) (e + 308)
  (go 8 (Binary64.ofRatio false significand 1) exponent).map fun f => if neg then f.negate else f

/-- The largest unsigned 64-bit value. -/
def maxU64 : Nat := 2 ^ 64 - 1

/-- Whether `s * 10 + d` exceeds `limit`. -/
def overflows (s d limit : Nat) : Bool := s * 10 + d > limit

/-- Whether a character is a decimal digit. -/
def isDigit (c : Char) : Bool := '0' ≤ c && c ≤ '9'

/-- Consume a run of digits and return them. -/
def digitRun : JsonRead (List Char) := do
  let text ← read
  let i ← get
  let j := scanWhile text isDigit text.size i
  set j
  pure (text.extract i j).toList

/-- Value of a digit character. -/
def digitValue (c : Char) : Nat := c.toNat - 48

/-- The float of a number whose significand and exponent so far are given and whose exponent
mark comes next. -/
def exponentPart (neg : Bool) (significand : Nat) (start : Int) : JsonRead Binary64 := do
  bump
  let positive ← do
    match ← peek with
    | some '+' => bump; pure true
    | some '-' => bump; pure false
    | _ => pure true
  match ← next with
  | none => failHere eofValue
  | some c =>
    if !isDigit c then failHere invalidNumber
    else
      let runStart ← get
      let ds ← digitRun
      let limit : Nat := 2 ^ 31 - 1
      -- the exponent accumulates while it fits 31 bits; `inl k` marks an overflow at digit `k`
      let rec accumulate : List Char → Nat → Nat → Sum Nat Nat
        | [], _, e => .inr e
        | d :: rest, k, e => if overflows e (digitValue d) limit then .inl k
                             else accumulate rest (k + 1) (e * 10 + digitValue d)
      match accumulate ds 0 (digitValue c) with
      | .inl k =>
        if significand != 0 && positive then
          set (runStart + k + 1)
          failHere numberOutOfRange
        else pure (if neg then Binary64.zero true else Binary64.zero false)
      | .inr e =>
        let low : Int := -(2 ^ 31)
        let high : Int := 2 ^ 31 - 1
        let raw : Int := if positive then start + e else start - e
        let final := if raw < low then low else if raw > high then high else raw
        match floatOfParts neg significand final with
        | some f => pure f
        | none => failHere numberOutOfRange

/-- Finish a float after the decimal point, with the significand and exponent so far. Digits
beyond what 64 bits hold are dropped. -/
def fractionPart (neg : Bool) (significand : Nat) (start : Int) : JsonRead Binary64 := do
  bump
  let ds ← digitRun
  let rec fold : List Char → Nat → Int → Bool → Nat × Int × Bool
    | [], s, e, full => (s, e, full)
    | d :: rest, s, e, full =>
      if full || overflows s (digitValue d) maxU64 then (s, e, true)
      else fold rest (s * 10 + digitValue d) (e - 1) false
  let (s, e, _) := fold ds significand start false
  if ds.isEmpty then
    match ← peek with
    | some _ => failNext invalidNumber
    | none => failNext eofValue
  else
    match ← peek with
    | some 'e' | some 'E' => exponentPart neg s e
    | _ =>
      match floatOfParts neg s e with
      | some f => pure f
      | none => failHere numberOutOfRange

/-- A number whose sign was consumed: an integer when it has neither fraction nor exponent and
fits its 64-bit kind, otherwise a float. -/
def numberRest (neg : Bool) : JsonRead JsonNumber := do
  match ← next with
  | none => failHere eofValue
  | some c =>
    if !isDigit c then failHere invalidNumber
    else
      let (significand, exponent) ← do
        if c == '0' then
          match ← peek with
          | some d => if isDigit d then failNext invalidNumber else pure (0, (0 : Int))
          | none => pure (0, (0 : Int))
        else
          let ds ← digitRun
          -- digits accumulate while they fit 64 bits; later ones only raise the exponent
          let rec fold : List Char → Nat → Int → Bool → Nat × Int
            | [], s, e, _ => (s, e)
            | d :: rest, s, e, full =>
              if full || overflows s (digitValue d) maxU64 then fold rest s (e + 1) true
              else fold rest (s * 10 + digitValue d) e false
          pure (fold ds (digitValue c) 0 false)
      match ← peek with
      | some '.' => return .float (← fractionPart neg significand exponent)
      | some 'e' | some 'E' => return .float (← exponentPart neg significand exponent)
      | _ =>
        if exponent != 0 then
          match floatOfParts neg significand exponent with
          | some f => pure (.float f)
          | none => failHere numberOutOfRange
        else if !neg then pure (.nat significand)
        else if significand == 0 || significand > 2 ^ 63 then
          pure (.float (Binary64.ofRatio true significand 1))
        else pure (.neg (-(significand : Int)))

/-! ## Documents -/

mutual
/-- A value at the cursor, blanks first. `depth` is how many more arrays or objects may open. -/
def value : (fuel : Nat) → (depth : Nat) → JsonRead Json
  | 0, _ => failHere recursionLimit
  | fuel + 1, depth => do
    match ← skipBlanks with
    | none => failNext eofValue
    | some c =>
      if c == 'n' then bump; keyword ['u', 'l', 'l']; pure .null
      else if c == 't' then bump; keyword ['r', 'u', 'e']; pure (.bool true)
      else if c == 'f' then bump; keyword ['a', 'l', 's', 'e']; pure (.bool false)
      else if c == '-' then bump; return .num (← numberRest true)
      else if isDigit c then return .num (← numberRest false)
      else if c == '"' then bump; return .str (← stringRest)
      else if c == '[' then
        if depth ≤ 1 then failNext recursionLimit
        bump
        let items ← elements fuel (depth - 1) [] true
        closeArray
        pure (.arr items)
      else if c == '{' then
        if depth ≤ 1 then failNext recursionLimit
        bump
        let fields ← members fuel (depth - 1) [] true
        closeObject
        pure (.obj fields)
      else failNext expectedValue

/-- The elements of an array after its opening bracket, up to the closing bracket (which is
left for `closeArray`). -/
def elements : (fuel : Nat) → (depth : Nat) → List Json → Bool → JsonRead (List Json)
  | 0, _, _, _ => failHere recursionLimit
  | fuel + 1, depth, acc, first => do
    match ← skipBlanks with
    | some ']' => pure acc.reverse
    | none => failNext eofList
    | some c0 =>
      let c ← if c0 == ',' && !first then do bump; skipBlanks
        else if first then pure (some c0)
        else failNext expectedListCommaOrEnd
      match c with
      | some ']' => failNext trailingComma
      | some _ =>
        let v ← value fuel depth
        elements fuel depth (v :: acc) false
      | none => failNext eofValue

/-- The members of an object after its opening brace, up to the closing brace (which is left
for `closeObject`); a repeated key keeps its last value. -/
def members : (fuel : Nat) → (depth : Nat) → List (String × Json) → Bool →
    JsonRead (List (String × Json))
  | 0, _, _, _ => failHere recursionLimit
  | fuel + 1, depth, acc, first => do
    match ← skipBlanks with
    | some '}' => pure acc
    | none => failNext eofObject
    | some c0 =>
    let c ← if c0 == ',' && !first then do bump; skipBlanks
      else if first then pure (some c0)
      else failNext expectedObjectCommaOrEnd
    match c with
    | some '"' =>
      bump
      let key ← stringRest
      match ← skipBlanks with
      | some ':' => bump
      | some _ => failNext expectedColon
      | none => failNext eofObject
      let v ← value fuel depth
      members fuel depth (Json.setField key v acc) false
    | some '}' => failNext trailingComma
    | some _ => failNext keyMustBeString
    | none => failNext eofValue

/-- The closing bracket of an array. -/
def closeArray : JsonRead Unit := do
  match ← skipBlanks with
  | some ']' => bump
  | some ',' =>
    bump
    match ← skipBlanks with
    | some ']' => failNext trailingComma
    | _ => failNext trailingCharacters
  | some _ => failNext trailingCharacters
  | none => failNext eofList

/-- The closing brace of an object. -/
def closeObject : JsonRead Unit := do
  match ← skipBlanks with
  | some '}' => bump
  | some ',' => failNext trailingComma
  | some _ => failNext trailingCharacters
  | none => failNext eofObject
end

/-- The end of the text: only blanks may follow a document. -/
def finish : JsonRead Unit := do
  match ← skipBlanks with
  | some _ => failNext trailingCharacters
  | none => pure ()

/-- The nesting allowance of a document: 127 arrays or objects deep. -/
def depthLimit : Nat := 128

/-- Run a reading step over a text from its start. -/
def run (step : JsonRead α) (text : Array Char) : Except ReadFault α :=
  (StateT.run (ReaderT.run step text) 0).map (·.1)

/-- A whole document: one value, then only blanks. -/
def document : JsonRead Json := do
  let text ← read
  let v ← value (text.size + 1) depthLimit
  finish
  pure v

end JsonRead

namespace Json

/-- Read a JSON document, or the message of the first fault. -/
def parse (s : String) : Except String Json :=
  let text := s.toList.toArray
  match JsonRead.run JsonRead.document text with
  | .ok v => .ok v
  | .error f => .error (f.message text)

end Json

end EntityGraph
