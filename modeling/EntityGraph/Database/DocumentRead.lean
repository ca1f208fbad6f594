import EntityGraph.Database.Document

/-!
# Reading JSON text

The reader of the store's JSON functions. It takes JSON and the JSON5 extensions: comments and
more kinds of blank, unquoted labels, strings in apostrophes with more escapes, hexadecimal
integers, reals with a bare point, a leading `+`, `Infinity` and `NaN`, and a comma after the
last item or member. It notes whether it read any of these (`DocReadState.loose`), since only
`json_valid` cares.

Rules that fix the results:
- The text ends at its first NUL; nothing but blanks may follow the document.
- Nesting deeper than 1000 arrays and objects is an error.
- `Infinity`, `inf` and their signed forms, in any case, read as the real `9e999` (`-9e999`);
  `NaN`, `QNaN` and `SNaN` read as null.
- A fault is placed at the byte where reading could not go on (`Parsed.bad`); after a
  complete document followed by more text, at the last closing bracket, comma or colon that
  was read where a value could start.

Each reading function returns what it found at a position (`DocScan`): a value and the position
after it, one of the tokens that may stand where a value is expected, the end of the text, or
a fault. Arrays and objects take these tokens to see where their items end.
-/

namespace EntityGraph

namespace Database

/-- The deepest nesting of arrays and objects. -/
def maxNesting : Nat := 1000

/-- The byte at a position of the text, `0` past its end. -/
def textByte (z : Array UInt8) (i : Nat) : UInt8 := z.getD i 0

/-- Whether a byte is a JSON blank. -/
def isJsonSpace (b : UInt8) : Bool := b == 9 || b == 10 || b == 13 || b == 32

/-- Whether a byte is an ASCII letter. -/
def isLetterByte (b : UInt8) : Bool := (0x41 ≤ b && b ≤ 0x5a) || (0x61 ≤ b && b ≤ 0x7a)

/-- Whether a byte is an ASCII letter or digit. -/
def isAlnumByte (b : UInt8) : Bool := isLetterByte b || isDigitByte b

/-- Whether a byte may start an unquoted label: a letter, `_`, `$`, or a byte of a non-ASCII
character. -/
def startsLabel (b : UInt8) : Bool :=
  isLetterByte b || b == asciiByte '_' || b == asciiByte '$' || b ≥ 0x80

/-- Whether a byte may continue an unquoted label: also a digit. -/
def continuesLabel (b : UInt8) : Bool := startsLabel b || isDigitByte b

/-- The first position from `i` on whose byte fails a test, or the end. -/
def skipWhile (p : UInt8 → Bool) (z : Array UInt8) (i : Nat) : Nat :=
  if h : i < z.size then
    if p z[i] then skipWhile p z (i + 1) else i
  else i
termination_by z.size - i

/-- Whether the text at a position starts with a word, ASCII letters read without regard to
case; the word is given in lower case. -/
def matchesAt (z : Array UInt8) : Nat → List UInt8 → Bool
  | _, [] => true
  | i, w :: ws => Bytes.lowerByte (textByte z i) == w && matchesAt z (i + 1) ws

/-- Whether the text at a position starts with a word exactly. -/
def exactAt (z : Array UInt8) : Nat → List UInt8 → Bool
  | _, [] => true
  | i, w :: ws => textByte z i == w && exactAt z (i + 1) ws

/-- Whether four hexadecimal digits stand at a position. -/
def hexFourAt (z : Array UInt8) (i : Nat) : Bool :=
  isHexByte (textByte z i) && isHexByte (textByte z (i + 1)) && isHexByte (textByte z (i + 2)) &&
    isHexByte (textByte z (i + 3))

/-- Whether `u` and four hexadecimal digits stand at a position. -/
def unicodeEscapeAt (z : Array UInt8) (i : Nat) : Bool :=
  textByte z i == asciiByte 'u' && hexFourAt z (i + 1)

/-! ## Blanks and comments -/

/-- The position after the first `*/` whose slash is at `j` or later, or none when the text
ends first. -/
def blockCommentEnd (z : Array UInt8) (j : Nat) : Option Nat :=
  if h : j < z.size then
    let c := z[j]
    if c == asciiByte '/' && textByte z (j - 1) == asciiByte '*' then some (j + 1)
    else if c == 0 then none
    else blockCommentEnd z (j + 1)
  else none
termination_by z.size - j

/-- Where a line comment's text from `j` stops: at a line break, on the last byte of a line or
paragraph separator, or at the end. -/
def lineCommentEnd (z : Array UInt8) (j : Nat) : Nat :=
  if h : j < z.size then
    let c := z[j]
    if c == 0 || c == 10 || c == 13 then j
    else if c == 0xe2 && textByte z (j + 1) == 0x80 &&
        (textByte z (j + 2) == 0xa8 || textByte z (j + 2) == 0xa9) then j + 2
    else lineCommentEnd z (j + 1)
  else j
termination_by z.size - j

/-- The end of the JSON5 blanks and comments from a position on: the ASCII blanks with
vertical tab and form feed, comments, and the Unicode spaces, line and paragraph separators and
byte order mark. -/
def looseSpaceEnd (z : Array UInt8) : (fuel : Nat) → Nat → Nat
  | 0, n => n
  | fuel + 1, n =>
    let c := textByte z n
    let b1 := textByte z (n + 1)
    let b2 := textByte z (n + 2)
    if c == 9 || c == 10 || c == 11 || c == 12 || c == 13 || c == 32 then
      looseSpaceEnd z fuel (n + 1)
    else if c == asciiByte '/' then
      if b1 == asciiByte '*' && b2 != 0 then
        match blockCommentEnd z (n + 3) with
        | some e => looseSpaceEnd z fuel e
        | none => n
      else if b1 == asciiByte '/' then
        let e := lineCommentEnd z (n + 2)
        looseSpaceEnd z fuel (if textByte z e != 0 then e + 1 else e)
      else n
    else if c == 0xc2 then
      if b1 == 0xa0 then looseSpaceEnd z fuel (n + 2) else n
    else if c == 0xe1 then
      if b1 == 0x9a && b2 == 0x80 then looseSpaceEnd z fuel (n + 3) else n
    else if c == 0xe2 then
      if b1 == 0x80 && b2 ≥ 0x80 && (b2 ≤ 0x8a || b2 == 0xa8 || b2 == 0xa9 || b2 == 0xaf) then
        looseSpaceEnd z fuel (n + 3)
      else if b1 == 0x81 && b2 == 0x9f then looseSpaceEnd z fuel (n + 3)
      else n
    else if c == 0xe3 then
      if b1 == 0x80 && b2 == 0x80 then looseSpaceEnd z fuel (n + 3) else n
    else if c == 0xef then
      if b1 == 0xbb && b2 == 0xbf then looseSpaceEnd z fuel (n + 3) else n
    else n

/-- The end of the JSON5 blanks and comments from a position on. -/
def looseSpace (z : Array UInt8) (n : Nat) : Nat := looseSpaceEnd z (z.size + 1) n

/-! ## The reader -/

/-- What the reader has noted so far. -/
structure DocReadState where
  /-- Whether anything only JSON5 allows was read. -/
  loose : Bool := false
  /-- The position of the last closing bracket, comma or colon read where a value could
  start. -/
  mark : Nat := 0

/-- The reader's computations. -/
abbrev DocReadM := StateM DocReadState

/-- Note that the text is JSON5. -/
def markLoose : DocReadM Unit := modify fun s => { s with loose := true }

/-- What the reader found where a value could start. -/
inductive DocScan where
  /-- A value, and the position after it. -/
  | value (doc : Document) (next : Nat)
  /-- `}` at a position. -/
  | closeObject (pos : Nat)
  /-- `]` at a position. -/
  | closeArray (pos : Nat)
  /-- `,` at a position. -/
  | comma (pos : Nat)
  /-- `:` at a position. -/
  | colon (pos : Nat)
  /-- The end of the text. -/
  | finish
  /-- A fault at a position. -/
  | fail (pos : Nat)
  deriving Inhabited

/-- A token at a position, noted as the last one read. -/
def docToken (make : Nat → DocScan) (i : Nat) : DocReadM DocScan := do
  modify fun s => { s with mark := i }
  pure (make i)

/-- Read the rest of a string from `j` on, `delim` being its quote: its form and the position of
the closing quote, or the position of a fault. -/
def stringEnd (z : Array UInt8) (delim : UInt8) :
    (fuel : Nat) → Nat → StringForm → DocReadM (Except Nat (StringForm × Nat))
  | 0, j, _ => pure (.error j)
  | fuel + 1, j, form => do
    let c := textByte z j
    if isPlainByte c then stringEnd z delim fuel (j + 1) form
    else if c == delim then pure (.ok (form, j))
    else if c == asciiByte '\\' then
      let j := j + 1
      let e := textByte z j
      let next := textByte z (j + 1)
      if e == asciiByte '"' || e == asciiByte '\\' || e == asciiByte '/' || e == asciiByte 'b' ||
          e == asciiByte 'f' || e == asciiByte 'n' || e == asciiByte 'r' ||
          e == asciiByte 't' || (e == asciiByte 'u' && hexFourAt z (j + 1)) then
        stringEnd z delim fuel (j + 1) (if form == .plain then .escaped else form)
      else if e == asciiByte '\'' || e == asciiByte 'v' || e == 10 ||
          (e == asciiByte '0' && !isDigitByte next) ||
          (e == 0xe2 && next == 0x80 &&
            (textByte z (j + 2) == 0xa8 || textByte z (j + 2) == 0xa9)) ||
          (e == asciiByte 'x' && isHexByte next && isHexByte (textByte z (j + 2))) then do
        markLoose
        stringEnd z delim fuel (j + 1) .loose
      else if e == 13 then do
        markLoose
        stringEnd z delim fuel (if next == 10 then j + 2 else j + 1) .loose
      else pure (.error j)
    else if c < 0x20 then
      if c == 0 then pure (.error j)
      else do
        markLoose
        stringEnd z delim fuel (j + 1) .loose
    else if c == asciiByte '"' then stringEnd z delim fuel (j + 1) .loose
    else stringEnd z delim fuel (j + 1) form

/-- Read a string whose quote is at `i`. -/
def readString (z : Array UInt8) (i : Nat) : DocReadM DocScan := do
  match ← stringEnd z (textByte z i) (z.size + 2) (i + 1) .plain with
  | .error p => pure (.fail p)
  | .ok (form, j) => pure (.value (.string { form, bytes := (z.extract (i + 1) j).toList }) (j + 1))

/-- Whether the byte before `j` is a bare point after a digit, the number starting at `i`. -/
def barePointBefore (z : Array UInt8) (i j : Nat) : Bool :=
  textByte z (j - 1) == asciiByte '.' && j ≥ i + 2 && isDigitByte (textByte z (j - 2))

/-- Read the digits, point and exponent of a number from `j` on, the number starting at `i`:
the position after it and its kind, bit 1 marking JSON5 and bit 2 a real, or the position of a
fault. -/
def numberEnd (z : Array UInt8) (i : Nat) :
    (fuel : Nat) → Nat → Nat → Bool → DocReadM (Except Nat (Nat × Nat))
  | 0, j, _, _ => pure (.error j)
  | fuel + 1, j, t, seenE => do
    let c := textByte z j
    if isDigitByte c then numberEnd z i fuel (j + 1) t seenE
    else if c == asciiByte '.' then
      if t / 2 % 2 == 1 then pure (.error j) else numberEnd z i fuel (j + 1) (t ||| 2) seenE
    else if c == asciiByte 'e' || c == asciiByte 'E' then
      let prevOk := textByte z (j - 1) ≥ asciiByte '0'
      if !prevOk && !barePointBefore z i j then pure (.error j)
      else do
        if !prevOk then markLoose
        let t := if prevOk then t else t ||| 1
        if seenE then pure (.error j)
        else
          let s := textByte z (j + 1)
          let j := if s == asciiByte '+' || s == asciiByte '-' then j + 1 else j
          if !isDigitByte (textByte z (j + 1)) then pure (.error j)
          else numberEnd z i fuel (j + 1) (t ||| 2) true
    else if textByte z (j - 1) < asciiByte '0' then
      if barePointBefore z i j then do
        markLoose
        pure (.ok (j, t ||| 1))
      else pure (.error j)
    else pure (.ok (j, t))

/-- The form of a number by its kind bits. -/
def numberForm (t : Nat) : NumberForm :=
  match t % 4 with
  | 0 => .integer
  | 1 => .hex
  | 2 => .real
  | _ => .looseReal

/-- The number from `i` to `j` of a kind, a leading `+` left out. -/
def numberValue (z : Array UInt8) (i j t : Nat) : DocScan :=
  let start := if textByte z i == asciiByte '+' then i + 1 else i
  .value (.number (numberForm t) (z.extract start j).toList) j

/-- Read the rest of a number from `i + 1` on. -/
def numberFrom (z : Array UInt8) (i t : Nat) : DocReadM DocScan := do
  match ← numberEnd z i (z.size + 2) (i + 1) t false with
  | .error p => pure (.fail p)
  | .ok (j, t) => pure (numberValue z i j t)

/-- Read a number that starts at `i` with a sign or a digit. -/
def readNumber (z : Array UInt8) (i : Nat) : DocReadM DocScan := do
  let c := textByte z i
  let b1 := textByte z (i + 1)
  let b2 := textByte z (i + 2)
  let isX (b : UInt8) := b == asciiByte 'x' || b == asciiByte 'X'
  if c == asciiByte '0' then
    if isX b1 && isHexByte b2 then
      markLoose
      pure (numberValue z i (skipWhile isHexByte z (i + 3)) 1)
    else if isDigitByte b1 then pure (.fail (i + 1))
    else numberFrom z i 0
  else if c == asciiByte '+' || c == asciiByte '-' then
    if !isDigitByte b1 then
      if matchesAt z (i + 1) (Bytes.ofString "inf") then
        markLoose
        let text := Bytes.ofString (if c == asciiByte '-' then "-9e999" else "9e999")
        let len := if matchesAt z (i + 4) (Bytes.ofString "inity") then 9 else 4
        pure (.value (.number .real text) (i + len))
      else if b1 == asciiByte '.' then
        markLoose
        numberFrom z i 1
      else pure (.fail i)
    else if b1 == asciiByte '0' then
      if isDigitByte b2 then pure (.fail (i + 1))
      else if isX b2 && isHexByte (textByte z (i + 3)) then
        markLoose
        pure (numberValue z i (skipWhile isHexByte z (i + 4)) 1)
      else numberFrom z i 0
    else numberFrom z i 0
  else numberFrom z i 0

/-- The bare words that stand for values, in lower case: whether each is infinity (else
null). -/
def bareWords : List (String × Bool) :=
  [("inf", true), ("infinity", true), ("nan", false), ("qnan", false), ("snan", false)]

/-- Read a bare word for infinity or for null at `i`. -/
def readBareWord (z : Array UInt8) (i : Nat) : DocReadM DocScan := do
  let found := bareWords.find? fun (w, _) =>
    matchesAt z i (Bytes.ofString w) && !isAlnumByte (textByte z (i + w.length))
  match found with
  | some (w, infinite) =>
    markLoose
    pure (.value (if infinite then .number .real (Bytes.ofString "9e999") else .null)
      (i + w.length))
  | none => pure (.fail i)

/-- Read an unquoted label from `j` on: its form and the position after it. -/
def labelEnd (z : Array UInt8) : (fuel : Nat) → Nat → StringForm → Nat × StringForm
  | 0, k, form => (k, form)
  | fuel + 1, k, form =>
    let c := textByte z k
    if continuesLabel c && looseSpace z k == k then labelEnd z fuel (k + 1) form
    else if c == asciiByte '\\' && unicodeEscapeAt z (k + 1) then labelEnd z fuel (k + 1) .loose
    else (k, form)

mutual

/-- Read a value at `i`, at a nesting depth. -/
def readValue : (fuel : Nat) → Array UInt8 → Nat → Nat → DocReadM DocScan
  | 0, _, i, _ => pure (.fail i)
  | fuel + 1, z, i, depth => do
    let c := textByte z i
    if c == asciiByte '{' then
      if depth ≥ maxNesting then pure (.fail i) else readMembers fuel z (i + 1) (depth + 1) []
    else if c == asciiByte '[' then
      if depth ≥ maxNesting then pure (.fail i) else readItems fuel z (i + 1) (depth + 1) []
    else if c == asciiByte '\'' then do
      markLoose
      readString z i
    else if c == asciiByte '"' then readString z i
    else if c == asciiByte 't' then
      if exactAt z i (Bytes.ofString "true") && !isAlnumByte (textByte z (i + 4)) then
        pure (.value (.bool true) (i + 4))
      else pure (.fail i)
    else if c == asciiByte 'f' then
      if exactAt z i (Bytes.ofString "false") && !isAlnumByte (textByte z (i + 5)) then
        pure (.value (.bool false) (i + 5))
      else pure (.fail i)
    else if c == asciiByte 'n' && exactAt z i (Bytes.ofString "null") &&
        !isAlnumByte (textByte z (i + 4)) then
      pure (.value .null (i + 4))
    else if c == asciiByte '+' then do
      markLoose
      readNumber z i
    else if c == asciiByte '.' then
      if isDigitByte (textByte z (i + 1)) then do
        markLoose
        numberFrom z i 3
      else pure (.fail i)
    else if c == asciiByte '-' || isDigitByte c then readNumber z i
    else if c == asciiByte '}' then docToken .closeObject i
    else if c == asciiByte ']' then docToken .closeArray i
    else if c == asciiByte ',' then docToken .comma i
    else if c == asciiByte ':' then docToken .colon i
    else if c == 0 then pure .finish
    else if isJsonSpace c then readValue fuel z (skipWhile isJsonSpace z (i + 1)) depth
    else if c == 11 || c == 12 || c == asciiByte '/' || c == 0xc2 || c == 0xe1 || c == 0xe2 ||
        c == 0xe3 || c == 0xef then
      let n := looseSpace z i
      if n > i then do
        markLoose
        readValue fuel z n depth
      else pure (.fail i)
    else readBareWord z i

/-- Read the items of an array from `j` on, those read so far kept in reverse. -/
def readItems : (fuel : Nat) → Array UInt8 → Nat → Nat → List Document → DocReadM DocScan
  | 0, _, j, _, _ => pure (.fail j)
  | fuel + 1, z, j, depth, acc => do
    match ← readValue fuel z j depth with
    | .closeArray p =>
      if !acc.isEmpty then markLoose
      pure (.value (.array acc.reverse) (p + 1))
    | .fail p => pure (.fail p)
    | .value v x =>
      let acc := v :: acc
      let j := skipWhile isJsonSpace z x
      let c := textByte z j
      if c == asciiByte ',' then readItems fuel z (j + 1) depth acc
      else if c == asciiByte ']' then pure (.value (.array acc.reverse) (j + 1))
      else
        match ← readValue fuel z j depth with
        | .comma p => readItems fuel z (p + 1) depth acc
        | .closeArray p => pure (.value (.array acc.reverse) (p + 1))
        | _ => pure (.fail j)
    | _ => pure (.fail j)

/-- Read the members of an object from `j` on, those read so far kept in reverse. -/
def readMembers : (fuel : Nat) → Array UInt8 → Nat → Nat → List (DocText × Document) →
    DocReadM DocScan
  | 0, _, j, _, _ => pure (.fail j)
  | fuel + 1, z, j, depth, acc => do
    let labelled : Except DocScan (DocText × Nat) ← match ← readValue fuel z j depth with
      | .closeObject p => do
        if !acc.isEmpty then markLoose
        pure (.error (.value (.object acc.reverse) (p + 1)))
      | .value (.string s) x => pure (.ok (s, x))
      | .value _ _ => pure (.error (.fail j))
      | other =>
        let k := looseSpace z j
        let b := textByte z k
        let escaped := b == asciiByte '\\' && unicodeEscapeAt z (k + 1)
        if startsLabel b || escaped then do
          let (e, form) := labelEnd z (z.size + 1) (k + 1) (if escaped then .loose else .plain)
          markLoose
          pure (.ok ({ form, bytes := (z.extract k e).toList }, e))
        else
          match other with
          | .fail p => pure (.error (.fail p))
          | _ => pure (.error (.fail k))
    match labelled with
    | .error s => pure s
    | .ok (label, x) =>
      let valueAt : Except DocScan Nat ← if textByte z x == asciiByte ':' then pure (.ok (x + 1))
        else
          let j := skipWhile isJsonSpace z x
          if textByte z j == asciiByte ':' then pure (.ok (j + 1))
          else match ← readValue fuel z j depth with
            | .colon p => pure (.ok (p + 1))
            | .fail p => pure (.error (.fail p))
            | _ => pure (.error (.fail j))
      match valueAt with
      | .error s => pure s
      | .ok jv =>
        match ← readValue fuel z jv depth with
        | .value v x =>
          let acc := (label, v) :: acc
          let j := skipWhile isJsonSpace z x
          let c := textByte z j
          if c == asciiByte ',' then readMembers fuel z (j + 1) depth acc
          else if c == asciiByte '}' then pure (.value (.object acc.reverse) (j + 1))
          else
            match ← readValue fuel z j depth with
            | .comma p => readMembers fuel z (p + 1) depth acc
            | .closeObject p => pure (.value (.object acc.reverse) (p + 1))
            | _ => pure (.fail j)
        | .fail p => pure (.fail p)
        | _ => pure (.fail jv)

end

/-- What reading a whole text gave. -/
inductive Parsed where
  /-- A document, and whether the text used anything only JSON5 allows. -/
  | ok (doc : Document) (loose : Bool)
  /-- A fault at a byte position. -/
  | bad (pos : Nat)
  deriving Inhabited

/-- Read a whole text as one document. -/
def readDocument (text : Bytes) : Parsed :=
  let z := text.toArray
  let (scan, st) := (readValue (4 * z.size + 16) z 0 0).run {}
  match scan with
  | .value doc i =>
    let i := skipWhile isJsonSpace z i
    if textByte z i == 0 then .ok doc st.loose
    else if textByte z (looseSpace z i) == 0 then .ok doc true
    else .bad st.mark
  | .fail p => .bad p
  | _ => .bad st.mark

/-- The character position, from 1, of a fault at a byte position: the characters before it,
counted up to the first NUL, plus one. -/
def faultPosition (text : Bytes) (pos : Nat) : Nat :=
  ((Bytes.untilNul (text.take pos)).filter (fun b => !Bytes.isContinuation b)).length + 1

end Database

end EntityGraph
