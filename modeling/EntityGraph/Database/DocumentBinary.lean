import EntityGraph.Database.DocumentRead

/-!
# Documents held as byte strings

The store also keeps documents in a binary form, and its JSON functions take a byte string in
that form where they take a document. Each value is a header and a payload: the low four bits
of the header's first byte give the kind (null, true, false, the four forms of number, the four
forms of string, array, object), the high four give the payload's size, or say that it follows
in the next 1, 2, 4 or 8 bytes, most significant first. A number or string's payload is its
text as it was written; an array's is its items one after another, an object's its labels and
values alternating.

Rules that fix the results:
- A byte string is taken for the binary form when its first header is sound and its payload
  ends exactly at the end (`looksBinary`); null, true and false must then have no payload.
- A byte string taken for the binary form that does not hold a sound document is malformed:
  a number with no text, a kind past 12, an object with a label but no value or a label that is
  not a string, or an item that runs past its container.
- Null, true and false take one byte whatever size their header gives.
- Written out (`Document.encode`), every header is as short as its payload allows, and each
  number and string keeps the form it was read in.
-/

namespace EntityGraph

namespace Database

/-- The header of the value at `i`: its kind, the length of the header and the size of the
payload; none when the header or the payload runs past the end. -/
def binaryHeader (b : Array UInt8) (i : Nat) : Option (Nat × Nat × Nat) :=
  let first := (textByte b i).toNat
  let x := first / 16
  let big (k : Nat) : Nat := (List.range k).foldl (fun acc j => acc * 256 + (textByte b (i + 1 + j)).toNat) 0
  let sized : Option (Nat × Nat) :=
    if x ≤ 11 then some (1, x)
    else if x == 12 then if i + 1 ≥ b.size then none else some (2, big 1)
    else if x == 13 then if i + 2 ≥ b.size then none else some (3, big 2)
    else if x == 14 then if i + 4 ≥ b.size then none else some (5, big 4)
    else if i + 8 ≥ b.size || big 4 != 0 then none
    else some (9, big 8 % 2 ^ 32)
  match sized with
  | some (n, sz) => if i + n + sz > b.size then none else some (first % 16, n, sz)
  | none => none

/-- Whether a byte string looks like a document in the binary form: a sound first header of a
known kind whose payload ends at the end, with no payload for null, true or false. -/
def looksBinary (bytes : Bytes) : Bool :=
  let b := bytes.toArray
  match binaryHeader b 0 with
  | some (t, n, sz) => b.size ≥ 1 && t ≤ 12 && n + sz == b.size && (t > 2 || sz == 0)
  | none => false

/-- The number and string forms by kind. -/
def binaryLeaf (t : Nat) (payload : Bytes) : Option Document :=
  match t with
  | 3 => if payload.isEmpty then none else some (.number .integer payload)
  | 4 => if payload.isEmpty then none else some (.number .hex payload)
  | 5 => if payload.isEmpty then none else some (.number .real payload)
  | 6 => if payload.isEmpty then none else some (.number .looseReal payload)
  | 7 => some (.string { form := .plain, bytes := payload })
  | 8 => some (.string { form := .escaped, bytes := payload })
  | 9 => some (.string { form := .loose, bytes := payload })
  | 10 => some (.string { form := .raw, bytes := payload })
  | _ => none

mutual

/-- The document at `i` and the position after it. -/
def decodeBinary : (fuel : Nat) → Array UInt8 → Nat → Option (Document × Nat)
  | 0, _, _ => none
  | fuel + 1, b, i => do
    let (t, n, sz) ← binaryHeader b i
    let start := i + n
    let stop := start + sz
    if t == 0 then some (.null, i + 1)
    else if t == 1 then some (.bool true, i + 1)
    else if t == 2 then some (.bool false, i + 1)
    else if t == 11 then do
      let items ← decodeItems fuel b start stop
      some (.array items, stop)
    else if t == 12 then do
      let members ← decodeMembers fuel b start stop
      some (.object members, stop)
    else do
      let d ← binaryLeaf t (b.extract start stop).toList
      some (d, stop)

/-- The items from `j` to `stop`. -/
def decodeItems : (fuel : Nat) → Array UInt8 → Nat → Nat → Option (List Document)
  | 0, _, _, _ => none
  | fuel + 1, b, j, stop =>
    if j < stop then do
      let (d, next) ← decodeBinary fuel b j
      let rest ← decodeItems fuel b next stop
      some (d :: rest)
    else if j > stop then none
    else some []

/-- The members from `j` to `stop`. -/
def decodeMembers : (fuel : Nat) → Array UInt8 → Nat → Nat → Option (List (DocText × Document))
  | 0, _, _, _ => none
  | fuel + 1, b, j, stop =>
    if j < stop then do
      let (label, next) ← decodeBinary fuel b j
      let label ← match label with
        | .string s => some s
        | _ => none
      if next ≥ stop then none
      else do
        let (v, after) ← decodeBinary fuel b next
        let rest ← decodeMembers fuel b after stop
        some ((label, v) :: rest)
    else if j > stop then none
    else some []

end

/-- The document a byte string holds in the binary form, or none when it is not sound. -/
def readBinary (bytes : Bytes) : Option Document :=
  let b := bytes.toArray
  match decodeBinary (3 * b.size + 3) b 0 with
  | some (d, next) => if next == b.size then some d else none
  | none => none

/-- Whether a byte string is taken as a document in the binary form where a document is read:
it looks like one, and if its payload is short and it starts like JSON text, it also is a sound
one. -/
def takenAsBinary (bytes : Bytes) : Bool :=
  match binaryHeader bytes.toArray 0, bytes with
  | some (_, _, sz), c :: _ =>
    looksBinary bytes &&
      (sz > 7 || (c != asciiByte '{' && c != asciiByte '[' && !isDigitByte c) ||
        (readBinary bytes).isSome)
  | _, _ => false

/-! ## Writing the binary form -/

/-- The header of a value of a kind whose payload has a size: one byte when the size is at most
11, else a byte saying how many bytes follow and the size in 1, 2 or 4 bytes. -/
def headerBytes (kind size : Nat) : Bytes :=
  if size ≤ 11 then [UInt8.ofNat (kind + 16 * size)]
  else if size ≤ 0xff then [UInt8.ofNat (kind + 0xc0), UInt8.ofNat size]
  else if size ≤ 0xffff then [UInt8.ofNat (kind + 0xd0), UInt8.ofNat (size / 256), UInt8.ofNat size]
  else
    [UInt8.ofNat (kind + 0xe0), UInt8.ofNat (size / 2 ^ 24), UInt8.ofNat (size / 2 ^ 16),
      UInt8.ofNat (size / 256), UInt8.ofNat size]

/-- The kind of a number in the binary form. -/
def NumberForm.kind : NumberForm → Nat
  | .integer => 3
  | .hex => 4
  | .real => 5
  | .looseReal => 6

/-- The kind of a string in the binary form. -/
def StringForm.kind : StringForm → Nat
  | .plain => 7
  | .escaped => 8
  | .loose => 9
  | .raw => 10

/-- A string in the binary form. -/
def DocText.encode (s : DocText) : Bytes := headerBytes s.form.kind s.bytes.length ++ s.bytes

mutual

/-- A document in the binary form, each header as short as its payload allows. -/
def Document.encode : Document → Bytes
  | .null => [0]
  | .bool true => [1]
  | .bool false => [2]
  | .number form t => headerBytes form.kind t.length ++ t
  | .string s => s.encode
  | .array items =>
    let p := encodeItems items
    headerBytes 11 p.length ++ p
  | .object members =>
    let p := encodeMembers members
    headerBytes 12 p.length ++ p

/-- Items in the binary form, one after another. -/
def encodeItems : List Document → Bytes
  | [] => []
  | d :: rest => d.encode ++ encodeItems rest

/-- Members in the binary form, labels and values alternating. -/
def encodeMembers : List (DocText × Document) → Bytes
  | [] => []
  | (l, v) :: rest => l.encode ++ v.encode ++ encodeMembers rest

end

/-- The payload of a document in the binary form: the text of a number or string, the items or
members of a container, nothing for null, true and false. -/
def Document.payload : Document → Bytes
  | .number _ t => t
  | .string s => s.bytes
  | .array items => encodeItems items
  | .object members => encodeMembers members
  | _ => []

/-- The length of a document's header in the binary form. -/
def Document.headerLength (d : Document) : Nat := (headerBytes 0 d.payload.length).length

end Database

end EntityGraph
