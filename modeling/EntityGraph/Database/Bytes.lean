import EntityGraph.Number.Power
/-!
# Byte strings

The store keeps text as the bytes it was given, whether or not they are well-formed UTF-8:
text cast from a byte string keeps its bytes, and a parameter may hold a NUL. Everything that
looks at characters reads those bytes its own way, and only the reply turns them into a `String`.

Rules that fix the results:
- A character starts at any byte. A byte below `0xC0` is a character by itself; a byte from
  `0xC0` on takes every continuation byte (`10xxxxxx`) after it, however many. Read as a code
  point (`Bytes.readChar`), such a sequence that encodes less than `0x80`, a surrogate, or
  `0xFFFE`/`0xFFFF` reads as `U+FFFD`.
- Character counts stop at the first NUL (`Bytes.charCount`).
- A reply decodes the bytes as UTF-8, each maximal ill-formed subsequence becoming one `U+FFFD`
  (`Bytes.lossy`).
- Case mapping and case-blind comparison touch ASCII letters only.
-/

namespace EntityGraph

namespace Database

/-- Text and byte strings as the store keeps them. -/
abbrev Bytes := List UInt8

namespace Bytes

/-- The UTF-8 bytes of a string. -/
def ofString (s : String) : Bytes := s.toUTF8.toList

/-- Whether a byte continues a character: its top bits are `10`. -/
def isContinuation (b : UInt8) : Bool := b.toNat / 64 == 2

/-- The bits that a leading byte of `0xC0` or more gives its character. -/
def leadBits (b : UInt8) : Nat :=
  let v := b.toNat - 0xC0
  if v < 0x20 then v
  else if v < 0x30 then v - 0x20
  else if v < 0x38 then v - 0x30
  else if v < 0x3C then v - 0x38
  else if v < 0x3E then v - 0x3C
  else 0

/-- Continuation bytes folded into a code point, kept within 32 bits; the rest. -/
def continuation (acc : Nat) : Bytes → Nat × Bytes
  | b :: rest =>
    if isContinuation b then continuation ((acc * 64 + b.toNat % 64) % 2 ^ 32) rest
    else (acc, b :: rest)
  | [] => (acc, [])

/-- The code point of the character at the front, and the bytes after it. -/
def readChar : Bytes → Nat × Bytes
  | [] => (0, [])
  | c :: rest =>
    if c.toNat < 0xC0 then (c.toNat, rest)
    else
      let r := continuation (leadBits c) rest
      let bad := r.1 < 0x80 || r.1 / 0x800 == 0x1B || r.1 / 2 == 0x7FFF
      (if bad then 0xFFFD else r.1, r.2)

theorem continuation_length (acc : Nat) (b : Bytes) : (continuation acc b).2.length ≤ b.length := by
  induction b generalizing acc with
  | nil => simp [continuation]
  | cons x rest ih =>
    unfold continuation
    split
    · exact Nat.le_succ_of_le (ih _)
    · simp

theorem readChar_length (c : UInt8) (rest : Bytes) : (readChar (c :: rest)).2.length < (c :: rest).length := by
  simp only [readChar]
  split
  · simp
  · simp only [List.length_cons]
    exact Nat.lt_succ_of_le (continuation_length _ _)

/-- The code points of a byte string, character by character. -/
def codePoints : Bytes → List Nat
  | [] => []
  | c :: rest =>
    (readChar (c :: rest)).1 :: codePoints (readChar (c :: rest)).2
termination_by b => b.length
decreasing_by exact readChar_length c rest

/-- The bytes up to the first NUL. -/
def untilNul (b : Bytes) : Bytes := b.takeWhile (· != 0)

/-- The bytes of the character at the front and the bytes after it: the byte itself, and after
a byte of `0xC0` or more every continuation byte that follows. -/
def splitChar : Bytes → Bytes × Bytes
  | [] => ([], [])
  | c :: rest =>
    if c.toNat ≥ 0xC0 then
      let tail := rest.takeWhile isContinuation
      (c :: tail, rest.drop tail.length)
    else ([c], rest)

theorem splitChar_length (c : UInt8) (rest : Bytes) : (splitChar (c :: rest)).2.length < (c :: rest).length := by
  simp only [splitChar]
  split
  · simp only [List.length_drop, List.length_cons]
    omega
  · simp

/-- A byte string cut into its characters. -/
def chars : Bytes → List Bytes
  | [] => []
  | c :: rest =>
    (splitChar (c :: rest)).1 :: chars (splitChar (c :: rest)).2
termination_by b => b.length
decreasing_by exact splitChar_length c rest

/-- The number of characters before the first NUL. -/
def charCount (b : Bytes) : Nat := (chars (untilNul b)).length

/-- A code point written as the store writes it: one to four bytes by its size, surrogates
included. -/
def encodePoint (c : Nat) : Bytes :=
  if c < 0x80 then [UInt8.ofNat c]
  else if c < 0x800 then [UInt8.ofNat (0xC0 + c / 64), UInt8.ofNat (0x80 + c % 64)]
  else if c < 0x10000 then
    [UInt8.ofNat (0xE0 + c / 4096), UInt8.ofNat (0x80 + c / 64 % 64), UInt8.ofNat (0x80 + c % 64)]
  else
    [UInt8.ofNat (0xF0 + c / 262144 % 8), UInt8.ofNat (0x80 + c / 4096 % 64),
     UInt8.ofNat (0x80 + c / 64 % 64), UInt8.ofNat (0x80 + c % 64)]

/-! ## Decoding for a reply -/

/-- Whether a byte lies in an inclusive range. -/
def within (b : UInt8) (lo hi : Nat) : Bool := lo ≤ b.toNat && b.toNat ≤ hi

/-- The length of the well-formed character at the front, or of the maximal prefix of one that
cannot be completed (`Sum.inl`), for a first byte of `0x80` or more. -/
def sequenceAt (c : UInt8) (rest : Bytes) : Nat ⊕ Nat :=
  let n := c.toNat
  let b1 := rest.getD 0 0
  let b2 := rest.getD 1 0
  let b3 := rest.getD 2 0
  if 0xC2 ≤ n && n ≤ 0xDF then
    if isContinuation b1 then .inr 2 else .inl 1
  else if 0xE0 ≤ n && n ≤ 0xEF then
    let second :=
      if n == 0xE0 then within b1 0xA0 0xBF
      else if n == 0xED then within b1 0x80 0x9F
      else within b1 0x80 0xBF
    if !second then .inl 1
    else if !isContinuation b2 then .inl 2
    else .inr 3
  else if 0xF0 ≤ n && n ≤ 0xF4 then
    let second :=
      if n == 0xF0 then within b1 0x90 0xBF
      else if n == 0xF4 then within b1 0x80 0x8F
      else within b1 0x80 0xBF
    if !second then .inl 1
    else if !isContinuation b2 then .inl 2
    else if !isContinuation b3 then .inl 3
    else .inr 4
  else .inl 1

/-- The code point of a well-formed sequence of two to four bytes. -/
def decodeSequence (bs : Bytes) : Nat :=
  match bs with
  | [a, b] => (a.toNat % 32) * 64 + b.toNat % 64
  | [a, b, c] => (a.toNat % 16) * 4096 + (b.toNat % 64) * 64 + c.toNat % 64
  | [a, b, c, d] => (a.toNat % 8) * 262144 + (b.toNat % 64) * 4096 + (c.toNat % 64) * 64 + d.toNat % 64
  | _ => 0xFFFD

/-- The characters of bytes decoded as UTF-8, an ill-formed sequence giving one `U+FFFD`. -/
def lossyChars : Bytes → List Char
  | [] => []
  | c :: rest =>
    if c.toNat < 0x80 then Char.ofNat c.toNat :: lossyChars rest
    else
      match sequenceAt c rest with
      | .inl k => Char.ofNat 0xFFFD :: lossyChars (rest.drop (k - 1))
      | .inr k => Char.ofNat (decodeSequence (c :: rest.take (k - 1))) :: lossyChars (rest.drop (k - 1))
termination_by b => b.length
decreasing_by
  all_goals simp_wf
  all_goals omega

/-- Bytes decoded for a reply. -/
def lossy (b : Bytes) : String := String.ofList (lossyChars b)

/-! ## Case and order -/

/-- An ASCII letter in upper case; every other byte as it is. -/
def upperByte (b : UInt8) : UInt8 := if within b 0x61 0x7A then b - 32 else b

/-- An ASCII letter in lower case; every other byte as it is. -/
def lowerByte (b : UInt8) : UInt8 := if within b 0x41 0x5A then b + 32 else b

/-- Bytes with ASCII letters in upper case. -/
def upper (b : Bytes) : Bytes := b.map upperByte

/-- Bytes with ASCII letters in lower case. -/
def lower (b : Bytes) : Bytes := b.map lowerByte

/-- Bytewise order, a proper prefix first. -/
def compareBytes : Bytes → Bytes → Ordering
  | [], [] => .eq
  | [], _ :: _ => .lt
  | _ :: _, [] => .gt
  | a :: as, b :: bs =>
    match compare a.toNat b.toNat with
    | .eq => compareBytes as bs
    | o => o

/-- Order ignoring the case of ASCII letters: the common length compared byte by byte in lower
case, stopping at a NUL of the left side, then the lengths. -/
def compareNoCase (x y : Bytes) : Ordering :=
  let rec go : Bytes → Bytes → Nat → Int
    | a :: as, b :: bs, n + 1 =>
      if a != 0 && lowerByte a == lowerByte b then go as bs n
      else (lowerByte a).toNat - (lowerByte b).toNat
    | _, _, _ => 0
  let r := go x y (min x.length y.length)
  if r < 0 then .lt else if r > 0 then .gt else compare x.length y.length

/-- The bytes without trailing spaces. -/
def trimTrailingSpaces (b : Bytes) : Bytes := (b.reverse.dropWhile (· == 32)).reverse

/-- Uppercase hexadecimal digits of bytes. -/
def hex (b : Bytes) : String :=
  let digit (n : Nat) : Char := if n < 10 then Char.ofNat (48 + n) else Char.ofNat (55 + n)
  String.ofList (b.flatMap fun x => [digit (x.toNat / 16), digit (x.toNat % 16)])

/-- Whether `needle` occurs in `hay` starting at its front. -/
def startsWith (hay needle : Bytes) : Bool := hay.take needle.length == needle

end Bytes

end Database

end EntityGraph
