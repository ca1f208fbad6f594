import EntityGraph.Database.Datum
import EntityGraph.Number.Arithmetic

/-!
# Operators on stored values

Arithmetic, bit operations, concatenation and comparison of `Datum`s, and the two pattern
languages of `LIKE` and `GLOB`.

Rules that fix the results:
- Arithmetic on null is null. Two integers give an integer unless the result leaves 64 bits,
  when both are taken as reals. Text and byte strings count as the number they start with
  (`Datum.toNumber`). Division or remainder by zero is null; a remainder of reals is the
  remainder of their integer parts, as a real; a real result that is NaN is null.
- Bit operations read both sides as integers (text by its integer prefix); a shift by a
  negative amount shifts the other way, and a shift by 64 or more leaves 0 (or -1 for a negative
  number shifted right).
- `||` joins the texts of both sides; null on either side gives null.
- A comparison first moves both sides towards its affinity (`Datum.prepare`), then orders them
  under its collation; null on either side gives null, except for `IS` and `IS NOT`, under
  which two nulls are equal.
- In a pattern, `%` (`*` for `GLOB`) matches any run of characters and `_` (`?`) any one;
  `LIKE` ignores the case of ASCII letters, `GLOB` has character classes in brackets. Both stop
  at a NUL.
-/

namespace EntityGraph

namespace Database

namespace Datum

/-- The result of integer arithmetic, if it stays within 64 bits. -/
def fitInt (n : Int) : Option Datum :=
  if -2 ^ 63 ≤ n && n < 2 ^ 63 then some (ofInt n) else none

/-- An arithmetic operator on two stored values. -/
inductive ArithOp where
  | add | sub | mul | div | rem
  deriving DecidableEq, Inhabited, Repr

/-- Integer arithmetic, or none when the result leaves 64 bits (or is a division of the least
integer by -1). Division by zero is handled by the caller. -/
def intArith (op : ArithOp) (a b : Int) : Option Datum :=
  match op with
  | .add => fitInt (a + b)
  | .sub => fitInt (a - b)
  | .mul => fitInt (a * b)
  | .div => if b == -1 && a == -2 ^ 63 then none else fitInt (a.tdiv b)
  | .rem => fitInt (a.tmod (if b == -1 then 1 else b))

/-- Real arithmetic on the values of two operands. -/
def realArith (op : ArithOp) (a b : Datum) : Datum :=
  let x := a.toReal
  let y := b.toReal
  match op with
  | .add => ofReal (x.add y)
  | .sub => ofReal (x.sub y)
  | .mul => ofReal (x.times y)
  | .div => if y.isZero then .null else ofReal (x.divide y)
  | .rem =>
    let i := a.toInt
    let j := b.toInt
    if j == 0 then .null
    else .real (Binary64.ofInt (i.tmod (if j == -1 then 1 else j)))

/-- An arithmetic operation on two stored values. -/
def arith (op : ArithOp) (a b : Datum) : Datum :=
  match a, b with
  | .null, _ | _, .null => .null
  | _, _ =>
    match a.toNumber, b.toNumber with
    | .integer x, .integer y =>
      if (op == .div || op == .rem) && y == 0 then .null
      else
        match intArith op x.toInt y.toInt with
        | some d => d
        | none => realArith op (.integer x) (.integer y)
    | _, _ => realArith op a b

/-- A bit operation on two stored values read as integers. -/
def bitOp (f : Int → Int → Int) (a b : Datum) : Datum :=
  match a, b with
  | .null, _ | _, .null => .null
  | _, _ => ofInt (f a.toInt b.toInt)

/-- The bits of an integer as a 64-bit pattern. -/
def toBits (n : Int) : Nat := (n % 2 ^ 64).toNat

/-- The integer of a 64-bit pattern. -/
def ofBits (u : Nat) : Int := if u ≥ 2 ^ 63 then (u : Int) - 2 ^ 64 else u

/-- Bitwise and. -/
def bitAnd (a b : Int) : Int := ofBits (toBits a &&& toBits b)

/-- Bitwise or. -/
def bitOr (a b : Int) : Int := ofBits (toBits a ||| toBits b)

/-- A shift to the left by a count (to the right for a negative count). -/
def shift (left : Bool) (a b : Int) : Int :=
  if b == 0 then a
  else
    let (left, n) := if b < 0 then (!left, if b > -64 then (-b).toNat else 64) else (left, b.toNat)
    if n ≥ 64 then (if a ≥ 0 || left then 0 else -1)
    else if left then ofBits ((toBits a <<< n) % 2 ^ 64)
    else
      let u := toBits a >>> n
      let u := if a < 0 then u ||| ((2 ^ 64 - 1) <<< (64 - n)) % 2 ^ 64 else u
      ofBits u

/-- Bitwise complement. -/
def bitNot : Datum → Datum
  | .null => .null
  | d => ofInt (-d.toInt - 1)

/-- Negation, as `0 - x`. -/
def negate (d : Datum) : Datum := arith .sub (.integer 0) d

/-- The concatenation of the texts of two values. -/
def concat (a b : Datum) : Datum :=
  match a, b with
  | .null, _ | _, .null => .null
  | _, _ => .text (a.textOrEmpty ++ b.textOrEmpty)

/-- The comparison operators. -/
inductive CompareOp where
  | eq | ne | lt | le | gt | ge
  /-- Equality under which two nulls are equal. -/
  | is
  | isNot
  deriving DecidableEq, Inhabited, Repr

/-- Whether an order satisfies a comparison operator. -/
def CompareOp.holds : CompareOp → Ordering → Bool
  | .eq, o | .is, o => o == .eq
  | .ne, o | .isNot, o => o != .eq
  | .lt, o => o == .lt
  | .le, o => o != .gt
  | .gt, o => o == .gt
  | .ge, o => o != .lt

/-- A comparison of two values under an affinity and a collation: unknown when either is null,
except for `IS` and `IS NOT`. -/
def compareBy (op : CompareOp) (aff : Option Affinity) (coll : Collation) (a b : Datum) : Option Bool :=
  match a, b with
  | .null, .null => if op == .is then some true else if op == .isNot then some false else none
  | .null, _ | _, .null => if op == .is then some false else if op == .isNot then some true else none
  | _, _ =>
    let (x, y) := prepare aff a b
    some (op.holds (compareWith coll x y))

end Datum

/-! ## Patterns -/

/-- How a pattern language reads its patterns: the characters matching any run and any one
character, the character opening a class (0 for none), and whether case is ignored. -/
structure PatternRules where
  matchAll : Nat
  matchOne : Nat
  matchSet : Nat
  noCase : Bool
  deriving Inhabited, Repr

/-- The rules of `LIKE`: `%`, `_`, no classes, case ignored. -/
def PatternRules.like : PatternRules := { matchAll := 37, matchOne := 95, matchSet := 0, noCase := true }

/-- The rules of `GLOB`: `*`, `?`, classes in `[ ]`, case kept. -/
def PatternRules.glob : PatternRules := { matchAll := 42, matchOne := 63, matchSet := 91, noCase := false }

/-- The outcome of matching: a match, no match, or no match for any later start either. -/
inductive MatchOutcome where
  | matched | unmatched | hopeless
  deriving DecidableEq, Inhabited, Repr

/-- The lower-case form of an ASCII letter code; other codes as they are. -/
def lowerCode (c : Nat) : Nat := if 65 ≤ c && c ≤ 90 then c + 32 else c

/-- The upper-case form of an ASCII letter code; other codes as they are. -/
def upperCode (c : Nat) : Nat := if 97 ≤ c && c ≤ 122 then c - 32 else c

/-- The next character of a text, as a code point, and the rest; 0 at the end. -/
def readCode (b : Bytes) : Nat × Bytes :=
  match b with
  | [] => (0, [])
  | _ => Bytes.readChar b

/-- The pattern after a character class opened by `[`, if the class admits the code `c`. -/
def matchClass (c : Nat) (pattern : Bytes) : Option Bytes :=
  let (c2, p) := readCode pattern
  let (invert, c2, p) := if c2 == 94 then let (d, q) := readCode p; (true, d, q) else (false, c2, p)
  let (seen, c2, p) := if c2 == 93 then let (d, q) := readCode p; (c == 93, d, q) else (false, c2, p)
  let rec go : (fuel : Nat) → Nat → Bytes → Bool → Nat → Option (Bytes × Bool)
    | 0, _, _, _, _ => none
    | fuel + 1, c2, p, seen, prior =>
      if c2 == 0 then none
      else if c2 == 93 then some (p, seen)
      else if c2 == 45 && p.head? != some 93 && !p.isEmpty && prior > 0 then
        let (hi, q) := readCode p
        let seen := seen || (c ≥ prior && c ≤ hi)
        let (next, q) := readCode q
        go fuel next q seen 0
      else
        let seen := seen || c == c2
        let (next, q) := readCode p
        go fuel next q seen c2
  match go (pattern.length + 2) c2 p seen 0 with
  | some (after, seen) => if seen != invert then some after else none
  | none => none

mutual

/-- Match a pattern against a text (both already cut at their first NUL); `other` is the escape
character for `LIKE` or `[` for `GLOB`. -/
def matchPattern (rules : PatternRules) (other : Nat) : Nat → Bytes → Bytes → MatchOutcome
  | 0, _, _ => .unmatched
  | fuel + 1, pattern, text =>
    let (c, pRest) := readCode pattern
    if c == 0 then (if text.isEmpty then .matched else .unmatched)
    else if c == rules.matchAll then matchAfterStar rules other fuel pRest text
    else if c == other && other != 0 && rules.matchSet == 0 then
      let (e, pRest') := readCode pRest
      if e == 0 then .unmatched
      else
        let (c2, tRest) := readCode text
        if e == c2 then matchPattern rules other fuel pRest' tRest
        else if rules.noCase && lowerCode e == lowerCode c2 && e < 128 && c2 < 128 then
          matchPattern rules other fuel pRest' tRest
        else .unmatched
    else if c == other && other != 0 then
      -- a character class
      let (tc, tRest) := readCode text
      if tc == 0 then .unmatched
      else
        match matchClass tc pRest with
        | some pAfter => matchPattern rules other fuel pAfter tRest
        | none => .unmatched
    else
      let (c2, tRest) := readCode text
      if c == c2 then matchPattern rules other fuel pRest tRest
      else if rules.noCase && lowerCode c == lowerCode c2 && c < 128 && c2 < 128 then
        matchPattern rules other fuel pRest tRest
      else if c == rules.matchOne && c2 != 0 then matchPattern rules other fuel pRest tRest
      else .unmatched

/-- Match what follows a run-matching character. -/
def matchAfterStar (rules : PatternRules) (other : Nat) : Nat → Bytes → Bytes → MatchOutcome
  | 0, _, _ => .unmatched
  | fuel + 1, pattern, text =>
    let (c, pRest) := readCode pattern
    if c == 0 then .matched
    else if c == rules.matchAll then matchAfterStar rules other fuel pRest text
    else if c == rules.matchOne && rules.matchOne != 0 then
      -- each one-character wildcard takes a character
      let (tc, tRest) := readCode text
      if tc == 0 then .hopeless else matchAfterStar rules other fuel pRest tRest
    else if c == other && other != 0 then
      if rules.matchSet == 0 then
        let (e, pAfter) := readCode pRest
        if e == 0 then .hopeless else searchFrom rules other fuel e pAfter text
      else tryEachStart rules other fuel pattern text
    else searchFrom rules other fuel c pRest text

/-- Try the pattern at every start of the text, for a class right after a run. -/
def tryEachStart (rules : PatternRules) (other : Nat) : Nat → Bytes → Bytes → MatchOutcome
  | 0, _, _ => .hopeless
  | fuel + 1, pattern, text =>
    if text.isEmpty then .hopeless
    else
      match matchPattern rules other fuel pattern text with
      | .unmatched =>
        let (_, tRest) := Bytes.splitChar text
        tryEachStart rules other fuel pattern tRest
      | r => r

/-- Look for the character `c` in the text and match the rest of the pattern right after each
place it occurs. -/
def searchFrom (rules : PatternRules) (other : Nat) : Nat → Nat → Bytes → Bytes → MatchOutcome
  | 0, _, _, _ => .hopeless
  | fuel + 1, c, pRest, text =>
    if c < 128 then
      let stop (b : UInt8) : Bool :=
        b.toNat == c || (rules.noCase && (b.toNat == upperCode c || b.toNat == lowerCode c))
      match text.dropWhile (fun b => !stop b) with
      | [] => .hopeless
      | _ :: after =>
        match matchPattern rules other fuel pRest after with
        | .unmatched => searchFrom rules other fuel c pRest after
        | r => r
    else
      let (c2, tRest) := readCode text
      if c2 == 0 then .hopeless
      else if c2 != c then searchFrom rules other fuel c pRest tRest
      else
        match matchPattern rules other fuel pRest tRest with
        | .unmatched => searchFrom rules other fuel c pRest tRest
        | r => r

end

/-- Whether a text matches a pattern under the rules, with an escape character (0 for none);
an escape that is one of the wildcards takes away that wildcard. -/
def patternMatches (rules : PatternRules) (escape : Nat) (pattern text : Bytes) : Bool :=
  let pattern := Bytes.untilNul pattern
  let text := Bytes.untilNul text
  let rules := if escape != 0 && escape == rules.matchAll then { rules with matchAll := 0 } else rules
  let rules := if escape != 0 && escape == rules.matchOne then { rules with matchOne := 0 } else rules
  let other := if escape != 0 then escape else rules.matchSet
  matchPattern rules other ((pattern.length + 2) * (text.length + 2) * 4) pattern text == .matched

end Database

end EntityGraph
