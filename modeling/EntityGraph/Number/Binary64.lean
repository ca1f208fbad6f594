import EntityGraph.Number.Power
/-!
# Binary64 numbers

IEEE 754 double-precision numbers, kept as their 64-bit pattern. A pattern is split into a
sign, an 11-bit exponent field and a 52-bit fraction field; a finite number is
`significand * 2 ^ exponent` with the usual hidden bit.

All arithmetic here is exact rational arithmetic on `Nat` followed by one rounding step,
`Binary64.ofRatio`, which rounds to the nearest representable number with ties to an even
significand. A single IEEE operation is exactly such a rounding of the exact result, so
`mul`, `div` and `ofInt` below give the results of the hardware operations.

Main definitions:
- `Binary64.ofRatio`: the number nearest to a non-negative ratio, with a sign.
- `Binary64.eqv` and `Binary64.compareFinite`: numeric equality and order.
-/

namespace EntityGraph

/-- An IEEE 754 binary64 number, identified with its bit pattern: two values are equal exactly
when their patterns are. Numeric equality, under which `0.0` and `-0.0` agree and a NaN differs
from everything, is `Binary64.eqv`. -/
structure Binary64 where
  /-- The 64-bit pattern. -/
  bits : UInt64
  deriving DecidableEq, Inhabited, Repr

namespace Binary64

/-! ## Fields -/

/-- Whether the sign bit is set. -/
def signBit (x : Binary64) : Bool := (x.bits >>> 63) == 1

/-- The biased exponent field, `0` to `2047`. -/
def exponentField (x : Binary64) : Nat := ((x.bits >>> 52) &&& 0x7ff).toNat

/-- The fraction field, below `2 ^ 52`. -/
def fractionField (x : Binary64) : Nat := (x.bits &&& 0xfffffffffffff).toNat

/-- A NaN: the exponent field is full and the fraction is not zero. -/
def isNaN (x : Binary64) : Bool := x.exponentField == 2047 && x.fractionField != 0

/-- An infinity: the exponent field is full and the fraction is zero. -/
def isInfinite (x : Binary64) : Bool := x.exponentField == 2047 && x.fractionField == 0

/-- A finite number: the exponent field is not full. -/
def isFinite (x : Binary64) : Bool := x.exponentField != 2047

/-- Positive or negative zero. -/
def isZero (x : Binary64) : Bool := x.exponentField == 0 && x.fractionField == 0

/-- The pattern with the given sign, exponent field and fraction field. -/
def ofFields (neg : Bool) (exponentField fraction : Nat) : Binary64 :=
  ⟨UInt64.ofNat ((if neg then 2 ^ 63 else 0) + exponentField * 2 ^ 52 + fraction)⟩

/-- The quiet NaN with a clear sign bit, the one that a parsed `nan` denotes. -/
def nan : Binary64 := ⟨0x7ff8000000000000⟩

/-- Infinity with the given sign. -/
def infinity (neg : Bool) : Binary64 := ofFields neg 2047 0

/-- Zero with the given sign. -/
def zero (neg : Bool) : Binary64 := ofFields neg 0 0

/-- The same number with the sign bit flipped. -/
def negate (x : Binary64) : Binary64 := ⟨x.bits ^^^ 0x8000000000000000⟩

/-- The integer significand of a finite number, with the hidden bit of normal numbers. -/
def significand (x : Binary64) : Nat :=
  if x.exponentField == 0 then x.fractionField else x.fractionField + 2 ^ 52

/-- The binary exponent of a finite number: its magnitude is `significand * 2 ^ exponent`. -/
def exponent (x : Binary64) : Int :=
  if x.exponentField == 0 then -1074 else (x.exponentField : Int) - 1075

/-! ## Rounding -/

/-- `a * 2 ^ e` as a ratio of naturals, for either sign of `e`. -/
def scaleRatio (a : Nat) (e : Int) : Nat × Nat :=
  if 0 ≤ e then (a * 2 ^ e.toNat, 1) else (a, 2 ^ (-e).toNat)

/-- The exponent `e` at which `num / den / 2 ^ e` has 53 integer bits, clamped below at the
subnormal exponent `-1074`. -/
def roundingExponent (num den : Nat) : Int :=
  let e0 : Int := (Nat.log2 num : Int) - (Nat.log2 den : Int) - 52
  let (n, d) := (num * 2 ^ (-e0).toNat, den * 2 ^ e0.toNat)
  let e1 := if n / d < 2 ^ 52 then e0 - 1 else e0
  if e1 < -1074 then -1074 else e1

/-- Divide and round to the nearest integer, a tie going to the even neighbour. -/
def divRoundEven (n d : Nat) : Nat :=
  let q := n / d
  let r := n % d
  if 2 * r > d || (2 * r == d && q % 2 == 1) then q + 1 else q

/-- The binary64 number nearest to `num / den` with the given sign, ties to an even significand.
A magnitude that rounds beyond the largest finite number gives infinity; `num = 0` gives zero. -/
def ofRatio (neg : Bool) (num den : Nat) : Binary64 :=
  if num == 0 || den == 0 then zero neg
  else
    let e := roundingExponent num den
    let m := divRoundEven (num * 2 ^ (-e).toNat) (den * 2 ^ e.toNat)
    let (m, e) := if m == 2 ^ 53 then (2 ^ 52, e + 1) else (m, e)
    if m < 2 ^ 52 then ofFields neg 0 m
    else
      let biased := e + 1075
      if biased ≥ 2047 then infinity neg else ofFields neg biased.toNat (m - 2 ^ 52)

/-- The number nearest to an integer. -/
def ofInt (n : Int) : Binary64 := ofRatio (n < 0) n.natAbs 1

/-- The exact magnitude of a finite number as a ratio. -/
def magnitude (x : Binary64) : Nat × Nat := scaleRatio x.significand x.exponent

/-- The product of two finite numbers, rounded once. -/
def mul (x y : Binary64) : Binary64 :=
  let (a, b) := x.magnitude
  let (c, d) := y.magnitude
  ofRatio (x.signBit != y.signBit) (a * c) (b * d)

/-- The quotient of a finite number by a finite nonzero number, rounded once. -/
def div (x y : Binary64) : Binary64 :=
  let (a, b) := x.magnitude
  let (c, d) := y.magnitude
  ofRatio (x.signBit != y.signBit) (a * d) (b * c)

/-! ## Comparison -/

/-- Numeric equality: NaN equals nothing, and the two zeros are equal. -/
def eqv (x y : Binary64) : Bool :=
  !x.isNaN && !y.isNaN && (x.bits == y.bits || (x.isZero && y.isZero))

/-- The order of two numbers that are not NaN, infinities included, the zeros equal. -/
def compareFinite (x y : Binary64) : Ordering :=
  let key (z : Binary64) : Int × Nat × Nat :=
    if z.isZero then (0, 0, 1)
    else if z.isInfinite then (if z.signBit then -2 else 2, 0, 1)
    else
      let (a, b) := z.magnitude
      (if z.signBit then -1 else 1, a, b)
  let (sx, a, b) := key x
  let (sy, c, d) := key y
  if sx != sy then compare sx sy
  else if sx == 1 then compare (a * d) (c * b)
  else if sx == -1 then compare (c * b) (a * d)
  else .eq

/-- The integer value of a finite number without a fractional part, if it has one. -/
def toInt? (x : Binary64) : Option Int :=
  if !x.isFinite then none
  else
    let (a, b) := x.magnitude
    if a % b != 0 then none
    else
      let n : Int := (a / b : Nat)
      some (if x.signBit then -n else n)

end Binary64

end EntityGraph
