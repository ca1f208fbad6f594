import EntityGraph.Number.Binary64

/-!
# Arithmetic on binary64 numbers

The four operations of IEEE 754 on every kind of operand: finite numbers go through exact
rational arithmetic and one rounding (`Binary64.ofRatio`), infinities and NaNs follow the
standard's rules, and a sum that is exactly zero is negative only when both operands are.

Also here: the truncation of a number toward zero, and the high half of a number that
splitting products into exact parts needs (`Binary64.highHalf`).
-/

namespace EntityGraph

namespace Binary64

/-- The exact value of a finite number as a signed ratio. -/
def signedRatio (x : Binary64) : Int × Nat :=
  let (a, b) := x.magnitude
  (if x.signBit then -(a : Int) else a, b)

/-- The number nearest to a signed ratio. -/
def ofSignedRatio (n : Int) (d : Nat) : Binary64 :=
  ofRatio (n < 0) n.natAbs d

/-- The sum of two numbers, rounded once. -/
def add (x y : Binary64) : Binary64 :=
  if x.isNaN || y.isNaN then nan
  else if x.isInfinite && y.isInfinite then (if x.signBit == y.signBit then x else nan)
  else if x.isInfinite then x
  else if y.isInfinite then y
  else
    let (a, b) := signedRatio x
    let (c, d) := signedRatio y
    let n := a * d + c * b
    if n == 0 then zero (x.signBit && y.signBit) else ofSignedRatio n (b * d)

/-- The difference of two numbers, rounded once. -/
def sub (x y : Binary64) : Binary64 := add x y.negate

/-- The product of two numbers, rounded once. -/
def times (x y : Binary64) : Binary64 :=
  if x.isNaN || y.isNaN then nan
  else if x.isInfinite || y.isInfinite then
    if x.isZero || y.isZero then nan else infinity (x.signBit != y.signBit)
  else x.mul y

/-- The quotient of two numbers, rounded once; a zero divisor gives an infinity, or NaN for
zero over zero. -/
def divide (x y : Binary64) : Binary64 :=
  if x.isNaN || y.isNaN then nan
  else if x.isInfinite && y.isInfinite then nan
  else if x.isInfinite then infinity (x.signBit != y.signBit)
  else if y.isInfinite then zero (x.signBit != y.signBit)
  else if y.isZero then (if x.isZero then nan else infinity (x.signBit != y.signBit))
  else x.div y

/-- The integer part of a finite number, truncated toward zero. -/
def truncate (x : Binary64) : Int :=
  let (a, b) := x.magnitude
  let q : Int := (a / b : Nat)
  if x.signBit then -q else q

/-- The number with the low 26 bits of its pattern cleared: a number with at most 27
significant bits, so that the product of two such halves is exact. -/
def highHalf (x : Binary64) : Binary64 := ⟨x.bits &&& 0xfffffffffc000000⟩

/-- Whether a number is less than another, NaN being less than nothing. -/
def lt (x y : Binary64) : Bool := !x.isNaN && !y.isNaN && compareFinite x y == .lt

/-- Whether two numbers are numerically equal. -/
def eq (x y : Binary64) : Bool := eqv x y

end Binary64

end EntityGraph
