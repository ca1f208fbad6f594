import EntityGraph.Number.Binary64

/-!
# Shortest decimal digits of a binary64 number

Every finite nonzero binary64 number `x` owns an interval of reals that round to it. The
shortest decimal of `x` is the decimal with the fewest significant digits inside that interval;
among those of that length the one nearest to `x` is taken, and an exact tie goes to the even
last digit. The ends of the interval belong to it exactly when the significand of `x` is even,
since a tie when reading rounds to the even significand.

The search is exact arithmetic on `Nat`: for 1, 2, ... 17 digits it looks at the two neighbours
of `x` on the decimal grid of that length. If any point of that grid lies in the interval, one
of the two neighbours does, because the interval contains `x`. Seventeen digits always suffice.

Main definition: `Binary64.shortest`, giving digits `d` and exponent `k` with value `d * 10 ^ k`.
-/

namespace EntityGraph

namespace Binary64

/-- `a * 2 ^ q` against `b * 10 ^ k`, compared exactly. -/
def compareScaled (a : Nat) (q : Int) (b : Nat) (k : Int) : Ordering :=
  compare (a * 2 ^ q.toNat * 10 ^ (-k).toNat) (b * 10 ^ k.toNat * 2 ^ (-q).toNat)

/-- The number of decimal digits of a natural number, `0` counting as one digit. -/
def decimalLength (n : Nat) : Nat := (Nat.toDigits 10 n).length

/-- The exponent `p` with `10 ^ p ≤ a * 2 ^ q < 10 ^ (p + 1)`, for `a > 0`. -/
def decimalExponent (a : Nat) (q : Int) : Int :=
  let num := a * 2 ^ q.toNat
  let den := 2 ^ (-q).toNat
  let p0 : Int := (decimalLength num : Int) - (decimalLength den : Int)
  if compareScaled a q 1 p0 == .lt then p0 - 1 else p0

/-- Remove trailing zero digits, raising the exponent to keep the value. -/
def stripZeros (d : Nat) (k : Int) : (fuel : Nat) → Nat × Int
  | 0 => (d, k)
  | fuel + 1 => if d != 0 && d % 10 == 0 then stripZeros (d / 10) (k + 1) fuel else (d, k)

/-- The rounding interval of a finite nonzero number in quarter units `2 ^ (exponent - 2)`:
the lower end, the value and the upper end, and whether the ends belong to it. The gap below
is halved at a power of two, where the next smaller number is twice as close. -/
def roundingInterval (x : Binary64) : Nat × Nat × Nat × Bool :=
  let s := x.significand
  let lower := if x.fractionField == 0 && x.exponentField > 1 then 4 * s - 1 else 4 * s - 2
  (lower, 4 * s, 4 * s + 2, s % 2 == 0)

/-- The grid neighbour of `x` with `n` significant digits that lies in its interval, if one does:
the nearer of the two, an exact tie going to the even one. -/
def gridCandidate (x : Binary64) (p : Int) (n : Nat) : Option (Nat × Int) :=
  let q := x.exponent - 2
  let (lower, value, upper, inclusive) := x.roundingInterval
  let k := p - n + 1
  let lo := (value * 2 ^ q.toNat * 10 ^ (-k).toNat) / (10 ^ k.toNat * 2 ^ (-q).toNat)
  let hi := lo + 1
  let above (d : Nat) : Bool :=
    match compareScaled lower q d k with
    | .lt => true
    | .eq => inclusive
    | .gt => false
  let below (d : Nat) : Bool :=
    match compareScaled upper q d k with
    | .gt => true
    | .eq => inclusive
    | .lt => false
  let loOk := above lo
  let hiOk := below hi
  if loOk && hiOk then
    -- nearer of the two: compare 2x against (lo + hi) * 10^k
    match compareScaled (2 * value) q (lo + hi) k with
    | .lt => some (lo, k)
    | .gt => some (hi, k)
    | .eq => some (if lo % 2 == 0 then lo else hi, k)
  else if loOk then some (lo, k)
  else if hiOk then some (hi, k)
  else none

/-- Digits `d` and exponent `k` of the shortest decimal `d * 10 ^ k` that reads back as `x`, for
finite nonzero `x`, with no trailing zero in `d`. The sign is not included. -/
def shortest (x : Binary64) : Nat × Int :=
  let p := decimalExponent (4 * x.significand) (x.exponent - 2)
  let floor17 :=
    let k := p - 16
    ((4 * x.significand) * 2 ^ (x.exponent - 2).toNat * 10 ^ (-k).toNat
      / (10 ^ k.toNat * 2 ^ (-(x.exponent - 2)).toNat), k)
  let rec search : List Nat → Nat × Int
    | [] => floor17
    | n :: rest =>
      match gridCandidate x p n with
      | some (d, k) => stripZeros d k 20
      | none => search rest
  search (List.range' 1 17)

end Binary64

end EntityGraph
