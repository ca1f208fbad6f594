import EntityGraph.Database.Bytes
import EntityGraph.Number.Arithmetic

/-!
# Numbers read from text and written as text

The store converts between text and binary64 numbers with its own algorithms, which are not
the correctly rounded ones, so both directions are given here exactly as the store computes.

Reading (`readReal`): up to nineteen significant digits are gathered into a 64-bit integer `s`
with a decimal exponent `e`; `s` is turned into a sum of two binary64 numbers (its rounding and
the rounding error), and that sum is multiplied by `10 ^ e` in steps of `10 ^ 100`, `10 ^ 10` and
`10`, each step a product of double-length numbers (`DoubleDouble.scale`) with the constant and
its own error. The two halves are added at the end. The result can differ from the nearest
binary64 number in the last place.

Writing (`decode`): the number is scaled the same way into `[2 ^ 63 / 10, 2 ^ 63]`, truncated to
a 64-bit integer whose digits are the candidates, and those are rounded half up in decimal to
the requested count. `formatFloat` lays the digits out as the `%f`, `%e` and `%g` conversions do;
the text of a real in the store is `%!.15g`: fifteen significant digits, trailing zeros removed
but one digit always after the point, scientific when the exponent is below `-4` or above 14.

Integers are read by `readInteger`, which takes the longest prefix of digits and reports whether
the text held more or overflowed.
-/

namespace EntityGraph

namespace Database

/-- A number kept as the unevaluated sum of a binary64 number and a far smaller correction. -/
structure DoubleDouble where
  hi : Binary64
  lo : Binary64
  deriving Inhabited, Repr

namespace DoubleDouble

/-- Multiply by `y + yy`, a constant and the error of its binary64 rounding: the exact product
of the high halves, the cross terms, and the errors, kept as a sum of two numbers. -/
def scale (x : DoubleDouble) (y yy : Binary64) : DoubleDouble :=
  let hx := x.hi.highHalf
  let tx := x.hi.sub hx
  let hy := y.highHalf
  let ty := y.sub hy
  let p := hx.times hy
  let q := (hx.times ty).add (tx.times hy)
  let c := p.add q
  let cc := ((p.sub c).add q).add (tx.times ty)
  let cc := ((x.hi.times yy).add (x.lo.times y)).add cc
  let hi := c.add cc
  { hi, lo := (c.sub hi).add cc }

/-- Apply a step a number of times. -/
def repeatStep (f : DoubleDouble → DoubleDouble) : Nat → DoubleDouble → DoubleDouble
  | 0, x => x
  | n + 1, x => repeatStep f n (f x)

end DoubleDouble

/-! ## Constants: powers of ten and their rounding errors -/

/-- `1e100`. -/
def tenTo100 : Binary64 := ⟨0x54b249ad2594c37d⟩
/-- The error of `1e100`. -/
def tenTo100Error : Binary64 := ⟨0xd134f4d87b3b31f4⟩
/-- `1e10`, exact. -/
def tenTo10 : Binary64 := ⟨0x4202a05f20000000⟩
/-- `10`, exact. -/
def ten : Binary64 := ⟨0x4024000000000000⟩
/-- `1e-100`. -/
def tenToMinus100 : Binary64 := ⟨0x2b2bff2ee48e0530⟩
/-- The error of `1e-100`. -/
def tenToMinus100Error : Binary64 := ⟨0xa7b42a68781d46c4⟩
/-- `1e-10`. -/
def tenToMinus10 : Binary64 := ⟨0x3ddb7cdfd9d7bdbb⟩
/-- The error of `1e-10`. -/
def tenToMinus10Error : Binary64 := ⟨0xba720a5465df8d2c⟩
/-- `0.1`. -/
def tenth : Binary64 := ⟨0x3fb999999999999a⟩
/-- The error of `0.1`. -/
def tenthError : Binary64 := ⟨0xbc5999999999999a⟩
/-- Zero. -/
def zeroReal : Binary64 := Binary64.zero false

/-- Multiply by `10 ^ e`, in steps of `10 ^ 100`, `10 ^ 10` and `10`. -/
def scaleUp (x : DoubleDouble) (e : Nat) : DoubleDouble :=
  let x := DoubleDouble.repeatStep (·.scale tenTo100 tenTo100Error) (e / 100) x
  let x := DoubleDouble.repeatStep (·.scale tenTo10 zeroReal) (e % 100 / 10) x
  DoubleDouble.repeatStep (·.scale ten zeroReal) (e % 10) x

/-- Multiply by `10 ^ -e`, in steps of `10 ^ -100`, `10 ^ -10` and `1/10`. -/
def scaleDown (x : DoubleDouble) (e : Nat) : DoubleDouble :=
  let x := DoubleDouble.repeatStep (·.scale tenToMinus100 tenToMinus100Error) (e / 100) x
  let x := DoubleDouble.repeatStep (·.scale tenToMinus10 tenToMinus10Error) (e % 100 / 10) x
  DoubleDouble.repeatStep (·.scale tenth tenthError) (e % 10) x

/-- A binary64 number converted to an unsigned 64-bit integer as the hardware does it:
truncated toward zero; from `2 ^ 63` on, the part above `2 ^ 63` is converted as a signed number,
which saturates at `2 ^ 63`, and the top bit is flipped. -/
def toUnsigned (x : Binary64) : Nat :=
  let t := x.truncate
  if t < 0 then 0
  else if t < 2 ^ 63 then t.toNat
  else
    let rest := t - 2 ^ 63
    if rest < 2 ^ 63 then (rest + 2 ^ 63).toNat else 0

/-! ## Reading -/

/-- Blanks around a number: space, tab, newline, vertical tab, form feed, carriage return. -/
def isSpaceByte (b : UInt8) : Bool := b == 32 || (9 ≤ b.toNat && b.toNat ≤ 13)

/-- Whether a byte is a decimal digit. -/
def isDigitByte (b : UInt8) : Bool := 48 ≤ b.toNat && b.toNat ≤ 57

/-- The value of a digit byte. -/
def digitValue (b : UInt8) : Nat := b.toNat - 48

/-- Significands stop growing once they reach this bound, `(2 ^ 64 - 10) / 10`. -/
def significandBound : Nat := (2 ^ 64 - 1 - 9) / 10

/-- What reading the front of a text as a real found. -/
structure RealScan where
  negative : Bool := false
  significand : Nat := 0
  /-- The decimal exponent of the last significant digit gathered, before the written one. -/
  shift : Int := 0
  /-- The written exponent, with its sign, capped at 10000 in size. -/
  written : Int := 0
  digits : Nat := 0
  /-- 1 for digits alone, one more for a point, one more for an exponent. -/
  kind : Nat := 1
  exponentValid : Bool := true
  /-- Whether nothing but blanks follows the number. -/
  complete : Bool := false
  deriving Inhabited, Repr

/-- Whole-part digits: gathered while the significand is below the bound, then only counted. -/
def wholeDigits (st : RealScan) : Bytes → RealScan × Bytes
  | b :: rest =>
    if isDigitByte b then
      let s := st.significand * 10 + digitValue b
      let st := { st with significand := s, digits := st.digits + 1 }
      if s ≥ significandBound then
        let more := rest.takeWhile isDigitByte
        ({ st with shift := st.shift + more.length }, rest.drop more.length)
      else wholeDigits st rest
    else (st, b :: rest)
  | [] => (st, [])

/-- Fraction digits: gathered while the significand is below the bound, skipped after. -/
def fractionDigits (st : RealScan) : Bytes → RealScan × Bytes
  | b :: rest =>
    if isDigitByte b then
      if st.significand < significandBound then
        fractionDigits { st with significand := st.significand * 10 + digitValue b,
                                 shift := st.shift - 1, digits := st.digits + 1 } rest
      else fractionDigits st rest
    else (st, b :: rest)
  | [] => (st, [])

/-- Exponent digits, the value capped at 10000. -/
def exponentDigits (e : Nat) (seen : Bool) : Bytes → Nat × Bool × Bytes
  | b :: rest =>
    if isDigitByte b then
      exponentDigits (if e < 10000 then e * 10 + digitValue b else 10000) true rest
    else (e, seen, b :: rest)
  | [] => (e, seen, [])

/-- Read a real from the front of a text: blanks, a sign, digits with an optional point, an
optional exponent, blanks. -/
def scanReal (text : Bytes) : RealScan :=
  let cs := text.dropWhile isSpaceByte
  if cs.isEmpty then { complete := false, kind := 1 }
  else
    let (negative, cs) := match cs with
      | 45 :: r => (true, r)
      | 43 :: r => (false, r)
      | r => (false, r)
    let (st, cs) := wholeDigits { negative } cs
    let (st, cs) := match cs with
      | 46 :: r =>
        let (st, r) := fractionDigits { st with kind := st.kind + 1 } r
        (st, r)
      | r => (st, r)
    let (st, cs) := match cs with
      | e :: r =>
        if e == 101 || e == 69 then
          let st := { st with kind := st.kind + 1, exponentValid := false }
          match r with
          | [] => (st, [])
          | _ =>
            let (eneg, r) := match r with
              | 45 :: r' => (true, r')
              | 43 :: r' => (false, r')
              | r' => (false, r')
            let (ev, seen, r) := exponentDigits 0 false r
            ({ st with written := if eneg then -(ev : Int) else ev,
                       exponentValid := seen }, r)
        else (st, e :: r)
      | [] => (st, [])
    let cs := cs.dropWhile isSpaceByte
    { st with complete := cs.isEmpty }

/-- Grow the significand by tens while the exponent is positive and there is room. -/
def growSignificand (s : Nat) (e : Int) : (fuel : Nat) → Nat × Int
  | 0 => (s, e)
  | fuel + 1 =>
    if e > 0 && s < (2 ^ 64 - 1 - 0x7ff) / 10 then growSignificand (s * 10) (e - 1) fuel else (s, e)

/-- Drop trailing zero digits of the significand while the exponent is negative. -/
def shrinkSignificand (s : Nat) (e : Int) : (fuel : Nat) → Nat × Int
  | 0 => (s, e)
  | fuel + 1 =>
    if e < 0 && s % 10 == 0 then shrinkSignificand (s / 10) (e + 1) fuel else (s, e)

/-- The real that a significand and decimal exponent give: the significand as a rounded number
and its error, scaled by the power of ten, the halves added, an overflow giving infinity. -/
def realOf (negative : Bool) (s : Nat) (e : Int) : Binary64 :=
  if s == 0 then Binary64.zero negative
  else
    let (s, e) := growSignificand s e 64
    let (s, e) := shrinkSignificand s e 64
    let hi := Binary64.ofInt s
    let s2 := toUnsigned hi
    let lo := if s ≥ s2 then Binary64.ofInt (s - s2 : Nat) else (Binary64.ofInt (s2 - s : Nat)).negate
    let x : DoubleDouble := { hi, lo }
    let x := if e > 0 then scaleUp x e.toNat else scaleDown x (-e).toNat
    let r := x.hi.add x.lo
    let r := if r.isNaN then Binary64.infinity false else r
    if negative then r.negate else r

/-- The real at the front of a text, with what the text was: `1` for an integer written alone,
`2` or `3` for a number with a point or an exponent written alone, `-1` for such a number with
more text after it, `0` otherwise (no digits, an integer with more text, or a bad exponent). -/
def readReal (text : Bytes) : Binary64 × Int :=
  let st := scanReal text
  let value := realOf st.negative st.significand (st.written + st.shift)
  let code : Int :=
    if st.complete && st.digits > 0 && st.exponentValid then st.kind
    else if st.kind ≥ 2 && (st.kind == 3 || st.exponentValid) && st.digits > 0 then -1
    else 0
  (value, code)

/-- The integer at the front of a text, saturated at the 64-bit bounds, with what the text was:
`0` for an integer that fits and nothing else but blanks, `1` for more text after it, `-1` for
no digits, `2` for an integer too large, `3` for exactly `2 ^ 63` without a minus sign. -/
def readInteger (text : Bytes) : Int × Int :=
  let cs := text.dropWhile isSpaceByte
  let (negative, cs) := match cs with
    | 45 :: r => (true, r)
    | 43 :: r => (false, r)
    | r => (false, r)
  let hadZeros := cs.head? == some 48
  let cs := cs.dropWhile (· == 48)
  let ds := cs.takeWhile isDigitByte
  let after := cs.drop ds.length
  let u := ds.foldl (fun acc d => acc * 10 + digitValue d) 0
  let code : Int :=
    if ds.isEmpty && !hadZeros then -1
    else if !(after.all isSpaceByte) then 1
    else 0
  let limit : Nat := 2 ^ 63
  if ds.length < 19 then (if negative then -(u : Int) else u, code)
  else if ds.length == 19 && u < limit then (if negative then -(u : Int) else u, code)
  else if ds.length == 19 && u == limit then
    if negative then (-(limit : Int), code) else (limit - 1, 3)
  else (if negative then -(limit : Int) else limit - 1, 2)

/-! ## Writing -/

/-- The decimal digits of a binary64 number as the store's formatting sees them. -/
inductive Decoded where
  /-- Significant digits without trailing zeros and the position of the point: the value is
  `0.d₁d₂… × 10 ^ point`. Zero is the digit `0` with the point after it. -/
  | digits (negative : Bool) (ds : List Nat) (point : Int)
  | infinite (negative : Bool)
  | nan
  deriving Inhabited, Repr, DecidableEq

/-- `2 ^ 63` less 1024, the upper end of the range numbers are scaled into. -/
def scaleTop : Binary64 := ⟨0x43dfffffffffffff⟩
/-- The same scaled by `10 ^ 100`. -/
def scaleTop100 : Binary64 := ⟨0x58a249ad2594c37c⟩
/-- The same scaled by `10 ^ 10`. -/
def scaleTop10 : Binary64 := ⟨0x45f2a05f1fffffff⟩
/-- The lower threshold for scaling by `10 ^ 100`. -/
def scaleBottom100 : Binary64 := ⟨0x2ee665bf1d3e6a8c⟩
/-- The lower threshold for scaling by `10 ^ 10`. -/
def scaleBottom10 : Binary64 := ⟨0x4195fd7fe1796495⟩
/-- The lower end of the range numbers are scaled into, about `2 ^ 63 / 10`. -/
def scaleBottom : Binary64 := ⟨0x43a9999999999999⟩

/-- Repeat a scaling step while a test holds of the high half, counting the steps. -/
def scaleWhile (test : Binary64 → Bool) (step : DoubleDouble → DoubleDouble) (by_ : Int) :
    (fuel : Nat) → DoubleDouble → Int → DoubleDouble × Int
  | 0, x, k => (x, k)
  | fuel + 1, x, k => if test x.hi then scaleWhile test step by_ fuel (step x) (k + by_) else (x, k)

/-- Decimal digits of a natural number, most significant first. -/
def natDigits (n : Nat) : List Nat := (Nat.toDigits 10 n).map fun c => c.toNat - 48

/-- Add one to the last of a list of digits, carrying; whether a carry ran off the front. -/
def incrementDigits (ds : List Nat) : List Nat × Bool :=
  let (out, carry) := ds.foldr (fun d (acc, carry) =>
    if carry then (if d == 9 then (0 :: acc, true) else ((d + 1) :: acc, false)) else (d :: acc, false))
    ([], true)
  (out, carry)

/-- Round digits to `keep` of them, looking only at the next digit: five or more rounds up. -/
def roundDigits (ds : List Nat) (point : Int) (keep : Nat) : List Nat × Int :=
  let kept := ds.take keep
  if ds.getD keep 0 ≥ 5 then
    let (up, carry) := incrementDigits kept
    if carry then (1 :: up, point + 1) else (up, point)
  else (kept, point)

/-- The digits of a number for a conversion: `round` is the count of significant digits wanted,
or, when zero or negative, minus the count of digits wanted after the point; no more than
`maxDigits` are ever kept. -/
def decode (x : Binary64) (round : Int) (maxDigits : Nat) : Decoded :=
  let negative := x.signBit && !x.isNaN
  if x.isNaN then .nan
  else if x.isInfinite then .infinite negative
  else if x.isZero then .digits false [0] 1
  else
    let r := if x.signBit then x.negate else x
    let start : DoubleDouble := { hi := r, lo := zeroReal }
    let (scaled, exp) :=
      if Binary64.lt scaleTop r then
        let (y, k) := scaleWhile (fun h => Binary64.lt scaleTop100 h)
          (·.scale tenToMinus100 tenToMinus100Error) 100 8 start 0
        let (y, k) := scaleWhile (fun h => Binary64.lt scaleTop10 h)
          (·.scale tenToMinus10 tenToMinus10Error) 10 16 y k
        scaleWhile (fun h => Binary64.lt scaleTop h) (·.scale tenth tenthError) 1 16 y k
      else
        let (y, k) := scaleWhile (fun h => Binary64.lt h scaleBottom100)
          (·.scale tenTo100 tenTo100Error) (-100) 8 start 0
        let (y, k) := scaleWhile (fun h => Binary64.lt h scaleBottom10)
          (·.scale tenTo10 zeroReal) (-10) 40 y k
        scaleWhile (fun h => Binary64.lt h scaleBottom) (·.scale ten zeroReal) (-1) 16 y k
    let v : Nat :=
      if scaled.lo.signBit && !scaled.lo.isZero then
        (toUnsigned scaled.hi + 2 ^ 64 - toUnsigned scaled.lo.negate) % 2 ^ 64
      else (toUnsigned scaled.hi + toUnsigned scaled.lo) % 2 ^ 64
    let ds := natDigits v
    let point : Int := ds.length + exp
    -- a count of digits after the point becomes a count of significant digits
    let (ds, point, round) :=
      if round ≤ 0 then
        let r := point - round
        if r == 0 && ds.headD 0 ≥ 5 then (0 :: ds, point + 1, (1 : Int)) else (ds, point, r)
      else (ds, point, round)
    let (ds, point) :=
      if round > 0 && (round < ds.length || ds.length > maxDigits) then
        roundDigits ds point (min round.toNat maxDigits)
      else (ds, point)
    let ds := (ds.reverse.dropWhile (· == 0)).reverse
    .digits negative (if ds.isEmpty then [0] else ds) point

/-- The kinds of real conversion. -/
inductive FloatStyle where
  /-- `%f`: a fixed count of digits after the point. -/
  | fixed
  /-- `%e`: one digit before the point and an exponent. -/
  | exponent
  /-- `%g`: a count of significant digits, fixed or with an exponent by the size. -/
  | general
  deriving DecidableEq, Inhabited, Repr

/-- The options of a real conversion. -/
structure FloatFormat where
  style : FloatStyle
  upper : Bool := false
  precision : Option Nat := none
  width : Nat := 0
  /-- `'+'`, `' '`, or none. -/
  signFlag : Option Char := none
  /-- `#`: keep the point and trailing zeros. -/
  alternate : Bool := false
  /-- `!`: more digits, and a digit after a bare point. -/
  altForm2 : Bool := false
  zeroPad : Bool := false
  leftJustify : Bool := false
  thousands : Bool := false
  deriving Inhabited, Repr

/-- Two-digit (or three-digit) exponent text with its sign. -/
def exponentText (exp : Int) : String :=
  let sign := if exp < 0 then "-" else "+"
  let a := exp.natAbs
  let hundreds := if a ≥ 100 then String.singleton (Char.ofNat (48 + a / 100)) else ""
  let a := a % 100
  sign ++ hundreds ++ String.singleton (Char.ofNat (48 + a / 10)) ++ String.singleton (Char.ofNat (48 + a % 10))

/-- A digit as a character. -/
def digitChar (d : Nat) : Char := Char.ofNat (48 + d)

/-- The text of a real under a conversion, before padding to the width with blanks (zero
padding, when asked for, is done here). -/
def formatFloat (fmt : FloatFormat) (x : Binary64) : String :=
  let precision := fmt.precision.getD 6
  let (round, precision) : Int × Nat :=
    match fmt.style with
    | .fixed => (-(precision : Int), precision)
    | .general => let p := if precision == 0 then 1 else precision; (p, p)
    | .exponent => (precision + 1, precision)
  let decoded := decode x round (if fmt.altForm2 then 26 else 16)
  let special : Option String := match decoded with
    | .nan => some (if fmt.zeroPad then "null" else "NaN")
    | .infinite neg =>
      if fmt.zeroPad then none
      else some (if neg then "-Inf" else match fmt.signFlag with
        | some c => String.singleton c ++ "Inf"
        | none => "Inf")
    | _ => none
  match special with
  | some s => s
  | none =>
    let (negative, ds, point) := match decoded with
      | .digits n ds p => (n, ds, p)
      | .infinite n => (n, [9], (1000 : Int))
      | .nan => (false, [0], 1)
    let signMark : Option Char :=
      if negative then
        if fmt.alternate && fmt.signFlag.isNone && fmt.style == .fixed && point ≤ round then none
        else some '-'
      else fmt.signFlag
    let exp := point - 1
    let (useExp, precision, stripZeros) :=
      match fmt.style with
      | .general =>
        let p := precision - 1
        if exp < -4 || exp > p then (true, p, !fmt.alternate)
        else (false, (p - exp).toNat, !fmt.alternate)
      | .exponent => (true, precision, fmt.altForm2)
      | .fixed => (false, precision, fmt.altForm2)
    let e2 : Int := if useExp then 0 else point - 1
    let showPoint := precision > 0 || fmt.alternate || fmt.altForm2
    -- digits before the point, with thousands separators
    let digitAt (j : Nat) : Char := digitChar (ds.getD j 0)
    let (before, used) : List Char × Nat :=
      if e2 < 0 then (['0'], 0)
      else
        let n := e2.toNat + 1
        let cs := (List.range n).flatMap fun k =>
          let e := e2.toNat - k
          let sep := if fmt.thousands && e % 3 == 0 && e > 1 then [','] else []
          [digitAt k] ++ sep
        (cs, n)
    let pointPart := if showPoint then ['.'] else []
    -- zeros between the point and the first significant digit
    let leading := if e2 + 1 < 0 then min ((-(e2 + 1)).toNat) precision else 0
    let rest := precision - leading
    let after := List.replicate leading '0' ++ (List.range rest).map fun k => digitAt (used + k)
    let body := before ++ pointPart ++ after
    let body :=
      if stripZeros && showPoint then
        let trimmed := (body.reverse.dropWhile (· == '0')).reverse
        match trimmed.getLast? with
        | some '.' => if fmt.altForm2 then trimmed ++ ['0'] else trimmed.dropLast
        | _ => trimmed
      else body
    let body := if useExp then body ++ (if fmt.upper then ['E'] else ['e']) ++ (exponentText exp).toList
      else body
    let signed := (match signMark with | some c => [c] | none => []) ++ body
    let signed :=
      if !fmt.leftJustify && fmt.zeroPad && fmt.width > signed.length then
        let pad := List.replicate (fmt.width - signed.length) '0'
        match signMark with
        | some c => c :: pad ++ body
        | none => pad ++ body
      else signed
    String.ofList signed

/-- The text of a real in the store: `%!.15g`. -/
def realText (x : Binary64) : String :=
  formatFloat { style := .general, precision := some 15, altForm2 := true } x

end Database

end EntityGraph
