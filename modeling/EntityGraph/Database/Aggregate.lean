import EntityGraph.Database.Scalar
import EntityGraph.Database.JsonFunction

/-!
# Aggregate functions

The functions that fold the rows of a group into one value: `count`, `sum`, `total`, `avg`,
`min`, `max`, `group_concat`, `string_agg`, `json_group_array` and `json_group_object`. Each is a state (`Accumulator`) that takes the
arguments of one row at a time (`Accumulator.step`) and gives its value at the end
(`Accumulator.finish`).

Rules that fix the results:
- Nulls are skipped, except by `count(*)`.
- `sum` stays an integer while every value is one and no partial sum leaves 64 bits; it then
  fails with `integer overflow` if an integer made it overflow, and otherwise continues as a
  real, summed with an error term (Kahan–Babuška–Neumaier). Text counts as the number it reads
  as when all of it is one, and as 0.0 otherwise.
- `sum` and `avg` of no values are null; `total` of none is 0.0; `count` of none is 0.
- `min` and `max` keep the first of equal values. A row whose value does not replace the kept
  one, and a null row after a value is kept, tells the query not to take its other columns
  from that row (`Step.keepsRow`).
- `group_concat` joins the texts with `,` or with the separator given on each row after the
  first; no values give null.
- `json_group_array` writes every value, nulls included, into a JSON array, and
  `json_group_object` every label and value into an object, skipping rows whose label is null;
  no rows give `[]` and `{}`. A value is taken as JSON when its argument gives JSON text
  (`embed`), else as `valueText` writes it.
-/

namespace EntityGraph

namespace Database

/-- The aggregate functions. -/
inductive AggregateFn where
  | countAll
  | count
  | sum
  | total
  | avg
  | min
  | max
  | groupConcat
  /-- `json_group_array`, whether its argument gives JSON text, and whether it gives the binary
  form. -/
  | jsonArray (embed binary : Bool)
  /-- `json_group_object`, whether its value argument gives JSON text, and whether it gives the
  binary form. -/
  | jsonObject (embed binary : Bool)
  deriving DecidableEq, Inhabited, Repr

/-- The running sum of `sum`, `total` and `avg`. -/
structure SumState where
  /-- The integer sum while it is exact. -/
  intSum : Int := 0
  /-- The real sum and its error term once the sum is approximate. -/
  realSum : Binary64 := Binary64.zero false
  error : Binary64 := Binary64.zero false
  count : Nat := 0
  approximate : Bool := false
  overflow : Bool := false
  deriving Inhabited

namespace SumState

/-- Integers at least this large are added in two parts. -/
def exactBound : Int := 4503599627370496

/-- Magnitude comparison of two reals. -/
def absGreater (a b : Binary64) : Bool :=
  let abs (x : Binary64) := if x.signBit then x.negate else x
  (abs b).lt (abs a)

/-- Add a real with the error term. -/
def addReal (s : SumState) (r : Binary64) : SumState :=
  let t := Binary64.add s.realSum r
  let err := if absGreater s.realSum r then Binary64.add (Binary64.sub s.realSum t) r
    else Binary64.add (Binary64.sub r t) s.realSum
  { s with realSum := t, error := Binary64.add s.error err }

/-- Add an integer with the error term, in two parts when it is large. -/
def addInt (s : SumState) (i : Int) : SumState :=
  if i ≤ -exactBound || i ≥ exactBound then
    let small := i.tmod 16384
    (s.addReal (Binary64.ofInt (i - small))).addReal (Binary64.ofInt small)
  else s.addReal (Binary64.ofInt i)

/-- Start the approximate sum from the exact one. -/
def begin (s : SumState) : SumState :=
  let i := s.intSum
  let s := { s with approximate := true }
  if i ≤ -exactBound || i ≥ exactBound then
    let small := i.tmod 16384
    { s with realSum := Binary64.ofInt (i - small), error := Binary64.ofInt small }
  else { s with realSum := Binary64.ofInt i, error := Binary64.zero false }

/-- Add a value. -/
def add (s : SumState) (d : Datum) : SumState :=
  let d := match d with
    | .text b => Datum.numericOfText b false
    | d => d
  match d with
  | .null => s
  | _ =>
    let s := { s with count := s.count + 1 }
    match d with
    | .integer n =>
      if !s.approximate then
        let x := s.intSum + n.toInt
        if -2 ^ 63 ≤ x && x < 2 ^ 63 then { s with intSum := x }
        else ({ s with overflow := true }.begin).addInt n.toInt
      else s.addInt n.toInt
    | _ =>
      if !s.approximate then s.begin.addReal d.toReal
      else { s with overflow := false }.addReal d.toReal

/-- The approximate sum with its error term, unless that term overflowed. -/
def realValue (s : SumState) : Binary64 :=
  if s.approximate then
    if s.error.isFinite then Binary64.add s.realSum s.error else s.realSum
  else Binary64.ofInt s.intSum

end SumState

/-- The state of an aggregate over the rows seen so far. -/
inductive Accumulator where
  | counter (n : Nat)
  | summing (s : SumState)
  /-- The value kept by `min` or `max`, if any. -/
  | best (d : Option Datum)
  /-- The text joined so far, if any value was seen. -/
  | joined (t : Option Bytes)
  /-- The JSON text written so far, without its closing bracket, once a row was seen; and the
  first fault met. -/
  | document (t : Option Bytes) (fault : Option Fault)
  deriving Inhabited

/-- The result of one step: the new state, and whether the row is one the query takes its other
columns from. -/
structure Step where
  state : Accumulator
  keepsRow : Bool := true

namespace AggregateFn

/-- The state before any row. -/
def start : AggregateFn → Accumulator
  | .countAll | .count => .counter 0
  | .sum | .total | .avg => .summing {}
  | .min | .max => .best none
  | .groupConcat => .joined none
  | .jsonArray _ _ | .jsonObject _ _ => .document none none

/-- Whether the function is `min` or `max`, whose steps decide which row the other columns of
the query come from. -/
def choosesRow : AggregateFn → Bool
  | .min | .max => true
  | _ => false

/-- Take the arguments of one row. -/
def step (f : AggregateFn) (coll : Collation) (acc : Accumulator) (args : List Datum) : Step :=
  let arg := args.headD .null
  match f, acc with
  | .countAll, .counter n => { state := .counter (n + 1) }
  | .count, .counter n => { state := .counter (if arg.isNull then n else n + 1) }
  | .sum, .summing s | .total, .summing s | .avg, .summing s => { state := .summing (s.add arg) }
  | .min, .best b | .max, .best b =>
    match arg, b with
    | .null, some _ => { state := acc, keepsRow := false }
    | .null, none => { state := acc }
    | _, none => { state := .best (some arg) }
    | _, some kept =>
      let o := Datum.compareWith coll kept arg
      let better := if f == .max then o == .lt else o == .gt
      if better then { state := .best (some arg) } else { state := acc, keepsRow := false }
  | .groupConcat, .joined t =>
    match arg.toText? with
    | none => { state := acc }
    | some v =>
      match t with
      | none => { state := .joined (some v) }
      | some sofar =>
        let sep : Bytes := match args with
          | [_] => [44]
          | _ => (args.getD 1 .null).toText?.getD []
        { state := .joined (some (sofar ++ sep ++ v)) }
  | .jsonArray embed _, .document t fault =>
    let sofar := match t with
      | none => [asciiByte '[']
      | some s => if s.length > 1 then s ++ [asciiByte ','] else s
    match valueText { value := arg, json := embed } with
    | .ok b => { state := .document (some (sofar ++ b)) fault }
    | .error e => { state := .document (some sofar) (fault <|> some e) }
  | .jsonObject embed _, .document t fault =>
    let label := arg.toText?.map Bytes.untilNul
    let sofar := match t with
      | none => [asciiByte '{']
      | some s => if s.length > 1 && label.isSome then s ++ [asciiByte ','] else s
    match label with
    | none => { state := .document (some sofar) fault }
    | some l =>
      let sofar := sofar ++ quoteText l ++ [asciiByte ':']
      match valueText { value := args.getD 1 .null, json := embed } with
      | .ok b => { state := .document (some (sofar ++ b)) fault }
      | .error e => { state := .document (some sofar) (fault <|> some e) }
  | _, _ => { state := acc }

/-- The function as it takes one row, given which of its arguments carry the JSON mark: a
marked value is taken into `json_group_array` or `json_group_object` as JSON. -/
def withMarks (f : AggregateFn) (marks : List Bool) : AggregateFn :=
  match f with
  | .jsonArray embed binary => .jsonArray (embed || marks.headD false) binary
  | .jsonObject embed binary => .jsonObject (embed || marks.getD 1 false) binary
  | f => f

/-- The value at the end. -/
def finish (f : AggregateFn) (acc : Accumulator) : Except Fault Datum :=
  match f, acc with
  | .countAll, .counter n | .count, .counter n => pure (Datum.ofInt n)
  | .sum, .summing s =>
    if s.count == 0 then pure .null
    else if s.approximate then
      if s.overflow then throw Fault.integerOverflow else pure (Datum.ofReal s.realValue)
    else pure (Datum.ofInt s.intSum)
  | .total, .summing s => pure (Datum.ofReal s.realValue)
  | .avg, .summing s =>
    if s.count == 0 then pure .null
    else pure (Datum.ofReal (Binary64.divide s.realValue (Binary64.ofInt s.count)))
  | .min, .best b | .max, .best b => pure (b.getD .null)
  | .groupConcat, .joined t => pure (match t with
    | some v => .text v
    | none => .null)
  | .jsonArray _ _, .document t fault =>
    match fault with
    | some e => throw e
    | none => pure (.text (t.getD [asciiByte '['] ++ [asciiByte ']']))
  | .jsonObject _ _, .document t fault =>
    match fault with
    | some e => throw e
    | none => pure (.text (t.getD [asciiByte '{'] ++ [asciiByte '}']))
  | _, _ => pure .null

/-- Fold the argument lists of rows, in order. -/
def run (f : AggregateFn) (coll : Collation) (rows : List (List Datum)) : Except Fault Datum :=
  f.finish (rows.foldl (fun acc args => (f.step coll acc args).state) f.start)

end AggregateFn

end Database

end EntityGraph
