import EntityGraph.Database.Schema

/-!
# Estimates of counts and widths

The planner compares ways of running a query by estimated cost, and it counts on a
logarithmic scale: an estimate (`logEst`) is about ten times the base-two logarithm of a
count, in integers, so that multiplying counts adds estimates and adding counts is the small
correction `logEstAdd` makes. A million rows is 200, ten rows 33, one row 0.

Widths are estimated from declared types, with an integer counting one: text and byte-string
columns count a quarter of their declared length plus one, or five when no length is given.
A table's rows and an index's entries are compared by these widths when the planner decides
whether reading an index in place of its table saves work.
-/

namespace EntityGraph

namespace Database

/-- The estimate of a count from 8 to 15, less 30, by its low three bits. -/
def logEstSteps : List Int := [0, 2, 3, 5, 6, 7, 8, 9]

/-- Bring a count into the range from 8 to 15, counting ten for each halving or doubling. -/
def logEstScale : Nat → Nat → Int → Nat × Int
  | 0, x, y => (x, y)
  | fuel + 1, x, y =>
    if x < 8 then logEstScale fuel (2 * x) (y - 10)
    else if x > 15 then logEstScale fuel (x / 2) (y + 10)
    else (x, y)

/-- The estimate of a count: about ten times its base-two logarithm, and 0 below two. -/
def logEst (x : Nat) : Int :=
  if x < 2 then 0
  else
    let (m, y) := logEstScale 128 x 40
    logEstSteps.getD (m % 8) 0 + y - 10

/-- What the estimate of a sum adds to the larger estimate, by how far apart the two are. -/
def logEstGain : List Int :=
  [10, 10, 9, 9, 8, 8, 7, 7, 7, 6, 6, 6, 5, 5, 5, 4, 4, 4, 4, 3, 3, 3, 3, 3, 3,
   2, 2, 2, 2, 2, 2, 2]

/-- The estimate of the sum of two counts from their estimates. -/
def logEstAdd (a b : Int) : Int :=
  let hi := max a b
  let d := (a - b).natAbs
  if d > 49 then hi else if d > 31 then hi + 1 else hi + logEstGain.getD d 0

/-- The estimate of the logarithm of a count, from the count's estimate: the depth of a
search among that many entries. -/
def estLog (n : Int) : Int := if n ≤ 10 then 0 else logEst n.toNat - 33

/-- Scan a lower-cased declared type the way its affinity is found, noting where a length
may follow: the affinity so far, whether it is a byte-string type, and the characters after a
`CHAR` or a `BLOB(`. The last four characters read decide each step. -/
def typeScan : List Char → List Char → Affinity → Option (List Char) →
    Affinity × Option (List Char)
  | [], _, aff, rest => (aff, rest)
  | c :: more, window, aff, rest =>
    let w := (if window.length ≥ 4 then window.drop 1 else window) ++ [c]
    let s := String.ofList w
    if s == "char" then typeScan more w .text (some more)
    else if s == "clob" || s == "text" then typeScan more w .text rest
    else if s == "blob" && (aff == .numeric || aff == .real) then
      typeScan more w .blob (if more.head? == some '(' then some more else rest)
    else if (s == "real" || s == "floa" || s == "doub") && aff == .numeric then
      typeScan more w .real rest
    else if (w.drop (w.length - 3)) == ['i', 'n', 't'] then (.integer, rest)
    else typeScan more w aff rest

/-- The digits at the start of some characters, as a number. -/
def leadingNumber (cs : List Char) : Nat :=
  (cs.takeWhile Char.isDigit).foldl (fun n c => 10 * n + (c.toNat - '0'.toNat)) 0

/-- The estimated width of a column from its declared type: an integer counts one, text and
byte strings a quarter of their declared length plus one, or five without a length. -/
def columnWidth (declared : String) : Nat :=
  if declared.isEmpty then 1
  else
    let (aff, rest) := typeScan (declared.toList.map Char.toLower) [] .numeric none
    let v := if aff == .blob || aff == .text then
        match rest with
        | some cs =>
          let digits := cs.dropWhile (fun c => !c.isDigit)
          if digits.isEmpty then 0
          else
            let n := leadingNumber digits
            if n < 2 ^ 31 then n else 0
        | none => 16
      else 0
    min (v / 4 + 1) 255

/-- The estimated width of a table's rows: its columns, and the row id when no column is it. -/
def Table.rowWidth (t : Table) : Int :=
  let w := t.columns.foldl (fun n c => n + columnWidth c.declaredType) 0
  logEst (4 * (if t.rowidColumn.isNone then w + 1 else w))

end Database

end EntityGraph
