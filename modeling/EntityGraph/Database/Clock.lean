import EntityGraph.Database.Scalar

/-!
# Dates and times

The store's date and time functions: `julianday`, `unixepoch`, `date`, `time`, `datetime`,
`strftime` and `timediff`. Each reads a time value and a list of modifiers into a `Moment`, then
writes it out.

Rules that fix the results:
- A moment is kept as milliseconds of the Julian day (`Moment.jd`), and as calendar fields when
  those are known; each form is computed from the other when needed, by the proleptic Gregorian
  calendar.
- A time value is `YYYY-MM-DD` with an optional time, `HH:MM[:SS[.FFF]]` with an optional zone,
  `now`, or a number (a Julian day, or seconds under the `unixepoch` modifier).
- A date with no time is midnight; a time with no date is on 2000-01-01.
- Adding months or years keeps the day of the month, running into the next month when it is too
  large (`ceiling`), or back to the last day of the month under `floor`.
- Local time is taken to be universal time.
- Anything that cannot be read, and any moment outside the years -4713 to 9999, gives null.
-/

namespace EntityGraph

namespace Database

/-- A moment being read and changed by modifiers. -/
structure Moment where
  /-- Milliseconds since noon of the first Julian day. -/
  jd : Int := 0
  year : Int := 0
  month : Int := 0
  day : Int := 0
  hour : Int := 0
  minute : Int := 0
  second : Binary64 := Binary64.zero false
  /-- The zone offset in minutes. -/
  zone : Int := 0
  hasJd : Bool := false
  hasDate : Bool := false
  hasTime : Bool := false
  /-- The moment is a bare number not yet given a meaning. -/
  raw : Bool := false
  failed : Bool := false
  subsecond : Bool := false
  isUtc : Bool := false
  isLocal : Bool := false
  /-- Days to step back under `floor`, when the day ran past the end of its month. -/
  floorDays : Int := 0
  deriving Inhabited

namespace Moment

/-- The last millisecond of 9999-12-31. -/
def maxJd : Int := 464269060799999

/-- Whether a Julian-day count in milliseconds is in range. -/
def validJd (j : Int) : Bool := 0 ≤ j && j ≤ maxJd

/-- A failed moment. -/
def failure : Moment := { failed := true }

/-- Milliseconds in a day. -/
def dayMs : Int := 86400000

/-- A real number from an integer. -/
def real (n : Int) : Binary64 := Binary64.ofInt n

/-- Set the days to step back under `floor`. -/
def setFloor (m : Moment) : Moment :=
  let f : Int :=
    if m.day ≤ 28 then 0
    else if m.month ≥ 0 && m.month < 13 && (2 ^ m.month.toNat) &&& 0x15aa != 0 then 0
    else if m.month != 2 then (if m.day == 31 then 1 else 0)
    else if m.year % 4 != 0 || (m.year % 100 == 0 && m.year % 400 != 0) then m.day - 28
    else m.day - 29
  { m with floorDays := f }

/-- Milliseconds of a number of seconds, rounded: `s * 1000 + 0.5` truncated. -/
def secondsMs (s : Binary64) : Int :=
  (Binary64.add (Binary64.times s (real 1000)) (Binary64.ofRatio false 1 2)).truncate

/-- Compute the Julian-day count from the calendar fields. -/
def computeJd (m : Moment) : Moment :=
  if m.hasJd then m
  else
    let (y, mo, d) := if m.hasDate then (m.year, m.month, m.day) else (2000, 1, 1)
    if y < -4713 || y > 9999 || m.raw then failure
    else
      let (y, mo) := if mo ≤ 2 then (y - 1, mo + 12) else (y, mo)
      let a := (y + 4800).tdiv 100
      let b := 38 - a + a.tdiv 4
      let x1 := (36525 * (y + 4716)).tdiv 100
      let x2 := (306001 * (mo + 1)).tdiv 10000
      let jd := (2 * (x1 + x2 + d + b) - 3049) * 43200000
      let m := { m with jd, hasJd := true }
      if m.hasTime then
        let jd := m.jd + m.hour * 3600000 + m.minute * 60000 + secondsMs m.second
        if m.zone != 0 then
          { m with jd := jd - m.zone * 60000, hasDate := false, hasTime := false, zone := 0,
                   isUtc := true, isLocal := false }
        else { m with jd }
      else m

/-- Compute the calendar date from the Julian-day count. -/
def computeDate (m : Moment) : Moment :=
  if m.hasDate then m
  else if !m.hasJd then { m with year := 2000, month := 1, day := 1, hasDate := true }
  else if !validJd m.jd then failure
  else
    let z := (m.jd + 43200000) / dayMs
    -- alpha = floor((z + 32044.75) / 36524.25) - 52
    let alpha := (4 * z + 128179) / 146097 - 52
    let a := z + 1 + alpha - (alpha + 100).tdiv 4 + 25
    let b := a + 1524
    -- c = floor((b - 122.1) / 365.25)
    let c := (20 * b - 2442) / 7305
    let d := (36525 * (c % 32768)) / 100
    -- e = floor((b - d) / 30.6001), x1 = floor(30.6001 * e)
    let e := ((b - d) * 10000) / 306001
    let x1 := (306001 * e) / 10000
    let day := b - d - x1
    let month := if e < 14 then e - 1 else e - 13
    let year := if month > 2 then c - 4716 else c - 4715
    { m with year, month, day, hasDate := true }

/-- Compute the time of day from the Julian-day count. -/
def computeTime (m : Moment) : Moment :=
  if m.hasTime then m
  else
    let m := computeJd m
    let dayMsOf := (m.jd + 43200000) % dayMs
    let second := Binary64.divide (real (dayMsOf % 60000)) (real 1000)
    let dayMin := dayMsOf / 60000
    { m with second, minute := dayMin % 60, hour := dayMin / 60, raw := false, hasTime := true }

/-- Compute both the calendar date and the time of day. -/
def computeAll (m : Moment) : Moment := computeTime (computeDate m)

/-- Forget the calendar fields and the zone. -/
def clearFields (m : Moment) : Moment := { m with hasDate := false, hasTime := false, zone := 0 }

/-- A moment from a bare number: a Julian day when in range. -/
def ofNumber (r : Binary64) : Moment :=
  let m : Moment := { second := r, raw := true }
  if !r.lt (Binary64.zero false) && r.lt (Binary64.ofRatio false 10746969 2) then
    { m with jd := (Binary64.add (Binary64.times r (real dayMs)) (Binary64.ofRatio false 1 2)).truncate,
             hasJd := true }
  else m

end Moment

namespace Clock

/-- Whether a byte is a decimal digit. -/
def isDigit (b : UInt8) : Bool := 48 ≤ b.toNat && b.toNat ≤ 57

/-- Whether a byte is white space. -/
def isSpace (b : UInt8) : Bool := b == 32 || (9 ≤ b.toNat && b.toNat ≤ 13)

/-- Exactly `n` digits at the front, and the rest. -/
def digits : Nat → Bytes → Option (Int × Bytes)
  | 0, b => some (0, b)
  | n + 1, b =>
    match b with
    | c :: rest =>
      if isDigit c then
        match digits n rest with
        | some (v, after) => some ((c.toNat - 48) * 10 ^ n + v, after)
        | none => none
      else none
    | [] => none

/-- One field of a fixed date form: its digit count, its bounds, and the byte that must follow
(0 for none). -/
structure Field where
  width : Nat
  least : Int
  most : Int
  next : UInt8

/-- Read fixed fields at the front; the values read before the first that fails. Each field is
followed by one byte, which is skipped. -/
def fields : List Field → Bytes → List Int
  | [], _ => []
  | f :: fs, b =>
    match digits f.width b with
    | some (v, after) =>
      if v < f.least || v > f.most || (f.next != 0 && after.head? != some f.next) then []
      else v :: fields fs (after.drop 1)
    | none => []

/-- The byte at a position, 0 past the end. -/
def byteAt (b : Bytes) (i : Nat) : UInt8 := b.getD i 0

/-- Read a zone suffix: blanks, then `Z`, or a sign with `HH:MM`, then blanks to the end. -/
def parseZone (b : Bytes) (m : Moment) : Option Moment :=
  let b := b.dropWhile isSpace
  match b with
  | [] => some { m with zone := 0 }
  | c :: rest =>
    if c == 90 || c == 122 then
      let m := { m with zone := 0, isLocal := false, isUtc := true }
      if (rest.dropWhile isSpace).isEmpty then some m else none
    else if c == 45 || c == 43 then
      match fields [⟨2, 0, 14, 58⟩, ⟨2, 0, 59, 0⟩] rest with
      | [h, mi] =>
        let sign : Int := if c == 45 then -1 else 1
        let m := { m with zone := sign * (mi + h * 60) }
        if ((rest.drop 5).dropWhile isSpace).isEmpty then some m else none
      | _ => none
    else none

/-- Fractional digits after a point, as a real below one (at most 0.999). -/
def fraction (ds : Bytes) : Binary64 :=
  let (ms, scale) := ds.foldl (fun (ms, scale) d =>
    (Binary64.add (Binary64.times ms (Moment.real 10)) (Moment.real (d.toNat - 48)),
     Binary64.times scale (Moment.real 10))) (Binary64.zero false, Moment.real 1)
  let ms := Binary64.divide ms scale
  let cap := Binary64.divide (Moment.real 999) (Moment.real 1000)
  if cap.lt ms then cap else ms

/-- Read `HH:MM[:SS[.FFF]]` and a zone. -/
def parseTime (b : Bytes) (m : Moment) : Option Moment :=
  match fields [⟨2, 0, 24, 58⟩, ⟨2, 0, 59, 0⟩] b with
  | [h, mi] =>
    let rest := b.drop 5
    let parsed : Option (Binary64 × Bytes) :=
      if rest.head? == some 58 then
        match fields [⟨2, 0, 59, 0⟩] (rest.drop 1) with
        | [s] =>
          let after := rest.drop 3
          if after.head? == some 46 && isDigit (byteAt after 1) then
            let ds := (after.drop 1).takeWhile isDigit
            some (Binary64.add (Moment.real s) (fraction ds), (after.drop 1).drop ds.length)
          else some (Moment.real s, after)
        | _ => none
      else some (Binary64.zero false, rest)
    match parsed with
    | some (s, after) =>
      parseZone after { m with hasJd := false, raw := false, hasTime := true, hour := h,
                               minute := mi, second := s }
    | none => none
  | _ => none

/-- Read `[-]YYYY-MM-DD`, then blanks or `T`, then an optional time. -/
def parseDate (b : Bytes) (m : Moment) : Option Moment :=
  let (neg, b) := match b with
    | 45 :: rest => (true, rest)
    | _ => (false, b)
  match fields [⟨4, 0, 14712, 45⟩, ⟨2, 1, 12, 45⟩, ⟨2, 1, 31, 0⟩] b with
  | [y, mo, d] =>
    let rest := (b.drop 10).dropWhile fun c => isSpace c || c == 84
    let timed : Option Moment :=
      match parseTime rest m with
      | some m => some m
      | none => if rest.isEmpty then some { m with hasTime := false } else none
    match timed with
    | some m =>
      let m := Moment.setFloor { m with hasJd := false, hasDate := true, year := if neg then -y else y,
                                        month := mo, day := d }
      some (if m.zone != 0 then Moment.computeJd m else m)
    | none => none
  | _ => none

/-- The moment taken as now. -/
def now : Moment := { jd := 212275987200000, hasJd := true }

/-- Whether two texts are equal ignoring the case of ASCII letters. -/
def sameText (a : Bytes) (b : String) : Bool := Bytes.compareNoCase a (Bytes.ofString b) == .eq

/-- Read a time value given as text. -/
def parseValue (b : Bytes) : Option Moment :=
  let b := Bytes.untilNul b
  match parseDate b {} with
  | some m => some m
  | none =>
    match parseTime b {} with
    | some m => some m
    | none =>
      if sameText b "now" then some now
      else
        let (r, rc) := readReal b
        if rc > 0 then some (Moment.ofNumber r)
        else if sameText b "subsec" || sameText b "subsecond" then some { now with subsecond := true }
        else none

/-- A unit of a `+NNN units` modifier: its name, the largest count it takes, and its length in
seconds. -/
structure Period where
  name : String
  limit : Binary64
  seconds : Nat

/-- The units of `+NNN units` modifiers, with the limits the store keeps in single precision. -/
def units : List Period :=
  [⟨"second", ⟨0x42fa63c1f9800000⟩, 1⟩, ⟨"minute", ⟨0x429c2663fe000000⟩, 60⟩,
   ⟨"hour", ⟨0x423e07a260000000⟩, 3600⟩, ⟨"day", ⟨0x41547f8740000000⟩, 86400⟩,
   ⟨"month", ⟨0x41058d1000000000⟩, 2592000⟩, ⟨"year", ⟨0x40ccbc8000000000⟩, 31536000⟩]

/-- Move the month by a count, carrying into the year. -/
def carryMonths (m : Moment) : Moment :=
  let x := if m.month > 0 then (m.month - 1).tdiv 12 else (m.month - 12).tdiv 12
  { m with year := m.year + x, month := m.month - x * 12 }

/-- Apply a `+NNN units` modifier with the count `r` and the unit text. -/
def applyUnits (m : Moment) (r : Binary64) (unitText : Bytes) : Option Moment :=
  let n := unitText.length
  if n < 3 || n > 10 then none
  else
    let unitText := if Bytes.lowerByte (byteAt unitText (n - 1)) == 115 then unitText.take (n - 1) else unitText
    let m := Moment.computeJd m
    let rounder := Binary64.ofRatio r.signBit 1 2
    let m := { m with floorDays := 0 }
    match units.find? fun u => sameText unitText u.name && u.limit.negate.lt r && r.lt u.limit with
    | none => none
    | some u =>
      let whole := r.truncate
      let (m, r) :=
        if u.name == "month" then
          let m := Moment.computeAll m
          let m := carryMonths { m with month := m.month + toInt32 whole }
          (Moment.setFloor { m with hasJd := false }, Binary64.sub r (Moment.real (toInt32 whole)))
        else if u.name == "year" then
          let m := Moment.computeAll m
          (Moment.setFloor { m with year := m.year + toInt32 whole, hasJd := false },
           Binary64.sub r (Moment.real (toInt32 whole)))
        else (m, r)
      let m := Moment.computeJd m
      let delta := Binary64.add (Binary64.times (Binary64.times r (Moment.real 1000)) (Moment.real u.seconds)) rounder
      some (Moment.clearFields { m with jd := m.jd + delta.truncate })

/-- Apply a `±HH:MM[:SS.FFF]` modifier. -/
def applyClock (m : Moment) (text : Bytes) (negative : Bool) : Option Moment :=
  match parseTime text {} with
  | none => none
  | some tx =>
    let tx := Moment.computeJd tx
    let t := tx.jd - 43200000
    let t := t - t.tdiv Moment.dayMs * Moment.dayMs
    let t := if negative then -t else t
    let m := Moment.clearFields (Moment.computeJd m)
    some { m with jd := m.jd + t }

/-- Apply a modifier that starts with a sign or a digit. -/
def applyOffset (m : Moment) (z : Bytes) : Option Moment :=
  let z0 := byteAt z 0
  -- the number ends at a colon, a blank, or a dash after four or five year digits
  let rec numberEnd : Nat → Nat → Nat
    | 0, n => n
    | fuel + 1, n =>
      let c := byteAt z n
      if c == 0 || c == 58 || isSpace c then n
      else if c == 45 && ((n == 5 && (fields [⟨4, 0, 14712, 0⟩] (z.drop 1)).length == 1) ||
                          (n == 6 && (fields [⟨5, 0, 14712, 0⟩] (z.drop 1)).length == 1)) then n
      else numberEnd fuel (n + 1)
  let n := numberEnd z.length 1
  let (r, rc) := readReal (z.take n)
  if rc ≤ 0 then none
  else if byteAt z n == 45 then
    if z0 != 43 && z0 != 45 then none
    else
      let spec := if n == 5 then [⟨4, 0, 14712, 45⟩, ⟨2, 0, 12, 45⟩, ⟨2, 0, 31, 0⟩]
        else [(⟨5, 0, 14712, 45⟩ : Field), ⟨2, 0, 12, 45⟩, ⟨2, 0, 31, 0⟩]
      match fields spec (z.drop 1) with
      | [y, mo, d] =>
        let z := if n == 6 then z.drop 1 else z
        if mo ≥ 12 || d ≥ 31 then none
        else
          let m := Moment.computeAll m
          let m := { m with hasJd := false }
          let (m, d) := if z0 == 45 then ({ m with year := m.year - y, month := m.month - mo }, -d)
            else ({ m with year := m.year + y, month := m.month + mo }, d)
          let m := Moment.setFloor (carryMonths m)
          let m := Moment.computeJd m
          let m := { m with hasTime := false, hasDate := false, jd := m.jd + d * Moment.dayMs }
          let c11 := byteAt z 11
          if c11 == 0 then some m
          else if isSpace c11 && (fields [⟨2, 0, 24, 58⟩, ⟨2, 0, 59, 0⟩] (z.drop 12)).length == 2 then
            if byteAt z 14 == 58 then applyClock m (z.drop 12) (z0 == 45) else none
          else none
      | _ => none
  else if byteAt z n == 58 then
    let t := if isDigit z0 then z else z.drop 1
    applyClock m t (z0 == 45)
  else
    let rest := ((z.drop n).dropWhile isSpace).takeWhile (· != 0)
    applyUnits m r rest

/-- Apply one modifier; `first` when it is the first after the time value. -/
def applyModifier (m : Moment) (z : Bytes) (first : Bool) : Option Moment :=
  let z := Bytes.untilNul z
  let c := Bytes.lowerByte (byteAt z 0)
  if c == 97 then
    if !sameText z "auto" then none
    else if !first then none
    else if !m.raw || m.hasJd then some { m with raw := false }
    else
      let lo := Moment.real (-210866760000)
      let hi := Moment.real 253402300799
      if !m.second.lt lo && !hi.lt m.second then
        let r := Binary64.add (Binary64.times m.second (Moment.real 1000)) (Moment.real 210866760000000)
        let m := Moment.clearFields m
        some { m with jd := (Binary64.add r (Binary64.ofRatio false 1 2)).truncate, hasJd := true,
                      raw := false }
      else none
  else if c == 99 then
    if sameText z "ceiling" then
      let m := Moment.clearFields (Moment.computeJd m)
      some { m with floorDays := 0 }
    else none
  else if c == 102 then
    if sameText z "floor" then
      let m := Moment.computeJd m
      some (Moment.clearFields { m with jd := m.jd - m.floorDays * Moment.dayMs })
    else none
  else if c == 106 then
    if !sameText z "julianday" then none
    else if !first then none
    else if m.hasJd && m.raw then some { m with raw := false }
    else none
  else if c == 108 then
    if sameText z "localtime" then some { m with isUtc := false, isLocal := true } else none
  else if c == 117 then
    if sameText z "unixepoch" && m.raw then
      if !first then none
      else
        let r := Binary64.add (Binary64.times m.second (Moment.real 1000)) (Moment.real 210866760000000)
        if !r.lt (Binary64.zero false) && r.lt (Moment.real 464269060800000) then
          let m := Moment.clearFields m
          some { m with jd := (Binary64.add r (Binary64.ofRatio false 1 2)).truncate, hasJd := true,
                        raw := false }
        else none
    else if sameText z "utc" then
      if m.isUtc then some m
      else
        let m := Moment.computeJd m
        some { jd := m.jd, hasJd := true, isUtc := true }
    else none
  else if c == 119 then
    if Bytes.compareNoCase (z.take 8) (Bytes.ofString "weekday ") == .eq then
      let (r, rc) := readReal (z.drop 8)
      let n := r.truncate
      if rc > 0 && !r.lt (Binary64.zero false) && r.lt (Moment.real 7) && (Moment.real n).eqv r then
        let m := Moment.computeAll m
        let m := Moment.computeJd { m with zone := 0, hasJd := false }
        let wd := ((m.jd + 129600000) / Moment.dayMs) % 7
        let wd := if wd > n then wd - 7 else wd
        some (Moment.clearFields { m with jd := m.jd + (n - wd) * Moment.dayMs })
      else none
    else none
  else if c == 115 then
    if Bytes.compareNoCase (z.take 9) (Bytes.ofString "start of ") != .eq then
      if sameText z "subsec" || sameText z "subsecond" then some { m with subsecond := true }
      else none
    else if !m.hasJd && !m.hasDate && !m.hasTime then none
    else
      let m := Moment.computeDate m
      let m := { m with hasTime := true, hour := 0, minute := 0, second := Binary64.zero false,
                        raw := false, zone := 0, hasJd := false }
      let what := z.drop 9
      if sameText what "month" then some { m with day := 1 }
      else if sameText what "year" then some { m with month := 1, day := 1 }
      else if sameText what "day" then some m
      else none
  else if c == 43 || c == 45 || isDigit c then applyOffset m z
  else none

/-- Apply modifiers in turn. -/
def applyAll (m : Moment) : Bool → List Datum → Option Moment
  | _, [] => some m
  | first, d :: rest =>
    match d.toText? with
    | none => none
    | some z =>
      match applyModifier m z first with
      | some m => if m.failed then none else applyAll m false rest
      | none => none

/-- Read a time value and its modifiers into a moment; none when the result is null. -/
def read (args : List Datum) : Option Moment := do
  let m ← match args with
    | [] => some now
    | .integer n :: _ => some (Moment.ofNumber (Binary64.ofInt n.toInt))
    | .real x :: _ => some (Moment.ofNumber x)
    | d :: _ => d.toText? >>= parseValue
  if m.failed then none
  let m ← applyAll m true (args.drop 1)
  let m := Moment.computeJd m
  if m.failed || !Moment.validJd m.jd then none
  else if args.length == 1 && m.hasDate && m.day > 28 then some { m with hasDate := false }
  else some m

/-- Two digits of a number. -/
def two (n : Int) : String :=
  let n := n.natAbs % 100
  String.ofList [Char.ofNat (48 + n / 10), Char.ofNat (48 + n % 10)]

/-- A number as `printf` writes it under a format such as `%02d`. -/
def padded (width : Nat) (zero : Bool) (n : Int) : String :=
  let s := intText n
  if s.length ≥ width then s
  else if zero then
    if n < 0 then "-" ++ String.ofList (List.replicate (width - s.length) '0') ++ intText (-n)
    else String.ofList (List.replicate (width - s.length) '0') ++ s
  else String.ofList (List.replicate (width - s.length) ' ') ++ s

/-- Whole seconds of a moment. -/
def wholeSeconds (m : Moment) : Int := m.second.truncate

/-- `YYYY-MM-DD` of a moment, with a sign for years before zero. -/
def dateText (m : Moment) : String :=
  let y := m.year.natAbs
  let ys := String.ofList [Char.ofNat (48 + (y / 1000) % 10), Char.ofNat (48 + (y / 100) % 10),
    Char.ofNat (48 + (y / 10) % 10), Char.ofNat (48 + y % 10)]
  (if m.year < 0 then "-" else "") ++ ys ++ "-" ++ two m.month ++ "-" ++ two m.day

/-- `HH:MM:SS` of a moment, with milliseconds under `subsec`. -/
def timeText (m : Moment) : String :=
  let base := two m.hour ++ ":" ++ two m.minute ++ ":"
  if m.subsecond then
    let s := (Binary64.add (Binary64.times (Moment.real 1000) m.second) (Binary64.ofRatio false 1 2)).truncate
    base ++ two (s / 1000) ++ "." ++ String.ofList [Char.ofNat (48 + (s / 100 % 10).toNat),
      Char.ofNat (48 + (s / 10 % 10).toNat), Char.ofNat (48 + (s % 10).toNat)]
  else base ++ two (wholeSeconds m)

/-- Days since the first of January of the moment's year. -/
def daysIntoYear (m : Moment) : Int :=
  let jan := Moment.computeJd { m with hasJd := false, month := 1, day := 1 }
  (m.jd - jan.jd + 43200000) / Moment.dayMs

/-- Days since the last Monday (0 on Mondays). -/
def daysAfterMonday (m : Moment) : Int := ((m.jd + 43200000) / Moment.dayMs) % 7

/-- Days since the last Sunday (0 on Sundays). -/
def daysAfterSunday (m : Moment) : Int := ((m.jd + 129600000) / Moment.dayMs) % 7

/-- The Thursday of the moment's week, as the ISO week counts it. -/
def thursday (m : Moment) : Moment :=
  Moment.computeDate { m with jd := m.jd + (3 - daysAfterMonday m) * Moment.dayMs, hasDate := false }

/-- The output of one `strftime` conversion letter, or none for a letter it does not know. -/
def conversion (m : Moment) (c : Char) : Option String :=
  match c with
  | 'd' => some (padded 2 true m.day)
  | 'e' => some (padded 2 false m.day)
  | 'f' =>
    some (formatFloat { style := .fixed, precision := some 3, width := 6, zeroPad := true } m.second)
  | 'F' => some (padded 4 true m.year ++ "-" ++ padded 2 true m.month ++ "-" ++ padded 2 true m.day)
  | 'G' => some (padded 4 true (thursday m).year)
  | 'g' => some (padded 2 true ((thursday m).year.tmod 100))
  | 'H' => some (padded 2 true m.hour)
  | 'k' => some (padded 2 false m.hour)
  | 'I' | 'l' =>
    let h := if m.hour > 12 then m.hour - 12 else m.hour
    let h := if h == 0 then 12 else h
    some (padded 2 (c == 'I') h)
  | 'j' => some (padded 3 true (daysIntoYear m + 1))
  | 'J' =>
    some (formatFloat { style := .general, precision := some 16 }
      (Binary64.divide (Moment.real m.jd) (Moment.real Moment.dayMs)))
  | 'm' => some (padded 2 true m.month)
  | 'M' => some (padded 2 true m.minute)
  | 'p' => some (if m.hour ≥ 12 then "PM" else "AM")
  | 'P' => some (if m.hour ≥ 12 then "pm" else "am")
  | 'R' => some (padded 2 true m.hour ++ ":" ++ padded 2 true m.minute)
  | 's' =>
    if m.subsecond then
      some (formatFloat { style := .fixed, precision := some 3 }
        (Binary64.divide (Moment.real (m.jd - 210866760000000)) (Moment.real 1000)))
    else some (intText (m.jd / 1000 - 210866760000))
  | 'S' => some (padded 2 true (wholeSeconds m))
  | 'T' => some (padded 2 true m.hour ++ ":" ++ padded 2 true m.minute ++ ":" ++ padded 2 true (wholeSeconds m))
  | 'u' => let d := daysAfterSunday m; some (intText (if d == 0 then 7 else d))
  | 'w' => some (intText (daysAfterSunday m))
  | 'U' => some (padded 2 true ((daysIntoYear m - daysAfterSunday m + 7) / 7))
  | 'V' => some (padded 2 true (daysIntoYear (thursday m) / 7 + 1))
  | 'W' => some (padded 2 true ((daysIntoYear m - daysAfterMonday m + 7) / 7))
  | 'Y' => some (padded 4 true m.year)
  | '%' => some "%"
  | _ => none

/-- The text of a `strftime` format for a moment; none when a conversion is unknown. -/
def formatLoop (m : Moment) : List Char → Option (List Char)
  | [] => some []
  | '%' :: c :: rest =>
    match conversion m c, formatLoop m rest with
    | some s, some r => some (s.toList ++ r)
    | _, _ => none
  | ['%'] => none
  | c :: rest => (formatLoop m rest).map (c :: ·)

end Clock

namespace Scalar

/-- `julianday`: the moment as a real count of days. -/
def julianday (args : List Datum) : Datum :=
  match Clock.read args with
  | some m => .real (Binary64.divide (Moment.real m.jd) (Moment.real Moment.dayMs))
  | none => .null

/-- `unixepoch`: seconds since 1970, a real under `subsec`. -/
def unixepoch (args : List Datum) : Datum :=
  match Clock.read args with
  | some m =>
    if m.subsecond then .real (Binary64.divide (Moment.real (m.jd - 210866760000000)) (Moment.real 1000))
    else Datum.ofInt (m.jd / 1000 - 210866760000)
  | none => .null

/-- `date`: `YYYY-MM-DD`. -/
def date (args : List Datum) : Datum :=
  match Clock.read args with
  | some m => Datum.ofString (Clock.dateText (Moment.computeDate m))
  | none => .null

/-- `time`: `HH:MM:SS`. -/
def time (args : List Datum) : Datum :=
  match Clock.read args with
  | some m => Datum.ofString (Clock.timeText (Moment.computeTime m))
  | none => .null

/-- `datetime`: `YYYY-MM-DD HH:MM:SS`. -/
def datetime (args : List Datum) : Datum :=
  match Clock.read args with
  | some m =>
    let m := Moment.computeAll m
    Datum.ofString (Clock.dateText m ++ " " ++ Clock.timeText m)
  | none => .null

/-- `strftime`: the moment written by a format. -/
def strftime (args : List Datum) : Datum :=
  match args with
  | [] => .null
  | fmt :: rest =>
    match fmt.toText? with
    | none => .null
    | some f =>
      match Clock.read rest with
      | none => .null
      | some m =>
        let m := Moment.computeAll (Moment.computeJd m)
        match Clock.formatLoop m (Bytes.lossy (Bytes.untilNul f)).toList with
        | some cs => Datum.ofString (String.ofList cs)
        | none => .null

/-- Step the second moment a month towards the first until it is not past it. -/
def stepMonths (toward : Bool) (d1 : Moment) : Nat → Moment → Int → Int → Moment × Int × Int
  | 0, d2, y, mo => (d2, y, mo)
  | fuel + 1, d2, y, mo =>
    let past := if toward then d1.jd < d2.jd else d1.jd > d2.jd
    if !past then (d2, y, mo)
    else
      let (mo, y) := if mo - 1 < 0 then (11, y - 1) else (mo - 1, y)
      let d2 := if toward then
          if d2.month - 1 < 1 then { d2 with month := 12, year := d2.year - 1 } else { d2 with month := d2.month - 1 }
        else if d2.month + 1 > 12 then { d2 with month := 1, year := d2.year + 1 } else { d2 with month := d2.month + 1 }
      stepMonths toward d1 fuel (Moment.computeJd { d2 with hasJd := false }) y mo

/-- `timediff`: the difference of two moments as `±YYYY-MM-DD HH:MM:SS.SSS`. -/
def timediff (a b : Datum) : Datum :=
  match Clock.read [a], Clock.read [b] with
  | some d1, some d2 =>
    let d1 := Moment.computeAll d1
    let d2 := Moment.computeAll d2
    let forward := d1.jd ≥ d2.jd
    let y := if forward then d1.year - d2.year else d2.year - d1.year
    let d2 := if y != 0 then Moment.computeJd { d2 with year := d1.year, hasJd := false } else d2
    let mo := if forward then d1.month - d2.month else d2.month - d1.month
    let (y, mo) := if mo < 0 then (y - 1, mo + 12) else (y, mo)
    let d2 := if mo != 0 then Moment.computeJd { d2 with month := d1.month, hasJd := false } else d2
    let (d2, y, mo) := stepMonths forward d1 24 d2 y mo
    let diff := if forward then d1.jd - d2.jd else d2.jd - d1.jd
    let r := Moment.computeAll (Moment.clearFields { d1 with jd := diff + 148699540800000 })
    let secs := formatFloat { style := .fixed, precision := some 3, width := 6, zeroPad := true } r.second
    Datum.ofString ((if forward then "+" else "-") ++ Clock.padded 4 true y ++ "-" ++
      Clock.padded 2 true mo ++ "-" ++ Clock.padded 2 true (r.day - 1) ++ " " ++
      Clock.padded 2 true r.hour ++ ":" ++ Clock.padded 2 true r.minute ++ ":" ++ secs)
  | _, _ => .null

end Scalar

end Database

end EntityGraph
