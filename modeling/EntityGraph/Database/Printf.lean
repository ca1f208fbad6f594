import EntityGraph.Database.Numeral

/-!
# Formatted text

The store's `printf` (also called `format`): a format string with `%` conversions, each taking
the next argument as an integer, a real or text.

Rules that fix the results:
- A conversion is `%`, flags (`-` left-justify, `+` or blank sign, `#` alternate form, `!` more
  digits or counting in characters, `0` zero padding, `,` thousands separators), a width (digits,
  or `*` taking an argument, a negative one meaning left-justify), a precision (`.` then digits or
  `*`), `l` or `ll` (ignored), and a letter.
- Letters: `d i` signed decimal, `u` unsigned decimal, `x X o` unsigned hexadecimal or octal,
  `p` uppercase hexadecimal, `r` decimal with an ordinal suffix, `f e E g G` reals
  (`formatFloat`), `s z` text, `c` a character repeated `precision` times, `q Q w` text with
  quotes doubled (`Q` also quoted, and `NULL` for null), `%` a percent sign, `n` nothing.
- An unknown letter, the end of the format inside a conversion, and the internal letters `T` and
  `S` end the output there.
- Missing arguments read as 0, 0.0 or null. Text stops at its first NUL.
- The width pads with blanks on the left (on the right when left-justified); it counts bytes,
  or characters under `!`.
-/

namespace EntityGraph

namespace Database

/-- An argument of `printf` as each kind of conversion reads it. -/
structure PrintfArg where
  /-- As a 64-bit integer. -/
  int : Int
  real : Binary64
  /-- As text, none for null. -/
  text : Option Bytes
  deriving Inhabited

/-- The arguments not yet used. -/
abbrev PrintfArgs := List PrintfArg

/-- Take the next argument as an integer; 0 when none is left. -/
def PrintfArgs.nextInt : PrintfArgs → Int × PrintfArgs
  | a :: rest => (a.int, rest)
  | [] => (0, [])

/-- Take the next argument as a real; 0.0 when none is left. -/
def PrintfArgs.nextReal : PrintfArgs → Binary64 × PrintfArgs
  | a :: rest => (a.real, rest)
  | [] => (Binary64.zero false, [])

/-- Take the next argument as text up to its first NUL; null when none is left. -/
def PrintfArgs.nextText : PrintfArgs → Option Bytes × PrintfArgs
  | a :: rest => (a.text.map Bytes.untilNul, rest)
  | [] => (none, [])

/-- The flags, width and precision of one conversion. -/
structure Spec where
  leftJustify : Bool := false
  signFlag : Option Char := none
  alternate : Bool := false
  altForm2 : Bool := false
  zeroPad : Bool := false
  thousands : Bool := false
  width : Nat := 0
  /-- None when not given. -/
  precision : Option Nat := none
  deriving Inhabited

/-- A width or precision read from an argument, as a signed 32-bit value. -/
def toInt32 (v : Int) : Int :=
  let m := v % 2 ^ 32
  if m ≥ 2 ^ 31 then m - 2 ^ 32 else m

/-- Digits at the front: their value kept as an unsigned 32-bit number, and the rest. -/
def specDigits (acc : Nat) : Bytes → Nat × Bytes
  | b :: rest => if isDigitByte b then specDigits ((acc * 10 + digitValue b) % 2 ^ 32) rest else (acc, b :: rest)
  | [] => (acc, [])

/-- Read the flags, width and precision of a conversion; the letter (none at the end of the
format), the rest of the format after the letter, and the arguments left. -/
def readSpec (spec : Spec) (args : PrintfArgs) : (fuel : Nat) → Bytes → Spec × Option UInt8 × Bytes × PrintfArgs
  | 0, fmt => (spec, none, fmt, args)
  | fuel + 1, fmt =>
    match fmt with
    | [] => (spec, none, [], args)
    | c :: rest =>
      if c == 45 then readSpec { spec with leftJustify := true } args fuel rest
      else if c == 43 then readSpec { spec with signFlag := some '+' } args fuel rest
      else if c == 32 then readSpec { spec with signFlag := some ' ' } args fuel rest
      else if c == 35 then readSpec { spec with alternate := true } args fuel rest
      else if c == 33 then readSpec { spec with altForm2 := true } args fuel rest
      else if c == 48 then readSpec { spec with zeroPad := true } args fuel rest
      else if c == 44 then readSpec { spec with thousands := true } args fuel rest
      else if c == 108 then
        -- `l` or `ll`: the next byte is the letter
        let rest := match rest with
          | 108 :: r => r
          | r => r
        match rest with
        | l :: r => (spec, some l, r, args)
        | [] => (spec, none, [], args)
      else if isDigitByte c then
        let (w, rest) := specDigits (digitValue c) rest
        let spec := { spec with width := w % 2 ^ 31 }
        match rest with
        | 46 :: _ | 108 :: _ => readSpec spec args fuel rest
        | l :: r => (spec, some l, r, args)
        | [] => (spec, none, [], args)
      else if c == 42 then
        let (w, args) := args.nextInt
        let w := toInt32 w
        let spec := if w < 0 then
            { spec with leftJustify := true, width := if w ≥ -2147483647 then (-w).toNat else 0 }
          else { spec with width := w.toNat }
        match rest with
        | 46 :: _ | 108 :: _ => readSpec spec args fuel rest
        | l :: r => (spec, some l, r, args)
        | [] => (spec, none, [], args)
      else if c == 46 then
        let (precision, rest, args) : Option Nat × Bytes × PrintfArgs := match rest with
          | 42 :: r =>
            let (p, args) := args.nextInt
            let p := toInt32 p
            (if p < 0 then (if p ≥ -2147483647 then some (-p).toNat else none) else some p.toNat, r, args)
          | r =>
            let (p, r) := specDigits 0 r
            (some (p % 2 ^ 31), r, args)
        let spec := { spec with precision }
        match rest with
        | 108 :: _ => readSpec spec args fuel rest
        | l :: r => (spec, some l, r, args)
        | [] => (spec, none, [], args)
      else (spec, some c, rest, args)

/-- Digits of a natural number in a base, with the given digit characters. -/
def radixDigits (base : Nat) (upper : Bool) (n : Nat) : List Char :=
  let digit (d : Nat) : Char :=
    if d < 10 then Char.ofNat (48 + d) else Char.ofNat ((if upper then 55 else 87) + d)
  (Nat.toDigits base n).map fun c => digit (if c.isDigit then c.toNat - 48 else c.toNat - 87)

/-- Thousands separators inserted into a run of digits. -/
def groupThousands (ds : List Char) : List Char :=
  let n := ds.length
  (ds.zipIdx.flatMap fun (d, i) =>
    let after := n - 1 - i
    if after > 0 && after % 3 == 0 then [d, ','] else [d])

/-- The text of an integer conversion. -/
def integerText (spec : Spec) (signed : Bool) (base : Nat) (upper : Bool)
    (altPrefix : List Char) (ordinal : Bool) (thousands : Bool) (v : Int) : List Char :=
  let (mag, signMark) : Nat × Option Char :=
    if signed then
      if v < 0 then (v.natAbs, some '-') else (v.toNat, spec.signFlag)
    else ((v % 2 ^ 64).toNat, none)
  let alternate := spec.alternate && mag != 0
  let precision : Int := spec.precision.map (fun p => (p : Int)) |>.getD (-1)
  let signWidth : Int := if signMark.isSome then 1 else 0
  let precision := if spec.zeroPad && precision < (spec.width : Int) - signWidth then
      (spec.width : Int) - signWidth else precision
  let suffix : List Char :=
    if ordinal then
      let x := mag % 10
      let x := if x ≥ 4 || (mag / 10) % 10 == 1 then 0 else x
      match x with
      | 1 => ['s', 't']
      | 2 => ['n', 'd']
      | 3 => ['r', 'd']
      | _ => ['t', 'h']
    else []
  let body := radixDigits base upper mag ++ suffix
  let body := if precision > body.length then List.replicate (precision.toNat - body.length) '0' ++ body
    else body
  let body := if thousands then groupThousands body else body
  let body := (match signMark with | some c => [c] | none => []) ++ body
  if alternate then altPrefix ++ body else body

/-- Text with its quote character doubled, quoted when asked; the count of input bytes taken
follows the precision, in characters under `!`. -/
def escapedText (spec : Spec) (q : UInt8) (quote : Bool) (arg : Option Bytes) : List UInt8 :=
  let isNull := arg.isNone
  let text := arg.getD (Bytes.ofString (if quote then "NULL" else "(NULL)"))
  let taken : Bytes := match spec.precision with
    | none => text
    | some p => if spec.altForm2 then (Bytes.chars text |>.take p).flatten else text.take p
  let body := taken.flatMap fun b => if b == q then [b, b] else [b]
  if quote && !isNull then q :: body ++ [q] else body

/-- The count of continuation bytes, which a width under `!` does not count. -/
def continuationCount (b : Bytes) : Nat := (b.filter Bytes.isContinuation).length

/-- Pad a converted field to the width with blanks. -/
def pad (spec : Spec) (width : Nat) (field : Bytes) : Bytes :=
  if width > field.length then
    let blanks := List.replicate (width - field.length) (32 : UInt8)
    if spec.leftJustify then field ++ blanks else blanks ++ field
  else field

/-- The output of one conversion letter: the bytes, the arguments left, and whether the output
ends here. -/
def convert (spec : Spec) (letter : UInt8) (args : PrintfArgs) : Bytes × PrintfArgs × Bool :=
  let chars (cs : List Char) : Bytes := Bytes.ofString (String.ofList cs)
  let l := Char.ofNat letter.toNat
  let integer (signed : Bool) (base : Nat) (upper : Bool) (altPrefix : List Char) (ordinal thousands : Bool) :=
    let (v, args) := args.nextInt
    (pad spec spec.width (chars (integerText spec signed base upper altPrefix ordinal thousands v)), args, false)
  let real (style : FloatStyle) (upper : Bool) :=
    let (x, args) := args.nextReal
    let ff : FloatFormat :=
      { style := style
        upper := upper
        precision := spec.precision
        width := spec.width
        signFlag := spec.signFlag
        alternate := spec.alternate
        altForm2 := spec.altForm2
        zeroPad := spec.zeroPad
        leftJustify := spec.leftJustify
        thousands := spec.thousands }
    let text := formatFloat ff x
    (pad spec spec.width (Bytes.ofString text), args, false)
  match l with
  | 'd' | 'i' => integer true 10 false [] false spec.thousands
  | 'u' => integer false 10 false [] false spec.thousands
  | 'x' => integer false 16 false ['0', 'x'] false false
  | 'X' => integer false 16 true ['0', 'X'] false false
  | 'o' => integer false 8 false ['0'] false false
  | 'p' => integer false 16 true ['0', 'x'] false false
  | 'r' => integer true 10 false [] true false
  | 'f' => real .fixed false
  | 'e' => real .exponent false
  | 'E' => real .exponent true
  | 'g' => real .general false
  | 'G' => real .general true
  | 's' | 'z' =>
    let (t, args) := args.nextText
    let t := t.getD []
    let t := match spec.precision with
      | none => t
      | some p => if spec.altForm2 then (Bytes.chars t |>.take p).flatten else t.take p
    let width := if spec.altForm2 && spec.width > 0 then spec.width + continuationCount t else spec.width
    (pad spec width t, args, false)
  | 'q' => let (t, args) := args.nextText; let b := escapedText spec 39 false t
    (pad spec (if spec.altForm2 && spec.width > 0 then spec.width + continuationCount b else spec.width) b, args, false)
  | 'Q' => let (t, args) := args.nextText; let b := escapedText spec 39 true t
    (pad spec (if spec.altForm2 && spec.width > 0 then spec.width + continuationCount b else spec.width) b, args, false)
  | 'w' => let (t, args) := args.nextText; let b := escapedText spec 34 false t
    (pad spec (if spec.altForm2 && spec.width > 0 then spec.width + continuationCount b else spec.width) b, args, false)
  | 'c' =>
    let (t, args) := args.nextText
    let one : Bytes := match t with
      | some (c :: rest) =>
        if c.toNat ≥ 0xC0 then c :: (rest.takeWhile Bytes.isContinuation).take 3 else [c]
      | _ => [0]
    let count : Nat := match spec.precision with
      | some p => if p > 1 then p else 1
      | none => 1
    -- with a repeat count the width is what remains around the copies
    let width : Int := if count > 1 then (spec.width : Int) - ((count : Int) - 1) else spec.width
    let (lead, width) : Bytes × Int :=
      if count > 1 && width > 1 && !spec.leftJustify then (List.replicate (width - 1).toNat 32, 0)
      else ([], width)
    let copies := (List.replicate (count - 1) one).flatten
    let width := if width > 0 then width + continuationCount one else width
    let last := pad spec width.toNat one
    (lead ++ copies ++ last, args, false)
  | '%' => (pad spec spec.width [37], args, false)
  | 'n' => ([], args, false)
  | _ => ([], args, true)

/-- Format text by a format: literal bytes are copied, conversions replaced by their output. -/
def printfLoop : (fuel : Nat) → Bytes → PrintfArgs → Bytes → Bytes
  | 0, _, _, acc => acc
  | fuel + 1, fmt, args, acc =>
    match fmt with
    | [] => acc
    | c :: rest =>
      if c != 37 then printfLoop fuel rest args (acc ++ [c])
      else
        match rest with
        | [] => acc ++ [37]
        | _ =>
          let (spec, letter, rest, args) := readSpec {} args (rest.length + 1) rest
          match letter with
          | none => acc
          | some l =>
            let (out, args, stop) := convert spec l args
            if stop then acc else printfLoop fuel rest args (acc ++ out)

/-- The text a format gives with arguments; the format stops at its first NUL. -/
def printfText (fmt : Bytes) (args : PrintfArgs) : Bytes :=
  let fmt := Bytes.untilNul fmt
  printfLoop (fmt.length + 1) fmt args []

end Database

end EntityGraph
