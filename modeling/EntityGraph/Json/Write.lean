import EntityGraph.Json.Basic
import EntityGraph.Number.Shortest

/-!
# Writing JSON text

Compact JSON text: no blanks between tokens, object members in key order. Strings escape the
quote, the backslash and the control characters below `0x20`; all other characters are written
as they are. Floats are written with their shortest decimal digits (`Binary64.shortest`) in one
of two spellings:

- `Binary64.jsonText`: positional with a `.0` kept for magnitudes from `1e-4` below `1e16`,
  otherwise `d.ddde±XX` with a signed exponent of at least two digits (`1e+16`, `1.5e-07`);
- `Binary64.displayText`: always positional, with no `.0` on integral values (`100`, `0.001`).
-/

namespace EntityGraph

/-- Lowercase hexadecimal digit of a value below 16. -/
def hexDigit (n : Nat) : Char :=
  if n < 10 then Char.ofNat (48 + n) else Char.ofNat (87 + n)

/-- `n` as exactly `width` lowercase hexadecimal digits (high digits dropped beyond the width). -/
def hexFixed (width n : Nat) : String :=
  String.ofList ((List.range width).reverse.map fun i => hexDigit (n / 16 ^ i % 16))

/-- Decimal digits of a natural number. -/
def decimalString (n : Nat) : String := String.ofList (Nat.toDigits 10 n)

/-- Decimal text of an integer, with a leading `-` when negative. -/
def intString (n : Int) : String :=
  if n < 0 then "-" ++ decimalString n.natAbs else decimalString n.toNat

/-- A run of `n` zero digits. -/
def zeros (n : Nat) : String := String.ofList (List.replicate n '0')

namespace Binary64

/-- Text of a finite number as JSON writes it: shortest digits, positional with a `.0` kept when
the decimal exponent is from -4 to 15, otherwise scientific with a signed exponent of at least
two digits. -/
def jsonText (x : Binary64) : String :=
  let sign := if x.signBit then "-" else ""
  if x.isZero then sign ++ "0.0"
  else
    let (d, k) := x.shortest
    let ds := decimalString d
    let len : Int := ds.length
    let kk := len + k
    let body :=
      if 0 ≤ k && kk ≤ 16 then ds ++ zeros k.toNat ++ ".0"
      else if 0 < kk && kk ≤ 16 then
        String.ofList (ds.toList.take kk.toNat) ++ "." ++ String.ofList (ds.toList.drop kk.toNat)
      else if -4 < kk && kk ≤ 0 then "0." ++ zeros (-kk).toNat ++ ds
      else
        let e := kk - 1
        let digits := decimalString e.natAbs
        let exp := "e" ++ (if e < 0 then "-" else "+") ++ (if digits.length < 2 then "0" else "") ++ digits
        match ds.toList with
        | [c] => String.singleton c ++ exp
        | c :: rest => String.singleton c ++ "." ++ String.ofList rest ++ exp
        | [] => exp
    sign ++ body

/-- Text of a finite number in plain positional notation with shortest digits and no exponent;
an integral value has no decimal point. -/
def displayText (x : Binary64) : String :=
  let sign := if x.signBit then "-" else ""
  if x.isZero then sign ++ "0"
  else
    let (d, k) := x.shortest
    let ds := decimalString d
    let len : Int := ds.length
    let kk := len + k
    let body :=
      if 0 ≤ k then ds ++ zeros k.toNat
      else if 0 < kk then
        String.ofList (ds.toList.take kk.toNat) ++ "." ++ String.ofList (ds.toList.drop kk.toNat)
      else "0." ++ zeros (-kk).toNat ++ ds
    sign ++ body

end Binary64

namespace Json

/-- A string literal with its quotes: the quote and backslash escaped, the control characters
below `0x20` written as `\n`-style escapes where one exists and as `\u00XX` otherwise. -/
def quote (s : String) : String :=
  let esc (c : Char) : String :=
    if c == '"' then "\\\""
    else if c == '\\' then "\\\\"
    else if c == '\n' then "\\n"
    else if c == '\r' then "\\r"
    else if c == '\t' then "\\t"
    else if c.toNat == 8 then "\\b"
    else if c.toNat == 12 then "\\f"
    else if c.toNat < 32 then "\\u" ++ hexFixed 4 c.toNat
    else String.singleton c
  "\"" ++ String.join (s.toList.map esc) ++ "\""

/-- Text of a number. -/
def numberText : JsonNumber → String
  | .nat n => decimalString n
  | .neg n => intString n
  | .float x => x.jsonText

mutual
/-- Compact text of a document. -/
def render : Json → String
  | .null => "null"
  | .bool b => if b then "true" else "false"
  | .num n => numberText n
  | .str s => quote s
  | .arr items => "[" ++ renderItems items ++ "]"
  | .obj fields => "\x7b" ++ renderFields fields ++ "\x7d"

/-- Comma-separated texts of array items. -/
def renderItems : List Json → String
  | [] => ""
  | [x] => render x
  | x :: rest => render x ++ "," ++ renderItems rest

/-- Comma-separated `"key":value` texts of object members. -/
def renderFields : List (String × Json) → String
  | [] => ""
  | [(k, v)] => quote k ++ ":" ++ render v
  | (k, v) :: rest => quote k ++ ":" ++ render v ++ "," ++ renderFields rest
end

end Json

end EntityGraph
