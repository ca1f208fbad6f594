import EntityGraph.Json.Read
import EntityGraph.Json.Write
import EntityGraph.Query.Filter

/-!
# Reading typed documents

Readers that take a JSON document straight into a typed value in one pass, failing at the first
token that does not fit. They share the cursor and the faults of `JsonRead`, and add faults of
their own, each naming what was found and what was expected:

* `invalid type: string "yes", expected a boolean` when a token of the wrong kind stands where
  a value was expected; the token is read whole first, so the fault is placed after it (an array
  or object is not read, and the fault is placed before it);
* `invalid value: integer -1, expected usize` for a number of the right kind out of range;
* `unknown variant ...` for a name that is not one of a fixed list;
* `duplicate field ...` for a record field given twice, placed after the blanks that follow the
  repeated key.

A record is read from an object of its fields, in any order, or from an array of the field
values in declared order; fields not given keep their defaults, and keys that are not fields are
read and dropped.
-/

namespace EntityGraph

/-- What a typed reader found where it expected something else. -/
inductive Unexpected where
  | unit
  | bool (b : Bool)
  | unsigned (n : Nat)
  | signed (n : Int)
  | float (x : Binary64)
  | str (s : String)
  | seq
  | map
  deriving Inhabited

/-- The text of a found token in typed-reading faults. -/
def Unexpected.describe : Unexpected → String
  | .unit => "null"
  | .bool b => "boolean `" ++ (if b then "true" else "false") ++ "`"
  | .unsigned n => "integer `" ++ toString n ++ "`"
  | .signed n => "integer `" ++ intString n ++ "`"
  | .float x => "floating point `" ++ x.jsonText ++ "`"
  | .str s => "string " ++ Text.quoted s
  | .seq => "sequence"
  | .map => "map"

/-- What a number token is, as a found token. -/
def JsonNumber.unexpected : JsonNumber → Unexpected
  | .nat n => .unsigned n
  | .neg n => .signed n
  | .float x => .float x

/-- The fault of a token of the wrong kind. -/
def invalidType (found : Unexpected) (expected : String) : String :=
  "invalid type: " ++ found.describe ++ ", expected " ++ expected

/-- The fault of a token of the right kind whose value is not accepted. -/
def invalidValue (found : Unexpected) (expected : String) : String :=
  "invalid value: " ++ found.describe ++ ", expected " ++ expected

/-- The list of accepted names in an unknown-variant fault. -/
def variantChoices : List String → String
  | [] => "there are no variants"
  | [a] => "expected `" ++ a ++ "`"
  | [a, b] => "expected `" ++ a ++ "` or `" ++ b ++ "`"
  | names => "expected one of " ++ ", ".intercalate (names.map fun n => "`" ++ n ++ "`")

namespace JsonRead

/-- The fault for the token at the cursor, which is not what `expected` describes. A scalar is
read whole and the fault placed after it; an array or object is placed before its bracket. -/
def mismatch (expected : String) : JsonRead α := do
  match ← peek with
  | some 'n' => bump; keyword ['u', 'l', 'l']; failHere (invalidType .unit expected)
  | some 't' => bump; keyword ['r', 'u', 'e']; failHere (invalidType (.bool true) expected)
  | some 'f' => bump; keyword ['a', 'l', 's', 'e']; failHere (invalidType (.bool false) expected)
  | some '-' => bump; let n ← numberRest true; failHere (invalidType n.unexpected expected)
  | some '"' => bump; let s ← stringRest; failHere (invalidType (.str s) expected)
  | some '[' => failHere (invalidType .seq expected)
  | some '{' => failHere (invalidType .map expected)
  | some c =>
    if isDigit c then do
      let n ← numberRest false
      failHere (invalidType n.unexpected expected)
    else failNext expectedValue
  | none => failNext expectedValue

/-- The next character after blanks; the end of the text is the fault of a missing value. -/
def valueStart : JsonRead Char := do
  match ← skipBlanks with
  | some c => pure c
  | none => failNext eofValue

/-- A non-negative integer that fits 64 bits. -/
def natural : JsonRead Nat := do
  let c ← valueStart
  if c == '-' then
    bump
    match ← numberRest true with
    | .float x => failHere (invalidType (.float x) "usize")
    | n => failHere (invalidValue n.unexpected "usize")
  else if isDigit c then
    match ← numberRest false with
    | .nat n => pure n
    | n => failHere (invalidType n.unexpected "usize")
  else mismatch "usize"

/-- `true` or `false`. -/
def boolean : JsonRead Bool := do
  let c ← valueStart
  if c == 't' then bump; keyword ['r', 'u', 'e']; pure true
  else if c == 'f' then bump; keyword ['a', 'l', 's', 'e']; pure false
  else mismatch "a boolean"

/-- A string. -/
def text : JsonRead String := do
  let c ← valueStart
  if c == '"' then bump; stringRest
  else mismatch "a string"

/-- `null` for nothing, otherwise a string. -/
def optionalText : JsonRead (Option String) := do
  match ← skipBlanks with
  | some 'n' => bump; keyword ['u', 'l', 'l']; pure none
  | _ => some <$> text

/-- A name out of `names`, given as a string or as an object with the name as its only key
and `null` as its value. The result is the name's position in `names`. -/
def variant (names : List String) : JsonRead Nat := do
  let identifier : JsonRead Nat := do
    let c ← valueStart
    if c != '"' then mismatch "variant identifier"
    else
      bump
      let s ← stringRest
      match names.findIdx? (· == s) with
      | some i => pure i
      | none => failHere ("unknown variant `" ++ s ++ "`, " ++ variantChoices names)
  match ← skipBlanks with
  | some '"' => identifier
  | some '{' =>
    bump
    let i ← identifier
    match ← skipBlanks with
    | some ':' => bump
    | some _ => failNext expectedColon
    | none => failNext eofObject
    let c ← valueStart
    if c == 'n' then bump; keyword ['u', 'l', 'l'] else mismatch "unit"
    match ← skipBlanks with
    | some '}' => bump; pure i
    | some _ => failHere expectedValue
    | none => failHere eofObject
  | some _ => failNext expectedValue
  | none => failNext eofValue

/-! ## Skipping values -/

/-- The rest of a string whose opening quote was consumed, not kept. A control character is
placed before itself. Each round consumes at least one character, so `fuel` at the remaining
length suffices. -/
def skipStringBody : (fuel : Nat) → JsonRead Unit
  | 0 => failHere eofString
  | fuel + 1 => do
    match ← peek with
    | none => failHere eofString
    | some '"' => bump
    | some '\\' =>
      bump
      match ← next with
      | none => failHere eofString
      | some c =>
        if c == 'u' then
          let _ ← hexEscape
          skipStringBody fuel
        else if "\"\\/bfnrt".contains c then skipStringBody fuel
        else failHere invalidEscape
    | some c =>
      if c.toNat < 0x20 then failHere controlCharacter
      else bump; skipStringBody fuel

/-- The digits of a number to be skipped, its sign consumed: a leading zero stands alone, a
fraction needs a digit, and an exponent needs a digit. Nothing is checked for range. -/
def skipNumber : JsonRead Unit := do
  let exponent : JsonRead Unit := do
    bump
    match ← peek with
    | some '+' | some '-' => bump
    | _ => pure ()
    match ← next with
    | some c => if isDigit c then digitRun *> pure () else failHere invalidNumber
    | none => failHere invalidNumber
  match ← next with
  | some '0' =>
    match ← peek with
    | some d => if isDigit d then failNext invalidNumber
    | none => pure ()
  | some c => if isDigit c then digitRun *> pure () else failHere invalidNumber
  | none => failHere invalidNumber
  match ← peek with
  | some '.' =>
    bump
    let ds ← digitRun
    if ds.isEmpty then failNext invalidNumber
    match ← peek with
    | some 'e' | some 'E' => exponent
    | _ => pure ()
  | some 'e' | some 'E' => exponent
  | _ => pure ()

/-- Where skipping stands after a scalar or a closing bracket: inside an array (`true`) or an
object (`false`), and whether a comma may come next. -/
def skipClose (fuel : Nat) (stack : List Bool) (acceptComma : Bool) :
    JsonRead (Option (List Bool)) :=
  match fuel, stack with
  | _, [] => pure none
  | 0, _ => failHere recursionLimit
  | fuel + 1, frame :: rest => do
    match ← skipBlanks with
    | some ',' =>
      if acceptComma then bump; pure (some stack)
      else pure (some stack)
    | some ']' =>
      if frame then bump; skipClose fuel rest true
      else if acceptComma then failNext expectedObjectCommaOrEnd
      else pure (some stack)
    | some '}' =>
      if !frame then bump; skipClose fuel rest true
      else if acceptComma then failNext expectedListCommaOrEnd
      else pure (some stack)
    | some _ =>
      if acceptComma then
        failNext (if frame then expectedListCommaOrEnd else expectedObjectCommaOrEnd)
      else pure (some stack)
    | none => failNext (if frame then eofList else eofObject)

/-- Before the next member of an object: its key and colon. -/
def skipKey : JsonRead Unit := do
  match ← skipBlanks with
  | some '"' => bump
  | some _ => failNext keyMustBeString
  | none => failNext eofObject
  let text ← read
  skipStringBody (text.size + 1)
  match ← skipBlanks with
  | some ':' => bump
  | some _ => failNext expectedColon
  | none => failNext eofObject

/-- Read one value and drop it. Nesting is followed with an explicit stack of open brackets,
so any depth is accepted. Every round consumes at least one character, so `fuel` at the
remaining length suffices. -/
def skipValue : JsonRead Unit := do
  let text ← read
  let rec go : (fuel : Nat) → List Bool → JsonRead Unit
    | 0, _ => failHere recursionLimit
    | fuel + 1, stack => do
      let c ← valueStart
      let opened : Option Bool ←
        if c == 'n' then bump; keyword ['u', 'l', 'l']; pure none
        else if c == 't' then bump; keyword ['r', 'u', 'e']; pure none
        else if c == 'f' then bump; keyword ['a', 'l', 's', 'e']; pure none
        else if c == '-' then bump; skipNumber; pure none
        else if isDigit c then skipNumber; pure none
        else if c == '"' then bump; skipStringBody (text.size + 1); pure none
        else if c == '[' then bump; pure (some true)
        else if c == '{' then bump; pure (some false)
        else failNext expectedValue
      let after ← match opened with
        | some frame => skipClose fuel (frame :: stack) false
        | none => skipClose fuel stack true
      match after with
      | none => pure ()
      | some stack =>
        match stack with
        | false :: _ => skipKey; go fuel stack
        | _ => go fuel stack
  go (text.size + 1) []

/-! ## Records -/

/-- A field of a record: its name and how reading its value updates the record. -/
structure FieldReader (α : Type) where
  name : String
  read : α → JsonRead α

/-- The fields of a record given as an object, after its opening brace and up to its closing
brace (left for `closeObject`). `seen` holds the names already given. Every round consumes at
least a key, so `fuel` at the remaining length suffices. -/
def recordMembers (fields : List (FieldReader α)) :
    (fuel : Nat) → List String → Bool → α → JsonRead α
  | 0, _, _, _ => failHere recursionLimit
  | fuel + 1, seen, first, acc => do
    let c0 ← skipBlanks
    match c0 with
    | some '}' => pure acc
    | none => failNext eofObject
    | some c =>
      if first then
        if c != '"' then failNext keyMustBeString
      else if c == ',' then
        bump
        match ← skipBlanks with
        | some '"' => pure ()
        | some '}' => failNext trailingComma
        | some _ => failNext keyMustBeString
        | none => failNext eofValue
      else failNext expectedObjectCommaOrEnd
      bump
      let key ← stringRest
      let colon : JsonRead Unit := do
        match ← skipBlanks with
        | some ':' => bump
        | some _ => failNext expectedColon
        | none => failNext eofObject
      match fields.find? (·.name == key) with
      | some f =>
        if seen.contains key then
          let _ ← skipBlanks
          failHere ("duplicate field `" ++ key ++ "`")
        colon
        let acc ← f.read acc
        recordMembers fields fuel (key :: seen) false acc
      | none =>
        colon
        skipValue
        recordMembers fields fuel seen false acc

/-- The values of a record given as an array, in declared field order, after its opening
bracket and up to its closing bracket (left for `closeArray`). -/
def recordElements : List (FieldReader α) → Bool → α → JsonRead α
  | [], _, acc => pure acc
  | f :: fs, first, acc => do
    match ← skipBlanks with
    | some ']' => pure acc
    | none => failNext eofList
    | some c =>
      if !first then
        if c == ',' then
          bump
          match ← skipBlanks with
          | some ']' => failNext trailingComma
          | some _ => pure ()
          | none => failNext eofValue
        else failNext expectedListCommaOrEnd
      let acc ← f.read acc
      recordElements fs false acc

/-- A record named `name` with the given fields, starting from `init`: an object of fields or
an array of field values. -/
def record (name : String) (fields : List (FieldReader α)) (init : α) : JsonRead α := do
  let c ← valueStart
  if c == '{' then
    bump
    let text ← read
    let v ← recordMembers fields (text.size + 1) [] true init
    closeObject
    pure v
  else if c == '[' then
    bump
    let v ← recordElements fields true init
    closeArray
    pure v
  else mismatch ("struct " ++ name)

/-- Read a whole text with a typed reader: one value, then only blanks. -/
def readDocument (reader : JsonRead α) (s : String) : Except String α :=
  let text := s.toList.toArray
  match run (do let v ← reader; finish; pure v) text with
  | .ok v => .ok v
  | .error f => .error (f.message text)

end JsonRead

end EntityGraph
