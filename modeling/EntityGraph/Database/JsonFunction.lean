import EntityGraph.Database.Scalar
import EntityGraph.Database.DocumentPath
import EntityGraph.Database.DocumentBinary

/-!
# The JSON functions

The store's functions over JSON text: `json`, `json_array`, `json_object`, `json_quote`,
`json_extract` with the operators `->` and `->>`, `json_type`, `json_valid`,
`json_array_length`, `json_error_position`, the edits `json_set`, `json_insert`,
`json_replace` and `json_remove`, `json_patch` and `json_pretty`. Those that give a document
also have a `jsonb` form, which gives it as a byte string in the binary form instead of text
(`JsonFn.applyBinary`).

Text that a JSON function gives carries a mark (`Marked.json`) while it is passed straight to
another function: such text is taken as JSON, where unmarked text is taken as a string. So
`json_array(json('[1]'))` is `[[1]]` while `json_array('[1]')` is `["[1]"]`. The mark does not
survive being stored or returned.

Rules that fix the results:
- A value becomes JSON text (`valueText`) as `null`, an integer's digits, a real's `%!0.15g`
  text (infinity as `9.0e+999`), marked text as it is, other text as a JSON string; a byte
  string only when it holds a document in the binary form, else it is an error.
- A value put into a document by an edit (`valueDocument`) is the same, except that a real
  keeps its text as the store writes it, infinity being `9e999`.
- A value taken from a document (`Document.sqlValue`): null, true as 1, false as 0, integers
  (hexadecimal ones too) as integers unless too large, other numbers as reals, strings as
  the text they stand for, arrays and objects as their JSON text.
- Null input gives null, except that `json_quote`, `json_array` and `json_object` write it as
  `null`.
- A path must start with `$`; `->` and `->>` also take a bare label, a bare integer (`-N`
  counting from the end), or an index step in brackets.
-/

namespace EntityGraph

namespace Database

/-- A value passed between functions, with whether it carries the JSON mark. -/
structure Marked where
  value : Datum
  json : Bool := false
  deriving Inhabited

/-- An unmarked value. -/
def Marked.plain (d : Datum) : Marked := { value := d }

/-- Text that carries the JSON mark. -/
def Marked.jsonText (b : Bytes) : Marked := { value := .text b, json := true }

/-- The fault of text that is not JSON. -/
def malformedJson : Fault := Fault.error "malformed JSON"

/-- The fault of a byte string put into a document. -/
def blobInJson : Fault := Fault.error "JSON cannot hold BLOB values"

/-- The fault of a malformed path, which it quotes. -/
def badJsonPath (path : Bytes) : Fault :=
  let doubled := path.flatMap fun b => if b == asciiByte '\'' then [b, b] else [b]
  Fault.error ("bad JSON path: '" ++ Bytes.lossy doubled ++ "'")

/-- A document as JSON text, or the fault of a string in it that cannot be written. -/
def documentText (d : Document) : Except Fault Bytes :=
  match d.write with
  | some b => pure b
  | none => throw malformedJson

/-- Read JSON text as a document. -/
def parseJson (t : Bytes) : Except Fault Document :=
  match readDocument t with
  | .ok doc _ => pure doc
  | .bad _ => throw malformedJson

/-- The document a byte string in the binary form holds. -/
def binaryDocument (b : Bytes) : Except Fault Document :=
  match readBinary b with
  | some doc => pure doc
  | none => throw malformedJson

/-- The document an argument holds: none for null; a byte string is read in the binary form
when it is taken for it, as text otherwise. -/
def documentOf (d : Datum) : Except Fault (Option Document) :=
  match d with
  | .null => pure none
  | .blob b => if takenAsBinary b then some <$> binaryDocument b else some <$> parseJson b
  | _ => some <$> parseJson d.textOrEmpty

/-- The JSON text of a real put into JSON text: `%!0.15g`. -/
def jsonRealText (x : Binary64) : Bytes :=
  Bytes.ofString
    (formatFloat { style := .general, precision := some 15, altForm2 := true, zeroPad := true } x)

/-- A value as JSON text. -/
def valueText (m : Marked) : Except Fault Bytes :=
  match m.value with
  | .null => pure (Bytes.ofString "null")
  | .integer n => pure (Bytes.ofString (intText n.toInt))
  | .real x => pure (jsonRealText x)
  | .text t => pure (if m.json then t else quoteText t)
  | .blob b => if looksBinary b then do documentText (← binaryDocument b) else throw blobInJson

/-- A value as a document put in by an edit. -/
def valueDocument (m : Marked) : Except Fault Document :=
  match m.value with
  | .null => pure .null
  | .integer n => pure (.number .integer (Bytes.ofString (intText n.toInt)))
  | .real x =>
    let s := realText x
    let s := if s == "Inf" then "9e999" else if s == "-Inf" then "-9e999" else s
    pure (.number .real (Bytes.ofString s))
  | .text t => if m.json then parseJson t else pure (.string { form := .raw, bytes := t })
  | .blob b => if looksBinary b then binaryDocument b else throw blobInJson

/-- The real a number's text reads as. -/
def realOfText (t : Bytes) : Except Fault Datum :=
  let (x, code) := readReal t
  if code ≤ 0 then throw malformedJson else pure (Datum.ofReal x)

/-- The value of an integer's text: hexadecimal or decimal, a real when it is too large. -/
def integerOfText (t : Bytes) : Except Fault Datum :=
  let (negative, body) : Bool × Bytes := match t with
    | 45 :: rest => (true, rest)
    | rest => (false, rest)
  if negative && body.isEmpty then throw malformedJson
  else
    match body with
    | 48 :: x :: rest =>
      if x == asciiByte 'x' || x == asciiByte 'X' then
        let ds := rest.dropWhile (· == 48)
        let digits := ds.takeWhile isHexByte
        let u := digits.foldl (fun acc d => acc * 16 + hexByteValue d) 0
        if digits.length > 16 || digits.length != ds.length then throw malformedJson
        else if u ≥ 2 ^ 63 then
          let r := Binary64.ofInt u
          pure (.real (if negative then r.negate else r))
        else pure (Datum.ofInt (if negative then -(u : Int) else u))
      else decimal negative body
    | _ => decimal negative body
where
  decimal (negative : Bool) (body : Bytes) : Except Fault Datum :=
    let (v, code) := readInteger body
    if code == 0 then pure (Datum.ofInt (if negative then -v else v))
    else if code == 3 && negative then pure (Datum.ofInt (-(2 ^ 63)))
    else if code == 1 || code == -1 then throw malformedJson
    else realOfText t

/-- The value a document gives as a result. -/
def Document.sqlValue (d : Document) : Except Fault Datum :=
  match d with
  | .null => pure .null
  | .bool b => pure (Datum.ofBool b)
  | .number .integer t | .number .hex t => integerOfText t
  | .number _ t => realOfText t
  | .string s => pure (.text s.text)
  | _ => .text <$> documentText d

/-- The text of a path argument up to its first NUL, none for null. -/
def pathText (d : Datum) : Option Bytes := d.toText?.map Bytes.untilNul

/-- The path, without its `$`, that a short path of `->` and `->>` stands for: an integer is an
index (counted from the end when negative), a bare label a label step, text in brackets an
index step, anything else a quoted label. -/
def arrowPath (arg : Datum) (p : Bytes) : Bytes :=
  match arg with
  | .integer _ =>
    Bytes.ofString "[" ++ (if p.head? == some 45 then Bytes.ofString "#" else []) ++ p ++
      Bytes.ofString "]"
  | _ =>
    if p.all (fun b => isAlnumByte b || b == asciiByte '_') then asciiByte '.' :: p
    else if p.head? == some (asciiByte '[') && p.length ≥ 3 && p.getLast? == some (asciiByte ']')
    then p
    else Bytes.ofString ".\"" ++ p ++ Bytes.ofString "\""

/-- How `json_extract` and its operators give what they find. -/
inductive ExtractStyle where
  /-- `json_extract`: a value, arrays and objects as marked text. -/
  | value
  /-- `->`: JSON text, marked. -/
  | text
  /-- `->>`: a value, never marked. -/
  | plain
  deriving DecidableEq, Inhabited, Repr

/-- Follow a path argument into a document. -/
def locate (style : ExtractStyle) (doc : Document) (arg : Datum) (path : Bytes) : Reach :=
  if path.head? == some (asciiByte '$') then doc.find path.tail
  else if style == .value then .badPath
  else doc.find (arrowPath arg path)

/-- `json_extract`, `->` and `->>`. -/
def extractJson (style : ExtractStyle) (args : List Marked) : Except Fault Marked := do
  match args with
  | j :: p :: more =>
    match ← documentOf j.value with
    | none => pure (.plain .null)
    | some doc =>
      if more.isEmpty then
        match pathText p.value with
        | none => pure (.plain .null)
        | some path =>
          match locate style doc p.value path with
          | .found d =>
            match style with
            | .text => pure (.jsonText (← documentText d))
            | .plain => pure (.plain (← d.sqlValue))
            | .value => pure { value := ← d.sqlValue, json := d.isContainer }
          | .missing => pure (.plain .null)
          | .badPath => throw (badJsonPath path)
      else
        let rec parts : List Marked → Except Fault (Option (List Bytes))
          | [] => pure (some [])
          | q :: rest =>
            match pathText q.value with
            | none => pure none
            | some path => do
              let part ← match locate .value doc q.value path with
                | .found d => documentText d
                | .missing => pure (Bytes.ofString "null")
                | .badPath => throw (badJsonPath path)
              pure ((part :: ·) <$> (← parts rest))
        match ← parts (p :: more) with
        | some ps => pure (.jsonText ([asciiByte '['] ++ joinBytes [asciiByte ','] ps ++ [asciiByte ']']))
        | none => pure (.plain .null)
  | _ => pure (.plain .null)

/-- Follow an optional path argument of `json_type` and `json_array_length`: the document
found, none for nothing found or a null path. -/
def optionalPath (doc : Document) (arg : Option Marked) : Except Fault (Option Document) :=
  match arg with
  | none => pure (some doc)
  | some p =>
    match pathText p.value with
    | none => pure none
    | some path =>
      let reach := if path.head? == some (asciiByte '$') then doc.find path.tail else .badPath
      match reach with
      | .found d => pure (some d)
      | .missing => pure none
      | .badPath => throw (badJsonPath path)

/-- `json_type`: the kind of the document or of what the path finds. -/
def jsonType (args : List Marked) : Except Fault Marked := do
  match ← documentOf (args.headD default).value with
  | none => pure (.plain .null)
  | some doc =>
    match ← optionalPath doc args[1]? with
    | some d => pure (.plain (Datum.ofString d.typeName))
    | none => pure (.plain .null)

/-- `json_array_length`: the number of items of the array, 0 for anything else. -/
def jsonArrayLength (args : List Marked) : Except Fault Marked := do
  match ← documentOf (args.headD default).value with
  | none => pure (.plain .null)
  | some doc =>
    match ← optionalPath doc args[1]? with
    | some (.array items) => pure (.plain (Datum.ofInt items.length))
    | some _ => pure (.plain (Datum.ofInt 0))
    | none => pure (.plain .null)

/-- `json_valid`: whether the text is JSON, under flags: 1 for JSON, 2 for JSON5, 4 and 8 for
a byte string in the binary form, looked at briefly or fully. -/
def jsonValid (args : List Marked) : Except Fault Marked := do
  let flags ← match args[1]? with
    | none => pure 1
    | some f =>
      let v := f.value.toInt
      if v < 1 || v > 15 then
        throw (Fault.error "FLAGS parameter to json_valid() must be between 1 and 15")
      else pure v.toNat
  let d := (args.headD default).value
  let text : Datum → Bool := fun d =>
    if flags % 4 == 0 then false
    else
      match readDocument d.textOrEmpty with
      | .ok _ loose => !loose || flags / 2 % 2 == 1
      | .bad _ => false
  match d with
  | .null => pure (.plain .null)
  | .blob b =>
    if looksBinary b then
      pure (.plain (Datum.ofBool (flags / 4 % 2 == 1 ||
        (flags / 8 % 2 == 1 && (readBinary b).isSome))))
    else pure (.plain (Datum.ofBool (text d)))
  | _ => pure (.plain (Datum.ofBool (text d)))

/-- `json_error_position`: 0 for JSON text, else the character position, from 1, of its first
fault. -/
def jsonErrorPosition (arg : Marked) : Marked :=
  match arg.value with
  | .null => .plain .null
  | .blob b =>
    if looksBinary b then .plain (Datum.ofInt (if (readBinary b).isSome then 0 else 1))
    else position b
  | d => position d.textOrEmpty
where
  position (t : Bytes) : Marked :=
    match readDocument t with
    | .ok _ _ => .plain (Datum.ofInt 0)
    | .bad p => .plain (Datum.ofInt (faultPosition t p))

/-- `json_object`: labels and values in pairs. -/
def jsonObject (args : List Marked) : Except Fault Marked := do
  if args.length % 2 == 1 then
    throw (Fault.error "json_object() requires an even number of arguments")
  let rec pairs : List Marked → List (Marked × Marked)
    | k :: v :: rest => (k, v) :: pairs rest
    | _ => []
  let ps := pairs args
  if !ps.all (fun (k, _) => k.value.isText) then
    throw (Fault.error "json_object() labels must be TEXT")
  let parts ← ps.mapM fun (k, v) => do
    pure (quoteText k.value.textOrEmpty ++ [asciiByte ':'] ++ (← valueText v))
  pure (.jsonText ([asciiByte '{'] ++ joinBytes [asciiByte ','] parts ++ [asciiByte '}']))

/-- `json_set`, `json_insert` and `json_replace`: a document edited at each path in turn; none
for a null document. -/
def editedDocument (mode : EditMode) (name : String) (args : List Marked) :
    Except Fault (Option Document) := do
  match args with
  | [] => pure none
  | j :: rest =>
    if rest.length % 2 == 1 then
      throw (Fault.error ("json_" ++ name ++ "() needs an odd number of arguments"))
    match ← documentOf j.value with
    | none => pure none
    | some doc =>
      let rec apply : Document → List Marked → Except Fault Document
        | doc, p :: v :: more =>
          match pathText p.value with
          | none => apply doc more
          | some path =>
            if path.head? != some (asciiByte '$') then throw (badJsonPath path)
            else do
              let value ← valueDocument v
              match Document.editAt mode value path.tail doc with
              | .done d => apply d more
              | .missing => apply doc more
              | .badPath => throw (badJsonPath path)
        | doc, _ => pure doc
      some <$> apply doc rest

/-- `json_remove`: a document with what each path finds removed; none when the document or a
path is null, or a path is the root. -/
def removedDocument (args : List Marked) : Except Fault (Option Document) := do
  match args with
  | [] => pure none
  | j :: paths =>
    match ← documentOf j.value with
    | none => pure none
    | some doc =>
      let rec apply : Document → List Marked → Except Fault (Option Document)
        | doc, p :: more =>
          match pathText p.value with
          | none => pure none
          | some path =>
            if path.head? != some (asciiByte '$') then throw (badJsonPath path)
            else if path.length == 1 then pure none
            else
              match Document.editAt .remove .null path.tail doc with
              | .done d => apply d more
              | .missing => apply doc more
              | .badPath => throw (badJsonPath path)
        | doc, [] => pure (some doc)
      apply doc paths

/-- `json_patch`: a document with a merge patch applied; none when either is null. -/
def patchedDocument (target patch : Marked) : Except Fault (Option Document) := do
  match ← documentOf target.value with
  | none => pure none
  | some t =>
    match ← documentOf patch.value with
    | none => pure none
    | some p => pure (some (t.mergePatch p))

/-- `json_pretty`: a document laid out over lines, indented by four spaces or by the text
given. -/
def jsonPretty (args : List Marked) : Except Fault Marked := do
  match ← documentOf (args.headD default).value with
  | none => pure (.plain .null)
  | some doc =>
    let unit := match args[1]? with
      | some u =>
        match u.value.toText? with
        | some t => Bytes.untilNul t
        | none => Bytes.ofString "    "
      | none => Bytes.ofString "    "
    match doc.pretty unit 0 with
    | some b => pure (.plain (.text b))
    | none => throw malformedJson

/-- The JSON functions. -/
inductive JsonFn where
  | json | array | object | quote | extract | arrow | arrowValue | type | valid | arrayLength
  | errorPosition | set | insert | replace | remove | patch | pretty
  /-- The value of its argument, marked as JSON: the value of `json_group_array` and
  `json_group_object`. -/
  | mark
  deriving DecidableEq, Inhabited, Repr

/-- A document a function gives, as marked JSON text; null for none. -/
def givenAsText (d : Option Document) : Except Fault Marked :=
  match d with
  | some d => .jsonText <$> documentText d
  | none => pure (.plain .null)

/-- A document a function gives, as a byte string in the binary form; null for none. -/
def givenAsBinary (d : Option Document) : Marked :=
  match d with
  | some d => .plain (.blob d.encode)
  | none => .plain .null

/-- Apply a JSON function to its arguments. -/
def JsonFn.apply (f : JsonFn) (args : List Marked) : Except Fault Marked := do
  let a0 := args.headD default
  match f with
  | .json => givenAsText (← documentOf a0.value)
  | .array =>
    let parts ← args.mapM valueText
    pure (.jsonText ([asciiByte '['] ++ joinBytes [asciiByte ','] parts ++ [asciiByte ']']))
  | .object => jsonObject args
  | .quote => pure (.jsonText (← valueText a0))
  | .extract => extractJson .value args
  | .arrow => extractJson .text args
  | .arrowValue => extractJson .plain args
  | .type => jsonType args
  | .valid => jsonValid args
  | .arrayLength => jsonArrayLength args
  | .errorPosition => pure (jsonErrorPosition a0)
  | .set => givenAsText (← editedDocument .set "set" args)
  | .insert => givenAsText (← editedDocument .insert "insert" args)
  | .replace => givenAsText (← editedDocument .replace "replace" args)
  | .remove => givenAsText (← removedDocument args)
  | .patch => givenAsText (← patchedDocument a0 (args.getD 1 default))
  | .pretty => jsonPretty args
  | .mark => pure { a0 with json := true }

/-- Apply the form of a JSON function that gives its documents in the binary form: the same
document, but a byte string in place of marked text. A document built as text is read back
first, so that its strings take the forms they have in that text. -/
def JsonFn.applyBinary (f : JsonFn) (args : List Marked) : Except Fault Marked := do
  let a0 := args.headD default
  match f with
  | .json => pure (givenAsBinary (← documentOf a0.value))
  | .set => pure (givenAsBinary (← editedDocument .set "set" args))
  | .insert => pure (givenAsBinary (← editedDocument .insert "insert" args))
  | .replace => pure (givenAsBinary (← editedDocument .replace "replace" args))
  | .remove => pure (givenAsBinary (← removedDocument args))
  | .patch => pure (givenAsBinary (← patchedDocument a0 (args.getD 1 default)))
  | _ =>
    let m ← f.apply args
    match m.json, m.value with
    | true, .text t => pure (givenAsBinary (some (← parseJson t)))
    | _, _ => pure { m with json := false }

/-- Whether a function's result always carries the JSON mark when it is not null. -/
def JsonFn.marks (f : JsonFn) (argc : Nat) : Bool :=
  match f with
  | .json | .array | .object | .quote | .arrow | .set | .insert | .replace | .remove | .patch
  | .mark => true
  | .extract => argc > 2
  | _ => false

end Database

end EntityGraph
