import EntityGraph.Database.Document

/-!
# Paths into documents

A path names a place in a document: after the `$` of the root, each step is `.label` (or
`."label"` with any characters, backslash escapes kept) for a member of an object, or `[N]`,
`[#]` or `[#-N]` for an item of an array, `#` being the array's length. Paths are read one step
at a time as they are followed, so a step that does not fit the document ends the search
before any later step is read.

Rules that fix the results:
- A label step on anything but an object, and an index step on anything but an array, find
  nothing (`Reach.missing`); an index past the end or `#-N` with `N` past the start also find
  nothing.
- An empty label, an unclosed quote, or an index step that is not one of the three forms is a
  malformed path (`Reach.badPath`); a label step is read before the value is looked at, an index
  step after.
- A label finds the first member it matches (`labelsMatch`).
- Edits (`EditMode`): removing deletes the member or item; replacing changes only what is
  found; inserting adds only what is missing; setting does both. What is missing is added only
  at the end of an object or at index `#` of an array, together with the objects and arrays the
  rest of the path asks for.
- A merge patch (`Document.mergePatch`) follows RFC 7396: a patch that is not an object
  replaces the target; an object patch edits the members of the target (an empty object if the
  target is none), a null value removing a member, other values merged into the member of the
  same label or added at the end.
-/

namespace EntityGraph

namespace Database

/-- What following a path found. -/
inductive Reach where
  | found (doc : Document)
  | missing
  | badPath
  deriving Inhabited

/-- The label of a quoted step, from after its opening quote: the bytes up to the closing
quote, a backslash keeping the byte after it, and the rest after the quote; none when the quote
is not closed. -/
def quotedLabel : Bytes → Option (Bytes × Bytes)
  | [] => none
  | 34 :: rest => some ([], rest)
  | 92 :: c :: rest => (fun (l, r) => (92 :: c :: l, r)) <$> quotedLabel rest
  | c :: rest => (fun (l, r) => (c :: l, r)) <$> quotedLabel rest

/-- The label of a `.` step, from after the dot: the label, whether it holds no escape, and the
rest of the path; none when the step is malformed. -/
def labelStep (path : Bytes) : Option (Bytes × Bool × Bytes) :=
  match path with
  | 34 :: rest =>
    (fun (l, r) => (l, !l.contains 92, r)) <$> quotedLabel rest
  | _ =>
    let label := path.takeWhile fun b => b != asciiByte '.' && b != asciiByte '['
    if label.isEmpty then none else some (label, true, path.drop label.length)

/-- The value of some decimal digits. -/
def digitsValue (ds : Bytes) : Nat := ds.foldl (fun acc d => acc * 10 + digitValue d) 0

/-- What an index step names in an array of a length. -/
inductive IndexStep where
  /-- The item at an index, and the rest of the path after the step. -/
  | at (index : Nat) (rest : Bytes)
  | missing
  | badPath

/-- Read an index step, from after its `[`, against an array's length. -/
def indexStep (count : Nat) (path : Bytes) : IndexStep :=
  let digits := path.takeWhile isDigitByte
  let after := path.drop digits.length
  if !digits.isEmpty && after.head? == some (asciiByte ']') then .at (digitsValue digits) after.tail
  else
    match path with
    | 35 :: rest =>
      let (k, rest) : Option Nat × Bytes := match rest with
        | 45 :: d :: more =>
          if isDigitByte d then
            let back := (d :: more).takeWhile isDigitByte
            let n := digitsValue back
            (if n > count then none else some (count - n), more.drop (back.length - 1))
          else (some count, rest)
        | _ => (some count, rest)
      match k with
      | none => .missing
      | some k => if rest.head? == some (asciiByte ']') then .at k rest.tail else .badPath
    | _ => .badPath

/-- Follow a path, without its `$`, into a document. -/
def Document.lookup : (fuel : Nat) → Bytes → Document → Reach
  | 0, _, _ => .badPath
  | fuel + 1, path, d =>
    match path with
    | [] => .found d
    | 46 :: rest =>
      match labelStep rest with
      | none => .badPath
      | some (key, keyRaw, after) =>
        match d with
        | .object members =>
          match members.find? (fun (l, _) => labelsMatch key keyRaw l.bytes l.isRaw) with
          | some (_, v) => Document.lookup fuel after v
          | none => .missing
        | _ => .missing
    | 91 :: rest =>
      match d with
      | .array items =>
        match indexStep items.length rest with
        | .at k after =>
          match items[k]? with
          | some v => Document.lookup fuel after v
          | none => .missing
        | .missing => .missing
        | .badPath => .badPath
      | _ => .missing
    | _ => .badPath

/-- Follow a path, without its `$`, into a document. -/
def Document.find (path : Bytes) (d : Document) : Reach := d.lookup (path.length + 1) path

/-! ## Edits -/

/-- How an edit treats what its path finds and what it does not. -/
inductive EditMode where
  | remove
  | replace
  | insert
  | set
  deriving DecidableEq, Inhabited, Repr

/-- Whether an edit adds what its path does not find. -/
def EditMode.adds : EditMode → Bool
  | .insert | .set => true
  | _ => false

/-- What an edit gave. -/
inductive Edited where
  /-- The document after the edit. -/
  | done (doc : Document)
  /-- The path found nothing and nothing was added. -/
  | missing
  | badPath
  deriving Inhabited

/-- The index of the first member a label matches. -/
def memberIndex (members : List (DocText × Document)) (key : Bytes) (keyRaw : Bool) : Option Nat :=
  members.findIdx? fun (l, _) => labelsMatch key keyRaw l.bytes l.isRaw

mutual

/-- Edit a document at a path, without its `$`, putting `value` where the mode asks. -/
def Document.edit (mode : EditMode) (value : Document) : (fuel : Nat) → Bytes → Document → Edited
  | 0, _, _ => .badPath
  | fuel + 1, path, d =>
    match path with
    | [] => .done (if mode == .replace || mode == .set then value else d)
    | 46 :: rest =>
      match labelStep rest with
      | none => .badPath
      | some (key, keyRaw, after) =>
        match d with
        | .object members =>
          match memberIndex members key keyRaw with
          | some m =>
            if after.isEmpty then
              match mode with
              | .remove => .done (.object (members.eraseIdx m))
              | .insert => .done d
              | _ => .done (.object (members.modify m fun (l, _) => (l, value)))
            else
              match (members[m]?).map (·.2) with
              | some v =>
                match Document.edit mode value fuel after v with
                | .done v => .done (.object (members.modify m fun (l, _) => (l, v)))
                | other => other
              | none => .missing
          | none =>
            if mode.adds then
              match Document.grow mode value fuel after with
              | .done v =>
                let label : DocText := { form := if keyRaw then .raw else .loose, bytes := key }
                .done (.object (members ++ [(label, v)]))
              | other => other
            else .missing
        | _ => .missing
    | 91 :: rest =>
      match d with
      | .array items =>
        match indexStep items.length rest with
        | .at k after =>
          match items[k]? with
          | some v =>
            if after.isEmpty then
              match mode with
              | .remove => .done (.array (items.eraseIdx k))
              | .insert => .done d
              | _ => .done (.array (items.set k value))
            else
              match Document.edit mode value fuel after v with
              | .done v => .done (.array (items.set k v))
              | other => other
          | none =>
            if k == items.length && mode.adds then
              match Document.grow mode value fuel after with
              | .done v => .done (.array (items ++ [v]))
              | other => other
            else .missing
        | .missing => .missing
        | .badPath => .badPath
      | _ => .missing
    | _ => .badPath

/-- What an edit adds at a missing place with the rest of its path: the value itself when no
path is left, else the value edited into an empty object (for a label step) or array. -/
def Document.grow (mode : EditMode) (value : Document) : (fuel : Nat) → Bytes → Edited
  | 0, _ => .badPath
  | fuel + 1, path =>
    match path with
    | [] => .done value
    | 46 :: _ => Document.edit mode value fuel path (.object [])
    | _ => Document.edit mode value fuel path (.array [])

end

/-- Edit a document at a path, without its `$`. -/
def Document.editAt (mode : EditMode) (value : Document) (path : Bytes) (d : Document) : Edited :=
  Document.edit mode value (2 * path.length + 2) path d

/-! ## Merge patches -/

/-- Whether a document is null. -/
def Document.isNull : Document → Bool
  | .null => true
  | _ => false

mutual

/-- Apply a merge patch to a document. -/
def Document.mergePatch (target : Document) : Document → Document
  | .object patch =>
    let members := match target with
      | .object ms => ms
      | _ => []
    .object (patchMembers members patch)
  | patch => patch

/-- Apply the members of an object patch, in order, to the members of a target. -/
def patchMembers (members : List (DocText × Document)) :
    List (DocText × Document) → List (DocText × Document)
  | [] => members
  | (label, v) :: rest =>
    let members := match memberIndex members label.bytes label.isRaw with
      | some m =>
        if v.isNull then members.eraseIdx m
        else members.modify m fun (l, t) => (l, Document.mergePatch t v)
      | none =>
        if v.isNull then members
        else members ++ [(label, Document.mergePatch .null v)]
    patchMembers members rest

end

end Database

end EntityGraph
