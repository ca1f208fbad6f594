import EntityGraph.Database.JsonFunction

/-!
# The values of a document as rows

Two table-valued functions read a document as rows: `json_each` gives a row for each item of
the array or member of the object it starts from (or for that value alone, when it is not a
container), and `json_tree` a row for every value from there down, each container before what
it holds. They take the document and, optionally, a path to the value to start from.

Each row names its value by where it stands in the document's binary form (`Document.encode`):
- `id` is the offset of the value, or of its label for an object member;
- `parent` is the `id` of the container holding it (`json_tree` only);
- `key` is the member's label or the item's index; `fullkey` is the path of the value, and
  `path` the path of the container holding it, both starting from the path given;
- `value` is the value as a result (a container as its JSON text, which carries the JSON mark),
  `type` its kind, and `atom` the value when it is not a container;
- the hidden columns `json` and `root` repeat the arguments.

Rules that fix the results:
- A path step to a label of letters and digits starting with a letter is written `.label`, any
  other label `."label"` with its escapes as they stand, an item `[N]`.
- The first row of `json_tree` started at a path has as its key the part of the path after the
  last step that leads to the first value of its container; its `path` is the path before that
  step (`rootStepAt`). Started at the root, it has no key and the path `$`.
- `json_each` started at a value that is not a container gives one row for it, with no key.
- A null document or path gives no rows; a path that finds nothing gives no rows; a path that
  does not start with `$` or is malformed is an error, as is text that is not JSON.
-/

namespace EntityGraph

namespace Database

/-- Which values of a document a table-valued function gives as rows. -/
inductive DocumentWalk where
  /-- The items of the value started from, or that value alone. -/
  | each
  /-- Every value from the one started from down, depth first. -/
  | tree
  deriving DecidableEq, Inhabited, Repr

namespace DocumentWalk

/-- The name of the function. -/
def name : DocumentWalk → String
  | .each => "json_each"
  | .tree => "json_tree"

/-- The function a name stands for, in any case. -/
def ofName? (n : String) : Option DocumentWalk :=
  match n.toLower with
  | "json_each" => some .each
  | "json_tree" => some .tree
  | _ => none

/-- The columns of the rows; the last two hold the arguments and a star leaves them out. -/
def columnNames : List String :=
  ["key", "value", "type", "atom", "id", "parent", "fullkey", "path", "json", "root"]

/-- How many of the columns a star stands for. -/
def shownColumns : Nat := 8

/-- The most arguments the functions take. -/
def maxArguments : Nat := 2

end DocumentWalk

/-! ## Offsets in the binary form -/

/-- The items of an array with the offset of each, the first at `pos`. -/
def placeItems (pos : Nat) : List Document → List (Document × Nat)
  | [] => []
  | d :: rest => (d, pos) :: placeItems (pos + d.encode.length) rest

/-- The members of an object with the offsets of each label and value, the first at `pos`. -/
def placeMembers (pos : Nat) : List (DocText × Document) → List (DocText × Document × Nat × Nat)
  | [] => []
  | (l, v) :: rest =>
    let valueAt := pos + l.encode.length
    (l, v, pos, valueAt) :: placeMembers (valueAt + v.encode.length) rest

/-- Where a path leads in a document. -/
inductive Placed where
  /-- The value found, its offset, and the offset of its label when the last step was a label
  step. -/
  | found (doc : Document) (pos : Nat) (label : Option Nat)
  | missing
  | badPath
  deriving Inhabited

/-- Follow a path, without its `$`, into a document whose value is at `pos`, as
`Document.lookup` does, keeping the offsets of what is passed. -/
def Document.place : (fuel : Nat) → Bytes → Document → Nat → Option Nat → Placed
  | 0, _, _, _, _ => .badPath
  | fuel + 1, path, d, pos, label =>
    match path with
    | [] => .found d pos label
    | 46 :: rest =>
      match labelStep rest with
      | none => .badPath
      | some (key, keyRaw, after) =>
        match d with
        | .object members =>
          let placed := placeMembers (pos + d.headerLength) members
          match placed.find? (fun (l, _) => labelsMatch key keyRaw l.bytes l.isRaw) with
          | some (_, v, labelAt, valueAt) => Document.place fuel after v valueAt (some labelAt)
          | none => .missing
        | _ => .missing
    | 91 :: rest =>
      match d with
      | .array items =>
        match indexStep items.length rest with
        | .at k after =>
          match (placeItems (pos + d.headerLength) items)[k]? with
          | some (v, valueAt) => Document.place fuel after v valueAt none
          | none => .missing
        | .missing => .missing
        | .badPath => .badPath
      | _ => .missing
    | _ => .badPath

/-- Follow a path, without its `$`, from the start of a document. -/
def Document.placeAt (path : Bytes) (d : Document) : Placed :=
  d.place (path.length + 1) path 0 none

/-! ## Rows -/

/-- One value of a document as a row, before its columns are computed. -/
structure WalkRow where
  key : Datum
  node : Document
  id : Nat
  parent : Option Nat
  fullkey : Bytes
  path : Bytes
  deriving Inhabited

/-- The path step to a member: `.label`, or `."label"` unless the label is letters and digits
starting with a letter; the label is written up to a NUL. -/
def labelPathStep (l : DocText) : Bytes :=
  let plain := match l.bytes with
    | c :: _ => isLetterByte c && l.bytes.all isAlnumByte
    | [] => false
  let z := Bytes.untilNul l.bytes
  if plain then asciiByte '.' :: z else Bytes.ofString ".\"" ++ z ++ [asciiByte '"']

/-- The path step to an item: `[N]`. -/
def indexPathStep (k : Nat) : Bytes := Bytes.ofString ("[" ++ toString k ++ "]")

mutual

/-- The rows of the items of an array from index `k` on, the item at `pos`, under a parent and
a path; for a tree, each followed by the rows of what it holds. -/
def itemRows (tree : Bool) (parent : Option Nat) (path : Bytes) :
    Nat → Nat → List Document → List WalkRow
  | _, _, [] => []
  | k, pos, d :: rest =>
    let fullkey := path ++ indexPathStep k
    let row : WalkRow := { key := Datum.ofInt k, node := d, id := pos, parent, fullkey, path }
    let inner := if tree then containerRows tree pos pos fullkey d else []
    row :: (inner ++ itemRows tree parent path (k + 1) (pos + d.encode.length) rest)

/-- The rows of the members of an object, the first label at `pos`, under a parent and a path;
for a tree, each followed by the rows of what it holds. -/
def memberRows (tree : Bool) (parent : Option Nat) (path : Bytes) :
    Nat → List (DocText × Document) → List WalkRow
  | _, [] => []
  | pos, (l, v) :: rest =>
    let fullkey := path ++ labelPathStep l
    let valueAt := pos + l.encode.length
    let row : WalkRow := { key := .text l.text, node := v, id := pos, parent, fullkey, path }
    let inner := if tree then containerRows tree pos valueAt fullkey v else []
    row :: (inner ++ memberRows tree parent path (valueAt + v.encode.length) rest)

/-- The rows of what a container holds, the container having the id `id`, its value at `pos`
and the path `path`; a tree gives the container's id as the parent of each. -/
def containerRows (tree : Bool) (id pos : Nat) (path : Bytes) : Document → List WalkRow
  | .array items =>
    itemRows tree (if tree then some id else none) path 0
      (pos + (Document.array items).headerLength) items
  | .object members =>
    memberRows tree (if tree then some id else none) path
      (pos + (Document.object members).headerLength) members
  | _ => []

end

/-- Where the first row of `json_tree` splits the path it started from: at the last step, going
backwards, whose value is the first in the container the path before it leads to; else after
the `$`. -/
def rootStepAt (doc : Document) (root : Bytes) (id : Nat) : Nat :=
  let n := root.length
  if n < 2 then n
  else
    let starts := (List.range (n - 1)).reverse.map (· + 1)
    let firstThere (m : Nat) : Bool :=
      let c := root.getD m 0
      (c == asciiByte '.' || c == asciiByte '[') &&
        match doc.placeAt ((root.drop 1).take (m - 1)) with
        | .found x pos _ => pos + x.headerLength == id
        | _ => false
    (starts.find? firstThere).getD 1

/-- The key of the first row, from the step of the path starting at `j`: an index, or a label
without its dot and quotes; none when no step is left. -/
def rootKey (root : Bytes) (j : Nat) : Datum :=
  let n := root.length - j
  if root.length == 1 || n == 0 then .null
  else if root.getD j 0 == asciiByte '[' then
    Datum.ofInt (digitsValue (((root.drop (j + 1)).take (n - 1)).takeWhile isDigitByte))
  else if root.getD (j + 1) 0 == asciiByte '"' then .text ((root.drop (j + 2)).take (n - 3))
  else .text ((root.drop (j + 1)).take (n - 1))

/-- The rows of a walk from the value a path found: its value `found` at `pos`, with a label
at `label` when the last step of the path was a label step. -/
def walkRows (walk : DocumentWalk) (doc : Document) (root : Bytes) (found : Document)
    (pos : Nat) (label : Option Nat) : List WalkRow :=
  let id := label.getD pos
  match walk with
  | .each =>
    if found.isContainer then containerRows false id pos root found
    else [{ key := .null, node := found, id, parent := none, fullkey := root, path := root }]
  | .tree =>
    let j := rootStepAt doc root id
    { key := rootKey root j, node := found, id, parent := none, fullkey := root,
      path := root.take j } :: containerRows true id pos root found

/-- A row of a walk as values, with whether its value carries the JSON mark. -/
structure DocumentRow where
  values : List Datum
  /-- The value is an array or object, given as JSON text. -/
  marked : Bool
  deriving Inhabited

/-- The columns of a row: key, value, type, atom, id, parent, full key, path, and the two
arguments. -/
def WalkRow.columns (r : WalkRow) (input root : Datum) : Except Fault DocumentRow := do
  let value ← r.node.sqlValue
  let atom := if r.node.isContainer then .null else value
  let parent := match r.parent with
    | some p => Datum.ofInt p
    | none => .null
  pure { values := [r.key, value, Datum.ofString r.node.typeName, atom, Datum.ofInt r.id, parent,
                    .text r.fullkey, .text r.path, input, root],
         marked := r.node.isContainer }

/-- The `json` column: the document argument as text up to a NUL, or a byte string in the
binary form as it is. -/
def inputColumn (d : Datum) : Datum :=
  match d with
  | .blob b => if takenAsBinary b then d else .text (Bytes.untilNul b)
  | _ => .text (Bytes.untilNul d.textOrEmpty)

/-- The rows of `json_each` or `json_tree` over its arguments: the document, and the path of the
value to start from. -/
def documentRows (walk : DocumentWalk) (args : List Datum) : Except Fault (List DocumentRow) := do
  match args with
  | [] => pure []
  | input :: rest =>
    match ← documentOf input with
    | none => pure []
    | some doc =>
      let start : Option (Bytes × Placed) ← match rest with
        | [] => pure (some (Bytes.ofString "$", .found doc 0 none))
        | p :: _ =>
          match pathText p with
          | none => pure none
          | some path =>
            if path.head? != some (asciiByte '$') then throw (badJsonPath path)
            else if path.length == 1 then pure (some (path, .found doc 0 none))
            else pure (some (path, doc.placeAt path.tail))
      match start with
      | none => pure []
      | some (_, .missing) => pure []
      | some (path, .badPath) => throw (badJsonPath path)
      | some (root, .found found pos label) =>
        (walkRows walk doc root found pos label).mapM
          (·.columns (inputColumn input) (.text root))

end Database

end EntityGraph
