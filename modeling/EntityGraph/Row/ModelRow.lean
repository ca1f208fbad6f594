import EntityGraph.Row.Mask
import EntityGraph.Schema.Structure

/-!
# Entity rows

The values of one table row of an entity, with its primary key once the row is stored and the
mask of the columns changed since it was last saved. A row without a key has never been saved,
so it counts as modified whatever its mask says.
-/

namespace EntityGraph

/-- One row of an entity's table. -/
structure ModelRow where
  entity : EntityId
  /-- Position of the primary-key column. -/
  primaryKey : Nat
  /-- The key, once the row is stored. -/
  id : Option Int64
  values : List Value
  modified : ColumnMask
  deriving Inhabited, Repr

namespace ModelRow

/-- A row that was never saved: every column `null`. -/
def new (s : Structure) : ModelRow :=
  { entity := s.id, primaryKey := s.primaryKey, id := none,
    values := List.replicate s.columnCount .null, modified := .empty }

/-- A list cut or padded with `null` to a length. -/
def fitValues (n : Nat) (vs : List Value) : List Value :=
  (vs.take n) ++ List.replicate (n - vs.length) .null

/-- A stored row with key `id`: the values cut or padded to the column count, the key column
holding the key, nothing modified. -/
def loaded (s : Structure) (id : Int64) (values : List Value) : ModelRow :=
  { entity := s.id, primaryKey := s.primaryKey, id := some id,
    values := (fitValues s.columnCount values).set s.primaryKey (.bigInt id), modified := .empty }

/-- Record the key, in the key column too. -/
def setId (r : ModelRow) (id : Int64) : ModelRow :=
  { r with id := some id, values := r.values.set r.primaryKey (.bigInt id) }

/-- The value at a position. -/
def get? (r : ModelRow) (i : Nat) : Option Value := r.values[i]?

/-- Change a column, marking it modified. Nothing happens, and the answer is `false`, when the
position is out of range or the column already holds an equal value. -/
def set (r : ModelRow) (i : Nat) (v : Value) : ModelRow × Bool :=
  match r.values[i]? with
  | some old => if old.same v then (r, false)
    else ({ r with values := r.values.set i v, modified := r.modified.set i }, true)
  | none => (r, false)

/-- Overwrite a column without marking it; out-of-range positions are ignored. -/
def assign (r : ModelRow) (i : Nat) (v : Value) : ModelRow := { r with values := r.values.set i v }

/-- Overwrite every column from a list of stored values except the key column; extra values are
ignored and missing ones leave their columns as they are. -/
def refresh (r : ModelRow) (vs : List Value) : ModelRow :=
  vs.zipIdx.foldl (fun r (v, i) => if i == r.primaryKey then r else r.assign i v) r

/-- Whether a save has work to do for this row. -/
def isModified (r : ModelRow) : Bool := r.id.isNone || r.modified.any

/-- Whether a column was changed. -/
def isColumnModified (r : ModelRow) (i : Nat) : Bool := r.modified.isSet i

/-- A copy with the same key and values and nothing modified. -/
def copyForWrite (r : ModelRow) : ModelRow := { r with modified := .empty }

/-- Forget which columns were changed. -/
def clearModified (r : ModelRow) : ModelRow := { r with modified := .empty }

end ModelRow

end EntityGraph
