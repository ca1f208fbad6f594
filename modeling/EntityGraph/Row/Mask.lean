/-!
# Column masks

The set of columns of a row that were changed since the row was last saved. A mask is a finite
set of column positions, kept as a strictly ascending list, so that listing it gives the
positions in ascending order and each at most once.
-/

namespace EntityGraph

/-- A finite set of column positions, ascending without repeats. -/
structure ColumnMask where
  /-- The positions in the set, ascending. -/
  toList : List Nat
  deriving DecidableEq, Inhabited, Repr

namespace ColumnMask

/-- The empty mask. -/
def empty : ColumnMask := ⟨[]⟩

/-- Insert a position into an ascending list, keeping it ascending without repeats. -/
def insertSorted (i : Nat) : List Nat → List Nat
  | [] => [i]
  | j :: rest => if i < j then i :: j :: rest else if i == j then j :: rest else j :: insertSorted i rest

/-- Add a position. -/
def set (m : ColumnMask) (i : Nat) : ColumnMask := ⟨insertSorted i m.toList⟩

/-- Whether a position is in the mask. -/
def isSet (m : ColumnMask) (i : Nat) : Bool := m.toList.contains i

/-- Whether the mask holds any position. -/
def any (m : ColumnMask) : Bool := !m.toList.isEmpty

/-- The empty mask, whatever was set. -/
def clear (_ : ColumnMask) : ColumnMask := empty

end ColumnMask

end EntityGraph
