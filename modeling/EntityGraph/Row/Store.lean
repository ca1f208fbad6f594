import EntityGraph.Row.ModelRow

/-!
# Shared rows

A loaded row is one object shared by everything that holds it: the row cache and every instance
that was loaded from it, in any session of an engine. A change made through one holder, such as
refreshing a clean row with newer stored values, is seen by all of them, while an instance that
wants to change a shared row first takes a private copy.

The rows of an engine are kept in a `RowStore`, and holders keep `RowRef`s into it. Rows are
never removed: a row no longer held by anything simply stays unused.
-/

namespace EntityGraph

/-- A reference to a row of a row store. -/
structure RowRef where
  index : Nat
  deriving DecidableEq, Inhabited, Repr

/-- The rows shared by the holders of an engine. -/
structure RowStore where
  rows : Array ModelRow := #[]
  deriving Inhabited

namespace RowStore

/-- The row a reference points at (a blank row for a reference the store never gave out). -/
def get (s : RowStore) (r : RowRef) : ModelRow := s.rows[r.index]?.getD default

/-- Keep a new row and return its reference. -/
def add (s : RowStore) (row : ModelRow) : RowStore × RowRef :=
  (⟨s.rows.push row⟩, ⟨s.rows.size⟩)

/-- Change the row a reference points at. -/
def modify (s : RowStore) (r : RowRef) (f : ModelRow → ModelRow) : RowStore :=
  ⟨s.rows.modify r.index f⟩

end RowStore

end EntityGraph
