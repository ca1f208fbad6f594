import EntityGraph.Database.Grammar.Reader

/-!
# Why a statement fails

A failure of the store is its numeric result code and its message. Codes follow the store's
own numbering: 1 for a statement that cannot run as written, 6 for a table locked by another
connection, 8 for a write to a database opened for reading, 18 for a value too big, 19 for a
violated constraint, 20 for a value of the wrong type, 21 for misuse of the interface, 25 for a
parameter index out of range.

The helpers below name the failures that occur in more than one place, so that their messages
are written once.
-/

namespace EntityGraph

namespace Database

/-- A failure of the store: its result code and its message. -/
structure Fault where
  code : Nat
  message : String
  deriving Inhabited, Repr

namespace Fault

/-- A statement that cannot run as written. -/
def error (message : String) : Fault := { code := 1, message }

/-- A violated constraint. -/
def constraint (message : String) : Fault := { code := 19, message }

/-- A statement that could not be read. -/
def unreadable (f : SyntaxFault) : Fault := error f.message

/-- A value of the wrong type for where it goes. -/
def mismatch : Fault := { code := 20, message := "datatype mismatch" }

/-- Integer arithmetic that leaves 64 bits where no real may stand in. -/
def integerOverflow : Fault := error "integer overflow"

/-- A text or byte string longer than the store takes. -/
def tooBig : Fault := { code := 18, message := "string or blob too big" }

/-- A table locked by another connection. -/
def tableLocked (table : Option String) : Fault :=
  { code := 6, message := match table with
      | some t => "database table is locked: " ++ t
      | none => "database table is locked" }

/-- A schema changed by another connection's open transaction. -/
def schemaLocked : Fault := { code := 6, message := "database schema is locked: main" }

/-- A parameter index beyond the statement's parameters. -/
def parameterRange : Fault := { code := 25, message := "column index out of range" }

/-- A write to a database opened for reading only. -/
def readOnly : Fault := { code := 8, message := "attempt to write a readonly database" }

/-- A statement run where the interface does not allow it. -/
def misuse : Fault := { code := 21, message := "bad parameter or other API misuse" }

/-- The ordinal word of a position: `1st`, `2nd`, `3rd`, `4th`, and so on. -/
def ordinal (n : Nat) : String :=
  let suffix :=
    if n % 100 ≥ 11 && n % 100 ≤ 13 then "th"
    else match n % 10 with
      | 1 => "st"
      | 2 => "nd"
      | 3 => "rd"
      | _ => "th"
  toString n ++ suffix

/-- A column number of `ORDER BY` or `GROUP BY` outside the result columns. -/
def termRange (position : Nat) (clause : String) (count : Nat) : Fault :=
  error (ordinal position ++ " " ++ clause ++ " BY term out of range - should be between 1 and " ++
    toString count)

/-- A name that is no column of any source in scope. -/
def noSuchColumn (name : String) : Fault := error ("no such column: " ++ name)

/-- A table or view that does not exist. -/
def noSuchTable (name : String) : Fault := error ("no such table: " ++ name)

/-- A function that does not exist. -/
def noSuchFunction (name : String) : Fault := error ("no such function: " ++ name)

/-- A function called with a count of arguments it does not take. -/
def argumentCount (name : String) : Fault :=
  error ("wrong number of arguments to function " ++ name ++ "()")

/-- A failed `NOT NULL` constraint. -/
def notNull (table column : String) : Fault :=
  constraint ("NOT NULL constraint failed: " ++ table ++ "." ++ column)

/-- A failed `CHECK` constraint. -/
def check (label : String) : Fault := constraint ("CHECK constraint failed: " ++ label)

/-- A failed uniqueness constraint over columns of a table. -/
def unique (table : String) (columns : List String) : Fault :=
  constraint ("UNIQUE constraint failed: " ++ ", ".intercalate (columns.map (table ++ "." ++ ·)))

/-- A value of a kind a column of a strict table does not take. -/
def datatype (kind type table column : String) : Fault :=
  constraint ("cannot store " ++ kind ++ " value in " ++ type ++ " column " ++ table ++ "." ++ column)

/-- A failed foreign key constraint. -/
def foreignKey : Fault := constraint "FOREIGN KEY constraint failed"

end Fault

end Database

end EntityGraph
