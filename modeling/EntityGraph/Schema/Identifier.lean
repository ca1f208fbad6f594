/-!
# SQL identifiers

Table and column names are written into statements without quoting, so every name the library
accepts is a plain identifier: an ASCII letter or underscore, then ASCII letters, digits and
underscores.
-/

namespace EntityGraph

/-- Whether a character may start an identifier. -/
def isIdentifierStart (c : Char) : Bool :=
  ('a' ≤ c && c ≤ 'z') || ('A' ≤ c && c ≤ 'Z') || c == '_'

/-- Whether a character may continue an identifier. -/
def isIdentifierPart (c : Char) : Bool :=
  isIdentifierStart c || ('0' ≤ c && c ≤ '9')

/-- Whether a name is a plain SQL identifier. -/
def isIdentifier (name : String) : Bool :=
  match name.toList with
  | [] => false
  | c :: rest => isIdentifierStart c && rest.all isIdentifierPart

/-- A table name with an optional schema prefix. -/
def qualifyTable (schema : Option String) (table : String) : String :=
  match schema with
  | some s => s ++ "." ++ table
  | none => table

end EntityGraph
