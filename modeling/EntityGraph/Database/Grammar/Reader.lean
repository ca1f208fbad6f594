import EntityGraph.Database.Syntax
import EntityGraph.Database.Token

/-!
# Reading tokens

The state a statement is read with, and the steps every part of the grammar is built from:
looking at the next token, moving past it, accepting a keyword or symbol, reading a name.

A statement that cannot be read is reported at the token where reading stopped: the end of the
text gives `incomplete input`, text that is no token gives `unrecognized token`, and any other
token gives `near "…"`, quoting the token as written.

Keywords that may stand for names do so wherever the grammar takes a name and the keyword has
no meaning of its own at that point (`Read.nameToken?`).
-/

namespace EntityGraph

namespace Database

/-- Why a statement could not be read. -/
inductive SyntaxFault where
  /-- The token, as written, at which reading stopped. -/
  | near (text : String)
  /-- The text ended inside a statement. -/
  | incomplete
  /-- Text that is no token. -/
  | unrecognized (text : String)
  /-- Any other fault, by its message. -/
  | other (message : String)
  deriving Inhabited, Repr

/-- The message of a fault. -/
def SyntaxFault.message : SyntaxFault → String
  | .near t => "near \"" ++ t ++ "\": syntax error"
  | .incomplete => "incomplete input"
  | .unrecognized t => "unrecognized token: \"" ++ t ++ "\""
  | .other m => m

/-- What the reader keeps while reading one statement. -/
structure ReadState where
  tokens : Array Token
  text : Array Char
  /-- The index of the next token. -/
  pos : Nat
  /-- The largest parameter number given out. -/
  parameterCount : Nat := 0
  /-- Named parameters and their numbers. -/
  names : List (String × Nat) := []
  deriving Inhabited

namespace Token

/-- Whether a token is the keyword `w`. -/
def isKw (t : Token) (w : String) : Bool := t.kind == .keyword w

/-- Whether a token is the symbol `s`. -/
def isSym (t : Token) (s : String) : Bool := t.kind == .symbol s

end Token

/-- Reading a statement from its tokens. -/
abbrev Read := StateT ReadState (Except SyntaxFault)

namespace Read

/-- The token at an offset from the next one; past the end, the end token. -/
def peekAt (k : Nat) : Read Token := do
  let s ← get
  match s.tokens[s.pos + k]? with
  | some t => pure t
  | none => pure { kind := .finish, text := "", start := s.text.size, stop := s.text.size }

/-- The fault of stopping at a token. -/
def faultAt (t : Token) : SyntaxFault :=
  match t.kind with
  | .finish => .incomplete
  | .illegal => .unrecognized t.text
  | _ => .near t.text

/-- The next token; text that is no token stops reading as soon as it is reached. -/
def peek : Read Token := do
  let t ← peekAt 0
  if t.kind == .illegal then throw (faultAt t) else pure t

/-- Move past the next token. -/
def advance : Read Unit := modify fun s => { s with pos := s.pos + 1 }

/-- The next token, moving past it. -/
def take : Read Token := do
  let t ← peek
  advance
  pure t

/-- Fail at a token. -/
def failAt {α : Type} (t : Token) : Read α := throw (faultAt t)

/-- Fail at the next token. -/
def fail {α : Type} : Read α := do failAt (← peek)

/-- Whether the next token is the keyword `w`. -/
def atKw (w : String) : Read Bool := do pure ((← peek).kind == .keyword w)

/-- Whether the next token is the symbol `s`. -/
def atSym (s : String) : Read Bool := do pure ((← peek).kind == .symbol s)

/-- Move past the keyword `w` if it is next. -/
def acceptKw (w : String) : Read Bool := do
  if ← atKw w then advance; pure true else pure false

/-- Move past the symbol `s` if it is next. -/
def acceptSym (s : String) : Read Bool := do
  if ← atSym s then advance; pure true else pure false

/-- Move past the keyword `w`, or fail. -/
def expectKw (w : String) : Read Unit := do
  if ← acceptKw w then pure () else fail

/-- Move past the symbol `s`, or fail. -/
def expectSym (s : String) : Read Unit := do
  if ← acceptSym s then pure () else fail

/-- Whether a token is a keyword that joins sources. -/
def isJoinKeyword (t : Token) : Bool := joinKeywords.any fun w => t.kind == .keyword w

/-- The kinds of token a name can be written as at some point of the grammar: names proper,
keywords that may stand for names, and, as the point allows, strings, join keywords and
`INDEXED`. -/
structure NameKinds where
  strings : Bool := false
  joins : Bool := false
  indexed : Bool := false

/-- Names of tables, columns and other objects: any name, string, join keyword or `INDEXED`. -/
def NameKinds.object : NameKinds := { strings := true, joins := true, indexed := true }

/-- Names in expressions: any name, join keyword or `INDEXED`, but no string. -/
def NameKinds.inExpr : NameKinds := { joins := true, indexed := true }

/-- Names and strings, as aliases and type names are written. -/
def NameKinds.orString : NameKinds := { strings := true }

/-- Whether a token can be read as a name of the given kinds. -/
def NameKinds.admits (k : NameKinds) (t : Token) : Bool :=
  Token.isNameLike t || (k.strings && t.kind == .string) || (k.joins && isJoinKeyword t) ||
    (k.indexed && t.kind == .keyword "INDEXED")

/-- The next token if it can be read as a name of the given kinds. -/
def nameToken? (k : NameKinds) : Read (Option Token) := do
  let t ← peek
  if k.admits t then advance; pure (some t) else pure none

/-- A name of the given kinds, without its quotes. -/
def nameOf (k : NameKinds) : Read String := do
  match ← nameToken? k with
  | some t => pure t.value
  | none => fail

/-- A name of a table, column or other object. -/
def name : Read String := nameOf .object

/-- A name, qualified by a schema or not. -/
def qualifiedName : Read QualifiedName := do
  let first ← name
  if ← acceptSym "." then pure { schema := some first, name := ← name }
  else pure { name := first }

/-- The text between two positions of the source. -/
def textBetween (start stop : Nat) : Read String := do
  pure (String.ofList ((← get).text.extract start stop).toList)

/-- The text between two positions, blanks at both ends removed. -/
def spanBetween (start stop : Nat) : Read String := do
  let cs := ((← get).text.extract start stop).toList
  let cs := cs.dropWhile Token.isSpace
  pure (String.ofList (cs.reverse.dropWhile Token.isSpace).reverse)

/-- The start of the next token, where a span that ends before it stops. -/
def here : Read Nat := do pure (← peekAt 0).start

/-- The end of the token read last. -/
def lastStop : Read Nat := do
  let s ← get
  match s.pos with
  | 0 => pure 0
  | p + 1 => pure ((s.tokens[p]?.map (·.stop)).getD 0)

/-- The number of a parameter token: `?` takes the next number, `?NNN` its own, and a named
parameter the number of its first appearance or the next one. -/
def parameter (t : Token) : Read Nat := do
  let s ← get
  let cs := t.text.toList
  match cs with
  | ['?'] =>
    let i := s.parameterCount + 1
    set { s with parameterCount := i }
    pure i
  | '?' :: ds =>
    let n := ds.foldl (fun acc c => acc * 10 + (c.toNat - '0'.toNat)) 0
    if n == 0 || n > 32766 || ds.length > 18 then
      throw (.other "variable number must be between ?1 and ?32766")
    let names := if s.names.any (·.2 == n) then s.names else s.names ++ [(t.text, n)]
    set { s with parameterCount := max s.parameterCount n, names }
    pure n
  | _ =>
    match s.names.lookup t.text with
    | some i => pure i
    | none =>
      let i := s.parameterCount + 1
      set { s with parameterCount := i, names := s.names ++ [(t.text, i)] }
      pure i

/-- The text of a number written with `_` between digits, without them; a `_` not between two
digits stops reading, quoting the number with the separators removed so far. -/
def dropSeparators (text : String) : Read String := do
  let cs := text.toList
  let hex := match cs with
    | '0' :: x :: _ => x == 'x' || x == 'X'
    | _ => false
  let isDigit (c : Char) : Bool := if hex then Token.isHexDigit c else c.isDigit
  let arr := cs.toArray
  -- walk the characters, writing kept ones over the front of the buffer as the store does
  let rec go : (fuel : Nat) → Nat → Array Char → Option String → Array Char × Option String
    | 0, _, buf, err => (buf, err)
    | fuel + 1, i, buf, err =>
      if h : i < arr.size then
        let c := arr[i]
        if c == '_' then
          let before := if i == 0 then ' ' else arr.getD (i - 1) ' '
          let after := arr.getD (i + 1) ' '
          let err := if !(isDigit before && isDigit after) then
              some (String.ofList (buf.toList ++ (arr.extract buf.size arr.size).toList)) else err
          go fuel (i + 1) buf err
        else go fuel (i + 1) (buf.push c) err
      else (buf, err)
  let (buf, err) := go (arr.size + 1) 0 #[] none
  match err with
  | some e => throw (.other ("unrecognized token: \"" ++ e ++ "\""))
  | none => pure (String.ofList buf.toList)

end Read

end Database

end EntityGraph
