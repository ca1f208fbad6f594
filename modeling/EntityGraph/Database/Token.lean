/-!
# Tokens of statement text

Statement text is cut into tokens one at a time, in the order a reader asks for them; every
token keeps the character positions it spans, so that an unaliased result column can be named
by the text it was written as and a `CHECK` constraint by the text of its expression.

Rules that fix the results:
- Blanks are space, tab, newline, form feed and carriage return (vertical tab only inside a
  run of blanks), and a byte order mark. `--` starts a comment to the end of the line, `/*` one
  to the next `*/` or the end.
- A word is letters, digits, `_`, `$` and characters beyond ASCII, not starting with a digit or
  `$`. A word made of letters and `_` only may be a keyword (`Keyword`); any word may be a name.
- A name may be quoted with `"` or a backquote (the quote doubled stands for itself) or with
  `[ ]`; a string is quoted with `'`. An unclosed quote makes the rest of the text one token that
  is no token.
- A number is digits with an optional fraction and exponent, or `0x` and hexadecimal digits;
  `_` may separate digits. A number running straight into word characters is no token.
- `x'…'` with an even number of hexadecimal digits is a byte string.
- A parameter is `?` with optional digits, or `:`, `@`, `$` or `#` followed by word characters.
- `WINDOW`, `OVER` and `FILTER` are keywords only where a window clause, window or filter can
  follow: otherwise they are names.
-/

namespace EntityGraph

namespace Database

/-- The keywords of the statement language, in upper case. -/
def keywords : List String :=
  ["ABORT", "ACTION", "ADD", "AFTER", "ALL", "ALTER", "ALWAYS", "ANALYZE", "AND", "AS", "ASC",
   "ATTACH", "AUTOINCREMENT", "BEFORE", "BEGIN", "BETWEEN", "BY", "CASCADE", "CASE", "CAST",
   "CHECK", "COLLATE", "COLUMN", "COMMIT", "CONFLICT", "CONSTRAINT", "CREATE", "CROSS",
   "CURRENT", "CURRENT_DATE", "CURRENT_TIME", "CURRENT_TIMESTAMP", "DATABASE", "DEFAULT",
   "DEFERRED", "DEFERRABLE", "DELETE", "DESC", "DETACH", "DISTINCT", "DO", "DROP", "END", "EACH",
   "ELSE", "ESCAPE", "EXCEPT", "EXCLUSIVE", "EXCLUDE", "EXISTS", "EXPLAIN", "FAIL", "FILTER",
   "FIRST", "FOLLOWING", "FOR", "FOREIGN", "FROM", "FULL", "GENERATED", "GLOB", "GROUP", "GROUPS",
   "HAVING", "IF", "IGNORE", "IMMEDIATE", "IN", "INDEX", "INDEXED", "INITIALLY", "INNER",
   "INSERT", "INSTEAD", "INTERSECT", "INTO", "IS", "ISNULL", "JOIN", "KEY", "LAST", "LEFT",
   "LIKE", "LIMIT", "MATCH", "MATERIALIZED", "NATURAL", "NO", "NOT", "NOTHING", "NOTNULL",
   "NULL", "NULLS", "OF", "OFFSET", "ON", "OR", "ORDER", "OTHERS", "OUTER", "OVER", "PARTITION",
   "PLAN", "PRAGMA", "PRECEDING", "PRIMARY", "QUERY", "RAISE", "RANGE", "RECURSIVE",
   "REFERENCES", "REGEXP", "REINDEX", "RELEASE", "RENAME", "REPLACE", "RESTRICT", "RETURNING",
   "RIGHT", "ROLLBACK", "ROW", "ROWS", "SAVEPOINT", "SELECT", "SET", "TABLE", "TEMP",
   "TEMPORARY", "THEN", "TIES", "TO", "TRANSACTION", "TRIGGER", "UNBOUNDED", "UNION", "UNIQUE",
   "UPDATE", "USING", "VACUUM", "VALUES", "VIEW", "VIRTUAL", "WHEN", "WHERE", "WINDOW", "WITH",
   "WITHOUT"]

/-- Keywords that stand for a name wherever they cannot be read as a keyword. -/
def nameKeywords : List String :=
  ["ABORT", "ACTION", "AFTER", "ANALYZE", "ASC", "ATTACH", "BEFORE", "BEGIN", "BY", "CASCADE",
   "CAST", "COLUMN", "CONFLICT", "DATABASE", "DEFERRED", "DESC", "DETACH", "DO", "EACH", "END",
   "EXCLUSIVE", "EXPLAIN", "FAIL", "FOR", "IGNORE", "IMMEDIATE", "INITIALLY", "INSTEAD", "GLOB",
   "LIKE", "REGEXP", "MATCH", "NO", "PLAN", "QUERY", "KEY", "OF", "OFFSET", "PRAGMA", "RAISE",
   "RECURSIVE", "RELEASE", "REPLACE", "RESTRICT", "ROW", "ROWS", "ROLLBACK", "SAVEPOINT", "TEMP",
   "TEMPORARY", "TRIGGER", "VACUUM", "VIEW", "VIRTUAL", "WITH", "WITHOUT", "NULLS", "FIRST",
   "LAST", "CURRENT", "FOLLOWING", "PARTITION", "PRECEDING", "RANGE", "UNBOUNDED", "EXCLUDE",
   "GROUPS", "OTHERS", "TIES", "GENERATED", "ALWAYS", "MATERIALIZED", "REINDEX", "RENAME",
   "CURRENT_DATE", "CURRENT_TIME", "CURRENT_TIMESTAMP", "IF"]

/-- Keywords that join sources and may also be names of tables and columns. -/
def joinKeywords : List String := ["CROSS", "FULL", "INNER", "LEFT", "NATURAL", "OUTER", "RIGHT"]

/-- What a token is. -/
inductive TokenKind where
  /-- A keyword, in upper case. -/
  | keyword (word : String)
  /-- A name, bare or quoted with the given character. -/
  | name (quote : Option Char)
  | string
  | integer
  | float
  /-- A number written with `_` between digits. -/
  | separated
  | blob
  | variable
  /-- An operator or punctuation. -/
  | symbol (s : String)
  /-- Text that is no token. -/
  | illegal
  /-- The end of the text. -/
  | finish
  deriving Inhabited, Repr, DecidableEq

/-- A token: its kind, its text as written, and the positions of its first character and of the
character after it. -/
structure Token where
  kind : TokenKind
  text : String
  start : Nat
  stop : Nat
  deriving Inhabited, Repr

namespace Token

/-- Blanks between tokens. -/
def isSpace (c : Char) : Bool :=
  c == ' ' || c == '\t' || c == '\n' || c == '\x0c' || c == '\r' || c == '\x0b'

/-- Characters of words. -/
def isWordChar (c : Char) : Bool :=
  c.isAlphanum || c == '_' || c == '$' || c.toNat ≥ 128

/-- Characters a keyword can be made of. -/
def isKeywordChar (c : Char) : Bool := c.isAlpha || c == '_'

/-- Whether a character is a hexadecimal digit. -/
def isHexDigit (c : Char) : Bool :=
  c.isDigit || ('a' ≤ c && c ≤ 'f') || ('A' ≤ c && c ≤ 'F')

/-- The value of a hexadecimal digit. -/
def hexDigitValue (c : Char) : Nat :=
  if c.isDigit then c.toNat - '0'.toNat
  else if 'a' ≤ c && c ≤ 'f' then c.toNat - 'a'.toNat + 10
  else c.toNat - 'A'.toNat + 10

/-- The count of leading characters satisfying a test. -/
def countWhile (p : Char → Bool) (cs : List Char) : Nat := (cs.takeWhile p).length

/-- The length of a quoted token after its opening quote `q` (the quote doubled standing for
itself), including the closing quote; `none` when the quote is never closed. -/
def quotedLength (q : Char) : List Char → Option Nat
  | [] => none
  | c :: rest =>
    if c == q then
      match rest with
      | d :: rest' => if d == q then (quotedLength q rest').map (· + 2) else some 1
      | [] => some 1
    else (quotedLength q rest).map (· + 1)

/-- The length of the digits at the front, `_` included, and whether a `_` was among them. -/
def digitRun (isDigit : Char → Bool) (cs : List Char) : Nat × Bool :=
  let n := countWhile (fun c => isDigit c || c == '_') cs
  (n, (cs.take n).contains '_')

/-- The length and kind of a number at the front of the text. -/
def numberToken (cs : List Char) : Nat × TokenKind :=
  let (n, kind) : Nat × TokenKind :=
    match cs with
    | '0' :: x :: h :: _ =>
      if (x == 'x' || x == 'X') && isHexDigit h then
        let (k, sep) := digitRun isHexDigit (cs.drop 2)
        (2 + k, if sep then .separated else .integer)
      else decimal
    | _ => decimal
  let tail := countWhile isWordChar (cs.drop n)
  if tail > 0 then (n + tail, .illegal) else (n, kind)
where
  decimal : Nat × TokenKind :=
    let (whole, sep1) := digitRun Char.isDigit cs
    let rest := cs.drop whole
    let (frac, sep2, isFloat) : Nat × Bool × Bool :=
      match rest with
      | '.' :: r => let (k, s) := digitRun Char.isDigit r; (1 + k, s, true)
      | _ => (0, false, false)
    let rest := cs.drop (whole + frac)
    let (expo, sep3, isFloat) : Nat × Bool × Bool :=
      match rest with
      | e :: s :: d :: r =>
        if (e == 'e' || e == 'E') && (s == '+' || s == '-') && d.isDigit then
          let (k, sp) := digitRun Char.isDigit r
          (3 + k, sp, true)
        else if (e == 'e' || e == 'E') && s.isDigit then
          let (k, sp) := digitRun Char.isDigit (d :: r)
          (2 + k, sp, true)
        else (0, false, isFloat)
      | e :: s :: r =>
        if (e == 'e' || e == 'E') && s.isDigit then
          let (k, sp) := digitRun Char.isDigit r
          (2 + k, sp, true)
        else (0, false, isFloat)
      | _ => (0, false, isFloat)
    let kind : TokenKind :=
      if sep1 || sep2 || sep3 then .separated else if isFloat then .float else .integer
    (whole + frac + expo, kind)

/-- Two-character operators, then one-character ones. -/
def twoCharSymbols : List String := ["==", "<=", "<>", "<<", ">=", ">>", "!=", "||", "->"]

/-- One-character operators and punctuation. -/
def oneCharSymbols : List Char :=
  ['(', ')', ';', '+', '-', '*', '/', '%', '=', '<', '>', ',', '&', '~', '|', '.']

/-- The length of a parameter written with `:`, `@`, `$` or `#`, and whether it is well formed:
word characters (at least one), `::` inside, or a parenthesised suffix after the name. -/
def namedParameter : List Char → Nat → Nat × Bool
  | [], n => (0, n > 0)
  | c :: rest, n =>
    if isWordChar c then
      let (k, ok) := namedParameter rest (n + 1)
      (k + 1, ok)
    else if c == '(' && n > 0 then
      let body := countWhile (fun d => !isSpace d && d != ')') rest
      match rest.drop body with
      | ')' :: _ => (body + 2, true)
      | _ => (body + 1, false)
    else if c == ':' then
      match rest with
      | ':' :: more =>
        let (k, ok) := namedParameter more n
        (k + 2, ok)
      | _ => (0, n > 0)
    else (0, n > 0)

/-- The kind and length of the token at the front of the text, blanks and comments giving
`none`. Every result but the end of the text spans at least one character. -/
def lex (cs : List Char) : Option TokenKind × Nat :=
  match cs with
  | [] => (some .finish, 0)
  | c :: rest =>
    if c == ' ' || c == '\t' || c == '\n' || c == '\x0c' || c == '\r' then
      (none, 1 + countWhile isSpace rest)
    else if c == Char.ofNat 0xFEFF then (none, 1)
    else if c == '-' then
      match rest with
      | '-' :: r => (none, 2 + countWhile (· != '\n') r)
      | '>' :: '>' :: _ => (some (.symbol "->>"), 3)
      | '>' :: _ => (some (.symbol "->"), 2)
      | _ => (some (.symbol "-"), 1)
    else if c == '/' then
      match rest with
      | '*' :: r =>
        if r.isEmpty then (some (.symbol "/"), 1)
        else
          let rec close : List Char → Nat
            | '*' :: '/' :: _ => 2
            | _ :: r => 1 + close r
            | [] => 0
          (none, 2 + close r)
      | _ => (some (.symbol "/"), 1)
    else if c == '=' then
      if rest.head? == some '=' then (some (.symbol "=="), 2) else (some (.symbol "="), 1)
    else if c == '<' then
      match rest with
      | '=' :: _ => (some (.symbol "<="), 2)
      | '>' :: _ => (some (.symbol "<>"), 2)
      | '<' :: _ => (some (.symbol "<<"), 2)
      | _ => (some (.symbol "<"), 1)
    else if c == '>' then
      match rest with
      | '=' :: _ => (some (.symbol ">="), 2)
      | '>' :: _ => (some (.symbol ">>"), 2)
      | _ => (some (.symbol ">"), 1)
    else if c == '!' then
      if rest.head? == some '=' then (some (.symbol "!="), 2) else (some .illegal, 1)
    else if c == '|' then
      if rest.head? == some '|' then (some (.symbol "||"), 2) else (some (.symbol "|"), 1)
    else if c == '\'' || c == '"' || c == '`' then
      match quotedLength c rest with
      | some n => (some (if c == '\'' then .string else .name (some c)), n + 1)
      | none => (some .illegal, cs.length)
    else if c == '.' && !(rest.head?.map Char.isDigit).getD false then (some (.symbol "."), 1)
    else if c.isDigit || c == '.' then
      let (n, kind) := numberToken cs
      (some kind, n)
    else if c == '[' then
      let n := countWhile (· != ']') rest
      if n < rest.length then (some (.name (some '[')), n + 2) else (some .illegal, cs.length)
    else if c == '?' then (some .variable, 1 + countWhile Char.isDigit rest)
    else if c == ':' || c == '@' || c == '$' || c == '#' then
      let (n, ok) := namedParameter rest 0
      (some (if ok then .variable else .illegal), n + 1)
    else if (c == 'x' || c == 'X') && rest.head? == some '\'' then
      let digits := countWhile isHexDigit rest.tail
      let after := rest.tail.drop digits
      if after.head? == some '\'' && digits % 2 == 0 then (some .blob, digits + 3)
      else
        let more := countWhile (· != '\'') after
        let n := 2 + digits + more
        (some .illegal, if n < cs.length then n + 1 else n)
    else if isWordChar c && !c.isDigit && c != '$' then
      let n := 1 + countWhile isWordChar rest
      let word := cs.take n
      if word.all isKeywordChar then
        let upper := String.ofList (word.map Char.toUpper)
        if keywords.contains upper then (some (.keyword upper), n) else (some (.name none), n)
      else (some (.name none), n)
    else if ['(', ')', ';', '+', '*', '%', ',', '&', '~'].contains c then
      (some (.symbol (String.singleton c)), 1)
    else (some .illegal, 1)

/-- The next token of the text `cs`, which starts at position `pos`, skipping blanks and
comments; with the text after it. -/
def nextOf (cs : List Char) (pos : Nat) : Token × List Char :=
  let rec go : (fuel : Nat) → List Char → Nat → Token × List Char
    | 0, cs, p => ({ kind := .finish, text := "", start := p, stop := p }, cs)
    | fuel + 1, cs, p =>
      match lex cs with
      | (none, n) => go fuel (cs.drop (max n 1)) (p + max n 1)
      | (some k, n) =>
        ({ kind := k, text := String.ofList (cs.take n), start := p, stop := p + n }, cs.drop n)
  go (cs.length + 1) cs pos

/-- Whether a token can stand for a name: a name, or any keyword that may be one. -/
def isNameLike (t : Token) : Bool :=
  match t.kind with
  | .name _ => true
  | .keyword w => nameKeywords.contains w
  | _ => false

/-- A keyword that depends on what follows it, settled: `WINDOW` is a keyword before a name and
`AS`; `OVER` after `)` and before `(` or a name; `FILTER` after `)` and before `(`. The text
after the token is `rest`. -/
def settle (rest : List Char) (previous : Option TokenKind) (t : Token) : Token :=
  let afterParen := previous == some (.symbol ")")
  let nameAhead (u : Token) : Bool :=
    isNameLike u || u.kind == .string || u.kind == .keyword "WINDOW" || u.kind == .keyword "OVER" ||
      joinKeywords.any fun w => u.kind == .keyword w
  match t.kind with
  | .keyword "WINDOW" =>
    let (n1, rest1) := nextOf rest t.stop
    let (n2, _) := nextOf rest1 n1.stop
    if nameAhead n1 && n2.kind == .keyword "AS" then t else { t with kind := .name none }
  | .keyword "OVER" =>
    let (n1, _) := nextOf rest t.stop
    if afterParen && (n1.kind == .symbol "(" || nameAhead n1) then t
    else { t with kind := .name none }
  | .keyword "FILTER" =>
    if afterParen && (nextOf rest t.stop).1.kind == .symbol "(" then t
    else { t with kind := .name none }
  | _ => t

/-- Every token of a text, the last one marking its end. -/
def scan (text : String) : Array Token :=
  let rec go : (fuel : Nat) → List Char → Nat → Option TokenKind → Array Token → Array Token
    | 0, _, p, _, acc => acc.push { kind := .finish, text := "", start := p, stop := p }
    | fuel + 1, cs, p, previous, acc =>
      let (t, rest) := nextOf cs p
      if t.kind == .finish then acc.push t
      else
        let t := settle rest previous t
        go fuel rest t.stop (some t.kind) (acc.push t)
  let cs := text.toList
  go (cs.length + 1) cs 0 none #[]

/-- The text of a name token without its quotes, a doubled quote standing for one. -/
def unquote (s : String) : String :=
  match s.toList with
  | '[' :: rest => String.ofList (rest.dropLast)
  | q :: rest =>
    if q == '"' || q == '\'' || q == '`' then
      let rec go : List Char → List Char
        | [] => []
        | [_] => []
        | c :: d :: r => if c == q && d == q then q :: go r else c :: go (d :: r)
      String.ofList (go rest)
    else s
  | [] => s

/-- The value a token stands for as a name or string: quotes removed. -/
def value (t : Token) : String := unquote t.text

end Token

end Database

end EntityGraph
