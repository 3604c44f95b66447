import Catalog.Sql.Value

/-!
# Words of a statement

A statement is read as a series of tokens. Blanks and comments separate tokens and are
dropped: a comment runs from `--` to the end of the line, or from `/*` to the next `*/` or
the end of the text. The tokens are:

* **names**: a letter or `_` or any character beyond ASCII, followed by such characters,
  digits and `$`; or any text in double quotes, back quotes or square brackets (a doubled
  quote inside stands for one). A bare name that spells a keyword, in any case, is that
  keyword.
* **strings** in single quotes, a doubled quote inside standing for one;
* **numbers**: digits with an optional point and exponent, or `0x` and hexadecimal digits;
  an underscore may stand between two digits; a number directly followed by a name
  character is refused;
* **byte strings** `x'…'` with an even number of hexadecimal digits;
* **parameters** `?`, `?NNN`, `:name`, `@name`, `$name`;
* **operators and punctuation**.

A token that cannot be read (an unknown character, a quote that is never closed, a
malformed number) is kept as an `illegal` token; reading stops at it, and a statement that
reaches it is refused as an unrecognized token.
-/

namespace Catalog.Sql

/-- The keywords, upper case. -/
def keywords : List String :=
  ["ABORT", "ACTION", "ADD", "AFTER", "ALL", "ALTER", "ALWAYS", "ANALYZE", "AND", "AS", "ASC",
    "ATTACH", "AUTOINCREMENT", "BEFORE", "BEGIN", "BETWEEN", "BY", "CASCADE", "CASE", "CAST",
    "CHECK", "COLLATE", "COLUMN", "COMMIT", "CONFLICT", "CONSTRAINT", "CREATE", "CROSS",
    "CURRENT", "CURRENT_DATE", "CURRENT_TIME", "CURRENT_TIMESTAMP", "DATABASE", "DEFAULT",
    "DEFERRABLE", "DEFERRED", "DELETE", "DESC", "DETACH", "DISTINCT", "DO", "DROP", "EACH",
    "ELSE", "END", "ESCAPE", "EXCEPT", "EXCLUDE", "EXCLUSIVE", "EXISTS", "EXPLAIN", "FAIL",
    "FIRST", "FOLLOWING", "FOR", "FOREIGN", "FROM", "FULL", "GENERATED", "GLOB", "GROUP",
    "GROUPS", "HAVING", "IF", "IGNORE", "IMMEDIATE", "IN", "INDEX", "INDEXED", "INITIALLY",
    "INNER", "INSERT", "INSTEAD", "INTERSECT", "INTO", "IS", "ISNULL", "JOIN", "KEY", "LAST",
    "LEFT", "LIKE", "LIMIT", "MATCH", "MATERIALIZED", "NATURAL", "NO", "NOT", "NOTHING",
    "NOTNULL", "NULL", "NULLS", "OF", "OFFSET", "ON", "OR", "ORDER", "OTHERS", "OUTER",
    "PARTITION", "PLAN", "PRAGMA", "PRECEDING", "PRIMARY", "QUERY", "RAISE", "RANGE",
    "RECURSIVE", "REFERENCES", "REGEXP", "REINDEX", "RELEASE", "RENAME", "REPLACE", "RESTRICT",
    "RETURNING", "RIGHT", "ROLLBACK", "ROW", "ROWS", "SAVEPOINT", "SELECT", "SET", "TABLE",
    "TEMP", "TEMPORARY", "THEN", "TIES", "TO", "TRANSACTION", "TRIGGER", "UNBOUNDED", "UNION",
    "UNIQUE", "UPDATE", "USING", "VACUUM", "VALUES", "VIEW", "VIRTUAL", "WHEN", "WHERE", "WITH",
    "WITHOUT"]

/-- The keywords that also serve as names wherever a keyword of theirs cannot stand. -/
def nameKeywords : List String :=
  ["ABORT", "ACTION", "AFTER", "ANALYZE", "ASC", "ATTACH", "BEFORE", "BEGIN", "BY",
    "CASCADE", "CAST", "COLUMN", "CONFLICT", "DATABASE", "DEFERRED", "DESC", "DETACH", "DO",
    "EACH", "END", "EXCLUSIVE", "EXPLAIN", "FAIL", "FOR", "IGNORE", "IMMEDIATE", "INITIALLY",
    "INSTEAD", "LIKE", "GLOB", "REGEXP", "MATCH", "NO", "PLAN", "QUERY", "KEY", "OF", "OFFSET",
    "PRAGMA", "RAISE", "RECURSIVE", "RELEASE", "REPLACE", "RESTRICT", "ROW", "ROWS",
    "ROLLBACK", "SAVEPOINT", "TEMP", "TEMPORARY", "TRIGGER", "VACUUM", "VIEW", "VIRTUAL",
    "WITH", "WITHOUT", "NULLS", "FIRST", "LAST", "CURRENT", "FOLLOWING", "PARTITION",
    "PRECEDING", "RANGE", "UNBOUNDED", "EXCLUDE", "GROUPS", "OTHERS", "TIES", "GENERATED",
    "ALWAYS", "MATERIALIZED", "REINDEX", "RENAME", "CURRENT_TIME", "CURRENT_DATE",
    "CURRENT_TIMESTAMP", "IF"]

/-- The join keywords, which also serve as the name of an object. -/
def joinKeywords : List String :=
  ["CROSS", "FULL", "INNER", "LEFT", "NATURAL", "OUTER", "RIGHT"]

/-- What kind of token a token is. -/
inductive TokenKind where
  /-- A keyword, upper case. -/
  | keyword (word : String)
  /-- A name, its quotes removed; `quoted` when it was written in double quotes. -/
  | name (value : String) (quoted : Bool)
  /-- A string in single quotes, its quotes removed. -/
  | string (value : String)
  /-- A number as written, its digit separators removed. -/
  | number (text : String)
  /-- A byte string. -/
  | bytes (value : List UInt8)
  /-- A parameter. -/
  | parameter (text : String)
  /-- An operator or a punctuation mark. -/
  | symbol (text : String)
  /-- Something that cannot be read. -/
  | illegal
  deriving Repr, Inhabited

/-- A token with the place it was read from: `text` as written, starting at character
`start` of the script. -/
structure Token where
  kind : TokenKind
  text : String
  start : Nat
  deriving Repr, Inhabited

/-- The byte order mark, read as a blank. -/
def byteOrderMark : Char := '\uFEFF'

/-- Whether a character may continue a bare name. -/
def isNameChar (c : Char) : Bool :=
  c.isAlphanum || c = '_' || c = '$' || (c.toNat ≥ 0x80 && c ≠ byteOrderMark)

/-- Whether a character may start a bare name. -/
def isNameStart (c : Char) : Bool :=
  c.isAlpha || c = '_' || (c.toNat ≥ 0x80 && c ≠ byteOrderMark)

/-- Whether a character is a hexadecimal digit. -/
def isHexDigit (c : Char) : Bool :=
  c.isDigit || ('a' ≤ c && c ≤ 'f') || ('A' ≤ c && c ≤ 'F')

/-- The value of a hexadecimal digit. -/
def hexValue (c : Char) : Nat :=
  if c.isDigit then c.toNat - 48
  else if 'a' ≤ c && c ≤ 'f' then c.toNat - 87
  else c.toNat - 55

/-- The blanks between tokens. -/
def isTokenBlank (c : Char) : Bool :=
  c = ' ' || c = '\t' || c = '\n' || c = '\x0c' || c = '\r' || c = byteOrderMark

/-- A quoted text up to its closing `q`, a doubled `q` standing for one: the text inside and
what follows the closing quote, or `none` when the quote is never closed. -/
def readQuoted (q : Char) : List Char → Option (List Char × List Char)
  | [] => none
  | c :: rest =>
    if c = q then
      match rest with
      | d :: more => if d = q then (readQuoted q more).map fun (s, r) => (q :: s, r)
        else some ([], rest)
      | [] => some ([], [])
    else (readQuoted q rest).map fun (s, r) => (c :: s, r)

/-- The text inside square brackets up to `]`, and what follows it. -/
def readBracketed : List Char → Option (List Char × List Char)
  | [] => none
  | c :: rest =>
    if c = ']' then some ([], rest) else (readBracketed rest).map fun (s, r) => (c :: s, r)

/-- The rest of a block comment after `/*`. -/
def skipBlockComment : List Char → List Char
  | '*' :: '/' :: rest => rest
  | _ :: rest => skipBlockComment rest
  | [] => []

/-- The characters of a number from its start, digits and separators as written; `hex`
admits hexadecimal digits. -/
def takeDigits (hex : Bool) : List Char → List Char × List Char
  | c :: rest =>
    if (if hex then isHexDigit c else c.isDigit) || c = '_' then
      let (ds, r) := takeDigits hex rest
      (c :: ds, r)
    else ([], c :: rest)
  | [] => ([], [])

/-- Whether the separators of a number's digits each stand between two digits. -/
def separatorsWellPlaced (hex : Bool) : List Char → Bool
  | a :: '_' :: b :: rest =>
    let digit (c : Char) := if hex then isHexDigit c else c.isDigit
    digit a && digit b && separatorsWellPlaced hex (b :: rest)
  | '_' :: _ => false
  | _ :: rest => separatorsWellPlaced hex rest
  | [] => true

/-- The exponent of a number: `e` or `E`, an optional sign and digits. -/
def takeExponent : List Char → List Char × List Char
  | e :: rest =>
    if e = 'e' || e = 'E' then
      match rest with
      | s :: d :: more =>
        if (s = '+' || s = '-') && d.isDigit then
          let (ds, r) := takeDigits false (d :: more)
          (e :: s :: ds, r)
        else if s.isDigit then
          let (ds, r) := takeDigits false (s :: d :: more)
          (e :: ds, r)
        else ([], e :: rest)
      | [s] => if s.isDigit then ([e, s], []) else ([], e :: rest)
      | [] => ([], e :: rest)
    else ([], e :: rest)
  | [] => ([], [])

/-- A decimal number at the start of a text: digits, a point and digits, an exponent. -/
def takeDecimal (cs : List Char) : List Char × List Char :=
  let (whole, r) := takeDigits false cs
  let (frac, r) := match r with
    | '.' :: more => let (f, r') := takeDigits false more; ('.' :: f, r')
    | _ => ([], r)
  let (exp, r) := takeExponent r
  (whole ++ frac ++ exp, r)

/-- A number at the start of a text (which starts with a digit, or a point and a digit):
its characters and the rest. -/
def takeNumber (cs : List Char) : List Char × List Char :=
  match cs with
  | '0' :: x :: h :: rest =>
    if (x = 'x' || x = 'X') && isHexDigit h then
      let (ds, r) := takeDigits true (h :: rest)
      ('0' :: x :: ds, r)
    else takeDecimal cs
  | _ => takeDecimal cs

/-- The byte string of an even number of hexadecimal digits. -/
def bytesOfHex : List Char → List UInt8
  | a :: b :: rest => UInt8.ofNat (hexValue a * 16 + hexValue b) :: bytesOfHex rest
  | _ => []

/-- The operators and punctuation marks. -/
def symbols : List String :=
  ["||", "<=", "<>", "<<", ">=", ">>", "==", "!=", "->>", "->", "(", ")", ";", "+", "-", "*",
    "/", "%", ",", "&", "~", "=", "<", ">", "|", "."]

/-- The longest symbol at the start of a text. -/
def symbolAt (cs : List Char) : Option String :=
  let found := symbols.filter fun s => s.toList.isPrefixOf cs
  found.foldl (fun best s => match best with
    | some b => if s.length > b.length then some s else some b
    | none => some s) none

/-- One token at the start of a text that starts at character `pos` and does not start with
a blank or a comment, with the rest of the text. -/
def readToken (pos : Nat) (cs : List Char) : Token × List Char :=
  let mk (kind : TokenKind) (used rest : List Char) : Token × List Char :=
    (⟨kind, String.ofList used, pos⟩, rest)
  match cs with
  | [] => mk .illegal [] []
  | c :: rest =>
    if c = '\'' then
      match readQuoted '\'' rest with
      | some (s, r) => mk (.string (String.ofList s)) (cs.take (cs.length - r.length)) r
      | none => mk .illegal cs []
    else if c = '"' || c = '`' then
      match readQuoted c rest with
      | some (s, r) => mk (.name (String.ofList s) (c = '"')) (cs.take (cs.length - r.length)) r
      | none => mk .illegal cs []
    else if c = '[' then
      match readBracketed rest with
      | some (s, r) => mk (.name (String.ofList s) false) (cs.take (cs.length - r.length)) r
      | none => mk .illegal cs []
    else if (c = 'x' || c = 'X') && rest.head? = some '\'' then
      let body := (rest.drop 1).takeWhile isHexDigit
      let after := (rest.drop 1).drop body.length
      match after with
      | '\'' :: r =>
        if body.length % 2 = 0 then mk (.bytes (bytesOfHex body)) (cs.take (body.length + 3)) r
        else mk .illegal (cs.take (body.length + 3)) r
      | r => mk .illegal (cs.take (body.length + 2)) r
    else if c.isDigit || (c = '.' && (rest.head?.map Char.isDigit).getD false) then
      let (num, r) := takeNumber cs
      let tail := r.takeWhile isNameChar
      let r := r.drop tail.length
      let hex := num.length > 1 && (num[1]? = some 'x' || num[1]? = some 'X')
      if !tail.isEmpty then mk .illegal (num ++ tail) r
      else if num.contains '_' then
        if separatorsWellPlaced hex num then
          mk (.number (String.ofList (num.filter (· ≠ '_')))) num r
        else mk .illegal num r
      else mk (.number (String.ofList num)) num r
    else if c = '?' then
      let ds := rest.takeWhile Char.isDigit
      mk (.parameter (String.ofList (c :: ds))) (c :: ds) (rest.drop ds.length)
    else if c = ':' || c = '@' || c = '$' || c = '#' then
      let n := rest.takeWhile isNameChar
      if n.isEmpty then mk .illegal [c] rest
      else mk (.parameter (String.ofList (c :: n))) (c :: n) (rest.drop n.length)
    else if isNameStart c then
      let n := rest.takeWhile isNameChar
      let word := String.ofList (c :: n)
      let upper := String.ofList ((c :: n).map Char.toUpper)
      let kind := if keywords.contains upper then TokenKind.keyword upper else .name word false
      mk kind (c :: n) (rest.drop n.length)
    else
      match symbolAt cs with
      | some s => mk (.symbol s) (cs.take s.length) (cs.drop s.length)
      | none => mk .illegal [c] rest

/-- The text left after the blanks and comments at its start; `fuel` bounds the number of
blanks and comments skipped. -/
def skipBlanks : Nat → List Char → List Char
  | 0, cs => cs
  | fuel + 1, cs =>
    match cs with
    | '-' :: '-' :: more => skipBlanks fuel (more.dropWhile (· ≠ '\n'))
    | '/' :: '*' :: more => skipBlanks fuel (skipBlockComment more)
    | c :: rest => if isTokenBlank c then skipBlanks fuel rest else cs
    | [] => []

/-- Read tokens from `cs`, the last `cs.length` characters of a script of `total`; `fuel`
bounds their number. -/
def tokensFrom (total : Nat) (cs : List Char) : Nat → List Token
  | 0 => []
  | fuel + 1 =>
    let cs := skipBlanks (cs.length + 1) cs
    if cs.isEmpty then [] else
    let (t, rest) := readToken (total - cs.length) cs
    match t.kind with
    | .illegal => [t]
    | _ => t :: tokensFrom total rest fuel

/-- The tokens of a script, up to and including the first illegal one. -/
def tokenize (script : String) : List Token :=
  tokensFrom script.length script.toList (script.length + 1)

end Catalog.Sql
