import Catalog.Sql.Token
import Catalog.Sql.Syntax
import Catalog.Error

/-!
# Reading tokens

The statements of a script are read from its tokens one at a time, with one token of
lookahead. Reading fails at the first token that cannot continue the statement, with the
text of that token (`near "…": syntax error`); at the end of the script it fails as
incomplete input. Looking at an illegal token fails at once as an unrecognized token, so a
script fails at the first illegal token that a statement reaches, and not at one after the
statement that fails.

Where a name is expected, a bare or quoted name serves, and so does a string and a keyword
of `nameKeywords`; an object's name may also be a join keyword.
-/

namespace Catalog.Sql

/-- A script being read: its tokens, and its characters for the text of parts of it. -/
structure Script where
  tokens : Array Token
  chars : Array Char
  deriving Inhabited

/-- The script of a text. -/
def Script.ofString (s : String) : Script :=
  ⟨(tokenize s).toArray, s.toList.toArray⟩

/-- A reader of a script: it reads from a position and fails with the store's refusal. -/
abbrev Reader := ReaderT Script (StateT Nat (Except StoreFault))

/-- Whether a token is the given keyword. -/
def Token.isKeyword (w : String) (t : Token) : Bool :=
  match t.kind with
  | .keyword k => k == w
  | _ => false

/-- Whether a token is the given symbol. -/
def Token.isSymbol (s : String) (t : Token) : Bool :=
  match t.kind with
  | .symbol x => x == s
  | _ => false

namespace Reader

/-- The token at the position, if any, without looking at its kind. -/
def rawAt (i : Nat) : Reader (Option Token) := do
  pure (← read).tokens[i]?

/-- The next token, if any; an illegal token fails as unrecognized. -/
def peek : Reader (Option Token) := do
  match (← read).tokens[(← get)]? with
  | some t =>
    match t.kind with
    | .illegal => throw (.unrecognizedToken t.text)
    | _ => pure (some t)
  | none => pure none

/-- Step over the next token. -/
def advance : Reader Unit :=
  modify (· + 1)

/-- Fail at the next token. -/
def unexpected {α : Type} : Reader α := do
  match ← peek with
  | some t => throw (.syntaxError t.text)
  | none => throw .incompleteInput

/-- Whether the next token is the given keyword. -/
def atKeyword (w : String) : Reader Bool := do
  pure ((← peek).any (Token.isKeyword w))

/-- Whether the next token is one of the given keywords. -/
def atKeywords (ws : List String) : Reader Bool := do
  pure ((← peek).any fun t => ws.any fun w => Token.isKeyword w t)

/-- Whether the next token is the given symbol. -/
def atSymbol (s : String) : Reader Bool := do
  pure ((← peek).any (Token.isSymbol s))

/-- Step over the given keyword if it comes next. -/
def acceptKeyword (w : String) : Reader Bool := do
  if ← atKeyword w then advance; pure true else pure false

/-- Step over the given symbol if it comes next. -/
def acceptSymbol (s : String) : Reader Bool := do
  if ← atSymbol s then advance; pure true else pure false

/-- Step over the given keyword, which must come next. -/
def expectKeyword (w : String) : Reader Unit := do
  unless ← acceptKeyword w do unexpected

/-- Step over the given symbol, which must come next. -/
def expectSymbol (s : String) : Reader Unit := do
  unless ← acceptSymbol s do unexpected

/-- The name a token gives where the name of an object is expected. -/
def nameOf? (t : Token) : Option String :=
  match t.kind with
  | .name v _ => some v
  | .string v => some v
  | .keyword k =>
    if nameKeywords.contains k || joinKeywords.contains k || k == "INDEXED" then some t.text
    else none
  | _ => none

/-- The name a token gives where a type name or an alias is expected. -/
def wordOf? (t : Token) : Option String :=
  match t.kind with
  | .name v _ => some v
  | .string v => some v
  | .keyword k => if nameKeywords.contains k then some t.text else none
  | _ => none

/-- The name of an object, which must come next. -/
def name : Reader String := do
  match (← peek).bind nameOf? with
  | some n => advance; pure n
  | none => unexpected

/-- A word of a type name or an alias, if one comes next. -/
def word? : Reader (Option String) := do
  match (← peek).bind wordOf? with
  | some n => advance; pure (some n)
  | none => pure none

/-- The position of the next token. -/
def position : Reader Nat :=
  get

/-- The character where the token at a position starts; the end of the script past the
last token. -/
def charAt (i : Nat) : Reader Nat := do
  let s ← read
  match s.tokens[i]? with
  | some t => pure t.start
  | none => pure s.chars.size

/-- The character just after the token before a position. -/
def charAfter (i : Nat) : Reader Nat := do
  let s ← read
  match i with
  | 0 => pure 0
  | j + 1 =>
    match s.tokens[j]? with
    | some t => pure (t.start + t.text.length)
    | none => pure s.chars.size

/-- The text between two characters of the script, blanks at both ends removed. -/
def textBetween (a b : Nat) : Reader String := do
  let cs := ((← read).chars.extract a b).toList
  let trim (xs : List Char) := xs.dropWhile isNumberBlank
  pure (String.ofList (trim (trim cs).reverse).reverse)

/-- The text from the token at `i` up to the start of the next token. -/
def textFrom (i : Nat) : Reader String := do
  textBetween (← charAt i) (← charAt (← position))

/-- The text from the token at `i` through the last token read. -/
def spanFrom (i : Nat) : Reader String := do
  textBetween (← charAt i) (← charAfter (← position))

end Reader

end Catalog.Sql
