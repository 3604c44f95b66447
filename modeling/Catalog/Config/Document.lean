import Catalog.Config.Toml.Value

/-!
# Reading a TOML document

A document is a sequence of lines: blank lines, comments, table headers `[a.b]`, headers
`[[a]]` of arrays of tables, and key-value pairs, which belong to the table of the last
header. A line is read whole before what it says is added to the tree, so a malformed line
is reported before a duplicate key on it.

Tables and keys are added by the rules of `Toml.nameTable`, `Toml.appendTable` and
`Toml.addPair`. A fault of a header points at its opening bracket and is introduced as a
fault of the header; a fault of a key-value pair points at the start of its key.
-/

namespace Catalog.Config

/-- The state of reading a document: the root table, and the key of the table the last
header named. -/
structure DocState where
  root : Toml
  current : List KeyPart

/-- Read a table header, or with `array` the header of an array of tables, whose opening
bracket stands at `i`. -/
def readHeader (array : Bool) (cs : Array Char) (st : DocState) (i : Nat) :
    Except TomlError (DocState × Nat) := do
  let label := if array then "invalid array table\n" else "invalid table header\n"
  let width := if array then 2 else 1
  let (key, j) ← (readKey cs (i + width)).mapError Miss.error
  let closed := if array then cs[j]? = some ']' && cs[j + 1]? = some ']' else cs[j]? = some ']'
  if !closed then
    failAt j (label ++ (if array then "expected `.`, `]]`" else "expected `.`, `]`"))
  else
  let k ← (endOfLine cs (j + width)).mapError fun e => { e with message := label ++ e.message }
  let span : Span := ⟨i, j + width⟩
  let named := if array then st.root.appendTable key span else st.root.nameTable key span
  match named with
  | .ok root => .ok ({ root, current := key }, k)
  | .error fault => failAt i (label ++ fault.message)

/-- Read a key-value pair at `i` into the current table. -/
def readPair (cs : Array Char) (st : DocState) (i : Nat) : Except TomlError (DocState × Nat) := do
  let (key, j) ← (readKey cs i).mapError Miss.error
  if cs[j]? ≠ some '=' then failAt j "expected `.`, `=`" else
  let (v, j) ← (readValue depthLimit cs (skipBlanks cs (j + 1))).mapError Miss.error
  let k ← endOfLine cs j
  let header := some (st.current.map (·.name))
  match descend .header (·.addPair .dotted header key v) [] st.root st.current with
  | .ok root => .ok ({ st with root }, k)
  | .error fault => failAt i fault.message

/-- Read the lines of a document from `i`; `fuel` bounds the number of lines. -/
def readLines (cs : Array Char) : Nat → DocState → Nat → Except TomlError Toml
  | 0, st, _ => .ok st.root
  | fuel + 1, st, i =>
    let i := skipBlanks cs i
    match cs[i]? with
    | none => .ok st.root
    | some '\n' => readLines cs fuel st (i + 1)
    | some '\r' =>
      if cs[i + 1]? = some '\n' then readLines cs fuel st (i + 2) else failAt i "invalid key"
    | some '#' => do
      let j ← endOfLine cs i
      readLines cs fuel st j
    | some '[' => do
      let (st, j) ← readHeader (cs[i + 1]? = some '[') cs st i
      readLines cs fuel st j
    | some _ => do
      let (st, j) ← readPair cs st i
      readLines cs fuel st j

/-- Read a whole document into its root table. -/
def readDocument (doc : String) : Except TomlError Toml :=
  let cs := doc.toList.toArray
  readLines cs (cs.size + 1) ⟨.table [] .header ⟨0, 0⟩, []⟩ 0

end Catalog.Config
