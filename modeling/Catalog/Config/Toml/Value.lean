import Catalog.Config.Toml.Scan

/-!
# TOML values

A value is a string, a number, a date, a boolean, an array or a table written between
braces. What a value's first character cannot start is absent there, and an enclosing array
ends instead; at the end of the text nothing is looked at, so the complaint says nothing; inside an array or an inline table everything after the opening bracket is
committed.

An array holds values separated by commas, with blanks, comments and line breaks around
them and a comma after the last allowed. An inline table holds key-value pairs on one line,
separated by commas, with no comma after the last; its keys are added as `Toml.addPair`
says, and a fault points just after the opening brace.

Nesting is bounded: each array or inline table counts twice against a budget of
`depthLimit` steps, once when its value starts and once when its items start.
-/

namespace Catalog.Config

/-- The number of nesting steps a value may take. -/
def depthLimit : Nat := 79

/-- The failure of reading an item after the opening bracket of the enclosing value. -/
def TomlError.absentHere (message : String) (i : Nat) : Miss :=
  .absent ⟨⟨i, i⟩, message⟩

/-- The message for text where a value should start. -/
def notAValue : String :=
  "invalid string\nexpected `\"`, `'`"

/-- Read a word such as `true` at `i` as the value `v`. -/
def readWord (cs : Array Char) (i : Nat) (word : List Char) (v : Span → Toml) :
    Except Miss (Toml × Nat) :=
  if slice cs i (i + word.length) = word then .ok (v ⟨i, i + word.length⟩, i + word.length)
  else .error (TomlError.absentHere notAValue i)

/-- Make an inline table from its pairs, in order. -/
def inlineTable (openAt close : Nat) (pairs : List (List KeyPart × Toml)) :
    Except TomlError Toml :=
  pairs.foldlM (fun t (key, v) =>
    match t.addPair .inline none key v with
    | .ok t => .ok t
    | .error fault => failAt (openAt + 1) fault.message) (.table [] .inline ⟨openAt, close⟩)

/-- End an array whose items, read into `acc` last first, end at `j`: expect the closing
bracket after blanks, comments and line breaks. -/
def closeArray (cs : Array Char) (openAt j : Nat) (acc : List Toml) :
    Except Miss (Toml × Nat) :=
  let k := skipSpaceAndLines cs j
  if cs[k]? = some ']' then .ok (.array acc.reverse false ⟨openAt, k + 1⟩, k + 1)
  else .error (.broken ⟨⟨k, k⟩, "invalid array\nexpected `]`"⟩)

/-- End an inline table whose pairs, read into `acc` last first, end at `j`: add the pairs,
then expect the closing brace after blanks. -/
def closeInline (cs : Array Char) (openAt j : Nat) (acc : List (List KeyPart × Toml)) :
    Except Miss (Toml × Nat) := do
  let k := skipBlanks cs j
  let t ← committed (inlineTable openAt (k + 1) acc.reverse)
  if cs[k]? = some '}' then .ok (t, k + 1)
  else .error (.broken ⟨⟨k, k⟩, "invalid inline table\nexpected `\x7d`"⟩)

mutual

/-- Read a value at `i`, with `depth` nesting steps left. -/
def readValue (depth : Nat) (cs : Array Char) (i : Nat) : Except Miss (Toml × Nat) :=
  match cs[i]? with
  | some '"' | some '\'' => do
    let (s, j) ← committed (readString cs i)
    .ok (.str s ⟨i, j⟩, j)
  | some '[' =>
    match depth with
    | 0 => .error (TomlError.absentHere "recursion limit exceeded" i)
    | d + 1 => readArray d cs i
  | some '{' =>
    match depth with
    | 0 => .error (TomlError.absentHere "recursion limit exceeded" i)
    | d + 1 => readInline d cs i
  | some 't' => readWord cs i ['t', 'r', 'u', 'e'] (.bool true)
  | some 'f' => readWord cs i ['f', 'a', 'l', 's', 'e'] (.bool false)
  | some 'i' => readWord cs i ['i', 'n', 'f'] (.float (1.0 / 0.0))
  | some 'n' => readWord cs i ['n', 'a', 'n'] (.float (0.0 / 0.0))
  | some '_' => .error (TomlError.absentHere "invalid integer\nexpected leading digit" i)
  | some '.' =>
    .error (TomlError.absentHere "invalid floating-point number\nexpected leading digit" i)
  | some c =>
    if c = '+' || c = '-' || c.isDigit then readNumber cs i
    else .error (TomlError.absentHere notAValue i)
  | none => .error (TomlError.absentHere "" i)
termination_by (depth, 0, 0)

/-- Read an array whose opening bracket stands at `openAt`. -/
def readArray (depth : Nat) (cs : Array Char) (openAt : Nat) : Except Miss (Toml × Nat) :=
  match depth with
  | 0 => .error (.broken ⟨⟨openAt + 1, openAt + 1⟩, "recursion limit exceeded"⟩)
  | d + 1 => readItems d cs openAt (cs.size + 1) (openAt + 1) []
termination_by (depth, 2, 0)

/-- Read the items of an array from `i`, each after a comma but the first; `fuel` bounds
their number. -/
def readItems (depth : Nat) (cs : Array Char) (openAt : Nat) (fuel : Nat) (i : Nat)
    (acc : List Toml) : Except Miss (Toml × Nat) :=
  match fuel with
  | 0 => closeArray cs openAt i acc
  | fuel + 1 =>
    match readValue depth cs (skipSpaceAndLines cs i) with
    | .error (.absent _) => closeArray cs openAt i acc
    | .error (.broken e) => .error (.broken e)
    | .ok (v, j) =>
      let k := skipSpaceAndLines cs j
      if cs[k]? = some ',' then readItems depth cs openAt fuel (k + 1) (v :: acc)
      else closeArray cs openAt k (v :: acc)
termination_by (depth, 1, fuel)

/-- Read an inline table whose opening brace stands at `openAt`. -/
def readInline (depth : Nat) (cs : Array Char) (openAt : Nat) : Except Miss (Toml × Nat) :=
  match depth with
  | 0 => .error (.broken ⟨⟨openAt + 1, openAt + 1⟩, "recursion limit exceeded"⟩)
  | d + 1 => readPairs d cs openAt (cs.size + 1) (openAt + 1) []
termination_by (depth, 2, 0)

/-- Read the pairs of an inline table from `i`, each after a comma but the first; `fuel`
bounds their number. A comma that no pair follows is not read. -/
def readPairs (depth : Nat) (cs : Array Char) (openAt : Nat) (fuel : Nat) (i : Nat)
    (acc : List (List KeyPart × Toml)) : Except Miss (Toml × Nat) :=
  match fuel with
  | 0 => closeInline cs openAt i acc
  | fuel + 1 =>
    match readKey cs i with
    | .error (.absent _) => closeInline cs openAt i acc
    | .error (.broken e) => .error (.broken e)
    | .ok (key, j) =>
      if cs[j]? ≠ some '=' then .error (.broken ⟨⟨j, j⟩, "expected `.`, `=`"⟩)
      else
        match readValue depth cs (skipBlanks cs (j + 1)) with
        | .error e => .error (.broken e.error)
        | .ok (v, q) =>
          let k := skipBlanks cs q
          let acc := (key, v) :: acc
          match cs[k]?, readKey cs (k + 1) with
          | some ',', .error (.absent _) => closeInline cs openAt k acc
          | some ',', _ => readPairs depth cs openAt fuel (k + 1) acc
          | _, _ => closeInline cs openAt k acc
termination_by (depth, 1, fuel)

end

end Catalog.Config
