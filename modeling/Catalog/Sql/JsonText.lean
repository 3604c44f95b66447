import Catalog.Sql.Operators

/-!
# JSON documents in SQL

The JSON functions read a document from text and write one back as text without blanks.
A document keeps what it was written with: a number its digits, a string the text between
its quotes (escapes as written), and an object its members in order, a repeated key
included. A control character in a string is read and written back escaped.

A path starts with `$`; each step after it is `.key` (up to the next `.` or `[`),
`."key"` (up to the next quote), `[n]` (the `n`-th item, from 0), `[#]` (one past the last
item) or `[#-n]` (`n` before that). A path is read only as far as the document reaches:
a step that finds nothing ends the lookup, whatever text follows it.

Editing a document at a path replaces, inserts or removes the node it finds. Inserting
where a key is missing from an object, or one past the last item of an array, builds the
rest of the path: an object for a `.key` step, an array for an index step, where only the
index one past the end (`[0]` or `[#]`) can be built.

A function argument that another JSON function made is JSON itself and is taken as it is;
any other text is a string.
-/

namespace Catalog.Sql

open Catalog

/-- A JSON value as the SQL functions hold it. -/
inductive JsonTree where
  | null
  | bool (b : Bool)
  /-- A number, by the text it was written with. -/
  | number (text : String)
  /-- A string, by the text between its quotes. -/
  | string (raw : String)
  | array (items : List JsonTree)
  | object (members : List (String × JsonTree))
  deriving Inhabited

namespace JsonTree

/-! ## Reading -/

/-- Whether a character is a blank between the tokens of a document. -/
def isBlank (c : Char) : Bool :=
  c == ' ' || c == '\t' || c == '\n' || c == '\r'

/-- A text without the blanks at its start. -/
def skipBlank : List Char → List Char
  | c :: cs => if isBlank c then skipBlank cs else c :: cs
  | [] => []

/-- Whether a character is a hexadecimal digit. -/
def isHex (c : Char) : Bool :=
  c.isDigit || ('a' ≤ c && c ≤ 'f') || ('A' ≤ c && c ≤ 'F')

/-- The text between the quotes of a string, after the opening quote, and the text after
the closing one; `none` when the string is not well formed. -/
def scanString (acc : List Char) : List Char → Option (List Char × List Char)
  | '"' :: rest => some (acc.reverse, rest)
  | '\\' :: 'u' :: a :: b :: c :: d :: rest =>
    if isHex a && isHex b && isHex c && isHex d then
      scanString (d :: c :: b :: a :: 'u' :: '\\' :: acc) rest
    else none
  | '\\' :: c :: rest =>
    if "\"\\/bfnrt".toList.contains c then scanString (c :: '\\' :: acc) rest else none
  | c :: rest => if c.toNat == 0 || c == '\\' then none else scanString (c :: acc) rest
  | [] => none

/-- The digits at the start of a text, and the text after them. -/
def spanDigits (cs : List Char) : List Char × List Char :=
  (cs.takeWhile Char.isDigit, cs.dropWhile Char.isDigit)

/-- The fraction of a number, with its point, and the text after it. -/
def scanFraction : List Char → Option (List Char × List Char)
  | '.' :: rest =>
    let (ds, r) := spanDigits rest
    if ds.isEmpty then none else some ('.' :: ds, r)
  | cs => some ([], cs)

/-- The exponent of a number, with its letter and sign, and the text after it. -/
def scanExponent : List Char → Option (List Char × List Char)
  | e :: rest =>
    if e == 'e' || e == 'E' then
      let (sign, r) := match rest with
        | '+' :: t => (['+'], t)
        | '-' :: t => (['-'], t)
        | t => ([], t)
      let (ds, r) := spanDigits r
      if ds.isEmpty then none else some (e :: sign ++ ds, r)
    else some ([], e :: rest)
  | [] => some ([], [])

/-- A number at the start of a text, and the text after it. -/
def scanNumber (cs : List Char) : Option (List Char × List Char) := do
  let (sign, r) := match cs with
    | '-' :: t => (['-'], t)
    | t => ([], t)
  let (whole, r) := spanDigits r
  if whole.isEmpty || (whole.length > 1 && whole.head? == some '0') then none
  let (frac, r) ← scanFraction r
  let (exp, r) ← scanExponent r
  pure (sign ++ whole ++ frac ++ exp, r)

mutual

/-- A value at the start of a text, after blanks, and the text after it. -/
def parseValue : Nat → List Char → Option (JsonTree × List Char)
  | 0, _ => none
  | fuel + 1, cs =>
    match skipBlank cs with
    | '{' :: rest => parseMembers fuel rest []
    | '[' :: rest => parseItems fuel rest []
    | '"' :: rest => (scanString [] rest).map fun (raw, r) => (.string (String.ofList raw), r)
    | 'n' :: 'u' :: 'l' :: 'l' :: rest => some (.null, rest)
    | 't' :: 'r' :: 'u' :: 'e' :: rest => some (.bool true, rest)
    | 'f' :: 'a' :: 'l' :: 's' :: 'e' :: rest => some (.bool false, rest)
    | other => (scanNumber other).map fun (t, r) => (.number (String.ofList t), r)

/-- The items of an array after its `[` and the items `acc` read so far (latest first). -/
def parseItems : Nat → List Char → List JsonTree → Option (JsonTree × List Char)
  | 0, _, _ => none
  | fuel + 1, cs, acc =>
    match skipBlank cs, acc with
    | ']' :: rest, [] => some (.array [], rest)
    | _, _ =>
      match parseValue fuel cs with
      | none => none
      | some (v, r) =>
        match skipBlank r with
        | ',' :: r' => parseItems fuel r' (v :: acc)
        | ']' :: r' => some (.array (v :: acc).reverse, r')
        | _ => none

/-- The members of an object after its `{` and the members `acc` read so far (latest
first). -/
def parseMembers : Nat → List Char → List (String × JsonTree) → Option (JsonTree × List Char)
  | 0, _, _ => none
  | fuel + 1, cs, acc =>
    match skipBlank cs, acc with
    | '}' :: rest, [] => some (.object [], rest)
    | '"' :: rest, _ =>
      match scanString [] rest with
      | none => none
      | some (key, r) =>
        match skipBlank r with
        | ':' :: r' =>
          match parseValue fuel r' with
          | none => none
          | some (v, r'') =>
            let acc := (String.ofList key, v) :: acc
            match skipBlank r'' with
            | ',' :: r3 => parseMembers fuel r3 acc
            | '}' :: r3 => some (.object acc.reverse, r3)
            | _ => none
        | _ => none
    | _, _ => none

end

/-- The document a whole text holds, blanks around it allowed. -/
def parse (s : String) : Option JsonTree :=
  let cs := s.toList
  match parseValue (2 * cs.length + 2) cs with
  | some (v, rest) => if (skipBlank rest).isEmpty then some v else none
  | none => none

/-! ## Writing -/

/-- The hexadecimal digit of a number below 16. -/
def hexDigit (n : Nat) : Char :=
  "0123456789abcdef".toList.getD n '0'

/-- A control character as a string escape. -/
def controlEscape (c : Char) : String :=
  match c.toNat with
  | 8 => "\\b"
  | 9 => "\\t"
  | 10 => "\\n"
  | 12 => "\\f"
  | 13 => "\\r"
  | n => "\\u00" ++ (hexDigit (n / 16)).toString ++ (hexDigit (n % 16)).toString

/-- A text as the body of a JSON string: quotes, backslashes and control characters
escaped. -/
def escape (s : String) : String :=
  String.join (s.toList.map fun c =>
    if c == '"' then "\\\"" else if c == '\\' then "\\\\"
    else if c.toNat < 0x20 then controlEscape c else c.toString)

/-- The body of a string as written back: control characters escaped. -/
def writeRaw (raw : String) : String :=
  "\"" ++ String.join (raw.toList.map fun c =>
    if c.toNat < 0x20 then controlEscape c else c.toString) ++ "\""

/-- The second of a pair is smaller than the pair. -/
theorem sizeOf_snd_lt {α β : Type} [SizeOf α] [SizeOf β] (m : α × β) :
    sizeOf m.2 < sizeOf m := by
  cases m
  simp only [Prod.mk.sizeOf_spec]
  omega

/-- The text of a document, without blanks. -/
def render : JsonTree → String
  | .null => "null"
  | .bool b => if b then "true" else "false"
  | .number t => t
  | .string raw => writeRaw raw
  | .array items => "[" ++ ",".intercalate (items.map render) ++ "]"
  | .object members =>
    "\x7b" ++ ",".intercalate (members.map fun m => writeRaw m.1 ++ ":" ++ render m.2) ++ "\x7d"
decreasing_by
  · rename_i h
    have := List.sizeOf_lt_of_mem h
    simp_all
    omega
  · rename_i h
    have := List.sizeOf_lt_of_mem h
    have := sizeOf_snd_lt m
    simp_all
    omega

/-- The text of a document laid out one item per line, each level indented once more. -/
def pretty (indent : String) (level : Nat) : JsonTree → String
  | .array [] => "[]"
  | .object [] => "{}"
  | .array items =>
    let pad := String.join (List.replicate (level + 1) indent)
    "[\n" ++ ",\n".intercalate (items.map fun v => pad ++ pretty indent (level + 1) v) ++ "\n" ++
      String.join (List.replicate level indent) ++ "]"
  | .object members =>
    let pad := String.join (List.replicate (level + 1) indent)
    "\x7b\n" ++ ",\n".intercalate (members.map fun m =>
      pad ++ writeRaw m.1 ++ ": " ++ pretty indent (level + 1) m.2) ++ "\n" ++
      String.join (List.replicate level indent) ++ "\x7d"
  | t => t.render
termination_by t => sizeOf t
decreasing_by
  · rename_i h
    have := List.sizeOf_lt_of_mem h
    simp_all
    omega
  · rename_i h
    have := List.sizeOf_lt_of_mem h
    have := sizeOf_snd_lt m
    simp_all
    omega

/-! ## Values -/

/-- The value of four hexadecimal digits. -/
def hexValue4 (cs : List Char) : Nat :=
  cs.foldl (fun acc c =>
    acc * 16 + (if c.isDigit then c.toNat - 48
      else if 'a' ≤ c && c ≤ 'f' then c.toNat - 87 else c.toNat - 55)) 0

/-- The text a string's body stands for, its escapes read. -/
def unescape : List Char → List Char
  | '\\' :: 'u' :: a :: b :: c :: d :: '\\' :: 'u' :: e :: f :: g :: h :: rest =>
    let hi := hexValue4 [a, b, c, d]
    let lo := hexValue4 [e, f, g, h]
    if 0xD800 ≤ hi && hi < 0xDC00 && 0xDC00 ≤ lo && lo < 0xE000 then
      Char.ofNat (0x10000 + (hi - 0xD800) * 0x400 + (lo - 0xDC00)) :: unescape rest
    else Char.ofNat hi :: unescape ('\\' :: 'u' :: e :: f :: g :: h :: rest)
  | '\\' :: 'u' :: a :: b :: c :: d :: rest => Char.ofNat (hexValue4 [a, b, c, d]) :: unescape rest
  | '\\' :: c :: rest =>
    (match c with
      | 'b' => Char.ofNat 8
      | 'f' => Char.ofNat 12
      | 'n' => '\n'
      | 'r' => '\r'
      | 't' => '\t'
      | c => c) :: unescape rest
  | c :: rest => c :: unescape rest
  | [] => []

/-- The text of a string's body. -/
def textOf (raw : String) : String :=
  String.ofList (unescape raw.toList)

/-- The SQL value of a node: `true` and `false` are `1` and `0`, a number its value, a
string its text, and an array or object its JSON text. -/
def toValue : JsonTree → Value
  | .null => .null
  | .bool b => .integer (if b then 1 else 0)
  | .number t => (numberOf? t).getD .null
  | .string raw => .text (textOf raw)
  | t => .text t.render

/-- The name of a node's kind. -/
def kindName : JsonTree → String
  | .null => "null"
  | .bool b => if b then "true" else "false"
  | .number t => if t.toList.any (fun c => c == '.' || c == 'e' || c == 'E') then "real"
    else "integer"
  | .string _ => "text"
  | .array _ => "array"
  | .object _ => "object"

/-- Whether a node is an array or an object. -/
def isContainer : JsonTree → Bool
  | .array _ | .object _ => true
  | _ => false

/-! ## Paths -/

/-- The key of a `.key` step, after the dot, and the path after it; `none` when the step is
not well formed. -/
def keyStep : List Char → Option (String × List Char)
  | '"' :: rest =>
    match rest.dropWhile (· != '"') with
    | '"' :: after => some (String.ofList (rest.takeWhile (· != '"')), after)
    | _ => none
  | cs =>
    let key := cs.takeWhile fun c => c != '.' && c != '['
    if key.isEmpty then none else some (String.ofList key, cs.drop key.length)

/-- Where an index step points in an array of `count` items, after the `[`: the position
and the path after the step, `none` when it points before the first item, and an error
when the step is not well formed. -/
def indexStep (count : Nat) (cs : List Char) : Except Unit (Option (Nat × List Char)) :=
  let (ds, rest) := spanDigits cs
  if !ds.isEmpty then
    match rest with
    | ']' :: after => .ok (some (ds.foldl (fun n c => n * 10 + (c.toNat - 48)) 0, after))
    | _ => .error ()
  else
    match cs with
    | '#' :: '-' :: d :: more =>
      if d.isDigit then
        let (ds, rest) := spanDigits (d :: more)
        let back := ds.foldl (fun n c => n * 10 + (c.toNat - 48)) 0
        if back > count then .ok none
        else match rest with
          | ']' :: after => .ok (some (count - back, after))
          | _ => .error ()
      else .error ()
    | '#' :: ']' :: after => .ok (some (count, after))
    | _ => .error ()

/-- Whether a member's key is the key of a path step. -/
def keyIs (key : String) (member : String × JsonTree) : Bool :=
  textOf member.1 == key

/-- What a lookup finds: a node, nothing, or a path that is not well formed. -/
inductive Found where
  | node (t : JsonTree)
  | missing
  | badPath

/-- The node a path (after its `$`) finds in a document. -/
def lookup : Nat → JsonTree → List Char → Found
  | 0, _, _ => .missing
  | _ + 1, t, [] => .node t
  | fuel + 1, t, '.' :: rest =>
    match keyStep rest with
    | none => .badPath
    | some (key, after) =>
      match t with
      | .object members =>
        match members.find? (keyIs key) with
        | some (_, v) => lookup fuel v after
        | none => .missing
      | _ => .missing
  | fuel + 1, t, '[' :: rest =>
    match t with
    | .array items =>
      match indexStep items.length rest with
      | .error () => .badPath
      | .ok none => .missing
      | .ok (some (k, after)) =>
        match items[k]? with
        | some v => lookup fuel v after
        | none => .missing
    | _ => .missing
  | _ + 1, _, _ => .badPath

/-- The ways to edit a document at a path. -/
inductive Edit where
  | remove
  | replace
  | insert
  | set
  deriving DecidableEq

/-- Whether an edit builds what its path does not find. -/
def Edit.builds (e : Edit) : Bool :=
  e == .insert || e == .set

/-- Replace the member of the first key of a list that a test picks. -/
def setMember (p : String × JsonTree → Bool) (v : JsonTree) :
    List (String × JsonTree) → List (String × JsonTree)
  | m :: ms => if p m then (m.1, v) :: ms else m :: setMember p v ms
  | [] => []

/-- Remove the first member of a list that a test picks. -/
def dropMember (p : String × JsonTree → Bool) : List (String × JsonTree) → List (String × JsonTree)
  | m :: ms => if p m then ms else m :: dropMember p ms
  | [] => []

mutual

/-- A document edited at a path (after its `$`, not empty): the new document, `none` when
the path finds nothing to change, or an error for a path that is not well formed. -/
def editAt : Nat → Edit → JsonTree → List Char → JsonTree → Except Unit (Option JsonTree)
  | 0, _, _, _, _ => .ok none
  | fuel + 1, mode, t, '.' :: rest, v =>
    match keyStep rest with
    | none => .error ()
    | some (key, after) =>
      match t with
      | .object members =>
        match members.find? (keyIs key) with
        | some (_, child) =>
          if after.isEmpty then
            match mode with
            | .remove => .ok (some (.object (dropMember (keyIs key) members)))
            | .insert => .ok none
            | _ => .ok (some (.object (setMember (keyIs key) v members)))
          else
            match editAt fuel mode child after v with
            | .ok (some c) => .ok (some (.object (setMember (keyIs key) c members)))
            | r => r
        | none =>
          if mode.builds then
            match build fuel mode after v with
            | .ok (some c) => .ok (some (.object (members ++ [(escape key, c)])))
            | r => r
          else .ok none
      | _ => .ok none
  | fuel + 1, mode, t, '[' :: rest, v =>
    match t with
    | .array items =>
      match indexStep items.length rest with
      | .error () => .error ()
      | .ok none => .ok none
      | .ok (some (k, after)) =>
        match items[k]? with
        | some child =>
          if after.isEmpty then
            match mode with
            | .remove => .ok (some (.array (items.eraseIdx k)))
            | .insert => .ok none
            | _ => .ok (some (.array (items.set k v)))
          else
            match editAt fuel mode child after v with
            | .ok (some c) => .ok (some (.array (items.set k c)))
            | r => r
        | none =>
          if k == items.length && mode.builds then
            match build fuel mode after v with
            | .ok (some c) => .ok (some (.array (items ++ [c])))
            | r => r
          else .ok none
    | _ => .ok none
  | _ + 1, _, _, _, _ => .error ()

/-- What inserting at the rest of a path builds: the value itself at the end of the path,
else an empty object or array edited at the rest. -/
def build : Nat → Edit → List Char → JsonTree → Except Unit (Option JsonTree)
  | 0, _, _, _ => .ok none
  | _ + 1, _, [], v => .ok (some v)
  | fuel + 1, mode, c :: rest, v =>
    editAt fuel mode (if c == '.' then .object [] else .array []) (c :: rest) v

end

/-- Merge a patch into a document: a patch that is not an object replaces the document; an
object patch removes the keys it sets to `null` and merges the others in, key by key. -/
def mergePatch : Nat → JsonTree → JsonTree → JsonTree
  | 0, t, _ => t
  | fuel + 1, target, .object patch =>
    let start := match target with
      | .object ms => ms
      | _ => []
    .object (patch.foldl (fun ms (k, pv) =>
      let key := textOf k
      match pv with
      | .null => dropMember (keyIs key) ms
      | _ =>
        match ms.find? (keyIs key) with
        | some (_, old) => setMember (keyIs key) (mergePatch fuel old pv) ms
        | none => ms ++ [(k, mergePatch fuel (.object []) pv)]) start)
  | _ + 1, _, patch => patch

end JsonTree

/-! ## Functions -/

/-- An argument of a JSON function: its value, and whether another JSON function made it,
so that it is JSON already. -/
structure JsonArg where
  value : Value
  isJson : Bool := false
  deriving Inhabited

/-- The functions whose results are JSON. -/
def jsonMakers : List String :=
  ["json", "json_array", "json_object", "json_set", "json_insert", "json_replace",
    "json_remove", "json_patch", "json_quote", "json_group_array", "json_group_object", "->"]

/-- The JSON functions of single rows, with the numbers of arguments they take (`none` for
any number of at least the first). -/
def jsonArity : String → Option (Nat × Option Nat)
  | "json" => some (1, some 1)
  | "json_valid" => some (1, some 2)
  | "json_type" => some (1, some 2)
  | "json_extract" => some (0, none)
  | "->" => some (2, some 2)
  | "->>" => some (2, some 2)
  | "json_array" => some (0, none)
  | "json_object" => some (0, none)
  | "json_array_length" => some (1, some 2)
  | "json_insert" => some (0, none)
  | "json_replace" => some (0, none)
  | "json_set" => some (0, none)
  | "json_remove" => some (0, none)
  | "json_patch" => some (2, some 2)
  | "json_quote" => some (1, some 1)
  | "json_pretty" => some (1, some 2)
  | _ => none

/-- The refusal of text that is not a JSON document. -/
def malformed {α : Type} : Except StoreFault α :=
  throw (.refused "malformed JSON")

/-- A text quoted as SQL writes a string: in single quotes, each inner one doubled. -/
def sqlQuoted (s : String) : String :=
  "'" ++ String.join (s.toList.map fun c => if c == '\'' then "''" else c.toString) ++ "'"

/-- The refusal of a path that is not well formed. -/
def badPath {α : Type} (path : Option String) : Except StoreFault α :=
  throw (.refused ("bad JSON path: " ++ (path.map sqlQuoted).getD "NULL"))

/-- The document an argument holds; `none` for `null`. -/
def documentOf (a : JsonArg) : Except StoreFault (Option JsonTree) :=
  match a.value with
  | .null => pure none
  | .blob _ => malformed
  | v =>
    match JsonTree.parse v.asText with
    | some t => pure (some t)
    | none => malformed

/-- The JSON text of a double: `null` for not-a-number, and a huge exponent for the
infinities. -/
def realJson (x : Float) : String :=
  if x != x then "null"
  else if isSpecial x then (if Decimal.signBit x then "-9.0e+999" else "9.0e+999")
  else realText x

/-- The node an argument stands for as a value in a document: JSON made by a JSON function
as it is, any other text as a string. -/
def nodeOf (a : JsonArg) : Except StoreFault JsonTree :=
  match a.value with
  | .null => pure .null
  | .integer n => pure (.number (toString n))
  | .real x => pure (if x != x then .null else .number (realJson x))
  | .text s =>
    if a.isJson then
      match JsonTree.parse s with
      | some t => pure t
      | none => malformed
    else pure (.string (JsonTree.escape s))
  | .blob _ => throw (.refused "JSON cannot hold BLOB values")

/-- The JSON text an argument stands for, JSON made by a JSON function taken as written. -/
def jsonTextOf (a : JsonArg) : Except StoreFault String :=
  match a.value with
  | .null => pure "null"
  | .integer n => pure (toString n)
  | .real x => pure (realJson x)
  | .text s => pure (if a.isJson then s else "\"" ++ JsonTree.escape s ++ "\"")
  | .blob _ => throw (.refused "JSON cannot hold BLOB values")

/-- The text of a path argument that must start with `$`. -/
def rootedPath (a : JsonArg) : Except StoreFault (Option (List Char)) :=
  match a.value.asText? with
  | none => pure none
  | some p =>
    match p.toList with
    | '$' :: rest => pure (some rest)
    | _ => badPath (some p)

/-- A path of the arrow operators: a path as it is, or a short form: an integer `n` for
`$[n]`, a key of letters, digits and underscores for `$.key`, `[n]` for `$[n]`, and any
other text for the key in quotes. -/
def arrowPath (v : Value) : Option (List Char) :=
  match v with
  | .null => none
  | .integer n => some ('[' :: (toString n).toList ++ [']'])
  | v =>
    let cs := v.asText.toList
    match cs with
    | '$' :: rest => some rest
    | _ =>
      if !cs.isEmpty && cs.all (fun c => c.isAlphanum || c == '_') then some ('.' :: cs)
      else if cs.length ≥ 3 && cs.head? == some '[' && cs.getLast? == some ']' then some cs
      else some ('.' :: '"' :: cs ++ ['"'])

/-- Look a path up in a document, refusing a path that is not well formed. -/
def lookupIn (t : JsonTree) (path : List Char) (text : String) :
    Except StoreFault (Option JsonTree) :=
  match JsonTree.lookup (path.length + 1) t path with
  | .node n => pure (some n)
  | .missing => pure none
  | .badPath => badPath (some text)

/-- `json_extract`, `->` and `->>`: the node each path finds, as a value, as JSON text
(`asJson`), or, for several paths, as a JSON array of them. -/
def extract (asJson arrow : Bool) (args : List JsonArg) : Except StoreFault Value := do
  match args with
  | [] | [_] => pure .null
  | doc :: paths =>
    let some t ← documentOf doc | pure .null
    let mut found : List (Option JsonTree) := []
    for p in paths do
      let text := p.value.asText
      let path ← if arrow then
          match arrowPath p.value with
          | some cs => pure cs
          | none => return .null
        else
          match ← rootedPath p with
          | some cs => pure cs
          | none => return .null
      found := found ++ [← lookupIn t path text]
    match found with
    | [one] =>
      match one with
      | some n => pure (if asJson then .text n.render else n.toValue)
      | none => pure .null
    | many => pure (.text ("[" ++ ",".intercalate (many.map fun n => (n.map (·.render)).getD "null") ++ "]"))

/-- `json_set`, `json_insert`, `json_replace` and `json_remove`: the document edited at each
path in turn. -/
def editDocument (mode : JsonTree.Edit) (fname : String) (args : List JsonArg) :
    Except StoreFault Value := do
  match args with
  | [] => pure .null
  | doc :: rest =>
    if mode != .remove && rest.length % 2 == 1 then
      throw (.refused ("json_" ++ fname ++ "() needs an odd number of arguments"))
    let some t ← documentOf doc | pure .null
    let mut t := t
    let steps := if mode == .remove then rest.map (·, none)
      else (List.range (rest.length / 2)).map fun i =>
        (rest.getD (2 * i) default, some (rest.getD (2 * i + 1) default))
    for (p, v?) in steps do
      let some text := p.value.asText? |
        if mode == .remove then return .null else badPath none
      let some path := (match text.toList with
        | '$' :: r => some r
        | _ => none) | badPath (some text)
      let v ← match v? with
        | some a => nodeOf a
        | none => pure .null
      if path.isEmpty then
        match mode with
        | .remove => return .null
        | .insert => pure ()
        | _ => t := v
      else
        match JsonTree.editAt (path.length + 1) mode t path v with
        | .error () => badPath (some text)
        | .ok (some t') => t := t'
        | .ok none => pure ()
    pure (.text t.render)

/-- A JSON function of single rows applied to its arguments. -/
def callJson (name : String) (args : List JsonArg) : Except StoreFault Value :=
  let arg (i : Nat) : JsonArg := args.getD i { value := .null }
  match name with
  | "json" => do
    match ← documentOf (arg 0) with
    | some t => pure (.text t.render)
    | none => pure .null
  | "json_valid" => do
    if args.length == 2 then
      let flags := (arg 1).value.asInteger
      if flags < 1 || flags > 15 then
        throw (.refused "FLAGS parameter to json_valid() must be between 1 and 15")
    match (arg 0).value with
    | .null => pure .null
    | .blob _ => pure (.integer 0)
    | v =>
      let textOk := args.length < 2 || (arg 1).value.asInteger % 4 != 0
      pure (.integer (if textOk && (JsonTree.parse v.asText).isSome then 1 else 0))
  | "json_type" | "json_array_length" => do
    let some t ← documentOf (arg 0) | pure .null
    let node ← if args.length == 2 then
        match ← rootedPath (arg 1) with
        | some path => lookupIn t path (arg 1).value.asText
        | none => pure none
      else pure (some t)
    match node with
    | none => pure .null
    | some n =>
      if name == "json_type" then pure (.text n.kindName)
      else match n with
        | .array items => pure (.integer items.length)
        | _ => pure (.integer 0)
  | "json_extract" => extract false false args
  | "->" => extract true true args
  | "->>" => extract false true args
  | "json_array" => do
    let items ← args.mapM jsonTextOf
    pure (.text ("[" ++ ",".intercalate items ++ "]"))
  | "json_object" => do
    if args.length % 2 == 1 then
      throw (.refused "json_object() requires an even number of arguments")
    let mut members : List String := []
    for i in List.range (args.length / 2) do
      let k := arg (2 * i)
      let key ← match k.value with
        | .text s => pure s
        | _ => throw (.refused "json_object() labels must be TEXT")
      members := members ++ ["\"" ++ JsonTree.escape key ++ "\":" ++ (← jsonTextOf (arg (2 * i + 1)))]
    pure (.text ("\x7b" ++ ",".intercalate members ++ "\x7d"))
  | "json_insert" => editDocument .insert "insert" args
  | "json_replace" => editDocument .replace "replace" args
  | "json_set" => editDocument .set "set" args
  | "json_remove" => editDocument .remove "remove" args
  | "json_patch" => do
    let some target ← documentOf (arg 0) | pure .null
    let some patch ← documentOf (arg 1) | pure .null
    pure (.text (JsonTree.mergePatch (patch.render.length + 1) target patch).render)
  | "json_quote" => do pure (.text (← jsonTextOf (arg 0)))
  | "json_pretty" => do
    let some t ← documentOf (arg 0) | pure .null
    let indent := if args.length == 2 then ((arg 1).value.asText?.getD "    ") else "    "
    pure (.text (t.pretty indent 0))
  | _ => throw (.refused ("no such function: " ++ name))

/-- `json_group_array`: the values of a group as a JSON array. -/
def groupArray (values : List JsonArg) : Except StoreFault Value := do
  pure (.text ("[" ++ ",".intercalate (← values.mapM jsonTextOf) ++ "]"))

/-- `json_group_object`: the pairs of a group as a JSON object; a `null` label writes no
key. -/
def groupObject (pairs : List (Value × JsonArg)) : Except StoreFault Value := do
  let members ← pairs.mapM fun (k, v) => do
    let key := match k.asText? with
      | some s => "\"" ++ JsonTree.escape s ++ "\""
      | none => ""
    pure (key ++ ":" ++ (← jsonTextOf v))
  pure (.text ("\x7b" ++ ",".intercalate members ++ "\x7d"))

end Catalog.Sql
