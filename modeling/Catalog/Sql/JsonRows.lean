import Catalog.Sql.JsonText

/-!
# A JSON document as rows

`json_each(doc [, path])` gives one row per item of the array or member of the object that
the path (by default `$`) finds in the document, or one row for the node itself when it is
neither. `json_tree(doc [, path])` gives the node the path finds and then everything below
it, in document order, each node before what it holds.

Each row has eight columns: `key` (the item's position or the member's key), `value` (the
node as a value: JSON text for an array or object), `type` (the kind's name), `atom` (the
value of anything but an array or object), `id`, `parent` (the `id` of the row of the node
that holds it, for `json_tree` only), `fullkey` (the path to the node) and `path` (the path
to the node that holds it). The rows are numbered from 0.

A node's `id` is where it starts in the binary form of the document: each node is a header
of one, two, three or five bytes (as its payload needs) followed by its payload, which is
the text of a number or string as written, the nodes of an array in order, or the key and
value of each member of an object in order. A member's row takes the `id` of its key.

The row of the node the path finds has the `id` of the key when the path's last step is a
key. Under `json_tree` that row's `path` is the path up to the last step whose node starts
with the found one (else `$`), and its key is what the rest of the path names: a position
for `[n]`, the text in quotes for `."key"`, and the text after the dot otherwise; under
`json_each`, and for the path `$`, it has no key.

A `null` document or path gives no rows, and so does a path that finds nothing; a path that
does not start with `$` or is not well formed is refused, and so is a document that is not
JSON.
-/

namespace Catalog.Sql

open Catalog

namespace JsonTree

/-! ## The binary form -/

/-- The bytes a node's header takes for a payload of `n` bytes. -/
def headerSize (n : Nat) : Nat :=
  if n ≤ 11 then 1 else if n ≤ 255 then 2 else if n ≤ 65535 then 3 else 5

/-- The bytes a string node whose text between quotes is `raw` takes. -/
def textSize (raw : String) : Nat :=
  headerSize raw.utf8ByteSize + raw.utf8ByteSize

/-- The bytes a node takes in the binary form: its header and its payload. -/
def binarySize : JsonTree → Nat
  | .null | .bool _ => 1
  | .number t => textSize t
  | .string raw => textSize raw
  | .array items =>
    let p := (items.map binarySize).foldr (· + ·) 0
    headerSize p + p
  | .object members =>
    let p := (members.map fun m => textSize m.1 + binarySize m.2).foldr (· + ·) 0
    headerSize p + p
decreasing_by
  · rename_i h
    have hlt := List.sizeOf_lt_of_mem h
    rw [JsonTree.array.sizeOf_spec]
    omega
  · rename_i h
    have hlt := List.sizeOf_lt_of_mem h
    have hsnd := sizeOf_snd_lt m
    rw [JsonTree.object.sizeOf_spec]
    omega

/-- The bytes of a node's payload: what follows its header. -/
def payloadSize : JsonTree → Nat
  | .null | .bool _ => 0
  | .number t => t.utf8ByteSize
  | .string raw => raw.utf8ByteSize
  | .array items => (items.map binarySize).foldr (· + ·) 0
  | .object members => (members.map fun m => textSize m.1 + binarySize m.2).foldr (· + ·) 0

/-! ## Children -/

/-- The step of a path that reaches a member whose key is `raw` (as written between
quotes): `.key` when the key is an ASCII letter followed by ASCII letters and digits, else
`."key"`. -/
def memberStep (raw : String) : String :=
  let plain := match raw.toList with
    | c :: cs => c.isAlpha && cs.all Char.isAlphanum
    | [] => false
  if plain then "." ++ raw else ".\"" ++ raw ++ "\""

/-- A node that a container holds: its key as a value, the member's key as text (none for
an item), the path step that reaches it, the `id` of its row, and where it starts. -/
structure Child where
  key : Value
  label : Option String
  step : String
  id : Nat
  start : Nat
  node : JsonTree

/-- The items of an array, the first starting at `off` with the position `i`. -/
def itemsFrom (off i : Nat) : List JsonTree → List Child
  | [] => []
  | t :: ts =>
    ⟨.integer i, none, "[" ++ toString i ++ "]", off, off, t⟩ ::
      itemsFrom (off + t.binarySize) (i + 1) ts

/-- The members of an object, the first one's key starting at `off`. -/
def membersFrom (off : Nat) : List (String × JsonTree) → List Child
  | [] => []
  | (k, v) :: ms =>
    ⟨.text (textOf k), some (textOf k), memberStep k, off, off + textSize k, v⟩ ::
      membersFrom (off + textSize k + v.binarySize) ms

/-- What a node starting at `start` holds: an array's items or an object's members. -/
def children (t : JsonTree) (start : Nat) : List Child :=
  let first := start + headerSize t.payloadSize
  match t with
  | .array items => itemsFrom first 0 items
  | .object members => membersFrom first members
  | _ => []

/-! ## Paths -/

/-- What a path finds, with where: the node, where it starts, and where the key of its
member starts when the last step is a key. -/
inductive Located where
  | node (t : JsonTree) (start : Nat) (label : Option Nat)
  | missing
  | badPath

/-- Find a path (after its `$`) in a node starting at `start`, as `lookup` does. -/
def locate : Nat → JsonTree → Nat → Option Nat → List Char → Located
  | 0, _, _, _, _ => .missing
  | _ + 1, t, start, label, [] => .node t start label
  | fuel + 1, t, start, _, '.' :: rest =>
    match keyStep rest with
    | none => .badPath
    | some (key, after) =>
      match t with
      | .object _ =>
        match (children t start).find? (·.label == some key) with
        | some c => locate fuel c.node c.start (some c.id) after
        | none => .missing
      | _ => .missing
  | fuel + 1, t, start, _, '[' :: rest =>
    match t with
    | .array items =>
      match indexStep items.length rest with
      | .error () => .badPath
      | .ok none => .missing
      | .ok (some (k, after)) =>
        match (children t start)[k]? with
        | some c => locate fuel c.node c.start none after
        | none => .missing
    | _ => .missing
  | _ + 1, _, _, _, _ => .badPath

/-! ## Rows -/

/-- A row of `json_each` or `json_tree` before it is written as values. -/
structure JsonRow where
  key : Value
  node : JsonTree
  id : Nat
  parent : Option Nat
  fullkey : String
  path : String

/-- The values of a row: `key`, `value`, `type`, `atom`, `id`, `parent`, `fullkey`, `path`. -/
def JsonRow.values (r : JsonRow) : List Value :=
  [r.key, r.node.toValue, .text r.node.kindName,
    if r.node.isContainer then .null else r.node.toValue,
    .integer r.id, (r.parent.map fun p => Value.integer p).getD .null,
    .text r.fullkey, .text r.path]

/-- The rows of what a node holds and everything below it, in document order. The node
starts at `start`, its row has the id `parentId`, and the path to it is `fullkey`. -/
def descendants : Nat → JsonTree → Nat → Nat → String → List JsonRow
  | 0, _, _, _, _ => []
  | fuel + 1, t, start, parentId, fullkey =>
    (children t start).flatMap fun c =>
      ⟨c.key, c.node, c.id, some parentId, fullkey ++ c.step, fullkey⟩ ::
        descendants fuel c.node c.start c.id (fullkey ++ c.step)

/-- The length of the `path` of the first row of `json_tree`: the longest proper prefix of
the path, ending before a `.` or `[`, whose node's payload starts where the found row's id
is; else 1, for `$`. -/
def treePathLength (doc : JsonTree) (rootPath : List Char) (rootId : Nat) : Nat :=
  let fits (n : Nat) : Bool :=
    match rootPath[n]? with
    | some '.' | some '[' =>
      match locate (n + 1) doc 0 none ((rootPath.take n).drop 1) with
      | .node t start _ => start + headerSize t.payloadSize == rootId
      | _ => false
    | _ => false
  ((List.range rootPath.length).reverse.filter (fun n => n ≥ 1)).find? fits |>.getD 1

/-- The key of the first row of `json_tree`, from what its path names after `path`. -/
def treeKey (rest : List Char) : Value :=
  match rest with
  | [] => .null
  | '[' :: ds =>
    .integer (ds.takeWhile Char.isDigit |>.foldl (fun n c => n * 10 + (c.toNat - 48)) 0)
  | _ :: '"' :: cs => .text (String.ofList (cs.take (cs.length - 1)))
  | _ :: cs => .text (String.ofList cs)

/-- The rows of `json_each` (`tree` false) or `json_tree` (`tree` true) for the node a path
finds in a document: the node, where it starts, and where its member's key starts. -/
def rowsAt (tree : Bool) (doc : JsonTree) (rootPath : String) (t : JsonTree) (start : Nat)
    (label : Option Nat) : List JsonRow :=
  let rootId := label.getD start
  if tree then
    let cs := rootPath.toList
    let n := if cs.length ≥ 2 then treePathLength doc cs rootId else cs.length
    let key := if cs.length == 1 then .null else treeKey (cs.drop n)
    ⟨key, t, rootId, none, rootPath, String.ofList (cs.take n)⟩ ::
      descendants (t.binarySize + 1) t start rootId rootPath
  else if t.isContainer then
    (children t start).map fun c =>
      ⟨c.key, c.node, c.id, none, rootPath ++ c.step, rootPath⟩
  else [⟨.null, t, rootId, none, rootPath, rootPath⟩]

end JsonTree

/-- The names of the columns of `json_each` and `json_tree`. -/
def jsonRowColumns : List String :=
  ["key", "value", "type", "atom", "id", "parent", "fullkey", "path"]

/-- The rows of `json_each` (`tree` false) or `json_tree` (`tree` true) for its arguments:
a document and maybe a path. -/
def jsonRows (tree : Bool) (args : List Value) : Except StoreFault (List (List Value)) := do
  let some docValue := args.head? | return []
  let some doc ← documentOf { value := docValue, isJson := false } | return []
  let (rootPath, steps) ← match args[1]? with
    | none => pure ("$", [])
    | some .null => return []
    | some v =>
      let p := v.asText
      match p.toList with
      | '$' :: rest => pure (p, rest)
      | _ => badPath (some p)
  match JsonTree.locate (steps.length + 1) doc 0 none steps with
  | .node t start label =>
    pure ((JsonTree.rowsAt tree doc rootPath t start label).map JsonTree.JsonRow.values)
  | .missing => pure []
  | .badPath => badPath (some rootPath)

end Catalog.Sql
