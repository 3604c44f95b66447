/-!
# TOML documents

Settings are written in TOML. A document is read into a tree of values, each with the span
of text it was read from, so that a later complaint about a value can point at it. A
document that cannot be read gives a `TomlError` at the position where reading stopped.

Both kinds of error are shown the same way (`TomlError.render`): the line and column of the
span's start, the line itself, carets under the span (at least one, and not past the end of
the line), and the message.

This module holds the tree and the rules for adding keys to it. A table remembers how it
came to be (`TableOrigin`), which decides what may still be added to it:

* a header may name a table once, and may take over a table that was only made on the way
  to another header;
* a dotted key may pass through tables made by dotted keys, but not through a table that a
  header named, nor through a value;
* a key is added to a table only once.
-/

namespace Catalog.Config

/-- The characters from `start` up to, not including, `stop`. -/
structure Span where
  start : Nat
  stop : Nat
  deriving Repr, BEq, Inhabited

/-- How a table came to be. -/
inductive TableOrigin where
  /-- Written between braces, as a value. -/
  | inline
  /-- Named by a header, or the whole document. -/
  | header
  /-- Made on the way to the table a header names, and not named by one yet. -/
  | implicit
  /-- Made by a dotted key. -/
  | dotted
  deriving Repr, BEq, DecidableEq, Inhabited

/-- A TOML value with the span it was read from. A table made by a key, and not named by a
header, has the span of that key. -/
inductive Toml where
  | str (s : String) (span : Span)
  | int (n : Int) (span : Span)
  | float (f : Float) (span : Span)
  | bool (b : Bool) (span : Span)
  | datetime (text : String) (span : Span)
  /-- An array; `ofTables` when headers of an array of tables made it. -/
  | array (items : List Toml) (ofTables : Bool) (span : Span)
  | table (entries : List (String × Toml)) (origin : TableOrigin) (span : Span)
  deriving Inhabited

/-- The span of a value. -/
def Toml.span : Toml → Span
  | .str _ s | .int _ s | .float _ s | .bool _ s | .datetime _ s | .array _ _ s
  | .table _ _ s => s

/-- The kind of a value, as messages about keys name it. -/
def Toml.kindName : Toml → String
  | .str .. => "string"
  | .int .. => "integer"
  | .float .. => "float"
  | .bool .. => "boolean"
  | .datetime .. => "datetime"
  | .array .. => "array"
  | .table .. => "inline table"

/-- A complaint about a document: the span it concerns and the message, whose lines end
with line breaks when shown. -/
structure TomlError where
  span : Span
  message : String
  deriving Repr, Inhabited

/-! ## Showing an error -/

/-- The UTF-8 length of some characters. -/
def utf8Length (cs : List Char) : Nat :=
  cs.foldl (fun n c => n + c.utf8Size) 0

/-- The error shown against the document it concerns: its line and column, the line
itself, a mark under the span (cut at the end of the line), and the message. -/
def TomlError.render (e : TomlError) (doc : String) : String :=
  let cs := doc.toList
  let lines := cs.splitOn '\n'
  if cs.isEmpty then e.message ++ "\n" else
  -- an error at the very end is shown on the last character
  let index := min e.span.start (cs.length - 1)
  let beyond := e.span.start - index
  let before := cs.take index
  let lineNo := before.count '\n'
  let lineStart := before.length - ((before.reverse.takeWhile (· ≠ '\n')).length)
  -- the column counts characters, but bytes when the error stands on a character of
  -- several bytes, which cannot end the text counted
  let column :=
    if beyond = 0 && (cs[index]?.map Char.utf8Size).getD 1 > 1 then
      utf8Length (before.drop lineStart)
    else index - lineStart + beyond
  let content := (lines[lineNo]?).getD []
  let spanBytes := utf8Length ((cs.drop e.span.start).take (e.span.stop - e.span.start))
  let highlight := min spanBytes (utf8Length content - column)
  let gutter := (toString (lineNo + 1)).length
  let pad (n : Nat) : String := String.ofList (List.replicate n ' ')
  "TOML parse error at line " ++ toString (lineNo + 1) ++ ", column " ++ toString (column + 1) ++
    "\n" ++ pad (gutter + 1) ++ "|\n" ++ toString (lineNo + 1) ++ " | " ++ String.ofList content ++
    "\n" ++ pad (gutter + 1) ++ "|" ++ pad (column + 1) ++ "^" ++
    String.ofList (List.replicate (highlight - 1) '^') ++ "\n" ++ e.message ++ "\n"

/-! ## Adding keys -/

/-- A part of a dotted key: its name, its text as written (quotes included) and the span of
that text. -/
structure KeyPart where
  name : String
  raw : String
  span : Span
  deriving Inhabited

/-- Why a key cannot be added. -/
inductive KeyFault where
  /-- The key is there already; `table` names the table when the message does. -/
  | duplicate (key : String) (table : Option (List String))
  /-- A dotted key passes through a value that is not a table. -/
  | extendsValue (path : List String) (kind : String)

/-- The message of a key fault. -/
def KeyFault.message : KeyFault → String
  | .duplicate key none => "duplicate key `" ++ key ++ "`"
  | .duplicate key (some []) => "duplicate key `" ++ key ++ "` in document root"
  | .duplicate key (some path) =>
    "duplicate key `" ++ key ++ "` in table `" ++ ".".intercalate path ++ "`"
  | .extendsValue path kind =>
    "dotted key `" ++ ".".intercalate path ++ "` attempted to extend non-table type (" ++
      kind ++ ")"

/-- Along what a path is followed. -/
inductive Reach where
  /-- Toward the table that a header names. -/
  | header
  /-- Along a dotted key of the document. -/
  | dotted
  /-- Along a dotted key inside a table written between braces. -/
  | inline
  deriving BEq

/-- Give an entry of a table a new value, or add it last. -/
def setEntry (entries : List (String × Toml)) (k : String) (v : Toml) :
    List (String × Toml) :=
  if entries.any (·.1 == k) then entries.map fun e => if e.1 == k then (k, v) else e
  else entries ++ [(k, v)]

/-- Change the table at the end of a path inside a table, making the missing tables on the
way: tables made on the way to a header when following a header, tables made by dotted keys
otherwise. An array of tables on the way stands for its last table. A value on the way is
refused, and so is a table named by a header on the way of a dotted key of the document;
inside a table written between braces every table may be passed. `done` is the part of the
path already followed, for messages. -/
def descend (reach : Reach) (f : Toml → Except KeyFault Toml) (done : List String) :
    Toml → List KeyPart → Except KeyFault Toml
  | t, [] => f t
  | .table entries origin span, k :: rest =>
    let here := done ++ [k.name]
    match entries.lookup k.name with
    | none => do
      let made := if reach == .header then TableOrigin.implicit else .dotted
      let sub ← descend reach f here (.table [] made k.span) rest
      .ok (.table (entries ++ [(k.name, sub)]) origin span)
    | some (.array items true s) =>
      match items.getLast? with
      | some last => do
        let last ← descend reach f here last rest
        .ok (.table (setEntry entries k.name (.array (items.dropLast ++ [last]) true s)) origin
          span)
      | none => .error (.extendsValue here "array")
    | some v@(.table subEntries subOrigin subSpan) =>
      if subOrigin == .inline && reach != .inline then .error (.extendsValue here v.kindName)
      else if subOrigin == .header && reach == .dotted then .error (.duplicate k.name none)
      else do
        let sub ← descend reach f here (.table subEntries subOrigin subSpan) rest
        .ok (.table (setEntry entries k.name sub) origin span)
    | some v => .error (.extendsValue here v.kindName)
  | t, _ => .ok t

/-- Name the table at a path by a header whose span is given. A table only made on the way to
a header is taken over and moves last among its siblings; any other entry of that name is a
duplicate. -/
def Toml.nameTable (root : Toml) (path : List KeyPart) (span : Span) : Except KeyFault Toml :=
  match path.getLast? with
  | none => .ok root
  | some last =>
    descend .header (fun parent =>
      match parent with
      | .table entries origin s =>
        match entries.lookup last.name with
        | none => .ok (.table (entries ++ [(last.name, .table [] .header span)]) origin s)
        | some (.table sub .implicit _) =>
          .ok (.table (entries.filter (·.1 != last.name) ++ [(last.name, .table sub .header span)])
            origin s)
        | some _ => .error (.duplicate last.raw (some (path.dropLast.map (·.name))))
      | t => .ok t) [] root path.dropLast

/-- Add a table to the array of tables at a path, for a header whose span is given; the
array is made if missing, and any other entry of that name is a duplicate. -/
def Toml.appendTable (root : Toml) (path : List KeyPart) (span : Span) :
    Except KeyFault Toml :=
  match path.getLast? with
  | none => .ok root
  | some last =>
    descend .header (fun parent =>
      match parent with
      | .table entries origin s =>
        let fresh := Toml.table [] .header span
        match entries.lookup last.name with
        | none => .ok (.table (entries ++ [(last.name, .array [fresh] true span)]) origin s)
        | some (.array items true s2) =>
          .ok (.table (setEntry entries last.name (.array (items ++ [fresh]) true s2)) origin s)
        | some _ => .error (.duplicate last.raw (some (path.dropLast.map (·.name))))
      | t => .ok t) [] root path.dropLast

/-- Add a key-value pair to the table at the end of `key`'s leading parts inside table `t`,
following them along `reach`. The last part must be new there, and a key of several parts must
end in a table made by dotted keys, one of a single part in a table that is not. `header`
names `t` in messages, when they name it. -/
def Toml.addPair (t : Toml) (reach : Reach) (header : Option (List String))
    (key : List KeyPart) (v : Toml) : Except KeyFault Toml :=
  match key.getLast? with
  | none => .ok t
  | some last =>
    let lead := key.dropLast
    descend reach (fun target =>
      match target with
      | .table entries origin span =>
        if (origin == .dotted) == lead.isEmpty then .error (.duplicate last.name none)
        else if entries.any (·.1 == last.name) then .error (.duplicate last.name header)
        else .ok (.table (entries ++ [(last.name, v)]) origin span)
      | other => .ok other) [] t lead

end Catalog.Config
