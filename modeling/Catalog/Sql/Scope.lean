import Catalog.Sql.Database
import Catalog.Sql.Operators

/-!
# Names in reach

While a query runs, every source of its `FROM` clause contributes a *slot* to the current
row: the name the source goes by (its alias or its own name), its columns and their
values, and its row id when it has one. The slots of one query form a scope; a subquery
sees its own scope first and then the scopes of the queries around it.

A column written without a table is looked for in the innermost scope first: exactly one
column of that scope must have the name (more is ambiguous); if none has it, and the name
is `rowid`, `oid` or `_rowid_`, the one source with a row id gives it; otherwise the search
goes on outward. A name found nowhere is, when it was written in double quotes, a text;
`true` and `false` are `1` and `0`; any other is refused as no such column.

The *shape* of a source or a query is its slots or columns with the values left out; it is
known before any row is read, so that a statement that names a missing table, column or
function is refused even when it would read no row.
-/

namespace Catalog.Sql

open Catalog

/-- A column that a source or a query result offers. -/
structure Field where
  name : String
  affinity : Option Affinity
  collation : Collation
  type : String
  deriving Inhabited

/-- A source's part of the current row. Columns in `hidden` were merged into an earlier
source by a join on equal columns and are found only with the source's name. -/
structure Slot where
  source : String
  fields : List Field
  values : List Value
  rowid : Option Int
  hidden : List String
  deriving Inhabited

/-- The fields of a table's columns. -/
def Table.fields (t : Table) : List Field :=
  t.columns.map fun c => ⟨c.name, some c.affinity, c.collation, c.type⟩

/-- The slot of a table row, under the name the source goes by. -/
def Table.slot (t : Table) (source : String) (r : Row) : Slot :=
  ⟨source, t.fields, r.values, if t.withoutRowid then none else some r.rowid, []⟩

/-- A slot with every value `null` (and row id `0` when the source has row ids). -/
def Slot.blank (s : Slot) : Slot :=
  { s with values := s.fields.map fun _ => .null, rowid := s.rowid.map fun _ => 0 }

/-- The catalog's columns. -/
def catalogFields : List Field :=
  [⟨"type", some .text, .binary, "text"⟩, ⟨"name", some .text, .binary, "text"⟩,
    ⟨"tbl_name", some .text, .binary, "text"⟩, ⟨"rootpage", some .integer, .binary, "int"⟩,
    ⟨"sql", some .text, .binary, "text"⟩]

/-- The catalog's rows for the objects of a schema, one per object in creation order. -/
def catalogRows (objects : List SchemaObject) : List (List Value) :=
  (objects.zip (List.range objects.length)).map fun (o, i) =>
    [.text o.kindName, .text o.name, .text o.tableName,
      (match o with | .view _ => .integer 0 | _ => .integer (i + 2)),
      (match o.sql with | some s => .text s | none => .null)]

/-- Whether a name is a name of the catalog of the main schema. -/
def isMainCatalogName (n : String) : Bool :=
  sameName n "sqlite_master" || sameName n "sqlite_schema"

/-- Whether a name is a name of the catalog of the temporary schema. -/
def isTempCatalogName (n : String) : Bool :=
  sameName n "sqlite_temp_master" || sameName n "sqlite_temp_schema"

/-- What a name in a `FROM` clause stands for. -/
inductive Named where
  | table (t : Table)
  | view (v : View)
  | catalog (objects : List SchemaObject)

/-- The text of an object's name as a statement wrote it. -/
def ObjectName.text (n : ObjectName) : String :=
  match n.schema with
  | some s => s ++ "." ++ n.name
  | none => n.name

/-- The schemas a possibly qualified name is looked up in, or a refusal for an unknown
schema. -/
def schemasOf (n : ObjectName) : Except StoreFault (List Schema) :=
  match n.schema with
  | none => pure Database.searchOrder
  | some s =>
    if sameName s "main" then pure [.main]
    else if sameName s "temp" then pure [.temp]
    else throw (.refused ("unknown database " ++ s))

/-- What a name in a `FROM` clause stands for, or the refusal of a missing table. -/
def Database.lookup (db : Database) (n : ObjectName) : Except StoreFault Named := do
  let schemas ← schemasOf n
  let catalog := schemas.findSome? fun s =>
    match s with
    | .main => if isMainCatalogName n.name then some (Named.catalog db.main) else none
    | .temp =>
      if isTempCatalogName n.name then some (Named.catalog db.temp)
      else none
  match catalog with
  | some c => pure c
  | none =>
    match schemas.findSome? fun s => (db.tableIn? s n.name).map Named.table with
    | some t => pure t
    | none =>
      match schemas.findSome? fun s => (db.viewIn? s n.name).map Named.view with
      | some v => pure v
      | none => throw (.noSuchTable n.text)

/-- The value, affinity and collation that a column reference finds. -/
structure Found where
  value : Value
  affinity : Option Affinity
  collation : Collation

/-- Whether a slot answers to a table name written before a column. -/
def Slot.answers (s : Slot) (table : Option String) : Bool :=
  match table with
  | some t => sameName s.source t
  | none => true

/-- The columns of a slot that a reference finds. -/
def Slot.find (s : Slot) (table : Option String) (name : String) : List Found :=
  if !s.answers table then [] else
  ((s.fields.zip (s.values ++ List.replicate s.fields.length .null)).filter fun (f, _) =>
    sameName f.name name && (table.isSome || !s.hidden.any (sameName · name))).map
    fun (f, v) => ⟨v, f.affinity, f.collation⟩

/-- Whether a name is one of the names of the row id. -/
def isRowidName (name : String) : Bool :=
  sameName name "rowid" || sameName name "oid" || sameName name "_rowid_"

/-- The text of a column reference as the store reports it. -/
def columnText (table : Option String) (name : String) : String :=
  match table with
  | some t => t ++ "." ++ name
  | none => name

/-- What a column reference finds in the scopes, innermost first, as described in the
module header. -/
def lookupColumn (scopes : List (List Slot)) (table : Option String) (name : String)
    (quoted : Bool) : Except StoreFault Found :=
  match scopes with
  | [] =>
    if table.isNone && quoted then pure ⟨.text name, none, .binary⟩
    else if table.isNone && !quoted && sameName name "true" then pure ⟨.integer 1, none, .binary⟩
    else if table.isNone && !quoted && sameName name "false" then pure ⟨.integer 0, none, .binary⟩
    else throw (.noSuchColumn (columnText table name))
  | scope :: outer =>
    match scope.flatMap fun s => s.find table name with
    | [f] => pure f
    | _ :: _ :: _ => throw (.refused ("ambiguous column name: " ++ columnText table name))
    | [] =>
      let ids := if isRowidName name then
          scope.filterMap fun s => if s.answers table then s.rowid else none
        else []
      match ids with
      | [r] => pure ⟨.integer r, some .integer, .binary⟩
      | _ => lookupColumn outer table name quoted

/-- The affinity an expression carries into a comparison: that of a column, of a cast's
type, or of the expression under a `COLLATE`; other expressions carry none. -/
def exprAffinity (scopes : List (List Slot)) : Expr → Option Affinity
  | .column t n q =>
    match lookupColumn scopes t n q with
    | .ok f => f.affinity
    | .error _ => none
  | .cast _ ty => some (Affinity.ofType ty)
  | .collate e _ => exprAffinity scopes e
  | _ => none

/-- The collation an expression asks for: `some` when written with `COLLATE`, and the
column's own otherwise. -/
def exprCollation (scopes : List (List Slot)) : Expr → Option Collation × Bool
  | .collate _ c => ((Collation.ofName? c).getD .binary |> some, true)
  | .column t n q =>
    match lookupColumn scopes t n q with
    | .ok f => (some f.collation, false)
    | .error _ => (none, false)
  | .cast e _ => exprCollation scopes e
  | .unary .plus e => exprCollation scopes e
  | _ => (none, false)

/-- The collation of a comparison: an explicit one on the left, then on the right, then the
left column's, then the right column's. -/
def comparisonCollation (scopes : List (List Slot)) (a b : Expr) : Collation :=
  match exprCollation scopes a, exprCollation scopes b with
  | (some c, true), _ => c
  | _, (some c, true) => c
  | (some c, _), _ => c
  | _, (some c, _) => c
  | _, _ => .binary

/-- The affinity of a comparison of two expressions: numeric when both carry an affinity
and one of them is a number affinity, none when both carry a non-number one, and else that
of the one that carries an affinity. -/
def comparisonAffinity (a b : Option Affinity) : Option Affinity :=
  match a, b with
  | some x, some y => if x.isNumeric || y.isNumeric then some .numeric else some .blob
  | some x, none => some x
  | none, some y => some y
  | none, none => none

/-- The name a result column shows: its alias, the declared name of the column it reads, or
the text of its expression. -/
def resultName (scopes : List (List Slot)) (e : Expr) (asName : Option String)
    (text : String) : String :=
  match asName with
  | some a => a
  | none =>
    match e with
    | .column t n _ =>
      match scopes with
      | scope :: _ =>
        match (scope.filter fun s => s.answers t).findSome? fun s =>
            s.fields.find? fun f => sameName f.name n with
        | some f => f.name
        | none => text
      | [] => text
    | _ => text

/-- The declared type a result column passes on to a table made from a query. -/
def resultType (scopes : List (List Slot)) : Expr → String
  | .column t n _ =>
    match scopes with
    | scope :: _ =>
      match (scope.filter fun s => s.answers t).findSome? fun s =>
          s.fields.find? fun f => sameName f.name n with
      | some f => f.type
      | none => ""
    | [] => ""
  | .cast _ ty => ty
  | _ => ""

end Catalog.Sql
