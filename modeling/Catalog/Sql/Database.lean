import Catalog.Sql.Syntax

/-!
# Tables, indexes and views

A database is two schemas, the main one and the temporary one, each a list of objects in
the order they were created: tables with their rows, indexes and views. The main schema's
objects are what its catalog lists, one catalog row per object.

* A table has columns, at most one of which may be the row id under another name (a column
  declared `INTEGER PRIMARY KEY`); its checks; its foreign keys; and its rows, each with its
  row id, kept in the order of row ids.
* An index lists columns of one table. Besides the indexes a script creates, every
  `UNIQUE` and `PRIMARY KEY` constraint (other than the row id's) has an automatic index,
  named `sqlite_autoindex_TABLE_N` with `N` counting the table's constraints from one.
  Unique indexes are what the store checks for repeated values.
* A view is a named query.

Names of objects and columns compare ignoring the case of ASCII letters. An unqualified name
is looked up in the temporary schema first, then in the main one.
-/

namespace Catalog.Sql

/-- Whether two names are the same name, ignoring the case of ASCII letters. -/
def sameName (a b : String) : Bool :=
  a.toList.map Char.toLower == b.toList.map Char.toLower

/-- A column of a table. -/
structure Column where
  name : String
  type : String
  notNull : Bool
  default : Option Expr
  collation : Collation
  deriving Inhabited

/-- The affinity of a column, from its declared type. -/
def Column.affinity (c : Column) : Affinity :=
  Affinity.ofType c.type

/-- A foreign key: these columns of the table refer to those of the parent table (its
primary key when none are named). -/
structure ForeignKey where
  columns : List String
  parent : String
  parentColumns : List String
  onDelete : KeyAction
  onUpdate : KeyAction
  deriving Inhabited

/-- A check: the name it is reported by (its constraint's name, or the text of its
condition) and its condition. -/
structure Check where
  name : String
  condition : Expr
  deriving Inhabited

/-- A row of a table: its row id and its values, one per column. -/
structure Row where
  rowid : Int
  values : List Value
  deriving Inhabited

/-- A table. -/
structure Table where
  name : String
  columns : List Column
  /-- The column that is the row id under another name, if any. -/
  rowidColumn : Option Nat
  /-- The columns of the primary key. -/
  primaryKey : List String
  autoincrement : Bool
  checks : List Check
  foreignKeys : List ForeignKey
  rows : List Row
  sql : String
  /-- Whether the table has no row id: its primary key identifies its rows. -/
  withoutRowid : Bool := false
  /-- Whether the table's columns take only values of their declared types. -/
  strict : Bool := false
  deriving Inhabited

/-- An index of a table's columns. -/
structure Index where
  name : String
  table : String
  columns : List (String × Option Collation)
  unique : Bool
  /-- Whether the index is a table's primary key. -/
  primary : Bool
  /-- Whether a constraint created the index. -/
  automatic : Bool
  conflict : Option Conflict
  filter : Option Expr
  sql : Option String
  deriving Inhabited

/-- A view: a named query, with the names of its columns when they are given. -/
structure View where
  name : String
  columns : List String
  query : Query
  sql : String
  deriving Inhabited

/-- A trigger: the statements that run when rows of a table change. -/
structure Trigger where
  name : String
  table : String
  timing : TriggerTiming
  event : TriggerEvent
  condition : Option Expr
  body : List Statement
  sql : String
  deriving Inhabited

/-- An object of a schema. -/
inductive SchemaObject where
  | table (t : Table)
  | index (i : Index)
  | view (v : View)
  | trigger (t : Trigger)
  deriving Inhabited

/-- The name of an object. -/
def SchemaObject.name : SchemaObject → String
  | .table t => t.name
  | .index i => i.name
  | .view v => v.name
  | .trigger t => t.name

/-- The table an object belongs to (a table and a view belong to themselves). -/
def SchemaObject.tableName : SchemaObject → String
  | .table t => t.name
  | .index i => i.table
  | .view v => v.name
  | .trigger t => t.table

/-- The kind of an object, as the catalog names it. -/
def SchemaObject.kindName : SchemaObject → String
  | .table _ => "table"
  | .index _ => "index"
  | .view _ => "view"
  | .trigger _ => "trigger"

/-- The text of an object's definition; automatic indexes have none. -/
def SchemaObject.sql : SchemaObject → Option String
  | .table t => some t.sql
  | .index i => i.sql
  | .view v => some v.sql
  | .trigger t => some t.sql

/-- The database: the main schema and the temporary one, each in creation order. -/
structure Database where
  main : List SchemaObject := []
  temp : List SchemaObject := []
  deriving Inhabited

/-- Which schema an object lives in. -/
inductive Schema where
  | main
  | temp
  deriving Repr, DecidableEq, Inhabited

namespace Database

/-- The objects of a schema. -/
def objects (db : Database) : Schema → List SchemaObject
  | .main => db.main
  | .temp => db.temp

/-- Replace the objects of a schema. -/
def setObjects (db : Database) : Schema → List SchemaObject → Database
  | .main, os => { db with main := os }
  | .temp, os => { db with temp := os }

/-- The table of a schema with the given name. -/
def tableIn? (db : Database) (s : Schema) (name : String) : Option Table :=
  (db.objects s).findSome? fun
    | .table t => if sameName t.name name then some t else none
    | _ => none

/-- The view of a schema with the given name. -/
def viewIn? (db : Database) (s : Schema) (name : String) : Option View :=
  (db.objects s).findSome? fun
    | .view v => if sameName v.name name then some v else none
    | _ => none

/-- The index of a schema with the given name. -/
def indexIn? (db : Database) (s : Schema) (name : String) : Option Index :=
  (db.objects s).findSome? fun
    | .index i => if sameName i.name name then some i else none
    | _ => none

/-- The schemas an unqualified name is looked up in, in order. -/
def searchOrder : List Schema :=
  [.temp, .main]

/-- The schema a table of the given name lives in, searching the temporary one first. -/
def tableSchema? (db : Database) (name : String) : Option Schema :=
  searchOrder.find? fun s => (db.tableIn? s name).isSome

/-- The table with the given name, searching the temporary schema first. -/
def table? (db : Database) (name : String) : Option Table :=
  searchOrder.findSome? fun s => db.tableIn? s name

/-- The view with the given name, searching the temporary schema first. -/
def view? (db : Database) (name : String) : Option View :=
  searchOrder.findSome? fun s => db.viewIn? s name

/-- Replace a table of a schema, found by name. -/
def putTable (db : Database) (s : Schema) (t : Table) : Database :=
  db.setObjects s ((db.objects s).map fun
    | .table u => if sameName u.name t.name then .table t else .table u
    | o => o)

/-- Add an object at the end of a schema. -/
def addObject (db : Database) (s : Schema) (o : SchemaObject) : Database :=
  db.setObjects s (db.objects s ++ [o])

/-- Remove the objects of a schema that a test picks. -/
def removeObjects (db : Database) (s : Schema) (p : SchemaObject → Bool) : Database :=
  db.setObjects s ((db.objects s).filter fun o => !p o)

/-- The indexes of a table in a schema, in creation order. -/
def indexesOf (db : Database) (s : Schema) (table : String) : List Index :=
  (db.objects s).filterMap fun
    | .index i => if sameName i.table table then some i else none
    | _ => none

/-- The tables of both schemas. -/
def allTables (db : Database) : List (Schema × Table) :=
  searchOrder.flatMap fun s => (db.objects s).filterMap fun
    | .table t => some (s, t)
    | _ => none

end Database

/-- The value of a column of a row, by position. -/
def Row.get (r : Row) (i : Nat) : Value :=
  r.values.getD i .null

namespace Table

/-- The position of a column, by name. -/
def columnIndex? (t : Table) (name : String) : Option Nat :=
  t.columns.findIdx? fun c => sameName c.name name

/-- The greatest row id in use, `0` for an empty table. -/
def maxRowid (t : Table) : Int :=
  t.rows.foldl (fun m r => max m r.rowid) 0

/-- Put a row in its place by row id. -/
def insertRow (rows : List Row) (r : Row) : List Row :=
  match rows with
  | [] => [r]
  | x :: xs => if r.rowid < x.rowid then r :: x :: xs else x :: insertRow xs r

end Table

end Catalog.Sql
