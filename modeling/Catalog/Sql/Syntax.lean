import Catalog.Sql.Value

/-!
# The shape of a statement

The statements the store carries out, as trees: queries with their expressions, the
statements that define tables, indexes and views, those that change rows, and those that
steer a transaction. Every name is kept as written, without its quotes; the store compares
names ignoring the case of ASCII letters.

A few parts keep the text they were written with, because the store shows it: a result
column without an alias is named by the text of its expression, and a check constraint
without a name is reported by the text of its condition.
-/

namespace Catalog.Sql

/-- The name of an object, with the schema written before it, if any. -/
structure ObjectName where
  schema : Option String
  name : String
  deriving Repr, Inhabited

/-- An operator written before its operand. -/
inductive UnaryOp where
  | negate
  | plus
  | not
  | bitNot
  deriving Repr, DecidableEq, Inhabited

/-- An operator written between its operands. -/
inductive BinaryOp where
  | concat
  | mul
  | div
  | rem
  | add
  | sub
  | shiftLeft
  | shiftRight
  | bitAnd
  | bitOr
  | lt
  | le
  | gt
  | ge
  | eq
  | ne
  | is
  | isNot
  | and
  | or
  deriving Repr, DecidableEq, Inhabited

/-- A pattern test between a text and a pattern. -/
inductive PatternOp where
  | like
  | glob
  | regexp
  | match
  deriving Repr, DecidableEq, Inhabited

/-- Which clock reading an expression asks for. -/
inductive ClockKind where
  | date
  | time
  | timestamp
  deriving Repr, DecidableEq, Inhabited

/-- How two sources of rows are joined. -/
inductive JoinKind where
  | inner
  | left
  | right
  | full
  | cross
  deriving Repr, DecidableEq, Inhabited

/-- How two queries are combined. -/
inductive CompoundOp where
  | union
  | unionAll
  | intersect
  | except
  deriving Repr, DecidableEq, Inhabited

/-- How `RAISE` ends the work of a trigger: `IGNORE` skips the row, the others fail the
statement with a message. -/
inductive RaiseKind where
  | ignore
  | rollback
  | abort
  | fail
  deriving Repr, DecidableEq, Inhabited

/-- What the offsets of a window frame count: rows, groups of peers, or a distance in the
value of the order's one expression. -/
inductive FrameUnit where
  | rows
  | groups
  | range
  deriving Repr, DecidableEq, Inhabited

/-- The rows a frame leaves out: none (as given by `EXCLUDE NO OTHERS`, or by default), the
current row, its group of peers, or its peers but not itself. -/
inductive FrameExclude where
  | unstated
  | noOthers
  | currentRow
  | group
  | ties
  deriving Repr, DecidableEq, Inhabited

mutual

/-- An expression. -/
inductive Expr where
  | literal (v : Value)
  /-- A column, with the table written before it; `quoted` when the name was written in
  double quotes, so that it reads as a text when no column has that name. -/
  | column (table : Option String) (name : String) (quoted : Bool)
  | parameter
  | unary (op : UnaryOp) (e : Expr)
  | binary (op : BinaryOp) (a b : Expr)
  | pattern (op : PatternOp) (negated : Bool) (subject pat : Expr) (escape : Option Expr)
  | between (negated : Bool) (e lo hi : Expr)
  | inList (negated : Bool) (e : Expr) (items : List Expr)
  | inQuery (negated : Bool) (e : Expr) (q : Query)
  | isNull (negated : Bool) (e : Expr)
  | exists (q : Query)
  | scalar (q : Query)
  | case (operand : Option Expr) (branches : List (Expr × Expr)) (otherwise : Option Expr)
  | cast (e : Expr) (type : String)
  | collate (e : Expr) (collation : String)
  | call (name : String) (distinct : Bool) (args : List Expr)
  | callStar (name : String)
  | clock (kind : ClockKind)
  | vector (items : List Expr)
  | raise (kind : RaiseKind) (message : String)
  /-- A call of an aggregate or window function with a `FILTER` condition, an `OVER` window,
  or both; `count(*)` has no arguments. -/
  | callWith (name : String) (distinct : Bool) (args : List Expr) (filter : Option Expr)
      (win : Option Window)
  /-- The value of the `k`-th window call of a query's results for the current row: a query
  works out its window calls over all its rows before it writes any of them. -/
  | windowValue (k : Nat)

/-- The window of a window function: one named in the query's `WINDOW` clause as it is, or
one written in place, which may build on a named one. -/
inductive Window where
  | named (name : String)
  | spec (base : Option String) (partition : List Expr) (order : List OrderTerm)
      (frame : Option Frame)

/-- A window's frame: its unit, where it starts and ends, and what it leaves out. -/
inductive Frame where
  | mk (unit : FrameUnit) (start finish : FrameBound) (exclude : FrameExclude)

/-- Where a frame starts or ends, counted from the current row. -/
inductive FrameBound where
  | unboundedPreceding
  | preceding (offset : Expr)
  | currentRow
  | following (offset : Expr)
  | unboundedFollowing

/-- A query: its body, then its order, limit and offset; or a query with named queries
(`WITH`) that it reads as tables. -/
inductive Query where
  | mk (body : QueryBody) (orderBy : List OrderTerm) (limit offset : Option Expr)
  | withTables (tables : List CommonTable) (q : Query)

/-- A named query of a `WITH` clause, with the names of its columns. -/
inductive CommonTable where
  | mk (name : String) (columns : List String) (q : Query)

/-- The body of a query. -/
inductive QueryBody where
  | select (distinct : Bool) (columns : List ResultColumn) (source : Option Source)
      (filter : Option Expr) (groupBy : List Expr) (having : Option Expr)
      (windows : List (String × Window))
  | values (rows : List (List Expr))
  | compound (op : CompoundOp) (left right : QueryBody)

/-- A column of a query's result. -/
inductive ResultColumn where
  | all
  | allOf (table : String)
  /-- An expression with its alias and the text it was written with. -/
  | expr (e : Expr) (asName : Option String) (text : String)

/-- Where a query's rows come from. -/
inductive Source where
  | table (name : ObjectName) (asName : Option String)
  /-- A function that gives rows, called with its arguments. -/
  | call (name : ObjectName) (args : List Expr) (asName : Option String)
  | query (q : Query) (asName : Option String)
  | join (kind : JoinKind) (natural : Bool) (left right : Source) (on : Option Expr)
      (usingColumns : List String)

/-- A term of an order: its expression, whether it descends, and where `null` goes. -/
inductive OrderTerm where
  | mk (e : Expr) (descending : Bool) (nullsFirst : Option Bool)

end

instance : Inhabited Expr := ⟨.parameter⟩
instance : Inhabited QueryBody := ⟨.values []⟩
instance : Inhabited Query := ⟨.mk default [] none none⟩

/-- What a statement does when it would break a constraint. -/
inductive Conflict where
  | abort
  | fail
  | ignore
  | replace
  | rollback
  deriving Repr, DecidableEq, Inhabited

/-- What a foreign key does to the rows that refer to a deleted or changed row. -/
inductive KeyAction where
  | noAction
  | restrict
  | setNull
  | setDefault
  | cascade
  deriving Repr, DecidableEq, Inhabited

/-- A reference to another table. -/
structure Reference where
  table : String
  columns : List String
  onDelete : KeyAction
  onUpdate : KeyAction
  deriving Inhabited

/-- A constraint written with a column. -/
inductive ColumnConstraint where
  | primaryKey (descending : Bool) (conflict : Option Conflict) (autoincrement : Bool)
  | notNull (conflict : Option Conflict)
  | nullable
  | unique (conflict : Option Conflict)
  /-- A check with the text of its condition. -/
  | check (e : Expr) (text : String)
  | default (e : Expr)
  | collate (name : String)
  | references (r : Reference)
  | generated (e : Expr)
  deriving Inhabited

/-- A column as a table definition writes it. -/
structure ColumnDef where
  name : String
  type : String
  constraints : List (Option String × ColumnConstraint)
  deriving Inhabited

/-- A column of an index or a key, with its collation and direction. -/
structure KeyColumn where
  name : String
  collation : Option String
  descending : Bool
  deriving Inhabited

/-- A constraint written after a table's columns. -/
inductive TableConstraint where
  | primaryKey (columns : List KeyColumn) (conflict : Option Conflict) (autoincrement : Bool)
  | unique (columns : List KeyColumn) (conflict : Option Conflict)
  | check (e : Expr) (text : String)
  | foreignKey (columns : List String) (r : Reference)
  deriving Inhabited

/-- What a table definition gives: columns and constraints, with whether the table has no
row id and whether its columns are strictly typed; or a query to copy. -/
inductive TableBody where
  | columns (defs : List ColumnDef) (constraints : List (Option String × TableConstraint))
      (withoutRowid strict : Bool)
  | query (q : Query)
  deriving Inhabited

/-- The kinds of objects of a schema. -/
inductive ObjectKind where
  | table
  | index
  | view
  | trigger
  deriving Repr, DecidableEq, Inhabited

/-- What an `ALTER TABLE` statement changes. -/
inductive Alteration where
  | renameTable (newName : String)
  | renameColumn (old new : String)
  | addColumn (column : ColumnDef)
  | dropColumn (name : String)
  deriving Inhabited

/-- What an `INSERT` does instead when a row would repeat a key (`ON CONFLICT … DO`). -/
inductive UpsertAction where
  | nothing
  | update (sets : List (List String × Expr)) (filter : Option Expr)
  deriving Inhabited

/-- An `ON CONFLICT` clause: the key it watches (columns and the condition of a partial
index), or every key when none is written, and what it does. -/
structure Upsert where
  target : Option (List KeyColumn × Option Expr)
  action : UpsertAction
  deriving Inhabited

/-- When a trigger runs, relative to the change of its row. -/
inductive TriggerTiming where
  | before
  | after
  | insteadOf
  deriving Repr, DecidableEq, Inhabited

/-- The change a trigger watches; an update trigger may watch only some columns. -/
inductive TriggerEvent where
  | insert
  | delete
  | update (columns : List String)
  deriving Inhabited

/-- A statement, with the text it was written with where the store keeps it. -/
inductive Statement where
  | createTable (temp ifNotExists : Bool) (name : ObjectName) (body : TableBody) (text : String)
  | createIndex (unique ifNotExists : Bool) (name : ObjectName) (table : String)
      (columns : List KeyColumn) (filter : Option Expr) (text : String)
  | createView (temp ifNotExists : Bool) (name : ObjectName) (columns : List String) (q : Query)
      (text : String)
  | drop (kind : ObjectKind) (ifExists : Bool) (name : ObjectName)
  | alter (table : ObjectName) (change : Alteration)
  | insert (conflict : Conflict) (table : ObjectName) (columns : List String)
      (source : Option Query) (upserts : List Upsert) (returning : List ResultColumn)
  | update (conflict : Conflict) (table : ObjectName) (sets : List (List String × Expr))
      (filter : Option Expr) (returning : List ResultColumn)
  | delete (table : ObjectName) (filter : Option Expr) (returning : List ResultColumn)
  | createTrigger (temp ifNotExists : Bool) (name : ObjectName) (timing : TriggerTiming)
      (event : TriggerEvent) (table : String) (condition : Option Expr) (body : List Statement)
      (text : String)
  | select (q : Query)
  /-- A change of rows with named queries in reach of its own queries. -/
  | withTables (tables : List CommonTable) (body : Statement)
  | pragma (name : ObjectName)
  | begin
  | commit
  | rollback (savepoint : Option String)
  | savepoint (name : String)
  | release (name : String)
  | vacuum
  | analyze
  | reindex
  | attach
  | detach (name : String)
  | explain
  deriving Inhabited

end Catalog.Sql
