import Catalog.Store.Tables

/-!
# Triggers on the store's tables

An update script may create triggers on the tables the store keeps its typed lists in. The
store's own operations then set them off as their statements would: the rows an operation
inserted, changed or deleted are found by comparing the tables before and after it (by row
id where the table has an integer primary key, else by the rows' values), and the changes
are made again one by one on the tables before it, each with its triggers, deletions first,
then changes, then insertions, table by table. A new or changed row must pass the table's
constraints, those a script added included: a unique index, or a `NOT NULL` or `CHECK`
column. A trigger that raises an error, or a row that breaks a constraint, fails the
operation, which then changes nothing.
-/

namespace Catalog.Store

open Catalog.Sql

/-- Whether the schema holds a trigger. -/
def hasTriggers (s : Store) : Bool :=
  (s.tables.objects .main).any fun o => match o with
    | .trigger _ => true
    | _ => false

/-- The names of the columns whose values differ between two rows. -/
def changedColumns (t : Table) (a b : Row) : List String :=
  ((t.columns.zip (a.values.zip b.values)).filter fun (_, x, y) =>
    !sameValues [x] [y]).map (·.1.name)

/-- The rows of a list without one row of the given values, or none when no row has them. -/
def withoutRow (values : List Value) : List Row → Option (List Row)
  | [] => none
  | r :: rs =>
    if sameValues r.values values then some rs
    else (withoutRow values rs).map (r :: ·)

/-- The rows of the first list that the second does not hold, each row of the second
matching one row of the first. -/
def rowsMissing (rows : List Row) (from_ : List Row) : List Row :=
  (rows.foldl (fun (left, out) r =>
    match withoutRow r.values left with
    | some rest => (rest, out)
    | none => (left, out ++ [r])) (from_, [])).2

/-- The row changes that turn one version of a table into another. -/
def tableChanges (name : String) (before after : Table) : List RowChange :=
  if before.rowidColumn.isSome then
    let deleted := before.rows.filter fun r => !after.rows.any (·.rowid == r.rowid)
    let inserted := after.rows.filter fun r => !before.rows.any (·.rowid == r.rowid)
    let updated := after.rows.filterMap fun r =>
      match before.rows.find? (·.rowid == r.rowid) with
      | some o => if sameValues o.values r.values then none else some (o, r)
      | none => none
    deleted.map (.delete name) ++
      updated.map (fun (o, r) => .update name o r (changedColumns before o r)) ++
      inserted.map (.insert name)
  else
    (rowsMissing before.rows after.rows).map (.delete name) ++
      (rowsMissing after.rows before.rows).map (.insert name)

/-- The row changes between two versions of the store's typed tables. -/
def storeChanges (before after : Database) : List RowChange :=
  typedTables.flatMap fun name =>
    match before.tableIn? .main name, after.tableIn? .main name with
    | some b, some a => tableChanges name b a
    | _, _ => []

/-- Whether a typed table has a column that the store's schema does not give it. -/
def hasAddedColumn (s : Store) : Bool :=
  typedTables.any fun name =>
    match s.tables.tableIn? .main name with
    | some t => t.columns.any fun c =>
      match initialTables.tableIn? .main name with
      | some u => !u.columns.any (sameName ·.name c.name)
      | none => false
    | none => false

/-- Whether the schema holds a unique index that an update script made: the store's schema
makes none of its own. -/
def hasUniqueIndex (s : Store) : Bool :=
  (s.tables.objects .main).any fun o => match o with
    | .index i => i.unique && !i.automatic
    | _ => false

/-- Whether an update script changed the schema so that the store's operations must be
made again through the tables: it made a trigger or a unique index, or added a column to a
typed table. -/
def needsReplay (s : Store) : Bool :=
  s.hasTriggers || s.hasUniqueIndex || s.hasAddedColumn

/-- The store after an operation, with the triggers its changes set off and the constraints
an update script added checked: the store as the operation left it when no script changed
the schema so, else its changes made again on the store it started from. -/
def withTriggers (before after : Store) : Except StoreFault Store := do
  if !before.needsReplay then return after
  let start := before.encode
  let changes := storeChanges start after.encode
  if changes.isEmpty then return after
  let db ← replayChanges start after.clock changes
  let s := after.decode db
  pure { s with lastId := fun q => max (after.lastId q) (s.lastId q) }

end Catalog.Store
