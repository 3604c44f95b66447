import Catalog.Store.Tables

/-!
# Tables and update scripts

The store lists the tables of its schema whose names match a `LIKE` pattern (`%` stands for
any text and `_` for one character, ASCII letters matching either case), sorted; views,
indexes and temporary tables are not listed. It counts the rows of a table with the query
`SELECT COUNT(*) FROM` the table, so the table name is read as SQL: a name that is a keyword
is a syntax error, and the catalog `sqlite_master` (or `sqlite_schema`) counts the schema's
objects.

An update script runs on the store's tables in a transaction of its own (see
`Catalog.Sql.runScript`); what it changes in the store's typed tables is read back into
them.
-/

namespace Catalog.Store

open Catalog.Sql

/-- The names of the store's tables that match a `LIKE` pattern, sorted. -/
def tablesLike (s : Store) (pattern : String) : List String :=
  SortedList.ofList ((s.tables.objects .main).filterMap fun o => match o with
    | .table t => if likeMatch none pattern.toList t.name.toList then some t.name else none
    | _ => none)

/-- The number of rows of a table, as `SELECT COUNT(*) FROM table` counts them. -/
def countRows (s : Store) (table : String) : Except StoreFault Int := do
  match ← queryFirst ("SELECT COUNT(*) FROM " ++ table) { db := s.encode, clock := s.clock } with
  | some v => pure v.asInteger
  | none => pure 0

end Catalog.Store
