import Catalog.Sql.Definition
import Catalog.Sql.Grammar.Statement

/-!
# Running a script

A script is read and carried out one statement at a time, so a statement runs before the
next one is read: a syntax error stops the script after the statements before it ran. A
statement that fails changes nothing.

The store runs a script inside a transaction of its own and commits it when the script ends;
a script that fails is undone as a whole. Inside that transaction `BEGIN` is refused.
`COMMIT` (or `END`) commits what ran so far: the statements after it commit one by one, a
failure undoes only the failing statement, and the store's own commit at the end then fails
because no transaction is left. `ROLLBACK` undoes the work since the last commit and also
ends the transaction. `SAVEPOINT` marks a point that `ROLLBACK TO` returns to and `RELEASE`
forgets, starting a transaction when none is open.

`PRAGMA`, `REINDEX` and `EXPLAIN` change nothing here; `VACUUM` and `ATTACH` are refused
inside a transaction; `ANALYZE` creates the table of statistics. Temporary objects last for
the script only.
-/

namespace Catalog.Sql

open Catalog

/-- A script in progress: the session; the database it started from; what was committed so
far, if anything was (a failure from now on falls back to it, or to the start); whether a
transaction is open; and the open savepoints, innermost first, each with the database it
returns to. -/
structure Progress where
  session : Session
  start : Database
  committed : Option Database := none
  inTransaction : Bool := true
  savepoints : List (String × Database) := []

/-- The database a failure falls back to. -/
def Progress.fallback (p : Progress) : Database :=
  p.committed.getD p.start

/-- The table of statistics `ANALYZE` creates. -/
def statisticsTable : Table :=
  { name := "sqlite_stat1"
    columns := [⟨"tbl", "", false, none, .binary⟩, ⟨"idx", "", false, none, .binary⟩,
      ⟨"stat", "", false, none, .binary⟩]
    rowidColumn := none, primaryKey := [], autoincrement := false, checks := []
    foreignKeys := [], rows := [], sql := "CREATE TABLE sqlite_stat1(tbl,idx,stat)" }

/-- A statement that works on the database, not on the transaction. -/
def runStatement (inTransaction : Bool) : Statement → Exec Unit
  | .createTable temp ine n body text => createTable temp ine n body text
  | .createIndex unique ine n table cols filter text => createIndex unique ine n table cols filter text
  | .createView temp ine n cols q text => createView temp ine n cols q text
  | .drop .table ifExists n => dropTable ifExists n
  | .drop .index ifExists n => dropIndex ifExists n
  | .drop .view ifExists n => dropView ifExists n
  | .drop .trigger ifExists n => dropTrigger ifExists n
  | .createTrigger temp ine n timing event table condition body text =>
    createTrigger temp ine n timing event table condition body text
  | .alter n change => alterTable n change
  | .insert conflict n cols source ups returning => insertRows conflict n cols source ups returning
  | .update conflict n sets filter returning => updateRows conflict n sets filter returning
  | .delete n filter returning => deleteRows n filter returning
  | .select q => do _ ← runQuery q
  | .withTables tables body => withCommonTables tables (runStatement inTransaction body)
  | .pragma n => do
    match n.schema with
    | some s => _ ← liftEval (schemasOf ⟨none, s⟩ |>.bind fun _ => schemasOf ⟨some s, ""⟩)
    | none => pure ()
  | .vacuum =>
    if inTransaction then refuse (.refused "cannot VACUUM from within a transaction") else pure ()
  | .attach =>
    if inTransaction then refuse (.refused "cannot ATTACH database within transaction")
    else pure ()
  | .detach name =>
    if sameName name "main" || sameName name "temp" then
      refuse (.refused ("cannot detach database " ++ name))
    else refuse (.refused ("no such database: " ++ name))
  | .analyze => do
    if ((← get).db.tableIn? .main "sqlite_stat1").isNone then
      modify fun ses => { ses with db := ses.db.addObject .main (.table statisticsTable) }
  | _ => pure ()

/-- The progress after a statement. A failing statement gives what was committed: inside a
transaction that is the state at the last commit, and outside one it is the state before
the statement, which every statement before it committed. -/
def Progress.step (p : Progress) (stmt : Statement) :
    Except (Option Database × StoreFault) Progress :=
  match stmt with
  | .begin =>
    if p.inTransaction then
      .error (p.committed, .refused "cannot start a transaction within a transaction")
    else pure { p with inTransaction := true }
  | .commit =>
    if p.inTransaction then
      pure { p with inTransaction := false, committed := some p.session.db, savepoints := [] }
    else .error (p.committed, .refused "cannot commit - no transaction is active")
  | .rollback none =>
    if p.inTransaction then
      pure { p with
        inTransaction := false
        savepoints := []
        session := { p.session with db := p.fallback } }
    else .error (p.committed, .refused "cannot rollback - no transaction is active")
  | .rollback (some n) =>
    match p.savepoints.findIdx? fun (m, _) => sameName m n with
    | some k =>
      let db := (p.savepoints.getD k ("", p.session.db)).2
      pure { p with savepoints := p.savepoints.drop k, session := { p.session with db := db } }
    | none => .error (p.committed, .refused ("no such savepoint: " ++ n))
  | .savepoint n =>
    if p.inTransaction then
      pure { p with savepoints := (n, p.session.db) :: p.savepoints }
    else
      pure { p with inTransaction := true, savepoints := [(n, p.session.db)] }
  | .release n =>
    match p.savepoints.findIdx? fun (m, _) => sameName m n with
    | some k => pure { p with savepoints := p.savepoints.drop (k + 1) }
    | none => .error (p.committed, .refused ("no such savepoint: " ++ n))
  | stmt =>
    match (runStatement p.inTransaction stmt).run p.session with
    | .ok () ses =>
      if p.inTransaction then pure { p with session := ses }
      else pure { p with session := ses, committed := some ses.db }
    | .error f _ => .error (p.committed, f)

/-- Read and run the statements of a script from a position on, at most `fuel` of them. -/
def runFrom (script : Script) :
    Nat → Nat → Progress → Except (Option Database × StoreFault) Progress
  | 0, _, p => pure p
  | fuel + 1, pos, p =>
    match ((Reader.nextStatement (script.tokens.size + 1)).run script).run pos with
    | .error f => .error (p.committed, f)
    | .ok (none, _) => pure p
    | .ok (some stmt, pos') => do
      let p ← p.step stmt
      runFrom script fuel pos' p

/-- The database without its temporary objects. -/
def Database.withoutTemp (db : Database) : Database :=
  { db with temp := [] }

/-- Run a script in a transaction of its own on a session: the database to keep, none when
the script leaves the database as it found it, and the failure, if any. A failure keeps what
was committed before it. -/
def runScript (text : String) (start : Session) : Option Database × Option StoreFault :=
  let script := Script.ofString text
  let p : Progress := { session := start, start := start.db }
  match runFrom script (script.tokens.size + 1) 0 p with
  | .error (db, f) => (db.map Database.withoutTemp, some f)
  | .ok p =>
    if p.inTransaction then (some p.session.db.withoutTemp, none)
    else (p.committed.map Database.withoutTemp,
      some (.refused "cannot commit - no transaction is active"))

/-- The first value of the first row of a query given as text, run on a session; none when
the query gives no row. The text holds one statement. -/
def queryFirst (text : String) (ses : Session) : Except StoreFault (Option Value) := do
  let script := Script.ofString text
  match ((Reader.nextStatement (script.tokens.size + 1)).run script).run 0 with
  | .error f => throw f
  | .ok (some (.select q), _) =>
    match (runQuery q).run ses with
    | .ok rel _ => pure (rel.rows.head?.bind List.head?)
    | .error f _ => throw f
  | .ok (some stmt, _) =>
    match (runStatement true stmt).run ses with
    | .ok () _ => pure none
    | .error f _ => throw f
  | .ok (none, _) => pure none

end Catalog.Sql
