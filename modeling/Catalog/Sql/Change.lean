import Catalog.Sql.Relation

/-!
# Changing rows

Statements that change rows run on a *session*: the database, the clock, the row id last
inserted, and the tables the running statement changed. A statement either completes, or
fails and leaves the session as it was.

A new or changed row goes through these steps, in order:

1. every value takes its column's affinity; a row id must be an integer; a strictly typed
   table takes only values of its columns' types;
2. a `NOT NULL` column may not be `null` (under `REPLACE` its default is taken instead);
3. every check must not be false (`null` passes);
4. the row id may not be taken by another row;
5. no unique index may find another row with the same key (a key with a `null` is never
   repeated); the table's indexes are tried newest first.

A repeat is resolved as the statement says (`INSERT OR …`) or else as the constraint says:
`ABORT` (the default), `FAIL` and `ROLLBACK` refuse the statement, `IGNORE` skips the row,
and `REPLACE` deletes the other row first. An `INSERT` with `ON CONFLICT` clauses first
tries the keys they name, in order (a clause without a key takes any key): on a repeat it
does nothing, or updates the row it repeats, where `excluded` names the row that was to be
inserted. A new row without a row id gets one more than the greatest in the table; with
`AUTOINCREMENT`, one more than the greatest it ever handed out, which the table
`sqlite_sequence` records.

Triggers run for each row: those `BEFORE` the change first (`RAISE(IGNORE)` there skips the
row), those `AFTER` it last, each when its `WHEN` condition holds, newest first; `NEW` and
`OLD` name the row after and before the change. A trigger does not set itself off again.

Foreign keys are checked when the statement ends: a row whose key (without `null`s) finds
no row of the parent table is a violation, and a statement that leaves more violations in
the tables it changed than it found is refused. Deleting a parent row applies the key's
action to the rows that refer to it: `CASCADE` deletes them, `SET NULL` and `SET DEFAULT`
change them, and `RESTRICT` refuses at once.
-/

namespace Catalog.Sql

open Catalog

/-- What statements run on: the database, the clock, the row id last inserted, and the
tables the running statement changed. -/
structure Session where
  db : Database
  clock : Int := 0
  lastRowid : Int := 0
  touched : List String := []
  deriving Inhabited

/-- A step of a statement: it changes the session or fails; a failure keeps the session it
failed in, which the caller drops unless it catches the failure. -/
abbrev Exec := EStateM StoreFault Session

/-- The bound on the depth of evaluation. -/
def depthLimit : Nat := 20000

/-- Fail a step. -/
def refuse {α : Type} (f : StoreFault) : Exec α :=
  throw f

/-- Run an evaluation in a step. -/
def liftEval {α : Type} (e : Eval α) : Exec α :=
  match e with
  | .ok a => pure a
  | .error f => throw f

/-- What a change runs under: the rows in reach of its expressions from outside (a trigger's
`NEW` and `OLD`), whether a trigger runs it, and the triggers running, which do not fire
again. -/
structure Firing where
  scopes : List (List Slot) := []
  inTrigger : Bool := false
  active : List String := []
  deriving Inhabited

/-- The evaluation context of a session with the given rows in reach. -/
def Session.context (s : Session) (f : Firing) (scopes : List (List Slot)) : Context :=
  ⟨s.db, s.clock, scopes ++ f.scopes, none, s.lastRowid, f.inTrigger, []⟩

/-- The value of an expression in a session, with the given rows in reach. -/
def evalIn (f : Firing) (scopes : List (List Slot)) (e : Expr) : Exec Value := do
  liftEval (eval depthLimit ((← get).context f scopes) e)

/-- Check the names and calls of an expression, with the given rows in reach. -/
def checkIn (f : Firing) (scopes : List (List Slot)) (e : Expr) : Exec Unit := do
  liftEval (checkExpr depthLimit (← get).db (scopes ++ f.scopes) e)

/-- The relation of a query in a session, after checking its shape. -/
def runQueryIn (f : Firing) (q : Query) : Exec Relation := do
  let s ← get
  _ ← liftEval (queryShape depthLimit s.db f.scopes q)
  liftEval (evalQuery depthLimit (s.context f []) q)

/-- The relation of a query in a session. -/
def runQuery (q : Query) : Exec Relation :=
  runQueryIn {} q

/-- The slot of a row of a table, under the table's name. -/
def Table.rowSlot (t : Table) (values : List Value) (rowid : Int) : Slot :=
  ⟨t.name, t.fields, values, if t.withoutRowid then none else some rowid, []⟩

/-- The slot of a table row with every value `null`, for checking names. -/
def Table.blankSlot (t : Table) : Slot :=
  t.rowSlot (t.columns.map fun _ => .null) 0

/-- The table a change names, in the schema it lives in; views and catalogs are refused. -/
def findTarget (n : ObjectName) : Exec (Schema × Table) := do
  let db := (← get).db
  let schemas ← liftEval (schemasOf n)
  match schemas.findSome? fun s => (db.tableIn? s n.name).map (s, ·) with
  | some found => pure found
  | none =>
    if isMainCatalogName n.name || isTempCatalogName n.name then
      refuse (.refused ("table " ++ n.name ++ " may not be modified"))
    match schemas.findSome? fun s => db.viewIn? s n.name with
    | some v => refuse (.refused ("cannot modify " ++ v.name ++ " because it is a view"))
    | none => refuse (.noSuchTable n.text)

/-- The current version of a table of a schema. -/
def currentTable (s : Schema) (name : String) : Exec Table := do
  match (← get).db.tableIn? s name with
  | some t => pure t
  | none => refuse (.noSuchTable name)

/-- Store a table's new version, noting that the statement changed it. -/
def saveTable (s : Schema) (t : Table) : Exec Unit :=
  modify fun ses =>
    { ses with
      db := ses.db.putTable s t
      touched := if ses.touched.any (sameName · t.name) then ses.touched
        else t.name :: ses.touched }

/-! ## Sequences -/

/-- The greatest row id a table with `AUTOINCREMENT` has handed out, from `sqlite_sequence`. -/
def sequenceOf (s : Schema) (table : String) : Exec Int := do
  match (← get).db.tableIn? s "sqlite_sequence" with
  | some seq =>
    match seq.rows.find? fun r => match r.get 0 with
        | .text n => sameName n table
        | _ => false with
    | some r => pure (r.get 1).asInteger
    | none => pure 0
  | none => pure 0

/-- Record that a table with `AUTOINCREMENT` handed out a row id, when it is the greatest. -/
def noteSequence (s : Schema) (table : String) (rowid : Int) : Exec Unit := do
  match (← get).db.tableIn? s "sqlite_sequence" with
  | some seq =>
    let isRow (r : Row) : Bool := match r.get 0 with
      | .text n => sameName n table
      | _ => false
    match seq.rows.find? isRow with
    | some r =>
      if rowid > (r.get 1).asInteger then
        saveTable s { seq with rows := seq.rows.map fun x =>
          if x.rowid == r.rowid then { x with values := [.text table, .integer rowid] } else x }
    | none =>
      saveTable s { seq with rows := seq.rows ++ [⟨seq.maxRowid + 1, [.text table, .integer rowid]⟩] }
  | none => pure ()

/-- Forget the sequence of a dropped table. -/
def forgetSequence (s : Schema) (table : String) : Exec Unit := do
  match (← get).db.tableIn? s "sqlite_sequence" with
  | some seq =>
    saveTable s { seq with rows := seq.rows.filter fun r => match r.get 0 with
      | .text n => !sameName n table
      | _ => true }
  | none => pure ()

/-- A row id for a new row of a table. -/
def freshRowid (s : Schema) (t : Table) : Exec Int := do
  let top := t.maxRowid
  if t.autoincrement then
    let next := (max top (← sequenceOf s t.name)) + 1
    if next > maxInt then refuse (.refused "database or disk is full") else pure next
  else if top < maxInt then pure (top + 1)
  else
    match (List.range t.rows.length).find? fun (i : Nat) => !t.rows.any (·.rowid == ((i + 1 : Nat) : Int)) with
    | some i => pure (i + 1)
    | none => refuse (.refused "database or disk is full")

/-! ## Constraints -/

/-- The text of a column for the store's messages. -/
def Table.columnLabel (t : Table) (name : String) : String :=
  t.name ++ "." ++ name

/-- The key of a row under an index: the values of its columns. -/
def Table.indexKey (t : Table) (i : Index) (values : List Value) (rowid : Int) : List Value :=
  i.columns.map fun (c, _) =>
    match t.columnIndex? c with
    | some k => values.getD k .null
    | none => if isRowidName c then .integer rowid else .null

/-- The collation of an index column: its own, or else its table column's. -/
def Table.indexCollation (t : Table) (c : String) (coll : Option Collation) : Collation :=
  match coll with
  | some x => x
  | none =>
    match t.columnIndex? c with
    | some k => (t.columns.getD k default).collation
    | none => .binary

/-- Whether two keys of an index are the same, neither having a `null`. -/
def Table.sameKey (t : Table) (i : Index) (a b : List Value) : Bool :=
  !(a.any (·.isNull)) && !(b.any (·.isNull)) &&
    ((i.columns.zip (a.zip b)).all fun ((c, coll), (x, y)) => x.same (t.indexCollation c coll) y)

/-- The unique indexes of a table, newest first. -/
def uniqueIndexes (s : Schema) (t : Table) : Exec (List Index) := do
  pure (((← get).db.indexesOf s t.name).filter (·.unique)).reverse

/-- The refusal of a repeated key of an index. -/
def Table.repeatFault (t : Table) (i : Index) : StoreFault :=
  let cols := i.columns.map fun (c, _) => t.columnLabel c
  if i.primary then .primaryKey cols else .unique cols

/-- How a conflict on a constraint is resolved: the statement's choice, else the
constraint's, else `ABORT`. -/
def resolve (statement : Conflict) (constraint : Option Conflict) : Conflict :=
  if statement != .abort then statement else constraint.getD .abort

/-- Whether a partial index covers a row. -/
def indexCovers (t : Table) (i : Index) (values : List Value) (rowid : Int) : Exec Bool := do
  match i.filter with
  | some f =>
    let v ← evalIn {} [[t.rowSlot values rowid]] f
    pure (v.truth? == some true)
  | none => pure true

/-- The affinity a column gives the values stored in it: a strictly typed table's `ANY`
column keeps every value as it is. -/
def Table.storeAffinity (t : Table) (c : Column) : Affinity :=
  if t.strict && (String.ofList (c.type.toList.map Char.toUpper)) == "ANY" then .blob
  else c.affinity

/-- The values of a row with their columns' affinities, missing values `null`. -/
def Table.withAffinities (t : Table) (values : List Value) : List Value :=
  (t.columns.zip (values ++ List.replicate t.columns.length .null)).map
    fun (c, v) => v.withAffinity (t.storeAffinity c)

/-- The name of the type of a stored value, as a strictly typed table reports it. -/
def Value.storageName : Value → String
  | .null => "NULL"
  | .integer _ => "INT"
  | .real _ => "REAL"
  | .text _ => "TEXT"
  | .blob _ => "BLOB"

/-- Whether a column of a strictly typed table may hold a value: null always, any value
under `ANY`, otherwise only a value of the declared type. -/
def Column.fitsStrict (c : Column) (v : Value) : Bool :=
  match String.ofList (c.type.toList.map Char.toUpper), v with
  | _, .null => true
  | "ANY", _ => true
  | "INT", .integer _ => true
  | "INTEGER", .integer _ => true
  | "REAL", .real _ => true
  | "TEXT", .text _ => true
  | "BLOB", .blob _ => true
  | _, _ => false

/-- Refuse a value of the wrong type for a column of a strictly typed table. -/
def strictCheck (t : Table) (values : List Value) : Exec Unit := do
  if t.strict then
    for (c, v) in t.columns.zip values do
      if !c.fitsStrict v then
        refuse (.wrongType ("cannot store " ++ v.storageName ++ " value in " ++
          String.ofList (c.type.toList.map Char.toUpper) ++ " column " ++ t.name ++ "." ++ c.name))

/-! ## Foreign keys -/

/-- The parent columns a foreign key refers to: those it names, or the parent's primary key. -/
def ForeignKey.parentKey (fk : ForeignKey) (parent : Table) : List String :=
  if fk.parentColumns.isEmpty then
    if parent.primaryKey.isEmpty then ["rowid"] else parent.primaryKey
  else fk.parentColumns

/-- The value of a named column of a row, the row id for its names. -/
def Table.valueOf (t : Table) (r : Row) (c : String) : Value :=
  match t.columnIndex? c with
  | some k => r.get k
  | none => if isRowidName c then .integer r.rowid else .null

/-- Whether a parent row has the key a child row refers to. -/
def keyMatches (parent : Table) (pcols : List String) (pr : Row) (key : List Value) : Bool :=
  (pcols.zip key).all fun (c, v) =>
    let aff := match parent.columnIndex? c with
      | some k => (parent.columns.getD k default).affinity
      | none => .integer
    let pv := parent.valueOf pr c
    let coll := match parent.columnIndex? c with
      | some k => (parent.columns.getD k default).collation
      | none => .binary
    (v.withAffinity aff).same coll pv

/-- The number of rows of a database's tables in `touched`, or referring to them, whose
foreign key finds no parent row. -/
def violationsIn (db : Database) (touched : List String) : Except StoreFault Nat := do
  let mut count := 0
  for (s, child) in db.allTables do
    for fk in child.foreignKeys do
      if touched.any (fun n => sameName n child.name || sameName n fk.parent) then
        for r in child.rows do
          let key := fk.columns.map (child.valueOf r ·)
          if !key.any (·.isNull) then
            match db.tableIn? s fk.parent with
            | some parent =>
              let pcols := fk.parentKey parent
              if !parent.rows.any (keyMatches parent pcols · key) then count := count + 1
            | none =>
              throw (.noSuchTable ((if s == .temp then "temp." else "main.") ++ fk.parent))
  pure count

/-- Run a statement, refusing it when it leaves more foreign key violations in the tables it
changed than it found there. -/
def withKeyCheck (body : Exec Unit) : Exec Unit := do
  let start ← get
  modify fun ses => { ses with touched := [] }
  body
  let touched := (← get).touched
  let before ← liftEval (violationsIn start.db touched)
  let after ← liftEval (violationsIn (← get).db touched)
  modify fun ses => { ses with touched := start.touched ++ touched }
  if after > before then refuse .foreignKey

/-! ## Triggers -/

/-- Whether a trigger watching one change is set off by another: an update trigger that
names columns watches only changes of them. -/
def TriggerEvent.firesOn : TriggerEvent → TriggerEvent → Bool
  | .insert, .insert => true
  | .delete, .delete => true
  | .update watched, .update changed =>
    watched.isEmpty || watched.any fun w => changed.any (sameName w ·)
  | _, _ => false

/-- The triggers a change of a table's row sets off at a time: those of the temporary
schema first, then those of the table's own schema, newest first in each. -/
def triggersOf (s : Schema) (table : String) (timing : TriggerTiming) (change : TriggerEvent) :
    Exec (List Trigger) := do
  let db := (← get).db
  let pick (objects : List SchemaObject) : List Trigger :=
    (objects.filterMap fun o => match o with
      | .trigger tr =>
        if sameName tr.table table && tr.timing == timing && tr.event.firesOn change then some tr
        else none
      | _ => none).reverse
  pure (if s == .main then pick db.temp ++ pick db.main else pick db.temp)

/-- The slot of a trigger's `NEW` or `OLD` row: found only by its name. -/
def pseudoSlot (t : Table) (name : String) (row : Option (List Value × Int)) : List Slot :=
  match row with
  | some (values, rowid) => [⟨name, t.fields, values, some rowid, t.fields.map (·.name)⟩]
  | none => []

/-- Run a step that a trigger may cut short with `RAISE(IGNORE)`: false when it did. -/
def ignoring (step : Exec Unit) : Exec Bool :=
  tryCatch (do step; pure true) fun e => if e == .ignored then pure false else throw e

/-- The key an `ON CONFLICT` clause watches: the row id, an index, or any key. -/
inductive UpsertKey where
  | rowid
  | index (i : Index)
  | any

/-- The key an `ON CONFLICT` clause names; a clause whose columns are no key is refused. -/
def upsertKey (s : Schema) (t : Table) (u : Upsert) : Exec UpsertKey := do
  match u.target with
  | none => pure .any
  | some (cols, _) =>
    let isRowid (c : KeyColumn) : Bool :=
      (isRowidName c.name && !t.withoutRowid) ||
        (t.rowidColumn.isSome && t.columnIndex? c.name == t.rowidColumn)
    match cols with
    | [c] => if isRowid c then return .rowid
    | _ => pure ()
    let indexes ← uniqueIndexes s t
    let sameSet (i : Index) : Bool :=
      i.columns.length == cols.length &&
        i.columns.all (fun (c, _) => cols.any (sameName ·.name c)) &&
        cols.all (fun c => i.columns.any fun (d, _) => sameName c.name d)
    match indexes.find? sameSet with
    | some i => pure (.index i)
    | none =>
      refuse (.refused "ON CONFLICT clause does not match any PRIMARY KEY or UNIQUE constraint")

/-- The assignments of a `SET` clause for one row: each column's position (none for the row
id) and its new value. A list of columns takes the values of a list of expressions or of a
subquery's first row, as many as there are columns. -/
def assignedValues (f : Firing) (t : Table) (scope : List Slot)
    (sets : List (List String × Expr)) : Exec (List (Option Nat × Value)) := do
  let mut out : List (Option Nat × Value) := []
  for (cols, e) in sets do
    let targets ← cols.mapM fun c => do
      match t.columnIndex? c with
      | some k => pure (some k)
      | none =>
        if isRowidName c && !t.withoutRowid then pure none else refuse (.noSuchColumn c)
    match targets with
    | [k] => out := out ++ [(k, ← evalIn f [scope] e)]
    | _ =>
      let values ← match e with
        | .vector items => items.mapM (evalIn f [scope])
        | .scalar q => do
          let s ← get
          let rel ← liftEval (evalQuery depthLimit (s.context f [scope]) q)
          pure ((rel.rows.head?).getD (rel.fields.map fun _ => Value.null))
        | _ => pure [← evalIn f [scope] e]
      if values.length != targets.length then
        refuse (.refused (toString targets.length ++ " columns assigned " ++
          toString values.length ++ " values"))
      out := out ++ targets.zip values
  pure out

/-- Check the columns and expressions of a `SET` clause against a table's row. -/
def checkAssignments (f : Firing) (t : Table) (scope : List Slot)
    (sets : List (List String × Expr)) : Exec Unit := do
  for (cols, e) in sets do
    for c in cols do
      if (t.columnIndex? c).isNone && !(isRowidName c && !t.withoutRowid) then
        refuse (.noSuchColumn c)
    match cols, e with
    | _ :: _ :: _, .vector items => for x in items do checkIn f [scope] x
    | _ :: _ :: _, .scalar q => do
      _ ← liftEval (queryShape depthLimit (← get).db ([scope] ++ f.scopes) q)
    | _, _ => checkIn f [scope] e

/-- The position a column name takes in a table, or `none` for a name of the row id. -/
def columnTarget (t : Table) (c : String) : Exec (Option Nat) := do
  match t.columnIndex? c with
  | some k => pure (some k)
  | none =>
    if isRowidName c && !t.withoutRowid then pure none
    else refuse (.refused ("table " ++ t.name ++ " has no column named " ++ c))

/-- The row values a row takes from an assignment: its new values and row id. -/
def applyAssignments (t : Table) (r : Row) (assigned : List (Option Nat × Value)) :
    Except StoreFault (List Value × Int) := do
  let mut values := r.values
  let mut rowid := r.rowid
  for (k, v) in assigned do
    if k.isNone || (k.isSome && k == t.rowidColumn) then
      match v.withAffinity .integer with
      | .integer n => rowid := n
      | _ => throw .mismatch
    match k with
    | some k => values := values.set k v
    | none => pure ()
  pure (values, rowid)

/-- The names of the columns an assignment list changes. -/
def assignedNames (sets : List (List String × Expr)) : List String :=
  sets.flatMap (·.1)

/-- Check a row's values against the constraints that do not look at other rows: type,
`NOT NULL` and checks. The row as it is to be stored, or none when `IGNORE` drops it. -/
def prepareRow (f : Firing) (t : Table) (conflict : Conflict) (given : List Value) (rowid : Int) :
    Exec (Option (List Value)) := do
  let mut values := t.withAffinities given
  match t.rowidColumn with
  | some k => values := values.set k (.integer rowid)
  | none => pure ()
  strictCheck t values
  for (c, k) in t.columns.zip (List.range t.columns.length) do
    if c.notNull && (values.getD k .null).isNull && t.rowidColumn != some k then
      match resolve conflict none with
      | .ignore => return none
      | .replace =>
        match c.default with
        | some d =>
          let v ← evalIn f [] d
          if v.isNull then refuse (.notNull (t.columnLabel c.name))
          values := values.set k (v.withAffinity (t.storeAffinity c))
        | none => refuse (.notNull (t.columnLabel c.name))
      | _ => refuse (.notNull (t.columnLabel c.name))
  for ch in t.checks do
    let v ← evalIn f [[t.rowSlot values rowid]] ch.condition
    if v.truth? == some false then
      if conflict == .ignore then return none else refuse (.check ch.name)
  pure (some values)

/-- The row an `ON CONFLICT` clause's key finds repeated by a new row, with the clause; the
clauses are tried in order. -/
def upsertHit (f : Firing) (s : Schema) (t : Table) (values : List Value) (rowid : Int)
    (clauses : List (Upsert × UpsertKey)) : Exec (Option (Upsert × Row)) := do
  let byRowid : Option Row := if t.withoutRowid then none else t.rows.find? (·.rowid == rowid)
  let byIndex (i : Index) : Exec (Option Row) := do
    if !(← indexCovers t i values rowid) then return none
    let key := t.indexKey i values rowid
    for r in t.rows do
      if (← indexCovers t i r.values r.rowid) && t.sameKey i key (t.indexKey i r.values r.rowid) then
        return some r
    pure none
  for (u, key) in clauses do
    let found ← match key with
      | .rowid => pure byRowid
      | .index i => byIndex i
      | .any => do
        match byRowid with
        | some r => pure (some r)
        | none =>
          let mut hit : Option Row := none
          for i in ← uniqueIndexes s t do
            if hit.isNone then hit ← byIndex i
          pure hit
    match found with
    | some r => return some (u, r)
    | none => pure ()
  let _ := f
  pure none

/-! ## Changing rows, with triggers -/

mutual

/-- Run the triggers that a change of one row of a table sets off at a time. -/
def fireTriggers : Nat → Firing → Schema → Table → TriggerTiming → TriggerEvent →
    Option (List Value × Int) → Option (List Value × Int) → Exec Unit
  | 0, _, _, _, _, _, _, _ => refuse (.refused "too many levels of trigger recursion")
  | fuel + 1, f, s, t, timing, change, old, new => do
    for tr in ← triggersOf s t.name timing change do
      if !f.active.any (sameName · tr.name) then
        let inner : Firing :=
          ⟨[pseudoSlot t "old" old ++ pseudoSlot t "new" new], true, tr.name :: f.active⟩
        let go ← match tr.condition with
          | some c => do pure ((← evalIn inner [] c).truth? == some true)
          | none => pure true
        if go then
          let saved := (← get).lastRowid
          for st in tr.body do
            runStep fuel inner st
          modify fun ses => { ses with lastRowid := saved }

/-- Run one statement of a trigger's body. -/
def runStep : Nat → Firing → Statement → Exec Unit
  | 0, _, _ => refuse (.refused "too many levels of trigger recursion")
  | fuel + 1, f, st =>
    match st with
    | .insert conflict n cols source ups _ => insertWith fuel f conflict n cols source ups
    | .update conflict n sets filter _ => updateWith fuel f conflict n sets filter
    | .delete n filter _ => deleteWith fuel f n filter
    | .select q => do _ ← runQueryIn f q
    | _ => pure ()

/-- Delete rows of a table one by one: its delete triggers run when `fire` is set, and the
foreign keys that refer to each row act on the rows that refer to it. -/
def deleteRowsOf : Nat → Firing → Schema → String → List Row → Bool → Exec Unit
  | 0, _, _, _, _, _ => refuse (.refused "too many levels of trigger recursion")
  | fuel + 1, f, s, name, doomed, fire => do
    for r in doomed do
      let t ← currentTable s name
      if t.rows.any (·.rowid == r.rowid) then
        let go ← if fire then
            ignoring (fireTriggers fuel f s t .before .delete (some (r.values, r.rowid)) none)
          else pure true
        if go then
          let t ← currentTable s name
          match t.rows.find? (·.rowid == r.rowid) with
          | some cur =>
            saveTable s { t with rows := t.rows.filter (·.rowid != r.rowid) }
            applyDeleteActions fuel f s t cur
            if fire then
              _ ← ignoring (fireTriggers fuel f s t .after .delete (some (cur.values, cur.rowid))
                none)
          | none => pure ()

/-- Apply the foreign keys' delete actions for a row deleted from a table: `CASCADE` deletes
the rows that refer to it, `SET NULL` and `SET DEFAULT` change them, `RESTRICT` refuses. -/
def applyDeleteActions : Nat → Firing → Schema → Table → Row → Exec Unit
  | 0, _, _, _, _ => refuse (.refused "too many levels of trigger recursion")
  | fuel + 1, f, s, parent, deleted => do
    let tables := ((← get).db.objects s).filterMap fun
      | .table t => some t
      | _ => none
    for child0 in tables do
      for fk in child0.foreignKeys do
        if sameName fk.parent parent.name then
          let child ← currentTable s child0.name
          let pcols := fk.parentKey parent
          let refers (r : Row) : Bool :=
            let key := fk.columns.map (child.valueOf r ·)
            !key.any (·.isNull) && keyMatches parent pcols deleted key
          let hit := child.rows.filter refers
          if !hit.isEmpty then
            match fk.onDelete with
            | .cascade => deleteRowsOf fuel f s child.name hit true
            | .setNull | .setDefault =>
              let mut rows : List Row := []
              for r in child.rows do
                if refers r then
                  let mut vs := r.values
                  for c in fk.columns do
                    match child.columnIndex? c with
                    | some k =>
                      let col := child.columns.getD k default
                      let v ← if fk.onDelete == .setNull then pure Value.null
                        else match col.default with
                          | some d => evalIn f [] d
                          | none => pure Value.null
                      vs := vs.set k (v.withAffinity (child.storeAffinity col))
                    | none => pure ()
                  rows := rows ++ [{ r with values := vs }]
                else rows := rows ++ [r]
              saveTable s { child with rows }
            | .restrict => refuse .foreignKey
            | .noAction => pure ()

/-- Check a row against a table's constraints and write it: `old` is the row id it had, for
a changed row. Returns whether the row was written (a row may be skipped by `IGNORE`). -/
def writeRow : Nat → Firing → Schema → String → Conflict → List Value → Int → Option Int →
    Exec Bool
  | 0, _, _, _, _, _, _, _ => refuse (.refused "too many levels of trigger recursion")
  | fuel + 1, f, s, name, conflict, given, rowid, old => do
    let t ← currentTable s name
    let some values ← prepareRow f t conflict given rowid | return false
    if !t.withoutRowid && old != some rowid && t.rows.any (·.rowid == rowid) then
      match resolve conflict none with
      | .ignore => return false
      | .replace => deleteRowsOf fuel f s name (t.rows.filter (·.rowid == rowid)) false
      | _ =>
        let label := match t.rowidColumn with
          | some k => t.columnLabel (t.columns.getD k default).name
          | none => t.columnLabel "rowid"
        refuse (.primaryKey [label])
    for i in ← uniqueIndexes s t do
      let cur ← currentTable s name
      if ← indexCovers cur i values rowid then
        let key := cur.indexKey i values rowid
        let mut clash : List Row := []
        for r in cur.rows do
          if some r.rowid != old && (← indexCovers cur i r.values r.rowid) &&
              cur.sameKey i key (cur.indexKey i r.values r.rowid) then
            clash := clash ++ [r]
        if !clash.isEmpty then
          match resolve conflict i.conflict with
          | .ignore => return false
          | .replace => deleteRowsOf fuel f s name clash false
          | _ => refuse (cur.repeatFault i)
    let cur ← currentTable s name
    let rows := match old with
      | some o => cur.rows.filter (·.rowid != o)
      | none => cur.rows
    saveTable s { cur with rows := Table.insertRow rows ⟨rowid, values⟩ }
    pure true

/-- Change one row of a table to new values and row id, with its update triggers. -/
def updateRow : Nat → Firing → Schema → String → Conflict → Row → List Value → Int →
    List String → Exec Unit
  | 0, _, _, _, _, _, _, _, _ => refuse (.refused "too many levels of trigger recursion")
  | fuel + 1, f, s, name, conflict, old, values, rowid, changed => do
    let t ← currentTable s name
    let go ← ignoring (fireTriggers fuel f s t .before (.update changed)
      (some (old.values, old.rowid)) (some (t.withAffinities values, rowid)))
    if !go then return
    let t ← currentTable s name
    if !(t.rows.any (·.rowid == old.rowid)) then return
    if ← writeRow fuel f s name conflict values rowid (some old.rowid) then
      let t ← currentTable s name
      match t.rows.find? (·.rowid == rowid) with
      | some r =>
        _ ← ignoring (fireTriggers fuel f s t .after (.update changed)
          (some (old.values, old.rowid)) (some (r.values, rowid)))
      | none => pure ()

/-- Insert one row given by the values of some columns, with the insert triggers and the
`ON CONFLICT` clauses. -/
def insertOne : Nat → Firing → Schema → String → Conflict → List (Option Nat) → List Value →
    List (Upsert × UpsertKey) → Exec Unit
  | 0, _, _, _, _, _, _, _ => refuse (.refused "too many levels of trigger recursion")
  | fuel + 1, f, s, name, conflict, targets, vals, clauses => do
    let cur ← currentTable s name
    let given (k : Nat) : Option Value :=
      ((targets.zip vals).find? fun (tk, _) => tk == some k).map (·.2)
    let givenRowid : Option Value :=
      match ((targets.zip vals).find? fun (tk, _) => tk.isNone).map (·.2) with
      | some v => some v
      | none => match cur.rowidColumn with
        | some k => given k
        | none => none
    let mut values : List Value := []
    for (c, k) in cur.columns.zip (List.range cur.columns.length) do
      match given k with
      | some v => values := values ++ [v]
      | none =>
        match c.default with
        | some d => values := values ++ [← evalIn f [] d]
        | none => values := values ++ [.null]
    let explicit : Option Int ← match givenRowid with
      | some v =>
        if v.isNull then pure none
        else match v.withAffinity .integer with
          | .integer n => pure (some n)
          | _ => refuse .mismatch
      | none => pure none
    let go ← ignoring (fireTriggers fuel f s cur .before .insert none
      (some (cur.withAffinities values, explicit.getD (-1))))
    if !go then return
    let cur ← currentTable s name
    let rowid ← match explicit with
      | some r => pure r
      | none => freshRowid s cur
    let hit ← if clauses.isEmpty then pure none
      else match ← prepareRow f cur conflict values rowid with
        | some prepared => upsertHit f s cur prepared rowid clauses
        | none => pure none
    match hit with
    | some (u, existing) =>
      match u.action with
      | .nothing => pure ()
      | .update sets filter =>
        let excluded : Slot :=
          ⟨"excluded", cur.fields, cur.withAffinities values, some rowid,
            cur.fields.map (·.name)⟩
        let scope := [cur.rowSlot existing.values existing.rowid, excluded]
        let go ← match filter with
          | some c => do pure ((← evalIn f [scope] c).truth? == some true)
          | none => pure true
        if go then
          let assigned ← assignedValues f cur scope sets
          let (newValues, newRowid) ← liftEval (applyAssignments cur existing assigned)
          updateRow fuel f s name .abort existing newValues newRowid (assignedNames sets)
    | none =>
      if ← writeRow fuel f s name conflict values rowid none then
        modify fun ses => { ses with lastRowid := rowid }
        if cur.autoincrement then noteSequence s name rowid
        let after ← currentTable s name
        match after.rows.find? (·.rowid == rowid) with
        | some r =>
          _ ← ignoring (fireTriggers fuel f s after .after .insert none (some (r.values, rowid)))
        | none => pure ()

/-- `INSERT`: rows from a query, or one row of defaults, into a table. -/
def insertWith : Nat → Firing → Conflict → ObjectName → List String → Option Query →
    List Upsert → Exec Unit
  | 0, _, _, _, _, _, _ => refuse (.refused "too many levels of trigger recursion")
  | fuel + 1, f, conflict, target, cols, source, ups => do
    let (s, t) ← findTarget target
    let targets ← cols.mapM (columnTarget t)
    let width := if cols.isEmpty then t.columns.length else cols.length
    let clauses ← ups.mapM fun u => do pure (u, ← upsertKey s t u)
    for (u, _) in clauses do
      match u.action with
      | .update sets filter =>
        let excluded : Slot := ⟨"excluded", t.fields, t.columns.map fun _ => .null, some 0,
          t.fields.map (·.name)⟩
        let scope := [t.blankSlot, excluded]
        checkAssignments f t scope sets
        match filter with
        | some c => checkIn f [scope] c
        | none => pure ()
      | .nothing => pure ()
    let rows ← match source with
      | none => pure [[]]
      | some q => do
        let fields ← liftEval (queryShape depthLimit (← get).db f.scopes q)
        if fields.length != width then
          if cols.isEmpty then
            refuse (.refused ("table " ++ t.name ++ " has " ++ toString t.columns.length ++
              " columns but " ++ toString fields.length ++ " values were supplied"))
          else
            refuse (.refused (toString fields.length ++ " values for " ++
              toString cols.length ++ " columns"))
        pure (← runQueryIn f q).rows
    let targets : List (Option Nat) :=
      if cols.isEmpty then (List.range t.columns.length).map some else targets
    for vals in rows do
      insertOne fuel f s t.name conflict targets vals clauses

/-- `UPDATE`: set columns of the rows a condition picks, each from the row's values. -/
def updateWith : Nat → Firing → Conflict → ObjectName → List (List String × Expr) →
    Option Expr → Exec Unit
  | 0, _, _, _, _, _ => refuse (.refused "too many levels of trigger recursion")
  | fuel + 1, f, conflict, target, sets, filter => do
    let (s, t) ← findTarget target
    checkAssignments f t [t.blankSlot] sets
    match filter with
    | some c => checkIn f [[t.blankSlot]] c
    | none => pure ()
    let picked ← t.rows.filterM fun r => do
      match filter with
      | some c => pure ((← evalIn f [[t.rowSlot r.values r.rowid]] c).truth? == some true)
      | none => pure true
    for r0 in picked do
      let cur ← currentTable s t.name
      match cur.rows.find? (·.rowid == r0.rowid) with
      | none => pure ()
      | some r =>
        let assigned ← assignedValues f cur [cur.rowSlot r.values r.rowid] sets
        let (values, rowid) ← liftEval (applyAssignments cur r assigned)
        updateRow fuel f s t.name conflict r values rowid (assignedNames sets)

/-- `DELETE`: remove the rows a condition picks. -/
def deleteWith : Nat → Firing → ObjectName → Option Expr → Exec Unit
  | 0, _, _, _ => refuse (.refused "too many levels of trigger recursion")
  | fuel + 1, f, target, filter => do
    let (s, t) ← findTarget target
    match filter with
    | some c => checkIn f [[t.blankSlot]] c
    | none => pure ()
    let picked ← t.rows.filterM fun r => do
      match filter with
      | some c => pure ((← evalIn f [[t.rowSlot r.values r.rowid]] c).truth? == some true)
      | none => pure true
    deleteRowsOf fuel f s t.name picked true

end

/-! ## Statements that change rows -/

/-- Check the columns a `RETURNING` clause gives back against a table's row. -/
def checkReturning (t : Table) (cols : List ResultColumn) : Exec Unit := do
  for c in cols do
    match c with
    | .expr e _ _ => checkIn {} [[t.blankSlot]] e
    | .allOf n => if !sameName n t.name then refuse (.noSuchTable n)
    | .all => pure ()

/-- `INSERT`, as a statement. -/
def insertRows (conflict : Conflict) (target : ObjectName) (cols : List String)
    (source : Option Query) (ups : List Upsert) (returning : List ResultColumn) :
    Exec Unit := do
  let (_, t) ← findTarget target
  checkReturning t returning
  withKeyCheck (insertWith depthLimit {} conflict target cols source ups)

/-- `UPDATE`, as a statement. -/
def updateRows (conflict : Conflict) (target : ObjectName) (sets : List (List String × Expr))
    (filter : Option Expr) (returning : List ResultColumn) : Exec Unit := do
  let (_, t) ← findTarget target
  checkReturning t returning
  withKeyCheck (updateWith depthLimit {} conflict target sets filter)

/-- `DELETE`, as a statement. -/
def deleteRows (target : ObjectName) (filter : Option Expr) (returning : List ResultColumn) :
    Exec Unit := do
  let (_, t) ← findTarget target
  checkReturning t returning
  withKeyCheck (deleteWith depthLimit {} target filter)

/-- Run a change of rows with the tables of a `WITH` clause's named queries in reach; they
are gone when it ends. -/
def withCommonTables (tables : List CommonTable) (body : Exec Unit) : Exec Unit := do
  let s ← get
  _ ← liftEval (queryShape depthLimit s.db [] (.withTables tables
    (.mk (.values [[.literal (.integer 1)]]) [] none none)))
  let db ← liftEval (commonDatabase depthLimit (s.context {} []) none tables)
  let added := db.temp.length - s.db.temp.length
  set { s with db }
  body
  modify fun ses => { ses with db := { ses.db with temp := ses.db.temp.drop added } }

/-! ## Row changes made outside a script -/

/-- A change of one row of a table of the main schema that a caller made directly. -/
inductive RowChange where
  | insert (table : String) (row : Row)
  | update (table : String) (old new : Row) (columns : List String)
  | delete (table : String) (row : Row)

/-- Make a row change with the triggers it sets off, as the statement that made it would:
the triggers before it (which may skip it with `RAISE(IGNORE)`), the change, checked
against the table's constraints, and the triggers after it. A new row of a table without a
row id column takes the next row id. -/
def replayChange (c : RowChange) : Exec Unit := do
  match c with
  | .insert name r =>
    let t ← currentTable .main name
    let rowid := if t.rowidColumn.isSome then r.rowid
      else t.rows.foldl (fun m x => max m x.rowid) 0 + 1
    let go ← ignoring (fireTriggers depthLimit {} .main t .before .insert none
      (some (r.values, rowid)))
    if go then
      _ ← writeRow depthLimit {} .main name .abort r.values rowid none
      let t ← currentTable .main name
      _ ← ignoring (fireTriggers depthLimit {} .main t .after .insert none
        (some (r.values, rowid)))
  | .update name old new columns =>
    let t ← currentTable .main name
    let go ← ignoring (fireTriggers depthLimit {} .main t .before (.update columns)
      (some (old.values, old.rowid)) (some (new.values, new.rowid)))
    if go then
      _ ← writeRow depthLimit {} .main name .abort new.values new.rowid (some old.rowid)
      let t ← currentTable .main name
      _ ← ignoring (fireTriggers depthLimit {} .main t .after (.update columns)
        (some (old.values, old.rowid)) (some (new.values, new.rowid)))
  | .delete name r =>
    let t ← currentTable .main name
    let go ← ignoring (fireTriggers depthLimit {} .main t .before .delete
      (some (r.values, r.rowid)) none)
    if go then
      let t ← currentTable .main name
      saveTable .main { t with rows := t.rows.filter (·.rowid != r.rowid) }
      _ ← ignoring (fireTriggers depthLimit {} .main t .after .delete
        (some (r.values, r.rowid)) none)

/-- Make row changes one after the other on a database, with their triggers: the database
they leave, or the failure a trigger raised. -/
def replayChanges (db : Database) (clock : Int) (changes : List RowChange) :
    Except StoreFault Database :=
  match (changes.forM replayChange).run { db, clock } with
  | .ok () s => .ok s.db
  | .error e _ => .error e

end Catalog.Sql
