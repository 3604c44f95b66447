import Catalog.Sql.Change

/-!
# Defining tables, indexes and views

* `CREATE TABLE` refuses a name that starts with `sqlite_`, a name that a table, view or
  index of the schema has (unless `IF NOT EXISTS` is given, which makes it do nothing), a
  repeated column, a second primary key, and `AUTOINCREMENT` on anything but an `INTEGER
  PRIMARY KEY`. A single-column primary key declared with the type `INTEGER` is the row id;
  every other primary key and every `UNIQUE` constraint gets an automatic index, in the
  order they are written, an index on the same columns as an earlier one excepted. The
  first table with `AUTOINCREMENT` creates `sqlite_sequence`. A table made from a query
  takes its columns' names (repeats numbered `name:1`, `name:2`, …) and types from the
  query, and its rows.
* `CREATE INDEX` needs the table and its columns; a unique index is refused when the rows
  already repeat a key. `CREATE VIEW` stores its query unchecked: the query is read, and
  its tables and columns looked up, when the view is used.
* `DROP TABLE` first deletes every row, applying foreign keys as a `DELETE` would, then
  removes the table with its indexes and its sequence. The store's own catalogs cannot be
  dropped.
* `ALTER TABLE` renames a table (its indexes and the keys that refer to it follow), renames
  a column, adds a column (not a key, and not `NOT NULL` without a default; existing rows
  take the default), or drops a column that no key or index uses.
-/

namespace Catalog.Sql

open Catalog

/-- Whether a name is kept for the store's own objects. -/
def isReservedName (n : String) : Bool :=
  (String.ofList (n.toList.take 7 |>.map Char.toLower)) == "sqlite_"

/-- The refusal of a name kept for the store's own objects. -/
def reservedFault (n : String) : StoreFault :=
  .refused ("object name reserved for internal use: " ++ n)

/-- The schema a new object goes to. -/
def targetSchema (temp : Bool) (n : ObjectName) : Exec Schema := do
  match n.schema with
  | none => pure (if temp then .temp else .main)
  | some s =>
    if sameName s "temp" then pure .temp
    else if sameName s "main" then
      if temp then refuse (.refused "temporary table name must be unqualified") else pure .main
    else refuse (.refused ("unknown database " ++ s))

/-- The collation a name gives, or the refusal of an unknown one. -/
def collationOf (name : String) : Except StoreFault Collation :=
  match Collation.ofName? name with
  | some c => pure c
  | none => throw (.refused ("no such collation sequence: " ++ name))

/-- Whether a default can be worked out without a row: it names no column and holds no
subquery, parameter or `RAISE`. Calls are allowed; they run when a row takes the default. -/
def rowFree : Nat → Expr → Bool
  | 0, _ => true
  | fuel + 1, e =>
    match e with
    | .literal _ | .clock _ | .callStar _ => true
    | .column .. | .parameter | .raise .. | .exists _ | .scalar _ | .inQuery .. | .callWith .. |
      .windowValue _ => false
    | .unary _ a | .isNull _ a | .cast a _ | .collate a _ => rowFree fuel a
    | .binary _ a b => rowFree fuel a && rowFree fuel b
    | .pattern _ _ a b esc => rowFree fuel a && rowFree fuel b && (esc.map (rowFree fuel)).getD true
    | .between _ a b c => rowFree fuel a && rowFree fuel b && rowFree fuel c
    | .inList _ a items => rowFree fuel a && items.all (rowFree fuel)
    | .case o bs x => (o.map (rowFree fuel)).getD true &&
        bs.all (fun (c, r) => rowFree fuel c && rowFree fuel r) && (x.map (rowFree fuel)).getD true
    | .call _ _ args | .vector args => args.all (rowFree fuel)

/-- Whether a default is a value as written: a literal, signed or cast. Only such a default
can be given to the rows a table has when a column is added. -/
def writtenValue : Nat → Expr → Bool
  | 0, _ => false
  | fuel + 1, e =>
    match e with
    | .literal _ => true
    | .unary .negate a | .unary .plus a | .cast a _ => writtenValue fuel a
    | _ => false

/-- The column a definition describes. -/
def columnOf (d : ColumnDef) : Except StoreFault Column := do
  let mut coll := Collation.binary
  let mut notNull := false
  let mut dflt : Option Expr := none
  for (_, c) in d.constraints do
    match c with
    | .notNull _ => notNull := true
    | .default e =>
      if !rowFree 64 e then
        throw (.refused ("default value of column [" ++ d.name ++ "] is not constant"))
      dflt := some e
    | .collate n => coll ← collationOf n
    | _ => pure ()
  pure ⟨d.name, d.type, notNull, dflt, coll⟩

/-- An automatic index of a table, unless an earlier one has the same columns. -/
def addAutoIndex (table : String) (indexes : List Index) (cols : List String)
    (primary : Bool) (conflict : Option Conflict) : List Index :=
  let same (i : Index) : Bool :=
    i.columns.length == cols.length &&
      (i.columns.zip cols).all fun ((a, _), b) => sameName a b
  if indexes.any same then
    indexes.map fun i => if same i && primary then { i with primary := true } else i
  else
    let n := indexes.length + 1
    indexes ++ [⟨"sqlite_autoindex_" ++ table ++ "_" ++ toString n, table,
      cols.map (·, none), true, primary, true, conflict, none, none⟩]

/-- The types a strictly typed table allows. -/
def strictTypes : List String :=
  ["INT", "INTEGER", "REAL", "TEXT", "BLOB", "ANY"]

/-- A table and its automatic indexes from a definition of columns and constraints. -/
def buildTable (name : String) (defs : List ColumnDef)
    (cons : List (Option String × TableConstraint)) (withoutRowid strict : Bool) (sql : String) :
    Except StoreFault (Table × List Index) := do
  let columns ← defs.mapM columnOf
  if strict then
    for c in columns do
      if c.type.isEmpty then
        throw (.refused ("missing datatype for " ++ name ++ "." ++ c.name))
      if !strictTypes.contains (String.ofList (c.type.toList.map Char.toUpper)) then
        throw (.refused ("unknown datatype for " ++ name ++ "." ++ c.name ++ ": \"" ++ c.type ++
          "\""))
  let mut seen : List String := []
  for c in columns do
    if seen.any (sameName · c.name) then throw (.refused ("duplicate column name: " ++ c.name))
    seen := seen ++ [c.name]
  let colPk := defs.flatMap fun d => d.constraints.filterMap fun (_, c) => match c with
    | .primaryKey desc conflict auto => some ([d.name], desc, conflict, auto)
    | _ => none
  let tablePk := cons.filterMap fun (_, c) => match c with
    | .primaryKey cols conflict auto => some (cols.map (·.name), false, conflict, auto)
    | _ => none
  let pks := colPk ++ tablePk
  if pks.length > 1 then
    throw (.refused ("table \"" ++ name ++ "\" has more than one primary key"))
  let pk := pks.head?
  if withoutRowid && pk.isNone then
    throw (.refused ("PRIMARY KEY missing on table " ++ name))
  let rowidColumn : Option Nat := if withoutRowid then none else match pk with
    | some ([c], desc, _, _) =>
      match columns.findIdx? fun col => sameName col.name c with
      | some k =>
        let isColumnLevel := !colPk.isEmpty
        if (String.ofList ((columns.getD k default).type.toList.map Char.toUpper)) == "INTEGER" &&
            !(isColumnLevel && desc) then some k else none
      | none => none
    | _ => none
  let autoinc := match pk with
    | some (_, _, _, a) => a
    | none => false
  if autoinc && withoutRowid then
    throw (.refused "AUTOINCREMENT not allowed on WITHOUT ROWID tables")
  if autoinc && rowidColumn.isNone then
    throw (.refused "AUTOINCREMENT is only allowed on an INTEGER PRIMARY KEY")
  for (cols, _, _, _) in pks do
    for c in cols do
      if !(columns.any fun col => sameName col.name c) then
        throw (.refused ("no such column: " ++ c))
  let mut indexes : List Index := []
  let mut checks : List Check := []
  let mut fks : List ForeignKey := []
  for d in defs do
    for (cname, c) in d.constraints do
      match c with
      | .primaryKey _ conflict _ =>
        if rowidColumn.isNone then indexes := addAutoIndex name indexes [d.name] true conflict
      | .unique conflict => indexes := addAutoIndex name indexes [d.name] false conflict
      | .check e text => checks := checks ++ [⟨cname.getD text, e⟩]
      | .references r =>
        fks := fks ++ [⟨[d.name], r.table, r.columns, r.onDelete, r.onUpdate⟩]
      | _ => pure ()
  for (cname, c) in cons do
    match c with
    | .primaryKey cols conflict _ =>
      if rowidColumn.isNone then
        indexes := addAutoIndex name indexes (cols.map (·.name)) true conflict
    | .unique cols conflict =>
      for kc in cols do
        if !(columns.any fun col => sameName col.name kc.name) then
          throw (.refused ("no such column: " ++ kc.name))
      indexes := addAutoIndex name indexes (cols.map (·.name)) false conflict
    | .check e text => checks := checks ++ [⟨cname.getD text, e⟩]
    | .foreignKey cols r => fks := fks ++ [⟨cols, r.table, r.columns, r.onDelete, r.onUpdate⟩]
  let pkCols := match pk with
    | some (cols, _, _, _) => cols
    | none => []
  let columns := if withoutRowid then
      columns.map fun c => if pkCols.any (sameName · c.name) then { c with notNull := true } else c
    else columns
  pure ({ name, columns, rowidColumn, primaryKey := pkCols, autoincrement := autoinc, checks
          foreignKeys := fks, rows := [], sql, withoutRowid, strict }, indexes)

/-- The table that records the sequences of tables with `AUTOINCREMENT`. -/
def sequenceTable : Table :=
  { name := "sqlite_sequence"
    columns := [⟨"name", "", false, none, .binary⟩, ⟨"seq", "", false, none, .binary⟩]
    rowidColumn := none, primaryKey := [], autoincrement := false, checks := []
    foreignKeys := [], rows := [], sql := "CREATE TABLE sqlite_sequence(name,seq)" }

/-- Whether a schema has an object of this name of the kinds a test picks. -/
def hasObject (s : Schema) (name : String) (p : SchemaObject → Bool) : Exec Bool := do
  pure (((← get).db.objects s).any fun o => p o && sameName o.name name)

/-- Refuse a new table or view whose name is taken, or report that `IF NOT EXISTS` makes the
statement do nothing. -/
def claimName (s : Schema) (n : ObjectName) (ifNotExists : Bool) : Exec Bool := do
  if isReservedName n.name then refuse (reservedFault n.name)
  let db := (← get).db
  match db.tableIn? s n.name, db.viewIn? s n.name with
  | some _, _ => if ifNotExists then pure false else refuse (.tableExists n.name)
  | none, some _ =>
    if ifNotExists then pure false else refuse (.refused ("view " ++ n.name ++ " already exists"))
  | none, none =>
    if ← hasObject s n.name fun o => match o with | .index _ => true | _ => false then
      refuse (.refused ("there is already an index named " ++ n.name))
    pure true

/-- Column names made distinct: a repeat of an earlier name gets `:1`, `:2`, …. -/
def distinctNames (names : List String) : List String :=
  names.foldl (fun acc n =>
    if acc.any (sameName · n) then
      let k := (List.range (acc.length + 1)).find? (fun i =>
        !acc.any (sameName · (n ++ ":" ++ toString (i + 1)))) |>.getD 0
      acc ++ [n ++ ":" ++ toString (k + 1)]
    else acc ++ [n]) []

/-- `CREATE TABLE`. -/
def createTable (temp ifNotExists : Bool) (n : ObjectName) (body : TableBody) (sql : String) :
    Exec Unit := do
  let s ← targetSchema temp n
  if !(← claimName s n ifNotExists) then return
  let (table, indexes) ← match body with
    | .columns defs cons withoutRowid strict =>
      liftEval (buildTable n.name defs cons withoutRowid strict sql)
    | .query q => do
      let rel ← runQuery q
      let names := distinctNames (rel.fields.map (·.name))
      let columns := (rel.fields.zip names).map fun (f, nm) =>
        (⟨nm, fieldType f, false, none, .binary⟩ : Column)
      let rows := (rel.rows.zip (List.range rel.rows.length)).map fun (vs, i) =>
        (⟨(i + 1 : Nat), (columns.zip vs).map fun (c, v) => v.withAffinity c.affinity⟩ : Row)
      let text := "CREATE TABLE " ++ n.name ++ "(" ++ ",".intercalate
        ((columns.map fun c => if c.type.isEmpty then c.name else c.name ++ " " ++ c.type)) ++ ")"
      pure ({ name := n.name, columns, rowidColumn := none, primaryKey := [],
              autoincrement := false, checks := [], foreignKeys := [], rows, sql := text }, [])
  modify fun ses =>
    let withTable := ses.db.addObject s (.table table)
    { ses with db := indexes.foldl (fun db i => db.addObject s (.index i)) withTable }
  if table.autoincrement && ((← get).db.tableIn? s "sqlite_sequence").isNone then
    modify fun ses => { ses with db := ses.db.addObject s (.table sequenceTable) }

/-- `CREATE INDEX`. -/
def createIndex (unique ifNotExists : Bool) (n : ObjectName) (table : String)
    (cols : List KeyColumn) (filter : Option Expr) (sql : String) : Exec Unit := do
  let s ← targetSchema false n
  if isReservedName n.name then refuse (reservedFault n.name)
  let db := (← get).db
  let schemaName := if s == .temp then "temp." else "main."
  let t ← match db.tableIn? s table with
    | some t => pure t
    | none =>
      if (db.viewIn? s table).isSome then refuse (.refused "views may not be indexed")
      else if isMainCatalogName table || isTempCatalogName table then
        refuse (.refused ("table " ++ table ++ " may not be indexed"))
      else refuse (.noSuchTable (schemaName ++ table))
  if isReservedName t.name then refuse (.refused ("table " ++ t.name ++ " may not be indexed"))
  if (db.indexIn? s n.name).isSome then
    if ifNotExists then return
    refuse (.refused ("index " ++ n.name ++ " already exists"))
  if (db.tableIn? s n.name).isSome || (db.viewIn? s n.name).isSome then
    refuse (.refused ("there is already a table named " ++ n.name))
  let mut columns : List (String × Option Collation) := []
  for c in cols do
    if (t.columnIndex? c.name).isNone && !isRowidName c.name then
      refuse (.noSuchColumn c.name)
    let coll ← match c.collation with
      | some x => liftEval (collationOf x) >>= fun v => pure (some v)
      | none => pure none
    columns := columns ++ [(c.name, coll)]
  match filter with
  | some f => _ ← liftEval (checkExpr depthLimit db [[t.rowSlot (t.columns.map fun _ => .null) 0]] f)
  | none => pure ()
  let idx : Index := ⟨n.name, t.name, columns, unique, false, false, none, filter, some sql⟩
  if unique then
    let mut seenKeys : List (List Value) := []
    for r in t.rows do
      if ← indexCovers t idx r.values r.rowid then
        let k := t.indexKey idx r.values r.rowid
        if seenKeys.any (t.sameKey idx k ·) then refuse (t.repeatFault idx)
        seenKeys := seenKeys ++ [k]
  modify fun ses => { ses with db := ses.db.addObject s (.index idx) }

/-- `CREATE VIEW`. -/
def createView (temp ifNotExists : Bool) (n : ObjectName) (cols : List String) (q : Query)
    (sql : String) : Exec Unit := do
  let s ← targetSchema temp n
  if !(← claimName s n ifNotExists) then return
  modify fun ses => { ses with db := ses.db.addObject s (.view ⟨n.name, cols, q, sql⟩) }

/-- The schema and table a possibly qualified name finds. -/
def findTable? (n : ObjectName) : Exec (Option (Schema × Table)) := do
  let db := (← get).db
  let schemas ← liftEval (schemasOf n)
  pure (schemas.findSome? fun s => (db.tableIn? s n.name).map (s, ·))

/-- `DROP TABLE`. -/
def dropTable (ifExists : Bool) (n : ObjectName) : Exec Unit := do
  let db := (← get).db
  let schemas ← liftEval (schemasOf n)
  match ← findTable? n with
  | none =>
    match schemas.findSome? fun s => db.viewIn? s n.name with
    | some v => refuse (.refused ("use DROP VIEW to delete view " ++ v.name))
    | none =>
      if isMainCatalogName n.name || isTempCatalogName n.name then
        refuse (.refused ("table " ++ n.name ++ " may not be dropped"))
      if !ifExists then refuse (.noSuchTable n.text)
  | some (s, t) =>
    if isReservedName t.name &&
        (String.ofList (t.name.toList.drop 7 |>.take 4 |>.map Char.toLower)) != "stat" then
      refuse (.refused ("table " ++ t.name ++ " may not be dropped"))
    withKeyCheck (deleteRowsOf depthLimit {} s t.name t.rows false)
    modify fun ses =>
      let db := ses.db.removeObjects s fun o => sameName o.tableName t.name
      { ses with db := db.removeObjects .temp fun o => match o with
        | .trigger tr => s == .main && sameName tr.table t.name
        | _ => false }
    if t.autoincrement then forgetSequence s t.name

/-- `DROP INDEX`. -/
def dropIndex (ifExists : Bool) (n : ObjectName) : Exec Unit := do
  let db := (← get).db
  let schemas ← liftEval (schemasOf n)
  match schemas.findSome? fun s => (db.indexIn? s n.name).map (s, ·) with
  | none => if !ifExists then refuse (.refused ("no such index: " ++ n.text))
  | some (s, i) =>
    if i.automatic then
      refuse (.refused "index associated with UNIQUE or PRIMARY KEY constraint cannot be dropped")
    modify fun ses => { ses with db := ses.db.removeObjects s fun o => match o with
      | .index j => sameName j.name i.name
      | _ => false }

/-- `DROP VIEW`. -/
def dropView (ifExists : Bool) (n : ObjectName) : Exec Unit := do
  let db := (← get).db
  let schemas ← liftEval (schemasOf n)
  match schemas.findSome? fun s => (db.viewIn? s n.name).map (s, ·) with
  | none =>
    match ← findTable? n with
    | some (_, t) => refuse (.refused ("use DROP TABLE to delete table " ++ t.name))
    | none => if !ifExists then refuse (.refused ("no such view: " ++ n.text))
  | some (s, v) =>
    modify fun ses => { ses with db := ses.db.removeObjects s fun o => match o with
      | .view w => sameName w.name v.name
      | _ => false }

/-- `CREATE TRIGGER`: the table it watches must exist and not be a catalog; a trigger on a
view runs `INSTEAD OF` the change, and one on a table before or after it. A trigger on a
temporary table is temporary. -/
def createTrigger (temp ifNotExists : Bool) (n : ObjectName) (timing : TriggerTiming)
    (event : TriggerEvent) (table : String) (condition : Option Expr) (body : List Statement)
    (sql : String) : Exec Unit := do
  if temp && n.schema.isSome then
    refuse (.refused "temporary trigger may not have qualified name")
  let named ← targetSchema false n
  let db := (← get).db
  let lookIn (ws : Schema) : Option Bool :=
    match db.tableIn? ws table, db.viewIn? ws table with
    | some _, _ => some false
    | none, some _ => some true
    | none, none => none
  let s : Schema :=
    if temp then .temp
    else match n.schema with
      | some _ => named
      | none => if (lookIn .temp).isSome then .temp else .main
  let watched := if s == .temp then (lookIn .temp).orElse fun _ => lookIn .main else lookIn .main
  let some isView := watched
    | refuse (.noSuchTable (if s == .temp then table else "main." ++ table))
  if isReservedName n.name then refuse (reservedFault n.name)
  let taken := ((← get).db.objects s).any fun o => match o with
    | .trigger tr => sameName tr.name n.name
    | _ => false
  if taken then
    if ifNotExists then return
    refuse (.refused ("trigger " ++ n.name ++ " already exists"))
  if isReservedName table then refuse (.refused "cannot create trigger on system table")
  if isView && timing != .insteadOf then
    refuse (.refused ("cannot create " ++ (if timing == .before then "BEFORE" else "AFTER") ++
      " trigger on view: " ++ table))
  if !isView && timing == .insteadOf then
    refuse (.refused ("cannot create INSTEAD OF trigger on table: " ++ table))
  modify fun ses =>
    { ses with db := ses.db.addObject s (.trigger ⟨n.name, table, timing, event, condition, body, sql⟩) }

/-- `DROP TRIGGER`. -/
def dropTrigger (ifExists : Bool) (n : ObjectName) : Exec Unit := do
  let db := (← get).db
  let schemas ← liftEval (schemasOf n)
  let found := schemas.find? fun s => (db.objects s).any fun o => match o with
    | .trigger tr => sameName tr.name n.name
    | _ => false
  match found with
  | none => if !ifExists then refuse (.refused ("no such trigger: " ++ n.text))
  | some s =>
    modify fun ses => { ses with db := ses.db.removeObjects s fun o => match o with
      | .trigger tr => sameName tr.name n.name
      | _ => false }

/-- The table an `ALTER TABLE` statement names; views and the store's catalogs are refused. -/
def alterTarget (n : ObjectName) : Exec (Schema × Table) := do
  match ← findTable? n with
  | some (s, t) =>
    if isReservedName t.name then refuse (.refused ("table " ++ t.name ++ " may not be altered"))
    pure (s, t)
  | none =>
    let db := (← get).db
    if (db.view? n.name).isSome then refuse (.refused ("Cannot add a column to a view"))
    refuse (.noSuchTable n.text)

/-- `ALTER TABLE … RENAME TO`. -/
def renameTable (s : Schema) (t : Table) (newName : String) : Exec Unit := do
  if isReservedName newName then refuse (reservedFault newName)
  if ← hasObject s newName fun _ => true then
    refuse (.refused ("there is already another table or index with this name: " ++ newName))
  let rename (old : String) : String := if sameName old t.name then newName else old
  let autoName (i : Index) : String :=
    if i.automatic then
      "sqlite_autoindex_" ++ newName ++ "_" ++ String.ofList (i.name.toList.reverse.takeWhile (· ≠ '_')).reverse
    else i.name
  modify fun ses => { ses with db := ses.db.setObjects s ((ses.db.objects s).map fun
    | .table u =>
      let u := if sameName u.name t.name then { u with name := newName } else u
      .table { u with foreignKeys := u.foreignKeys.map fun fk => { fk with parent := rename fk.parent } }
    | .index i =>
      if sameName i.table t.name then .index { i with name := autoName i, table := newName }
      else .index i
    | .trigger tr => .trigger { tr with table := rename tr.table }
    | o => o) }
  match (← get).db.tableIn? s "sqlite_sequence" with
  | some seq =>
    saveTable s { seq with rows := seq.rows.map fun r => match r.get 0 with
      | .text nm => if sameName nm t.name then { r with values := r.values.set 0 (.text newName) } else r
      | _ => r }
  | none => pure ()

/-- `ALTER TABLE … ADD COLUMN`. The rows the table has take the default, so while it has
rows a column that refers to another table takes no default but null, a `NOT NULL` column
needs a default, and the default must be a value as written; the rows must then pass the
table's checks and, in a strictly typed table, the column's type. -/
def addColumn (s : Schema) (t : Table) (d : ColumnDef) : Exec Unit := do
  if (t.columnIndex? d.name).isSome then refuse (.refused ("duplicate column name: " ++ d.name))
  let col ← liftEval (columnOf d)
  for (_, c) in d.constraints do
    match c with
    | .primaryKey _ _ _ => refuse (.refused "Cannot add a PRIMARY KEY column")
    | .unique _ => refuse (.refused "Cannot add a UNIQUE column")
    | _ => pure ()
  let checks := d.constraints.filterMap fun (cname, c) => match c with
    | .check e text => some (⟨cname.getD text, e⟩ : Check)
    | _ => none
  let fks := d.constraints.filterMap fun (_, c) => match c with
    | .references r => some (⟨[d.name], r.table, r.columns, r.onDelete, r.onUpdate⟩ : ForeignKey)
    | _ => none
  let given := match col.default with
    | some (.literal .null) => none
    | e => e
  let t' := { t with
    columns := t.columns ++ [col]
    checks := t.checks ++ checks
    foreignKeys := t.foreignKeys ++ fks }
  if t.rows.isEmpty then
    saveTable s t'
  else
    if !fks.isEmpty && given.isSome then
      refuse (.raised "Cannot add a REFERENCES column with non-NULL default value")
    if col.notNull && given.isNone then
      refuse (.raised "Cannot add a NOT NULL column with default value NULL")
    if !((given.map (writtenValue 64)).getD true) then
      refuse (.raised "Cannot add a column with non-constant default")
    let dflt ← match given with
      | some e => evalIn {} [] e
      | none => pure .null
    let v := dflt.withAffinity col.affinity
    let rows := t.rows.map fun r => { r with values := r.values ++ [v] }
    if !checks.isEmpty || t.strict then
      for r in rows do
        if t.strict && !col.fitsStrict v then refuse (.raised "type mismatch on DEFAULT")
        for ch in t'.checks do
          if (← evalIn {} [[t'.rowSlot r.values r.rowid]] ch.condition).truth? == some false then
            refuse (.raised "CHECK constraint failed")
    saveTable s { t' with rows }

/-- `ALTER TABLE … RENAME COLUMN`. -/
def renameColumn (s : Schema) (t : Table) (old new : String) : Exec Unit := do
  let some k := t.columnIndex? old | refuse (.refused ("no such column: \"" ++ old ++ "\""))
  if (t.columnIndex? new).isSome then refuse (.refused ("duplicate column name: " ++ new))
  let rename (c : String) : String := if sameName c old then new else c
  saveTable s { t with
    columns := t.columns.set k { t.columns.getD k default with name := new }
    primaryKey := t.primaryKey.map rename
    foreignKeys := t.foreignKeys.map fun fk => { fk with columns := fk.columns.map rename } }
  modify fun ses => { ses with db := ses.db.setObjects s ((ses.db.objects s).map fun
    | .index i =>
      if sameName i.table t.name then .index { i with columns := i.columns.map fun (c, x) => (rename c, x) }
      else .index i
    | o => o) }

/-- `ALTER TABLE … DROP COLUMN`. -/
def dropColumn (s : Schema) (t : Table) (name : String) : Exec Unit := do
  let some k := t.columnIndex? name | refuse (.refused ("no such column: \"" ++ name ++ "\""))
  if t.primaryKey.any (sameName · name) || t.rowidColumn == some k then
    refuse (.refused ("cannot drop PRIMARY KEY column: \"" ++ name ++ "\""))
  let indexes := (← get).db.indexesOf s t.name
  if indexes.any fun i => i.automatic && i.columns.any fun (c, _) => sameName c name then
    refuse (.refused ("cannot drop UNIQUE column: \"" ++ name ++ "\""))
  if t.columns.length == 1 then
    refuse (.refused ("cannot drop column \"" ++ name ++ "\": no other columns exist"))
  match indexes.find? fun i => i.columns.any fun (c, _) => sameName c name with
  | some i => refuse (.refused ("error in index " ++ i.name ++ " after drop column: no such column: " ++ name))
  | none => pure ()
  saveTable s { t with
    columns := t.columns.eraseIdx k
    rowidColumn := t.rowidColumn.map fun r => if r > k then r - 1 else r
    rows := t.rows.map fun r => { r with values := r.values.eraseIdx k } }

/-- `ALTER TABLE`. -/
def alterTable (n : ObjectName) (change : Alteration) : Exec Unit := do
  let (s, t) ← alterTarget n
  match change with
  | .renameTable newName => renameTable s t newName
  | .addColumn d => addColumn s t d
  | .renameColumn old new => renameColumn s t old new
  | .dropColumn c => dropColumn s t c

end Catalog.Sql
