import Catalog.Sql.Grammar.Query

/-!
# Reading statements

One statement at a time is read from a script: a definition (`CREATE TABLE`, `CREATE
INDEX`, `CREATE VIEW`, `CREATE TRIGGER`, `DROP`, `ALTER TABLE`), a change of rows
(`INSERT`, `REPLACE`, `UPDATE`, `DELETE`, with `ON CONFLICT` and `RETURNING` clauses), a
query, a `PRAGMA`, or a statement about transactions. A trigger's body holds changes of
rows and queries, each ended by a semicolon, up to `END`. A statement
ends at a semicolon or at the end of the script; empty statements between semicolons are
skipped. The text that the store keeps of a definition is its keyword followed by
everything from the object's name to the end of the statement.
-/

namespace Catalog.Sql

namespace Reader

/-- An object's name with an optional schema before it. -/
def objectName : Reader ObjectName := do
  let first ← name
  if ← acceptSymbol "." then pure ⟨some first, ← name⟩ else pure ⟨none, first⟩

/-- Whether `IF NOT EXISTS` is written. -/
def ifNotExists : Reader Bool := do
  if ← acceptKeyword "IF" then
    expectKeyword "NOT"
    expectKeyword "EXISTS"
    pure true
  else pure false

/-- Whether `IF EXISTS` is written. -/
def ifExists : Reader Bool := do
  if ← acceptKeyword "IF" then
    expectKeyword "EXISTS"
    pure true
  else pure false

/-- A way to resolve a conflict. -/
def resolution : Reader Conflict := do
  if ← acceptKeyword "ROLLBACK" then pure .rollback
  else if ← acceptKeyword "ABORT" then pure .abort
  else if ← acceptKeyword "FAIL" then pure .fail
  else if ← acceptKeyword "IGNORE" then pure .ignore
  else if ← acceptKeyword "REPLACE" then pure .replace
  else unexpected

/-- An `ON CONFLICT` clause, if written. -/
def onConflict : Reader (Option Conflict) := do
  if ← acceptKeyword "ON" then
    expectKeyword "CONFLICT"
    pure (some (← resolution))
  else pure none

/-- What a foreign key does on a change of the row it refers to. -/
def keyAction : Reader KeyAction := do
  if ← acceptKeyword "SET" then
    if ← acceptKeyword "NULL" then pure .setNull
    else do expectKeyword "DEFAULT"; pure .setDefault
  else if ← acceptKeyword "CASCADE" then pure .cascade
  else if ← acceptKeyword "RESTRICT" then pure .restrict
  else if ← acceptKeyword "NO" then do expectKeyword "ACTION"; pure .noAction
  else unexpected

/-- The clauses after the referred table and columns of a foreign key. -/
def referenceClauses : Nat → Reference → Reader Reference
  | 0, r => pure r
  | fuel + 1, r => do
    if ← acceptKeyword "MATCH" then
      _ ← name
      referenceClauses fuel r
    else if ← acceptKeyword "ON" then
      if ← acceptKeyword "DELETE" then
        referenceClauses fuel { r with onDelete := ← keyAction }
      else if ← acceptKeyword "UPDATE" then
        referenceClauses fuel { r with onUpdate := ← keyAction }
      else if ← acceptKeyword "INSERT" then
        _ ← keyAction
        referenceClauses fuel r
      else unexpected
    else pure r

/-- Names in parentheses, each with an optional collation and direction. -/
def keyNames : Nat → Reader (List KeyColumn)
  | 0 => tooDeep
  | fuel + 1 => do
    let n ← name
    let collation ← if ← acceptKeyword "COLLATE" then word? else pure none
    let desc ← if ← acceptKeyword "DESC" then pure true else do _ ← acceptKeyword "ASC"; pure false
    let c : KeyColumn := ⟨n, collation, desc⟩
    if ← acceptSymbol "," then pure (c :: (← keyNames fuel)) else pure [c]

/-- The table and columns a foreign key refers to, with its clauses. -/
def reference : Reader Reference := do
  let table ← name
  let columns ←
    if ← acceptSymbol "(" then
      let cs ← keyNames (← fuel)
      expectSymbol ")"
      pure (cs.map (·.name))
    else pure []
  referenceClauses (← fuel) ⟨table, columns, .noAction, .noAction⟩

/-- The rest of `[NOT] DEFERRABLE [INITIALLY DEFERRED | INITIALLY IMMEDIATE]`. -/
def deferrable : Reader Unit := do
  expectKeyword "DEFERRABLE"
  if ← acceptKeyword "INITIALLY" then
    if !(← acceptKeyword "DEFERRED") then expectKeyword "IMMEDIATE"

/-- A literal or name that a `DEFAULT` clause gives without parentheses. -/
def defaultTerm (negative : Bool) : Reader Expr := do
  let some t ← peek | unexpected
  let e : Expr ← match t.kind with
    | .number text => advance; pure (.literal (← numberLiteral text negative))
    | .string v => advance; pure (.literal (.text v))
    | .bytes b => advance; pure (.literal (.blob b))
    | .keyword "NULL" => advance; pure (.literal .null)
    | .keyword "CURRENT_DATE" => advance; pure (.clock .date)
    | .keyword "CURRENT_TIME" => advance; pure (.clock .time)
    | .keyword "CURRENT_TIMESTAMP" => advance; pure (.clock .timestamp)
    | .name v quoted =>
      advance
      if !quoted && (v.toLower == "true" || v.toLower == "false") then
        pure (.literal (.integer (if v.toLower == "true" then 1 else 0)))
      else pure (.literal (.text v))
    | .keyword k =>
      if nameKeywords.contains k || k == "INDEXED" then advance; pure (.literal (.text t.text))
      else unexpected
    | _ => unexpected
  match t.kind, negative with
  | .number _, _ => pure e
  | _, true => pure (.unary .negate e)
  | _, false => pure e

/-- The value of a `DEFAULT` clause. -/
def defaultValue : Reader Expr := do
  if ← acceptSymbol "(" then
    let e ← expr
    expectSymbol ")"
    pure e
  else if ← acceptSymbol "+" then defaultTerm false
  else if ← acceptSymbol "-" then defaultTerm true
  else defaultTerm false

/-- A condition in parentheses, with the text written between them. -/
def condition : Reader (Expr × String) := do
  let lp ← position
  expectSymbol "("
  let e ← expr
  let rp ← position
  expectSymbol ")"
  let a ← charAt lp
  let b ← charAt rp
  pure (e, ← textBetween (a + 1) b)

/-- The expression of a generated column, with its optional storage word. -/
def generated : Reader Expr := do
  expectSymbol "("
  let e ← expr
  expectSymbol ")"
  match ← peek with
  | some t => match t.kind with
    | .name _ _ => advance
    | _ => pure ()
  | none => pure ()
  pure e

/-- The constraints written after a column's type; `pending` is the name given by a
`CONSTRAINT` clause to the next one. -/
def columnConstraints : Nat → Option String → Reader (List (Option String × ColumnConstraint))
  | 0, _ => tooDeep
  | fuel + 1, pending => do
    let some t ← peek | pure []
    let more (c : ColumnConstraint) : Reader (List (Option String × ColumnConstraint)) := do
      pure ((pending, c) :: (← columnConstraints fuel none))
    match t.kind with
    | .keyword "CONSTRAINT" =>
      advance
      let n ← name
      columnConstraints fuel (some n)
    | .keyword "DEFAULT" => advance; more (.default (← defaultValue))
    | .keyword "NULL" => advance; _ ← onConflict; more .nullable
    | .keyword "NOT" =>
      advance
      if ← acceptKeyword "NULL" then more (.notNull (← onConflict))
      else do deferrable; columnConstraints fuel none
    | .keyword "PRIMARY" =>
      advance
      expectKeyword "KEY"
      let desc ← if ← acceptKeyword "DESC" then pure true else do _ ← acceptKeyword "ASC"; pure false
      let c ← onConflict
      let auto ← acceptKeyword "AUTOINCREMENT"
      more (.primaryKey desc c auto)
    | .keyword "UNIQUE" => advance; more (.unique (← onConflict))
    | .keyword "CHECK" =>
      advance
      let (e, text) ← condition
      more (.check e text)
    | .keyword "REFERENCES" => advance; more (.references (← reference))
    | .keyword "DEFERRABLE" => deferrable; columnConstraints fuel none
    | .keyword "COLLATE" =>
      advance
      let some c ← word? | unexpected
      more (.collate c)
    | .keyword "GENERATED" =>
      advance
      expectKeyword "ALWAYS"
      expectKeyword "AS"
      more (.generated (← generated))
    | .keyword "AS" => advance; more (.generated (← generated))
    | _ => pure []

/-- A column: its name, type and constraints. -/
def columnDef : Reader ColumnDef := do
  let n ← name
  let ty ← typeName
  let cs ← columnConstraints (← fuel) none
  pure ⟨n, ty, cs⟩

/-- The keywords that start a table constraint. -/
def tableConstraintStarts : List String :=
  ["CONSTRAINT", "PRIMARY", "UNIQUE", "CHECK", "FOREIGN"]

/-- The constraints written after a table's columns. -/
def tableConstraints : Nat → Option String → Reader (List (Option String × TableConstraint))
  | 0, _ => tooDeep
  | fuel + 1, pending => do
    let some t ← peek | unexpected
    let more (c : TableConstraint) : Reader (List (Option String × TableConstraint)) := do
      let rest ←
        if ← acceptSymbol "," then tableConstraints fuel none
        else if ← atKeywords tableConstraintStarts then tableConstraints fuel none
        else pure []
      pure ((pending, c) :: rest)
    match t.kind with
    | .keyword "CONSTRAINT" =>
      advance
      let n ← name
      tableConstraints fuel (some n)
    | .keyword "PRIMARY" =>
      advance
      expectKeyword "KEY"
      expectSymbol "("
      let cols ← keyNames fuel
      let auto ← acceptKeyword "AUTOINCREMENT"
      expectSymbol ")"
      more (.primaryKey cols (← onConflict) auto)
    | .keyword "UNIQUE" =>
      advance
      expectSymbol "("
      let cols ← keyNames fuel
      expectSymbol ")"
      more (.unique cols (← onConflict))
    | .keyword "CHECK" =>
      advance
      let (e, text) ← condition
      _ ← onConflict
      more (.check e text)
    | .keyword "FOREIGN" =>
      advance
      expectKeyword "KEY"
      expectSymbol "("
      let cols ← nameList fuel
      expectSymbol ")"
      expectKeyword "REFERENCES"
      let r ← reference
      if ← acceptKeyword "NOT" then deferrable
      else if ← atKeyword "DEFERRABLE" then deferrable
      more (.foreignKey cols r)
    | _ => if pending.isSome then pure [] else unexpected

/-- The columns of a table, then its constraints. -/
def columnsAndConstraints : Nat →
    Reader (List ColumnDef × List (Option String × TableConstraint))
  | 0 => tooDeep
  | fuel + 1 => do
    let c ← columnDef
    if ← acceptSymbol "," then
      if ← atKeywords tableConstraintStarts then pure ([c], ← tableConstraints fuel none)
      else
        let (cs, ts) ← columnsAndConstraints fuel
        pure (c :: cs, ts)
    else pure ([c], [])

/-- The options after a table's definition; whether `WITHOUT ROWID` is among them. -/
def tableOptions : Nat → Reader (Bool × Bool)
  | 0 => pure (false, false)
  | fuel + 1 => do
    let some t ← peek | pure (false, false)
    let one : Reader (Bool × Bool) := do
      if ← acceptKeyword "WITHOUT" then
        let n ← name
        if n.toLower == "rowid" then pure (true, false)
        else throw (.refused ("unknown table option: " ++ n))
      else
        match nameOf? t with
        | some n =>
          advance
          if n.toLower == "strict" then pure (false, true)
          else throw (.refused ("unknown table option: " ++ n))
        | none => pure (false, false)
    if t.isKeyword "WITHOUT" || (nameOf? t).isSome then
      let (w, st) ← one
      if ← acceptSymbol "," then
        let (w', st') ← tableOptions fuel
        pure (w || w', st || st')
      else pure (w, st)
    else pure (false, false)

/-- The statement `CREATE [TEMP] TABLE`, after `TABLE`. -/
def createTable (temp : Bool) : Reader Statement := do
  let ine ← ifNotExists
  let nameStart ← position
  let n ← objectName
  let body ←
    if ← acceptSymbol "(" then
      let (cols, cons) ← columnsAndConstraints (← fuel)
      expectSymbol ")"
      let (without, strict) ← tableOptions (← fuel)
      pure (TableBody.columns cols cons without strict)
    else if ← acceptKeyword "AS" then pure (.query (← fullQuery))
    else unexpected
  pure (.createTable temp ine n body ("CREATE TABLE " ++ (← spanFrom nameStart)))

/-- The statement `CREATE [UNIQUE] INDEX`, after `INDEX`. -/
def createIndex (unique : Bool) : Reader Statement := do
  let ine ← ifNotExists
  let nameStart ← position
  let n ← objectName
  expectKeyword "ON"
  let table ← name
  expectSymbol "("
  let cols ← keyNames (← fuel)
  expectSymbol ")"
  let filter ← if ← acceptKeyword "WHERE" then some <$> expr else pure none
  let kw := if unique then "CREATE UNIQUE INDEX " else "CREATE INDEX "
  pure (.createIndex unique ine n table cols filter (kw ++ (← spanFrom nameStart)))

/-- The statement `CREATE [TEMP] VIEW`, after `VIEW`. -/
def createView (temp : Bool) : Reader Statement := do
  let ine ← ifNotExists
  let nameStart ← position
  let n ← objectName
  let cols ←
    if ← acceptSymbol "(" then
      let cs ← keyNames (← fuel)
      expectSymbol ")"
      pure (cs.map (·.name))
    else pure []
  expectKeyword "AS"
  let q ← fullQuery
  pure (.createView temp ine n cols q ("CREATE VIEW " ++ (← spanFrom nameStart)))

/-- A `DROP` statement, after `DROP`. -/
def drop : Reader Statement := do
  let kind : ObjectKind ←
    if ← acceptKeyword "TABLE" then pure .table
    else if ← acceptKeyword "INDEX" then pure .index
    else if ← acceptKeyword "VIEW" then pure .view
    else if ← acceptKeyword "TRIGGER" then pure .trigger
    else unexpected
  let ie ← ifExists
  pure (.drop kind ie (← objectName))

/-- An `ALTER TABLE` statement, after `ALTER`. -/
def alter : Reader Statement := do
  expectKeyword "TABLE"
  let t ← objectName
  if ← acceptKeyword "RENAME" then
    if ← acceptKeyword "TO" then pure (.alter t (.renameTable (← name)))
    else
      _ ← acceptKeyword "COLUMN"
      let old ← name
      expectKeyword "TO"
      pure (.alter t (.renameColumn old (← name)))
  else if ← acceptKeyword "ADD" then
    _ ← acceptKeyword "COLUMN"
    pure (.alter t (.addColumn (← columnDef)))
  else if ← acceptKeyword "DROP" then
    _ ← acceptKeyword "COLUMN"
    pure (.alter t (.dropColumn (← name)))
  else unexpected

/-- The table a change of rows names, with an optional alias after `AS`. -/
def targetTable : Reader ObjectName := do
  let t ← objectName
  if ← acceptKeyword "AS" then _ ← name
  pure t

/-- The assignments of an `UPDATE`. -/
def assignments : Nat → Reader (List (List String × Expr))
  | 0 => tooDeep
  | fuel + 1 => do
    let cols ←
      if ← acceptSymbol "(" then
        let cs ← nameList fuel
        expectSymbol ")"
        pure cs
      else pure [← name]
    if !(← acceptSymbol "=") then expectSymbol "=="
    let e ← expr
    let a := (cols, e)
    if ← acceptSymbol "," then pure (a :: (← assignments fuel)) else pure [a]

/-- The optional `RETURNING` clause of a statement that changes rows. -/
def returning : Reader (List ResultColumn) := do
  if ← acceptKeyword "RETURNING" then resultColumns (← fuel) else pure []

/-- The `ON CONFLICT` clauses of an `INSERT`; a clause without a key must be the last. -/
def upserts : Nat → Reader (List Upsert)
  | 0 => pure []
  | fuel + 1 => do
    if !(← atKeyword "ON") then return []
    advance
    expectKeyword "CONFLICT"
    let target ←
      if ← acceptSymbol "(" then
        let cols ← keyNames (← Reader.fuel)
        expectSymbol ")"
        let filter ← if ← acceptKeyword "WHERE" then some <$> expr else pure none
        pure (some (cols, filter))
      else pure none
    expectKeyword "DO"
    let action ←
      if ← acceptKeyword "NOTHING" then pure UpsertAction.nothing
      else
        expectKeyword "UPDATE"
        expectKeyword "SET"
        let sets ← assignments (← Reader.fuel)
        let filter ← if ← acceptKeyword "WHERE" then some <$> expr else pure none
        pure (UpsertAction.update sets filter)
    let u : Upsert := ⟨target, action⟩
    if target.isNone then pure [u] else pure (u :: (← upserts fuel))

/-- An `INSERT` or `REPLACE` statement, from its first keyword. -/
def insert : Reader Statement := do
  let conflict ←
    if ← acceptKeyword "REPLACE" then pure Conflict.replace
    else do
      expectKeyword "INSERT"
      if ← acceptKeyword "OR" then resolution else pure .abort
  expectKeyword "INTO"
  let t ← targetTable
  let cols ←
    if ← acceptSymbol "(" then
      let cs ← nameList (← fuel)
      expectSymbol ")"
      pure cs
    else pure []
  if ← acceptKeyword "DEFAULT" then
    expectKeyword "VALUES"
    pure (.insert conflict t cols none [] (← returning))
  else
    let q ← fullQuery
    let ups ← upserts (← fuel)
    pure (.insert conflict t cols (some q) ups (← returning))

/-- An `UPDATE` statement, after `UPDATE`. -/
def update : Reader Statement := do
  let conflict ← if ← acceptKeyword "OR" then resolution else pure .abort
  let t ← targetTable
  if ← acceptKeyword "INDEXED" then
    expectKeyword "BY"
    _ ← name
  else if ← acceptKeyword "NOT" then expectKeyword "INDEXED"
  expectKeyword "SET"
  let sets ← assignments (← fuel)
  let filter ← if ← acceptKeyword "WHERE" then some <$> expr else pure none
  pure (.update conflict t sets filter (← returning))

/-- A `DELETE` statement, after `DELETE`. -/
def delete : Reader Statement := do
  expectKeyword "FROM"
  let t ← targetTable
  if ← acceptKeyword "INDEXED" then
    expectKeyword "BY"
    _ ← name
  else if ← acceptKeyword "NOT" then expectKeyword "INDEXED"
  let filter ← if ← acceptKeyword "WHERE" then some <$> expr else pure none
  pure (.delete t filter (← returning))

/-- A statement of a trigger's body: `INSERT`, `UPDATE`, `DELETE` or a query; the tables it
changes are named without a schema. -/
def triggerStep : Reader Statement := do
  let some t ← peek | unexpected
  let stmt ← match t.kind with
    | .keyword "INSERT" => insert
    | .keyword "REPLACE" => insert
    | .keyword "UPDATE" => advance; update
    | .keyword "DELETE" => advance; delete
    | .keyword "SELECT" => pure (.select (← fullQuery))
    | .keyword "VALUES" => pure (.select (← fullQuery))
    | .keyword "WITH" => pure (.select (← fullQuery))
    | _ => unexpected
  let qualified := match stmt with
    | .insert _ n _ _ _ _ => n.schema.isSome
    | .update _ n _ _ _ => n.schema.isSome
    | .delete n _ _ => n.schema.isSome
    | _ => false
  if qualified then
    throw (.refused ("qualified table names are not allowed on INSERT, UPDATE, and DELETE " ++
      "statements within triggers"))
  pure stmt

/-- The statements of a trigger's body, each ended by a semicolon, up to `END`. -/
def triggerSteps : Nat → Reader (List Statement)
  | 0 => tooDeep
  | fuel + 1 => do
    let st ← triggerStep
    expectSymbol ";"
    if ← atKeyword "END" then pure [st] else pure (st :: (← triggerSteps fuel))

/-- The statement `CREATE [TEMP] TRIGGER`, after `TRIGGER`. -/
def createTrigger (temp : Bool) : Reader Statement := do
  let ine ← ifNotExists
  let nameStart ← position
  let n ← objectName
  let timing ←
    if ← acceptKeyword "BEFORE" then pure TriggerTiming.before
    else if ← acceptKeyword "AFTER" then pure TriggerTiming.after
    else if ← acceptKeyword "INSTEAD" then
      expectKeyword "OF"
      pure TriggerTiming.insteadOf
    else pure TriggerTiming.before
  let event ←
    if ← acceptKeyword "DELETE" then pure TriggerEvent.delete
    else if ← acceptKeyword "INSERT" then pure TriggerEvent.insert
    else if ← acceptKeyword "UPDATE" then
      if ← acceptKeyword "OF" then pure (TriggerEvent.update (← nameList (← fuel)))
      else pure (TriggerEvent.update [])
    else unexpected
  expectKeyword "ON"
  let table ← objectName
  if ← acceptKeyword "FOR" then
    expectKeyword "EACH"
    expectKeyword "ROW"
  let cond ← if ← acceptKeyword "WHEN" then some <$> expr else pure none
  expectKeyword "BEGIN"
  let body ← triggerSteps (← fuel)
  expectKeyword "END"
  pure (.createTrigger temp ine n timing event table.name cond body
    ("CREATE TRIGGER " ++ (← spanFrom nameStart)))

/-- A `CREATE` statement, after `CREATE`. -/
def create : Reader Statement := do
  let temp ← acceptKeyword "TEMP" <||> acceptKeyword "TEMPORARY"
  if ← acceptKeyword "TABLE" then createTable temp
  else if ← acceptKeyword "VIEW" then createView temp
  else if ← acceptKeyword "TRIGGER" then createTrigger temp
  else if temp then unexpected
  else if ← acceptKeyword "UNIQUE" then do expectKeyword "INDEX"; createIndex true
  else if ← acceptKeyword "INDEX" then createIndex false
  else unexpected

/-- The value of a `PRAGMA`: a number with an optional sign, a name, `ON`, `DELETE` or
`DEFAULT`. -/
def pragmaValue : Reader Unit := do
  _ ← acceptSymbol "+" <||> acceptSymbol "-"
  let some t ← peek | unexpected
  match t.kind with
  | .number _ => advance
  | .keyword k =>
    if k == "ON" || k == "DELETE" || k == "DEFAULT" || (nameOf? t).isSome then advance
    else unexpected
  | _ => if (nameOf? t).isSome then advance else unexpected

/-- A `PRAGMA` statement, after `PRAGMA`. -/
def pragma : Reader Statement := do
  let n ← objectName
  if ← acceptSymbol "=" then pragmaValue
  else if ← acceptSymbol "(" then
    pragmaValue
    expectSymbol ")"
  pure (.pragma n)

/-- The optional `TRANSACTION [name]` of a transaction statement. -/
def transactionWord : Reader Unit := do
  if ← acceptKeyword "TRANSACTION" then
    match (← peek).bind nameOf? with
    | some _ => advance
    | none => pure ()

/-- The optional schema name of `ANALYZE` or `REINDEX`. -/
def optionalObject : Reader Unit := do
  match (← peek).bind nameOf? with
  | some _ => _ ← objectName
  | none => pure ()

/-- A statement, from its first token. -/
def statement : Nat → Reader Statement
  | 0 => tooDeep
  | fuel + 1 => do
    let some t ← peek | unexpected
    match t.kind with
    | .keyword "CREATE" => advance; create
    | .keyword "DROP" => advance; drop
    | .keyword "ALTER" => advance; alter
    | .keyword "INSERT" => insert
    | .keyword "REPLACE" => insert
    | .keyword "UPDATE" => advance; update
    | .keyword "DELETE" => advance; delete
    | .keyword "SELECT" => pure (.select (← fullQuery))
    | .keyword "VALUES" => pure (.select (← fullQuery))
    | .keyword "WITH" =>
      advance
      _ ← acceptKeyword "RECURSIVE"
      let tables ← commonTables fuel
      let some t ← peek | unexpected
      match t.kind with
      | .keyword "INSERT" | .keyword "REPLACE" => pure (.withTables tables (← insert))
      | .keyword "UPDATE" => advance; pure (.withTables tables (← update))
      | .keyword "DELETE" => advance; pure (.withTables tables (← delete))
      | _ => pure (.select (.withTables tables (← fullQuery)))
    | .keyword "PRAGMA" => advance; pragma
    | .keyword "BEGIN" =>
      advance
      _ ← acceptKeyword "DEFERRED" <||> acceptKeyword "IMMEDIATE" <||> acceptKeyword "EXCLUSIVE"
      transactionWord
      pure .begin
    | .keyword "COMMIT" => advance; transactionWord; pure .commit
    | .keyword "END" => advance; transactionWord; pure .commit
    | .keyword "ROLLBACK" =>
      advance
      transactionWord
      if ← acceptKeyword "TO" then
        _ ← acceptKeyword "SAVEPOINT"
        pure (.rollback (some (← name)))
      else pure (.rollback none)
    | .keyword "SAVEPOINT" => advance; pure (.savepoint (← name))
    | .keyword "RELEASE" =>
      advance
      _ ← acceptKeyword "SAVEPOINT"
      pure (.release (← name))
    | .keyword "VACUUM" =>
      advance
      match (← peek).bind nameOf? with
      | some _ => advance
      | none => pure ()
      if ← acceptKeyword "INTO" then _ ← expr
      pure .vacuum
    | .keyword "ANALYZE" => advance; optionalObject; pure .analyze
    | .keyword "REINDEX" => advance; optionalObject; pure .reindex
    | .keyword "ATTACH" =>
      advance
      _ ← acceptKeyword "DATABASE"
      _ ← expr
      expectKeyword "AS"
      _ ← expr
      if ← acceptKeyword "KEY" then _ ← expr
      pure .attach
    | .keyword "DETACH" =>
      advance
      _ ← acceptKeyword "DATABASE"
      let nameStart ← position
      _ ← expr
      pure (.detach (← spanFrom nameStart))
    | .keyword "EXPLAIN" =>
      advance
      if ← acceptKeyword "QUERY" then expectKeyword "PLAN"
      _ ← statement fuel
      pure .explain
    | _ => unexpected

/-- The next statement of a script, skipping empty ones; `none` at the end. The statement
must end at a semicolon or at the end of the script. -/
def nextStatement : Nat → Reader (Option Statement)
  | 0 => pure none
  | fuel + 1 => do
    if ← acceptSymbol ";" then nextStatement fuel
    else
      match ← peek with
      | none => pure none
      | some _ =>
        let s ← statement (← Reader.fuel)
        if ← acceptSymbol ";" then pure (some s)
        else match ← peek with
          | none => pure (some s)
          | some _ => unexpected

end Reader

end Catalog.Sql
