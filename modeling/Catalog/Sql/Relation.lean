import Catalog.Sql.JsonRows
import Catalog.Sql.Window
import Catalog.Time.Instant

/-!
# Queries and their results

A query yields a *relation*: named columns and rows of values. Its body is read as:

* `SELECT`: the rows of its sources (one empty row when it has none), joined by nested
  loops — an outer join adds a row of `null`s for an unmatched side, and a join on equal
  columns hides the right side's copies of them from unqualified names; the rows that the
  `WHERE` condition holds for; then either one result row per row, or, for a query with
  `GROUP BY` or an aggregate function, one per group (groups ordered by their key, a single
  group when there is no `GROUP BY`), kept when `HAVING` holds. Columns outside an
  aggregate read the last row of their group. `DISTINCT` keeps the first of equal rows.
* `VALUES`: its rows, with columns `column1`, `column2`, ….
* a call of `json_each` or `json_tree` in `FROM`: the rows of a document (see
  `Catalog.Sql.JsonRows`), numbered from 0. Its arguments may read the sources to its left,
  so it is called again for each of their rows. A call of any other name is refused: as
  no function when a table or view has the name, else as no such table.
* compounds: `UNION ALL` appends; `UNION`, `INTERSECT` and `EXCEPT` give distinct rows in
  ascending order.

Then `ORDER BY` sorts stably (a number picks a result column, a name may be a result
column's alias; `null` comes first in ascending order), and `OFFSET` and `LIMIT` cut.

Before a statement runs, the shape of each of its queries is worked out: this refuses a
missing table, column or function, a wrong number of arguments, and compounds of unequal
width, even when no row would be read.
-/

namespace Catalog.Sql

open Catalog

/-- The result of a query: its columns and rows. -/
structure Relation where
  fields : List Field
  rows : List (List Value)
  deriving Inhabited

/-- A result row with the source row it came from, its group's rows for an aggregate
query, and the values of the query's window calls for it, so that an order can read them. -/
structure ResultRow where
  values : List Value
  source : List Slot
  group : Option (List (List Slot))
  windowRow : List Value
  deriving Inhabited

/-- What evaluation reads: the database, the clock, the rows in reach (innermost first),
the rows of the current group, the row id last inserted, and the values of the query's
window calls for the current row. -/
structure Context where
  db : Database
  clock : Int
  scopes : List (List Slot)
  group : Option (List (List Slot))
  lastRowid : Int
  /-- Whether a trigger is running, so that `RAISE` may be used. -/
  inTrigger : Bool
  windowRow : List Value := []
  deriving Inhabited

/-- A computation that the store may refuse. -/
abbrev Eval := Except StoreFault

/-- The refusal of a statement nested too deeply. -/
def tooDeep {α : Type} : Eval α :=
  throw (.refused "parser stack overflow")

/-- The ordinal word of a position counted from one, as the store writes it. -/
def ordinal (n : Nat) : String :=
  let suffix :=
    if n % 100 ≥ 11 && n % 100 ≤ 13 then "th"
    else match n % 10 with
      | 1 => "st"
      | 2 => "nd"
      | 3 => "rd"
      | _ => "th"
  toString n ++ suffix

/-- The name of a compound operator. -/
def CompoundOp.name : CompoundOp → String
  | .union => "UNION"
  | .unionAll => "UNION ALL"
  | .intersect => "INTERSECT"
  | .except => "EXCEPT"

/-- The visible fields of a slot: those not hidden by a join on equal columns. -/
def Slot.visibleFields (s : Slot) : List Field :=
  s.fields.filter fun f => !s.hidden.any (sameName · f.name)

/-- The visible values of a slot, matching `visibleFields`. -/
def Slot.visibleValues (s : Slot) : List Value :=
  ((s.fields.zip (s.values ++ List.replicate s.fields.length .null)).filter fun (f, _) =>
    !s.hidden.any (sameName · f.name)).map (·.2)

/-- The names shared by two lists of slots, in the order of the left one. -/
def commonNames (left right : List Slot) : List String :=
  let ln := left.flatMap fun s => s.visibleFields.map (·.name)
  let rn := right.flatMap fun s => s.visibleFields.map (·.name)
  ln.filter fun n => rn.any (sameName · n)

/-- Fields renamed to the given names, where names are given. -/
def renameFields (fields : List Field) (names : List String) : List Field :=
  if names.isEmpty then fields
  else (fields.zip names).map fun (f, n) => { f with name := n }

/-- The type a table made from a query gives a column: the declared type of the column it
reads, or the name of its affinity. -/
def fieldType (f : Field) : String :=
  if f.type != "" then f.type
  else match f.affinity with
    | some .integer => "INT"
    | some .real => "REAL"
    | some .text => "TEXT"
    | some .numeric => "NUM"
    | _ => ""

/-- The table a named query of a `WITH` clause stands for, with the given rows. It has no row
id. -/
def commonTable (name : String) (fields : List Field) (rows : List (List Value)) : Table :=
  { name
    columns := fields.map fun f => ⟨f.name, fieldType f, false, none, f.collation⟩
    rowidColumn := none, primaryKey := [], autoincrement := false, checks := []
    foreignKeys := [], sql := ""
    rows := (rows.zip (List.range rows.length)).map fun (vs, i) => ⟨((i + 1 : Nat) : Int), vs⟩
    withoutRowid := true }

/-- The database with a named query's table in reach: it is found before any table of the
same name. -/
def Database.withCommon (db : Database) (t : Table) : Database :=
  { db with temp := .table t :: db.temp }

/-- The fields of a named query under the names of its `WITH` clause, which must be as many. -/
def commonFields (name : String) (names : List String) (fields : List Field) :
    Except StoreFault (List Field) :=
  if !names.isEmpty && names.length != fields.length then
    throw (.refused ("table " ++ name ++ " has " ++ toString fields.length ++ " values for " ++
      toString names.length ++ " columns"))
  else pure (renameFields fields names)

/-- Whether a source reads a table of this name directly (not inside a subquery). -/
def Source.reads (name : String) : Source → Bool
  | .table n _ => n.schema.isNone && sameName n.name name
  | .call _ _ _ | .query _ _ => false
  | .join _ _ l r _ _ => l.reads name || r.reads name

/-- Whether a query body reads a table of this name directly. -/
def QueryBody.reads (name : String) : QueryBody → Bool
  | .select _ _ source _ _ _ _ => (source.map (Source.reads name)).getD false
  | .values _ => false
  | .compound _ l r => l.reads name || r.reads name

/-- The parts of a recursive named query: a compound whose last part reads the query itself;
the operator, the first parts and the last part. -/
def recursiveParts (name : String) :
    Query → Option (CompoundOp × QueryBody × QueryBody × Option Expr × Option Expr)
  | .mk (.compound op anchor step) _ limit offset =>
    if step.reads name && (op == .union || op == .unionAll) then
      some (op, anchor, step, limit, offset)
    else none
  | _ => none


/-- The number of the result column an `ORDER BY` term names directly: by its position, or
by a bare name equal to a result column's name. -/
def orderTarget (fields : List Field) : Expr → Option Nat
  | .literal (.integer k) => if k ≥ 1 then some (k.toNat - 1) else none
  | .column none n _ => fields.findIdx? fun f => sameName f.name n
  | _ => none

/-- The database a view's query reads: a view of the main schema sees only main tables, as
its names are fixed to its own schema; a temporary view sees both schemas. -/
def viewDatabase (db : Database) (v : View) : Database :=
  if (db.main.any fun o => match o with
      | .view w => w.name == v.name
      | _ => false) then { db with temp := [] }
  else db

/-- Run a part of a view's reading: a table it misses is named with the schema its names are
fixed to. -/
def withinView {α : Type} (e : Eval α) : Eval α :=
  match e with
  | .error (.noSuchTable n) =>
    if n.contains '.' then .error (.noSuchTable n) else .error (.noSuchTable ("main." ++ n))
  | other => other

/-- The fields of a view: its query's, renamed by its column list, whose length must match. -/
def viewFields (v : View) (fields : List Field) : Eval (List Field) :=
  if !v.columns.isEmpty && v.columns.length != fields.length then
    throw (.refused ("expected " ++ toString v.columns.length ++ " columns for '" ++ v.name ++
      "' but got " ++ toString fields.length))
  else pure (renameFields fields v.columns)

/-- The columns of `json_each` and `json_tree`. -/
def jsonRowFields : List Field :=
  jsonRowColumns.map fun n => ⟨n, none, .binary, ""⟩

/-- Whether a call in `FROM` is one of `json_each` and `json_tree`; `true` for the latter. -/
def rowFunction? (name : ObjectName) : Option Bool :=
  if (name.schema.map (sameName · "main")).getD true then
    if sameName name.name "json_each" then some false
    else if sameName name.name "json_tree" then some true
    else none
  else none

/-- Whether a column reference reads the `value` of a `json_each` or `json_tree` row that
holds an array or an object: such a value is JSON, as if a JSON function had made it. -/
def readsJsonValue (scopes : List (List Slot)) : Expr → Bool
  | .column t n _ =>
    sameName n "value" &&
      match scopes.findSome? fun scope => scope.find? fun s => !(s.find t n).isEmpty with
      | some s =>
        s.fields.map (·.name) == jsonRowColumns &&
          match (s.values[2]? : Option Value) with
          | some (.text k) => k == "array" || k == "object"
          | _ => false
      | none => false
  | _ => false

/-- An argument of a JSON function, with whether it is JSON already. -/
def jsonArgIn (scopes : List (List Slot)) (e : Expr) (v : Value) : JsonArg :=
  { value := v, isJson := producesJson e v || readsJsonValue scopes e }

/-- Whether a function that is neither an aggregate nor a window function takes this many
arguments; `none` when there is no such function. -/
def scalarFits (lname : String) (count : Nat) : Option Bool :=
  match functionArity lname with
  | some (lo, hi) => some (decide (lo ≤ count) && (hi.map fun h => decide (count ≤ h)).getD true)
  | none =>
    if ["last_insert_rowid", "changes", "total_changes", "random"].contains lname then
      some (count == 0)
    else if lname == "randomblob" then some (count == 1)
    else none

/-- Check a call by its function's name and number of arguments, and whether it has a
`FILTER` condition and a window: a window function needs a window, and a function that is
not an aggregate may have neither. -/
def callShape (name : String) (count : Nat) (filtered windowed : Bool) : Eval Unit := do
  let lname := name.toLower
  let wrong : Eval Unit :=
    throw (.refused ("wrong number of arguments to function " ++ name ++ "()"))
  match windowArity lname with
  | some (lo, hi) =>
    if count < lo || count > hi then wrong
    else if !windowed then throw (.refused ("misuse of window function " ++ name ++ "()"))
  | none =>
    if isAggregateCall lname count then pure ()
    else
      match scalarFits lname count with
      | some true =>
        if windowed then throw (.refused (name ++ "() may not be used as a window function"))
        else if filtered then
          throw (.refused ("FILTER may not be used with non-aggregate " ++ name ++ "()"))
      | some false => wrong
      | none =>
        if (aggregateArity lname).isSome then wrong
        else throw (.refused ("no such function: " ++ name))

mutual

/-- The shape of a source: its slots with `null` values. The arguments of a call may read
the slots `outer` holds. -/
def sourceShape : Nat → Database → List (List Slot) → Source → Eval (List Slot)
  | 0, _, _, _ => tooDeep
  | fuel + 1, db, outer, .call name args asName => do
    match rowFunction? name with
    | some _ =>
      for a in args do checkExpr fuel db outer a
      if args.length > 2 then
        throw (.refused ("too many arguments on " ++ name.name.toLower ++ "() - max 2"))
      pure [(⟨asName.getD name.name, jsonRowFields, [], some 0, []⟩ : Slot).blank]
    | none =>
      _ ← db.lookup name
      throw (.refused ("'" ++ name.name ++ "' is not a function"))
  | fuel + 1, db, _, .table name asName => do
    match ← db.lookup name with
    | .table t => pure [(t.slot (asName.getD t.name) ⟨0, []⟩).blank]
    | .view v =>
      let fields ← withinView (queryShape fuel (viewDatabase db v) [] v.query)
      let fields ← viewFields v fields
      pure [(⟨asName.getD v.name, fields, [], none, []⟩ : Slot).blank]
    | .catalog _ => pure [(⟨asName.getD name.name, catalogFields, [], some 0, []⟩ : Slot).blank]
  | fuel + 1, db, _, .query q asName => do
    let fields ← queryShape fuel db [] q
    pure [(⟨asName.getD "", fields, [], none, []⟩ : Slot).blank]
  | fuel + 1, db, outer, .join _ natural l r on usingColumns => do
    let ls ← sourceShape fuel db outer l
    let rs ← sourceShape fuel db (ls :: outer) r
    let cols := if natural then commonNames ls rs else usingColumns
    for c in cols do
      let inLeft := ls.any fun s => s.visibleFields.any fun f => sameName f.name c
      let inRight := rs.any fun s => s.visibleFields.any fun f => sameName f.name c
      unless inLeft && inRight do
        throw (.refused ("cannot join using column " ++ c ++ " - column not present in both tables"))
    let rs := rs.map fun s => { s with hidden := s.hidden ++ cols }
    match on with
    | some e => checkExpr fuel db [ls ++ rs] e
    | none => pure ()
    pure (ls ++ rs)

/-- The columns of a query, after checking every name and call in it. -/
def queryShape : Nat → Database → List (List Slot) → Query → Eval (List Field)
  | 0, _, _, _ => tooDeep
  | fuel + 1, db, outer, .mk body orderBy limit offset => do
    let (fields, scope) ← bodyShape fuel db outer body
    let mut i := 1
    for term in orderBy do
      match term with
      | .mk e _ _ =>
        match e with
        | .literal (.integer k) =>
          if k < 1 || k > fields.length then
            throw (.refused (ordinal i ++ " ORDER BY term out of range - should be between 1 and "
              ++ toString fields.length))
        | _ =>
          match orderTarget fields e, scope with
          | some _, _ => pure ()
          | none, some slots => checkExpr fuel db (slots :: outer) e
          | none, none =>
            throw (.refused (ordinal i ++ " ORDER BY term does not match any column in the result set"))
      i := i + 1
    match limit with
    | some e => checkExpr fuel db outer e
    | none => pure ()
    match offset with
    | some e => checkExpr fuel db outer e
    | none => pure ()
    pure fields
  | fuel + 1, db, outer, .withTables tables q => do
    let mut db := db
    for ct in tables do
      match ct with
      | .mk name cols cq =>
        let fields ← match recursiveParts name cq with
          | some (_, anchor, _, _, _) => do
            let base ← queryShape fuel db outer (.mk anchor [] none none)
            let base ← commonFields name cols base
            queryShape fuel (db.withCommon (commonTable name base [])) outer cq
          | none => queryShape fuel db outer cq
        let fields ← commonFields name cols fields
        db := db.withCommon (commonTable name fields [])
    queryShape fuel db outer q

/-- The columns of a query body, with the slots its expressions see when it has sources. -/
def bodyShape : Nat → Database → List (List Slot) → QueryBody →
    Eval (List Field × Option (List Slot))
  | 0, _, _, _ => tooDeep
  | fuel + 1, db, outer, .values rows => do
    for row in rows do
      for e in row do
        checkExpr fuel db outer e
    let width := (rows.head?.map List.length).getD 0
    pure ((List.range width).map fun i => ⟨"column" ++ toString (i + 1), none, .binary, ""⟩, none)
  | fuel + 1, db, outer, .compound op l r => do
    let (lf, _) ← bodyShape fuel db outer l
    let (rf, _) ← bodyShape fuel db outer r
    if lf.length != rf.length then
      throw (.refused ("SELECTs to the left and right of " ++ op.name ++
        " do not have the same number of result columns"))
    pure (lf, none)
  | fuel + 1, db, outer, .select _ cols source filter groupBy having windows => do
    let slots ← match source with
      | some s => sourceShape fuel db outer s
      | none => pure []
    let scopes := slots :: outer
    let placed (allowed : Bool) (e : Expr) : Eval Unit :=
      match misplacedWindow liftDepth allowed e with
      | some n => throw (.refused ("misuse of window function " ++ n ++ "()"))
      | none => pure ()
    let mut fields : List Field := []
    for c in cols do
      match c with
      | .all =>
        if slots.isEmpty then throw (.refused "no tables specified")
        fields := fields ++ slots.flatMap Slot.visibleFields
      | .allOf t =>
        match slots.filter fun s => sameName s.source t with
        | [] => throw (.refused ("no such table: " ++ t))
        | found => fields := fields ++ found.flatMap (·.fields)
      | .expr e asName text =>
        checkExpr fuel db scopes e
        placed true e
        let (coll, _) := exprCollation scopes e
        fields := fields ++ [⟨resultName scopes e asName text, exprAffinity scopes e,
          coll.getD .binary, resultType scopes e⟩]
    match filter with
    | some e => checkExpr fuel db scopes e; placed false e
    | none => pure ()
    for e in groupBy do
      checkExpr fuel db scopes e
      placed false e
    match having with
    | some e => checkExpr fuel db scopes e; placed false e
    | none => pure ()
    let named ← resolveWindows windows
    for (_, w) in named do
      for e in w.partition ++ w.order.map OrderTerm.expr do
        checkExpr fuel db scopes e
    for c in (liftQuery cols []).2 do
      _ ← resolveCall named c
    pure (fields, some slots)

/-- Check every name and call of an expression against the slots in reach. -/
def checkExpr : Nat → Database → List (List Slot) → Expr → Eval Unit
  | 0, _, _, _ => tooDeep
  | fuel + 1, db, scopes, e =>
    match e with
    | .literal _ | .parameter | .clock _ => pure ()
    | .column t n q => do _ ← lookupColumn scopes t n q
    | .unary _ a => checkExpr fuel db scopes a
    | .binary _ a b => do checkExpr fuel db scopes a; checkExpr fuel db scopes b
    | .pattern op _ a b esc => do
      checkExpr fuel db scopes a
      checkExpr fuel db scopes b
      match esc with
      | some x => checkExpr fuel db scopes x
      | none => pure ()
      match op with
      | .regexp => throw (.refused "no such function: REGEXP")
      | .match => throw (.refused "unable to use function MATCH in the requested context")
      | _ => pure ()
    | .between _ a b c => do
      checkExpr fuel db scopes a
      checkExpr fuel db scopes b
      checkExpr fuel db scopes c
    | .inList _ a items => do
      checkExpr fuel db scopes a
      for x in items do checkExpr fuel db scopes x
    | .inQuery _ a q => do
      checkExpr fuel db scopes a
      let fields ← queryShape fuel db scopes q
      if fields.length != 1 then
        throw (.refused ("sub-select returns " ++ toString fields.length ++ " columns - expected 1"))
    | .isNull _ a => checkExpr fuel db scopes a
    | .exists q => do _ ← queryShape fuel db scopes q
    | .scalar q => do
      let fields ← queryShape fuel db scopes q
      if fields.length != 1 then
        throw (.refused ("sub-select returns " ++ toString fields.length ++ " columns - expected 1"))
    | .case operand branches otherwise => do
      match operand with
      | some o => checkExpr fuel db scopes o
      | none => pure ()
      for (c, r) in branches do
        checkExpr fuel db scopes c
        checkExpr fuel db scopes r
      match otherwise with
      | some o => checkExpr fuel db scopes o
      | none => pure ()
    | .cast a _ => checkExpr fuel db scopes a
    | .collate a c => do
      checkExpr fuel db scopes a
      if (Collation.ofName? c).isNone then throw (.refused ("no such collation sequence: " ++ c))
    | .call name _ args => do
      for a in args do checkExpr fuel db scopes a
      callShape name args.length false false
    | .callStar name => callShape name 0 false false
    | .callWith name _ args filter win => do
      for a in args do checkExpr fuel db scopes a
      match filter with
      | some f => checkExpr fuel db scopes f
      | none => pure ()
      for e in (win.map Window.exprs).getD [] do checkExpr fuel db scopes e
      callShape name args.length filter.isSome win.isSome
    | .windowValue _ => pure ()
    | .vector _ => throw (.refused "row value misused")
    | .raise _ _ => pure ()

end

/-- Whether an expression calls an aggregate function outside of a subquery. -/
def hasAggregate : Nat → Expr → Bool
  | 0, _ => false
  | fuel + 1, e =>
    match e with
    | .call name _ args => isAggregateCall name.toLower args.length || args.any (hasAggregate fuel)
    | .callStar name => name.toLower == "count"
    | .callWith _ _ _ _ none => true
    | .callWith _ _ _ _ (some _) => e.operands.any (hasAggregate fuel)
    | .unary _ a | .isNull _ a | .cast a _ | .collate a _ => hasAggregate fuel a
    | .binary _ a b => hasAggregate fuel a || hasAggregate fuel b
    | .pattern _ _ a b esc => hasAggregate fuel a || hasAggregate fuel b ||
        (esc.map (hasAggregate fuel)).getD false
    | .between _ a b c => hasAggregate fuel a || hasAggregate fuel b || hasAggregate fuel c
    | .inList _ a items => hasAggregate fuel a || items.any (hasAggregate fuel)
    | .inQuery _ a _ => hasAggregate fuel a
    | .case o bs x => (o.map (hasAggregate fuel)).getD false ||
        bs.any (fun (c, r) => hasAggregate fuel c || hasAggregate fuel r) ||
        (x.map (hasAggregate fuel)).getD false
    | _ => false

/-- The named query a query reads its first rows from, with its `LIMIT` and `OFFSET`, when it
reads them in order, one result row per source row: a plain selection from one table,
without a condition, grouping, aggregate or `DISTINCT`. A recursive named query read so
need not run past those rows. -/
def limitHint : Query → Option (String × Expr × Option Expr)
  | .mk (.select false cols (some (.table ⟨none, n⟩ _)) none [] none _) [] (some lim) off =>
    if cols.any (fun c => match c with
        | .expr e _ _ => hasAggregate 64 e
        | _ => false) || !(liftQuery cols []).2.isEmpty then none
    else some (n, lim, off)
  | _ => none

/-- The clock's reading as text: date, time of day, or both. -/
def clockText (ms : Int) : ClockKind → String
  | .date => ((Time.dateTimeText ms).take 10).toString
  | .time => ((Time.dateTimeText ms).drop 11).toString
  | .timestamp => (Time.dateTimeText ms).replace "T" " "

/-- Order two lists of values: the first unequal pair decides. -/
def compareRows : List Value → List Value → Ordering
  | [], [] => .eq
  | [], _ => .lt
  | _, [] => .gt
  | a :: as, b :: bs =>
    match Value.compareWith .binary a b with
    | .eq => compareRows as bs
    | o => o

/-- The distinct rows of a list in ascending order. -/
def sortedDistinct (rows : List (List Value)) : List (List Value) :=
  let sorted := rows.mergeSort fun a b => compareRows a b != .gt
  sorted.foldr (fun r acc => match acc with
    | x :: _ => if compareRows r x == .eq then acc else r :: acc
    | [] => [r]) []

/-- Rows without repeats, first occurrences kept. -/
def firstOccurrences (rows : List (List Value)) : List (List Value) :=
  rows.foldl (fun acc r => if acc.any (compareRows · r == .eq) then acc else acc ++ [r]) []

/-- The rows of a list without repeats, first occurrences kept. -/
def distinctRows (rows : List ResultRow) : List ResultRow :=
  rows.foldl (fun acc r =>
    if acc.any fun x => compareRows x.values r.values == .eq then acc else acc ++ [r]) []

/-- A value that a `LIMIT` or `OFFSET` takes: an integer, or a text or double that is one. -/
def countOf (v : Value) : Eval Int :=
  match v.withAffinity .integer with
  | .integer n => pure n
  | _ => throw .mismatch

mutual

/-- The value of an expression. -/
def eval : Nat → Context → Expr → Eval Value
  | 0, _, _ => tooDeep
  | fuel + 1, ctx, e =>
    match e with
    | .literal v => pure v
    | .column t n q => do pure (← lookupColumn ctx.scopes t n q).value
    | .parameter => pure .null
    | .clock k => pure (.text (clockText ctx.clock k))
    | .unary op a => do
      let v ← eval fuel ctx a
      match op with
      | .negate => pure (arithmetic .sub (.integer 0) v)
      | .plus => pure v
      | .not => pure (notValue v)
      | .bitNot => pure (if v.isNull then .null else .integer (-(v.asInteger) - 1))
    | .binary op a b => do
      match op with
      | .and =>
        let va ← eval fuel ctx a
        if va.truth? = some false then pure (.integer 0)
        else pure (andValue va (← eval fuel ctx b))
      | .or =>
        let va ← eval fuel ctx a
        if va.truth? = some true then pure (.integer 1)
        else pure (orValue va (← eval fuel ctx b))
      | .lt | .le | .gt | .ge | .eq | .ne | .is | .isNot =>
        let va ← eval fuel ctx a
        let vb ← eval fuel ctx b
        let aff := comparisonAffinity (exprAffinity ctx.scopes a) (exprAffinity ctx.scopes b)
        let (x, y) := compareOperands aff va vb
        pure (comparison op (comparisonCollation ctx.scopes a b) x y)
      | .concat => pure (concatValues (← eval fuel ctx a) (← eval fuel ctx b))
      | .bitAnd | .bitOr | .shiftLeft | .shiftRight =>
        pure (bitwise op (← eval fuel ctx a) (← eval fuel ctx b))
      | _ => pure (arithmetic op (← eval fuel ctx a) (← eval fuel ctx b))
    | .pattern op neg subject pat esc => do
      let s ← eval fuel ctx subject
      let p ← eval fuel ctx pat
      let escChar ← match esc with
        | some x =>
          let v ← eval fuel ctx x
          match v.chars, v.isNull with
          | [c], _ => pure (some c)
          | _, true => pure none
          | _, false => throw (.refused "ESCAPE expression must be a single character")
        | none => pure none
      if s.isNull || p.isNull then pure .null else
      let hit := match op with
        | .glob => globMatch p.chars s.chars
        | _ => likeMatch escChar p.chars s.chars
      pure (ofTruth (some (hit != neg)))
    | .between neg a lo hi => do
      let v ← eval fuel ctx a
      let l ← eval fuel ctx lo
      let h ← eval fuel ctx hi
      let cmp (op : BinaryOp) (other : Expr) (w : Value) : Value :=
        let aff := comparisonAffinity (exprAffinity ctx.scopes a) (exprAffinity ctx.scopes other)
        let (x, y) := compareOperands aff v w
        comparison op (comparisonCollation ctx.scopes a other) x y
      let r := andValue (cmp .ge lo l) (cmp .le hi h)
      pure (if neg then notValue r else r)
    | .inList neg a items => do
      let v ← eval fuel ctx a
      if items.isEmpty then pure (.integer (if neg then 1 else 0)) else
      if v.isNull then pure .null else
      let mut hit := false
      let mut unknown := false
      for x in items do
        let w ← eval fuel ctx x
        let aff := comparisonAffinity (exprAffinity ctx.scopes a) (exprAffinity ctx.scopes x)
        let (p, q) := compareOperands aff v w
        match comparison .eq (comparisonCollation ctx.scopes a x) p q with
        | .integer 1 => hit := true
        | .null => unknown := true
        | _ => pure ()
      if hit then pure (.integer (if neg then 0 else 1))
      else if unknown then pure .null
      else pure (.integer (if neg then 1 else 0))
    | .inQuery neg a q => do
      let v ← eval fuel ctx a
      let rel ← evalQuery fuel { ctx with group := none } q
      let values := rel.rows.filterMap List.head?
      if values.isEmpty then pure (.integer (if neg then 1 else 0)) else
      if v.isNull then pure .null else
      let aff := comparisonAffinity (exprAffinity ctx.scopes a) (rel.fields.head?.bind (·.affinity))
      let coll := (exprCollation ctx.scopes a).1.getD .binary
      let results := values.map fun w =>
        let (p, q) := compareOperands aff v w
        comparison .eq coll p q
      if results.any (fun r => match r with | .integer 1 => true | _ => false) then
        pure (.integer (if neg then 0 else 1))
      else if results.any (·.isNull) then pure .null
      else pure (.integer (if neg then 1 else 0))
    | .isNull neg a => do
      let v ← eval fuel ctx a
      pure (.integer (if v.isNull != neg then 1 else 0))
    | .exists q => do
      let rel ← evalQuery fuel { ctx with group := none } q
      pure (.integer (if rel.rows.isEmpty then 0 else 1))
    | .scalar q => do
      let rel ← evalQuery fuel { ctx with group := none } q
      pure ((rel.rows.head?.bind List.head?).getD .null)
    | .case operand branches otherwise => do
      let ov ← match operand with
        | some o => some <$> eval fuel ctx o
        | none => pure none
      let mut result : Option Value := none
      for (c, r) in branches do
        if result.isNone then
          let cv ← eval fuel ctx c
          let hit := match ov, operand with
            | some v, some o =>
              let aff := comparisonAffinity (exprAffinity ctx.scopes o) (exprAffinity ctx.scopes c)
              let (x, y) := compareOperands aff v cv
              (comparison .eq (comparisonCollation ctx.scopes o c) x y).truth? == some true
            | _, _ => cv.truth? == some true
          if hit then result := some (← eval fuel ctx r)
      match result with
      | some v => pure v
      | none =>
        match otherwise with
        | some x => eval fuel ctx x
        | none => pure .null
    | .cast a ty => do pure (castValue ty (← eval fuel ctx a))
    | .collate a _ => eval fuel ctx a
    | .call name distinct args => do
      let lname := name.toLower
      if isAggregateCall lname args.length then
        match ctx.group with
        | none => throw (.refused ("misuse of aggregate function " ++ name ++ "()"))
        | some rows =>
          let outer := ctx.scopes.drop 1
          let perRow (x : Expr) : Eval (List Value) :=
            rows.mapM fun row => eval fuel { ctx with scopes := row :: outer, group := none } x
          let values ← match args with
            | x :: _ => perRow x
            | [] => pure (rows.map fun _ => Value.integer 1)
          let values := if distinct then
              values.foldl (fun acc v => if acc.any (·.same .binary v) then acc else acc ++ [v]) []
            else values
          let jsonPerRow (x : Expr) : Eval (List JsonArg) :=
            rows.mapM fun row => do
              let v ← eval fuel { ctx with scopes := row :: outer, group := none } x
              pure (jsonArgIn (row :: outer) x v)
          match lname, args with
          | "json_group_array", [x] =>
            let items ← jsonPerRow x
            groupArray (if distinct then
              items.foldl (fun acc a => if acc.any (·.value.same .binary a.value) then acc
                else acc ++ [a]) []
              else items)
          | "json_group_object", [k, x] =>
            let keys ← perRow k
            groupObject (keys.zip (← jsonPerRow x))
          | _, _ =>
            let seps ← match lname, args with
              | "group_concat", [_, s] | "string_agg", [_, s] => perRow s
              | _, _ => pure []
            aggregate lname values seps
      else
        let values ← args.mapM (eval fuel ctx)
        match lname with
        | "last_insert_rowid" => pure (.integer ctx.lastRowid)
        | "changes" | "total_changes" | "random" => pure (.integer 0)
        | "randomblob" => pure (.blob (List.replicate (max 1 (values.getD 0 .null).asInteger).toNat 0))
        | _ => callFunction ctx.clock lname ((args.zip values).map (jsonArgIn ctx.scopes).uncurry)
    | .callStar name =>
      if name.toLower == "count" then
        match ctx.group with
        | some rows => pure (.integer rows.length)
        | none => throw (.refused "misuse of aggregate function count()")
      else eval fuel ctx (.call name false [])
    | .callWith name distinct args filter win =>
      match win, filter, ctx.group with
      | some _, _, _ => throw (.refused ("misuse of window function " ++ name ++ "()"))
      | none, _, none => throw (.refused ("misuse of aggregate function " ++ name ++ "()"))
      | none, none, some _ => eval fuel ctx (.call name distinct args)
      | none, some f, some rows => do
        let outer := ctx.scopes.drop 1
        let kept ← rows.filterM fun row => do
          pure ((← eval fuel { ctx with scopes := row :: outer, group := none } f).truth? == some true)
        eval fuel { ctx with group := some kept } (.call name distinct args)
    | .windowValue k => pure (ctx.windowRow.getD k .null)
    | .vector _ => throw (.refused "row value misused")
    | .raise kind message =>
      if !ctx.inTrigger then throw (.refused "RAISE() may only be used within a trigger-program")
      else if kind == .ignore then throw .ignored
      else throw (.raised message)

/-- The relation a query yields. -/
def evalQuery : Nat → Context → Query → Eval Relation
  | 0, _, _ => tooDeep
  | fuel + 1, ctx, .mk body orderBy limit offset => do
    let order := orderBy.map OrderTerm.expr
    let (fields, rows) ← evalBody fuel ctx order body
    let lifted := match body with
      | .select _ cols _ _ _ _ _ => (liftQuery cols order).1.2
      | _ => order
    let rows ←
      if orderBy.isEmpty then pure rows
      else
        let keyed ← rows.mapM fun r => do
          let keys ← (orderBy.zip lifted).mapM fun (term, shown) => match term with
            | .mk e desc nulls => do
              let rowCtx := { ctx with scopes := r.source :: ctx.scopes, group := r.group,
                                       windowRow := r.windowRow }
              let coll := (exprCollation rowCtx.scopes e).1.getD .binary
              match orderTarget fields e with
              | some i => pure (r.values.getD i .null, desc, nulls, coll)
              | none => pure (← eval fuel rowCtx shown, desc, nulls, coll)
          pure (keys, r)
        pure ((keyed.mergeSort fun a b => compareKeys a.1 b.1 != .gt).map (·.2))
    let plain := { ctx with group := none, scopes := ctx.scopes }
    let skip ← match offset with
      | some e => do pure (max 0 (← countOf (← eval fuel plain e))).toNat
      | none => pure 0
    let rows := rows.drop skip
    let rows ← match limit with
      | some e => do
        let n ← countOf (← eval fuel plain e)
        pure (if n < 0 then rows else rows.take n.toNat)
      | none => pure rows
    pure ⟨fields, rows.map (·.values)⟩
  | fuel + 1, ctx, .withTables tables q => do
    evalQuery fuel { ctx with db := ← commonDatabase fuel ctx (limitHint q) tables } q

/-- The database with the tables of a `WITH` clause's named queries in reach, each named
query reading those before it. -/
def commonDatabase : Nat → Context → Option (String × Expr × Option Expr) → List CommonTable →
    Eval Database
  | 0, _, _, _ => tooDeep
  | fuel + 1, ctx, hint, tables => do
    let mut db := ctx.db
    for ct in tables do
      match ct with
      | .mk name cols cq =>
        let inner := { ctx with db, group := none }
        let rel ← match recursiveParts name cq with
          | some (op, anchor, step, limit, offset) => do
            let base ← evalQuery fuel inner (.mk anchor [] none none)
            let fields ← commonFields name cols base.fields
            let start := if op == .union then firstOccurrences base.rows else base.rows
            let skip ← match offset with
              | some e => do pure (max 0 (← countOf (← eval fuel inner e))).toNat
              | none => pure 0
            let cap ← match limit with
              | some e => do
                let n ← countOf (← eval fuel inner e)
                pure (if n < 0 then none else some (skip + n.toNat))
              | none =>
                match hint with
                | some (h, lim, off) =>
                  if sameName h name && skip == 0 then do
                    let n ← countOf (← eval fuel inner lim)
                    let o ← match off with
                      | some e => do pure (max 0 (← countOf (← eval fuel inner e))).toNat
                      | none => pure 0
                    pure (if n < 0 then none else some (o + n.toNat))
                  else pure none
                | none => pure none
            let rows ← recursiveRows fuel inner name fields op step cap
              (cap.elim start fun c => start.take c) start
            pure (⟨fields, rows.drop skip⟩ : Relation)
          | none => evalQuery fuel inner cq
        let fields ← commonFields name cols rel.fields
        db := db.withCommon (commonTable name fields rel.rows)
    pure db

/-- The rows of a recursive named query: `all` so far, and the rows of the last round, which
the last part of the query reads as the named query's table to make the next round. With
`UNION`, a row already found is not found again. The fuel bounds the number of rounds. -/
def recursiveRows : Nat → Context → String → List Field → CompoundOp → QueryBody →
    Option Nat → List (List Value) → List (List Value) → Eval (List (List Value))
  | 0, _, _, _, _, _, _, all, _ => pure all
  | fuel + 1, ctx, name, fields, op, step, cap, all, queue =>
    if queue.isEmpty || (cap.map fun c => decide (all.length ≥ c)).getD false then pure all
    else do
      let db := ctx.db.withCommon (commonTable name fields queue)
      let rel ← evalQuery fuel { ctx with db } (.mk step [] none none)
      let fresh := if op == .union then
          (firstOccurrences rel.rows).filter fun r => !all.any (compareRows · r == .eq)
        else rel.rows
      let fresh := match cap with
        | some c => fresh.take (c - all.length)
        | none => fresh
      recursiveRows fuel ctx name fields op step cap (all ++ fresh) fresh

/-- The columns and rows of a query body. `order` holds the terms of the query's order, whose
window calls are worked out with the body's. -/
def evalBody : Nat → Context → List Expr → QueryBody → Eval (List Field × List ResultRow)
  | 0, _, _, _ => tooDeep
  | fuel + 1, ctx, _, .values rows => do
    let out ← rows.mapM fun row => do
      let vs ← row.mapM (eval fuel ctx)
      pure (⟨vs, [], none, []⟩ : ResultRow)
    let width := (rows.head?.map List.length).getD 0
    pure ((List.range width).map fun i => ⟨"column" ++ toString (i + 1), none, .binary, ""⟩, out)
  | fuel + 1, ctx, _, .compound op l r => do
    let (lf, lr) ← evalBody fuel ctx [] l
    let (_, rr) ← evalBody fuel ctx [] r
    let lv := lr.map (·.values)
    let rv := rr.map (·.values)
    let rows := match op with
      | .unionAll => lv ++ rv
      | .union => sortedDistinct (lv ++ rv)
      | .intersect => sortedDistinct (lv.filter fun x => rv.any fun y => compareRows x y == Ordering.eq)
      | .except => sortedDistinct (lv.filter fun x => !rv.any fun y => compareRows x y == Ordering.eq)
    pure (lf, rows.map fun vs => ⟨vs, [], none, []⟩)
  | fuel + 1, ctx, order, .select distinct cols source filter groupBy having windows => do
    let (fields, _) ← bodyShape fuel ctx.db ctx.scopes
      (.select distinct cols source filter groupBy having windows)
    let slots ← match source with
      | some s => sourceShape fuel ctx.db ctx.scopes s
      | none => pure []
    let all ← match source with
      | some s => rowsOf fuel ctx s
      | none => pure [[]]
    let rows ← all.filterM fun row => do
      match filter with
      | some f =>
        let v ← eval fuel { ctx with scopes := row :: ctx.scopes, group := none } f
        pure (v.truth? = some true)
      | none => pure true
    let ((shown, _), calls) := liftQuery cols order
    let project (rowCtx : Context) (row : List Slot) : Eval (List Value) := do
      let mut out : List Value := []
      for c in shown do
        match c with
        | .all => out := out ++ row.flatMap Slot.visibleValues
        | .allOf t => out := out ++ (row.filter fun s => sameName s.source t).flatMap (·.values)
        | .expr e _ _ => out := out ++ [← eval fuel rowCtx e]
      pure out
    let aggregateQuery := !groupBy.isEmpty ||
      cols.any (fun c => match c with | .expr e _ _ => hasAggregate fuel e | _ => false) ||
      (having.map (hasAggregate fuel)).getD false
    let bases : List (Context × List Slot) ←
      if aggregateQuery then do
        let groups ←
          if groupBy.isEmpty then pure [rows]
          else do
            let keyed ← rows.mapM fun row => do
              let k ← groupBy.mapM (eval fuel { ctx with scopes := row :: ctx.scopes, group := none })
              pure (k, row)
            let sorted := keyed.mergeSort fun a b => compareRows a.1 b.1 != .gt
            let grouped := sorted.foldr (fun (k, row) acc => match acc with
              | (k', rs) :: more => if compareRows k k' == .eq then (k, row :: rs) :: more
                else (k, [row]) :: acc
              | [] => [(k, [row])]) []
            pure (grouped.map (·.2))
        groups.filterMapM fun g => do
          let rep := (g.getLast?).getD (slots.map Slot.blank)
          let gctx := { ctx with scopes := rep :: ctx.scopes, group := some g }
          let keep ← match having with
            | some h => do pure ((← eval fuel gctx h).truth? == some true)
            | none => pure true
          pure (if keep then some (gctx, rep) else none)
      else pure (rows.map fun row => ({ ctx with scopes := row :: ctx.scopes, group := none }, row))
    let windowed ←
      if calls.isEmpty then pure (bases.map fun b => (b, []))
      else do
        let resolved ← calls.mapM (resolveCall (← resolveWindows windows))
        windowValues (fun (b : Context × List Slot) e => eval fuel b.1 e)
          (fun b e => do pure (jsonArgIn b.1.scopes e (← eval fuel b.1 e)))
          (fun b e => (exprCollation b.1.scopes e).1.getD .binary) resolved bases
    let out ← windowed.mapM fun ((c, row), w) => do
      pure (⟨← project { c with windowRow := w } row, row, c.group, w⟩ : ResultRow)
    pure (fields, if distinct then distinctRows out else out)

/-- The rows of a source, each as its slots. -/
def rowsOf : Nat → Context → Source → Eval (List (List Slot))
  | 0, _, _ => tooDeep
  | fuel + 1, ctx, .call name args asName => do
    let values ← args.mapM (eval fuel { ctx with group := none })
    let rows ← jsonRows ((rowFunction? name).getD false) values
    pure ((rows.zip (List.range rows.length)).map fun (vs, i) =>
      [⟨asName.getD name.name, jsonRowFields, vs, some i, []⟩])
  | fuel + 1, ctx, .table name asName => do
    match ← ctx.db.lookup name with
    | .table t => pure (t.rows.map fun r => [t.slot (asName.getD t.name) r])
    | .view v =>
      let rel ← withinView (evalQuery fuel
        { ctx with db := viewDatabase ctx.db v, scopes := [], group := none } v.query)
      let fields ← viewFields v rel.fields
      pure (rel.rows.map fun vs => [⟨asName.getD v.name, fields, vs, none, []⟩])
    | .catalog objects =>
      pure ((catalogRows objects).zip (List.range (catalogRows objects).length) |>.map fun (vs, i) =>
        [⟨asName.getD name.name, catalogFields, vs, some (i + 1), []⟩])
  | fuel + 1, ctx, .query q asName => do
    let rel ← evalQuery fuel { ctx with scopes := [], group := none } q
    pure (rel.rows.map fun vs => [⟨asName.getD "", rel.fields, vs, none, []⟩])
  | fuel + 1, ctx, .join kind natural l r on usingColumns => do
    let ls ← rowsOf fuel ctx l
    let lshape ← sourceShape fuel ctx.db ctx.scopes l
    let rshape ← sourceShape fuel ctx.db (lshape :: ctx.scopes) r
    let lateral := match r with
      | .call _ _ _ => true
      | _ => false
    let shared ← if lateral then pure [] else rowsOf fuel ctx r
    let rightOf (lrow : List Slot) : Eval (List (List Slot)) :=
      if lateral then rowsOf fuel { ctx with scopes := lrow :: ctx.scopes } r else pure shared
    let cols := if natural then commonNames lshape rshape else usingColumns
    let hide (rows : List (List Slot)) : List (List Slot) :=
      rows.map fun row => row.map fun s => { s with hidden := s.hidden ++ cols }
    let rshape := rshape.map fun s => { s with hidden := s.hidden ++ cols }
    let joined (lrow rrow : List Slot) : Eval Bool := do
      let mut ok := true
      for c in cols do
        let a ← lookupColumn [lrow] none c false
        let b ← lookupColumn [rrow.map fun s => { s with hidden := [] }] none c false
        let aff := comparisonAffinity a.affinity b.affinity
        let (x, y) := compareOperands aff a.value b.value
        if (comparison .eq a.collation x y).truth? != some true then ok := false
      match on with
      | some e =>
        if ok then
          let v ← eval fuel { ctx with scopes := (lrow ++ rrow) :: ctx.scopes, group := none } e
          pure (v.truth? = some true)
        else pure false
      | none => pure ok
    let mut out : List (List Slot) := []
    let mut matchedRight : List Nat := []
    for lrow in ls do
      let mut any := false
      let mut j := 0
      for rrow in hide (← rightOf lrow) do
        if ← joined lrow rrow then
          out := out ++ [lrow ++ rrow]
          any := true
          matchedRight := j :: matchedRight
        j := j + 1
      if !any && (kind == .left || kind == .full) then
        out := out ++ [lrow ++ rshape.map Slot.blank]
    if kind == .right || kind == .full then
      let mut j := 0
      for rrow in hide shared do
        if !matchedRight.contains j then out := out ++ [lshape.map Slot.blank ++ rrow]
        j := j + 1
    pure out

end

/-- The fuel for evaluating a statement of `size` tokens. -/
def evalFuel (size : Nat) : Nat :=
  4 * size + 64

end Catalog.Sql
