import Catalog.Sql.Grammar.Basic

/-!
# Reading expressions and queries

Expressions are read by precedence, from the loosest binding to the tightest:

1. `OR`;
2. `AND`;
3. `NOT` written before its operand;
4. `=`, `==`, `!=`, `<>`, `IS [NOT]`, `[NOT] IN`, `[NOT] LIKE`, `GLOB`, `REGEXP`, `MATCH`,
   `[NOT] BETWEEN … AND …`, `ISNULL`, `NOTNULL`, `NOT NULL`;
5. `<`, `<=`, `>`, `>=`;
6. `ESCAPE`, which belongs to a pattern test;
7. `&`, `|`, `<<`, `>>`;
8. `+`, `-`;
9. `*`, `/`, `%`;
10. `||`, `->`, `->>`;
11. `COLLATE`;
12. `-`, `+` and `~` written before their operand.

Operators of one level group to the left. An operand written after a prefix operator takes
every operator that binds more tightly than that operator, so `NOT a = b` is `NOT (a = b)`.
Both bounds of `BETWEEN` take the operators of level 4 and tighter, so that the `AND` of
`BETWEEN` ends the lower bound.

A query is a series of `SELECT` or `VALUES` bodies joined by `UNION [ALL]`, `INTERSECT` and
`EXCEPT`, to the left, followed by an order, a limit and an offset for the whole.

All readers here take a fuel that bounds the depth of their recursion; it is the number of
tokens of the script and some more, and running out is refused as too deep a statement.
-/

namespace Catalog.Sql

namespace Reader

/-- The refusal of a statement nested too deeply. -/
def tooDeep {α : Type} : Reader α :=
  throw (.refused "parser stack overflow")

/-- The binary operator a token stands for after an operand, with its level. -/
def binaryOf? (t : Token) : Option (Nat × BinaryOp) :=
  match t.kind with
  | .keyword "OR" => some (1, .or)
  | .keyword "AND" => some (2, .and)
  | .symbol "=" => some (4, .eq)
  | .symbol "==" => some (4, .eq)
  | .symbol "!=" => some (4, .ne)
  | .symbol "<>" => some (4, .ne)
  | .symbol "<" => some (5, .lt)
  | .symbol "<=" => some (5, .le)
  | .symbol ">" => some (5, .gt)
  | .symbol ">=" => some (5, .ge)
  | .symbol "&" => some (7, .bitAnd)
  | .symbol "|" => some (7, .bitOr)
  | .symbol "<<" => some (7, .shiftLeft)
  | .symbol ">>" => some (7, .shiftRight)
  | .symbol "+" => some (8, .add)
  | .symbol "-" => some (8, .sub)
  | .symbol "*" => some (9, .mul)
  | .symbol "/" => some (9, .div)
  | .symbol "%" => some (9, .rem)
  | .symbol "||" => some (10, .concat)
  | _ => none

/-- The keywords that start a test of level 4 after an operand. -/
def testKeywords : List String :=
  ["IS", "IN", "LIKE", "GLOB", "REGEXP", "MATCH", "BETWEEN", "ISNULL", "NOTNULL", "NOT"]

/-- The level of any operator a token stands for after an operand. -/
def levelOf? (t : Token) : Option Nat :=
  match binaryOf? t with
  | some (p, _) => some p
  | none =>
    match t.kind with
    | .keyword k => if testKeywords.contains k then some 4 else if k == "COLLATE" then some 11 else none
    | .symbol s => if s == "->" || s == "->>" then some 10 else none
    | _ => none

/-- The pattern test a keyword names. -/
def patternOf? : String → Option PatternOp
  | "LIKE" => some .like
  | "GLOB" => some .glob
  | "REGEXP" => some .regexp
  | "MATCH" => some .match
  | _ => none

/-- The value of a number token. A hexadecimal number is a 64-bit pattern and is refused
when it has more than 64 bits; a decimal integer beyond the 64-bit range is a double. -/
def numberLiteral (text : String) (negative : Bool) : Reader Value := do
  let cs := text.toList
  match cs with
  | '0' :: x :: hex =>
    if x = 'x' || x = 'X' then
      let v := hex.foldl (fun acc c => acc * 16 + hexValue c) 0
      if v ≥ Nat.pow 2 64 then
        throw (.refused ("hex literal too big: " ++ (if negative then "-" else "") ++ text))
      let i : Int := if v ≥ Nat.pow 2 63 then (v : Int) - (Nat.pow 2 64 : Nat) else v
      pure (.integer (if negative then -i else i))
    else decimal cs
  | _ => decimal cs
where
  /-- A decimal number, negated when asked. -/
  decimal (cs : List Char) : Reader Value :=
    let signed := String.ofList (if negative then '-' :: cs else cs)
    pure ((numberOf? signed).getD (.integer 0))

/-- The words of a type name, each a name, a string or a keyword that serves as a name. -/
def typeWords : Nat → Reader Unit
  | 0 => pure ()
  | fuel + 1 => do
    match ← word? with
    | some _ => typeWords fuel
    | none => pure ()

/-- A signed number in a type's size. -/
def signedNumber : Reader Unit := do
  _ ← acceptSymbol "+" <||> acceptSymbol "-"
  match ← peek with
  | some t => match t.kind with
    | .number _ => advance
    | _ => unexpected
  | none => unexpected

/-- A type name with its optional size, as written; empty when none is written. -/
def typeName : Reader String := do
  let start ← position
  let fuel := (← read).tokens.size
  match ← word? with
  | none => pure ""
  | some _ =>
    typeWords fuel
    if ← acceptSymbol "(" then
      signedNumber
      if ← acceptSymbol "," then signedNumber
      expectSymbol ")"
    spanFrom start

/-- The join a series of join keywords names, with whether it is natural. -/
def joinKind? (words : List String) : Option (JoinKind × Bool) :=
  let natural := words.contains "NATURAL"
  let rest := words.filter (· != "NATURAL")
  let outer := rest.contains "OUTER"
  let rest := rest.filter (· != "OUTER")
  match rest with
  | [] => if outer then none else some (.inner, natural)
  | ["LEFT"] => some (.left, natural)
  | ["RIGHT"] => some (.right, natural)
  | ["FULL"] => some (.full, natural)
  | ["INNER"] => if outer then none else some (.inner, natural)
  | ["CROSS"] => if outer || natural then none else some (.cross, false)
  | _ => none

/-- The join keywords and names before `JOIN`, at most three. -/
def joinWords : Nat → Reader (List String)
  | 0 => pure []
  | fuel + 1 => do
    match ← peek with
    | some t =>
      if t.isKeyword "JOIN" then pure []
      else match t.kind with
        | .keyword k =>
          if joinKeywords.contains k then advance; pure (k :: (← joinWords fuel))
          else unexpected
        | _ => match nameOf? t with
          | some n => advance; pure (String.ofList (n.toList.map Char.toUpper) :: (← joinWords fuel))
          | none => unexpected
    | none => unexpected

/-- The join operator that comes next, if any. -/
def joinOp : Reader (Option (JoinKind × Bool)) := do
  if ← acceptSymbol "," then pure (some (.inner, false))
  else if ← acceptKeyword "JOIN" then pure (some (.inner, false))
  else
    match ← peek with
    | some t =>
      match t.kind with
      | .keyword k =>
        if joinKeywords.contains k then
          advance
          let words := k :: (← joinWords 2)
          expectKeyword "JOIN"
          match joinKind? words with
          | some j => pure (some j)
          | none => throw (.refused ("unknown join type: " ++ " ".intercalate words))
        else pure none
      | _ => pure none
    | none => pure none

/-- A list of names in parentheses, separated by commas. -/
def nameList : Nat → Reader (List String)
  | 0 => tooDeep
  | fuel + 1 => do
    let n ← name
    if ← acceptSymbol "," then pure (n :: (← nameList fuel)) else pure [n]

/-- Whether the token at a position is a bare name spelling the given word. `OVER`,
`FILTER` and `WINDOW` are names except where a clause of theirs can start. -/
def bareWordAt (i : Nat) (w : String) : Reader Bool := do
  match ← rawAt i with
  | some t =>
    match t.kind with
    | .name _ _ => pure (t.text.toUpper == w)
    | _ => pure false
  | none => pure false

/-- Whether the token at a position can stand as a name. -/
def nameAt (i : Nat) : Reader Bool := do
  pure (((← rawAt i).bind nameOf?).isSome)

/-- Whether `OVER` starts a window here: a window in parentheses or a window's name follows. -/
def atOver : Reader Bool := do
  let pos ← position
  if ← bareWordAt pos "OVER" then
    pure ((← rawAt (pos + 1)).any (Token.isSymbol "(") || (← nameAt (pos + 1)))
  else pure false

/-- Whether `FILTER` starts a condition here: a parenthesis follows. -/
def atFilter : Reader Bool := do
  let pos ← position
  pure ((← bareWordAt pos "FILTER") && (← rawAt (pos + 1)).any (Token.isSymbol "("))

/-- Whether a `WINDOW` clause starts here: a name and `AS` follow. -/
def atWindowClause : Reader Bool := do
  let pos ← position
  pure ((← bareWordAt pos "WINDOW") && (← nameAt (pos + 1)) &&
    (← rawAt (pos + 2)).any (Token.isKeyword "AS"))

/-- An alias after `AS`, or a bare one. -/
def aliasOpt : Reader (Option String) := do
  if ← acceptKeyword "AS" then pure (some (← name))
  else if ← atWindowClause then pure none
  else word?

mutual

/-- An expression whose operators are of level `min` or tighter. -/
def exprAbove : Nat → Nat → Reader Expr
  | 0, _ => tooDeep
  | fuel + 1, min => do
    let lhs ← unaryExpr fuel
    operators fuel min lhs

/-- The operators of level `min` or tighter after the operand `lhs`. -/
def operators : Nat → Nat → Expr → Reader Expr
  | 0, _, _ => tooDeep
  | fuel + 1, min, lhs => do
    let some t ← peek | pure lhs
    let some p := levelOf? t | pure lhs
    if p < min then pure lhs else
    match binaryOf? t with
    | some (q, op) =>
      advance
      let rhs ← exprAbove fuel (q + 1)
      operators fuel min (.binary op lhs rhs)
    | none =>
      match t.kind with
      | .keyword "COLLATE" =>
        advance
        let some c ← word? | unexpected
        operators fuel min (.collate lhs c)
      | .keyword "ISNULL" => advance; operators fuel min (.isNull false lhs)
      | .keyword "NOTNULL" => advance; operators fuel min (.isNull true lhs)
      | .keyword "IS" =>
        advance
        let neg ← acceptKeyword "NOT"
        let distinct ← acceptKeyword "DISTINCT"
        if distinct then expectKeyword "FROM"
        let rhs ← exprAbove fuel 5
        operators fuel min (.binary (if neg != distinct then .isNot else .is) lhs rhs)
      | .keyword "NOT" =>
        advance
        let e ← test fuel true lhs
        operators fuel min e
      | .symbol s =>
        advance
        let rhs ← exprAbove fuel 11
        operators fuel min (.call s false [lhs, rhs])
      | _ =>
        let e ← test fuel false lhs
        operators fuel min e

/-- A test of its subject `lhs` after an optional `NOT`: a pattern test, `BETWEEN`, `IN`, or
`NULL` after `NOT`. -/
def test : Nat → Bool → Expr → Reader Expr
  | 0, _, _ => tooDeep
  | fuel + 1, neg, lhs => do
    let some t ← peek | unexpected
    match t.kind with
    | .keyword "NULL" => if neg then advance; pure (.isNull true lhs) else unexpected
    | .keyword "BETWEEN" =>
      advance
      let lo ← exprAbove fuel 4
      expectKeyword "AND"
      let hi ← exprAbove fuel 4
      pure (.between neg lhs lo hi)
    | .keyword "IN" =>
      advance
      if ← acceptSymbol "(" then
        if ← atKeywords ["SELECT", "VALUES", "WITH"] then
          let q ← query fuel
          expectSymbol ")"
          pure (.inQuery neg lhs q)
        else if ← acceptSymbol ")" then pure (.inList neg lhs [])
        else
          let items ← exprList fuel
          expectSymbol ")"
          pure (.inList neg lhs items)
      else
        let first ← name
        let table : ObjectName ←
          if ← acceptSymbol "." then pure ⟨some first, ← name⟩ else pure ⟨none, first⟩
        pure (.inQuery neg lhs (.mk (.select false [.all] (some (.table table none)) none [] none [])
          [] none none))
    | .keyword k =>
      match patternOf? k with
      | some op =>
        advance
        let pat ← exprAbove fuel 5
        let esc ← if ← acceptKeyword "ESCAPE" then some <$> exprAbove fuel 7 else pure none
        pure (.pattern op neg lhs pat esc)
      | none => unexpected
    | _ => unexpected

/-- An operand with the prefix operators before it. -/
def unaryExpr : Nat → Reader Expr
  | 0 => tooDeep
  | fuel + 1 => do
    let some t ← peek | unexpected
    match t.kind with
    | .symbol "-" =>
      advance
      match ← peek with
      | some n =>
        match n.kind with
        | .number text => advance; pure (.literal (← numberLiteral text true))
        | _ => pure (.unary .negate (← unaryExpr fuel))
      | none => pure (.unary .negate (← unaryExpr fuel))
    | .symbol "+" => advance; pure (.unary .plus (← unaryExpr fuel))
    | .symbol "~" => advance; pure (.unary .bitNot (← unaryExpr fuel))
    | .keyword "NOT" => advance; pure (.unary .not (← exprAbove fuel 4))
    | _ => primary fuel

/-- An operand: a literal, a column, a call, a parenthesized expression or query, a `CAST`,
a `CASE` or an `EXISTS`. -/
def primary : Nat → Reader Expr
  | 0 => tooDeep
  | fuel + 1 => do
    let some t ← peek | unexpected
    match t.kind with
    | .number text => advance; pure (.literal (← numberLiteral text false))
    | .string v =>
      advance
      if ← acceptSymbol "." then pure (.column (some v) (← name) false)
      else pure (.literal (.text v))
    | .bytes b => advance; pure (.literal (.blob b))
    | .parameter _ => advance; pure .parameter
    | .keyword "NULL" => advance; pure (.literal .null)
    | .keyword "CURRENT_DATE" => advance; pure (.clock .date)
    | .keyword "CURRENT_TIME" => advance; pure (.clock .time)
    | .keyword "CURRENT_TIMESTAMP" => advance; pure (.clock .timestamp)
    | .keyword "CAST" =>
      advance
      expectSymbol "("
      let e ← exprAbove fuel 0
      expectKeyword "AS"
      let ty ← typeName
      expectSymbol ")"
      pure (.cast e ty)
    | .keyword "CASE" =>
      advance
      let operand ← if ← atKeyword "WHEN" then pure none else some <$> exprAbove fuel 0
      let branches ← whens fuel
      let otherwise ← if ← acceptKeyword "ELSE" then some <$> exprAbove fuel 0 else pure none
      expectKeyword "END"
      pure (.case operand branches otherwise)
    | .keyword "EXISTS" =>
      advance
      expectSymbol "("
      let q ← query fuel
      expectSymbol ")"
      pure (.exists q)
    | .keyword "RAISE" =>
      advance
      expectSymbol "("
      if ← acceptKeyword "IGNORE" then
        expectSymbol ")"
        pure (.raise .ignore "")
      else
        let kind ←
          if ← acceptKeyword "ROLLBACK" then pure RaiseKind.rollback
          else if ← acceptKeyword "ABORT" then pure RaiseKind.abort
          else if ← acceptKeyword "FAIL" then pure RaiseKind.fail
          else unexpected
        expectSymbol ","
        let some m ← peek | unexpected
        let message ← match m.kind with
          | .string v => advance; pure v
          | _ =>
            match nameOf? m with
            | some n => advance; pure n
            | none => unexpected
        expectSymbol ")"
        pure (.raise kind message)
    | .symbol "(" =>
      advance
      if ← atKeywords ["SELECT", "VALUES", "WITH"] then
        let q ← query fuel
        expectSymbol ")"
        pure (.scalar q)
      else
        let items ← exprList fuel
        expectSymbol ")"
        match items with
        | [e] => pure e
        | _ => pure (.vector items)
    | .name v quoted => advance; afterName fuel v quoted true
    | .keyword k =>
      if nameKeywords.contains k || k == "INDEXED" then advance; afterName fuel t.text false true
      else if joinKeywords.contains k then advance; afterName fuel t.text false false
      else unexpected
    | _ => unexpected

/-- What follows a name in an expression: the arguments of a call, a column after its
table, or nothing for a bare column. -/
def afterName : Nat → String → Bool → Bool → Reader Expr
  | 0, _, _, _ => tooDeep
  | fuel + 1, v, quoted, callable => do
    if callable && (← atSymbol "(") then
      advance
      if ← acceptSymbol "*" then
        expectSymbol ")"
        match ← callClauses fuel with
        | (none, none) => pure (.callStar v)
        | (filter, win) => pure (.callWith v false [] filter win)
      else
        let (distinct, args) ← if ← acceptSymbol ")" then pure (false, []) else do
          let distinct ← acceptKeyword "DISTINCT"
          if !distinct then _ ← acceptKeyword "ALL"
          let args ← exprList fuel
          expectSymbol ")"
          pure (distinct, args)
        match ← callClauses fuel with
        | (none, none) => pure (.call v distinct args)
        | (filter, win) =>
          if distinct && win.isSome then
            throw (.refused "DISTINCT is not supported for window functions")
          pure (.callWith v distinct args filter win)
    else if ← acceptSymbol "." then
      let b ← name
      if ← acceptSymbol "." then pure (.column (some b) (← name) false)
      else pure (.column (some v) b false)
    else pure (.column none v quoted)

/-- The `FILTER` condition and the `OVER` window written after a call, each if any. -/
def callClauses : Nat → Reader (Option Expr × Option Window)
  | 0 => tooDeep
  | fuel + 1 => do
    let filter ← if ← atFilter then
        advance
        expectSymbol "("
        expectKeyword "WHERE"
        let e ← exprAbove fuel 0
        expectSymbol ")"
        pure (some e)
      else pure none
    if ← atOver then
      advance
      if ← acceptSymbol "(" then
        let w ← windowSpec fuel
        expectSymbol ")"
        pure (filter, some w)
      else pure (filter, some (.named (← name)))
    else pure (filter, none)

/-- A window written in parentheses: the named window it builds on, its partition, its order
and its frame, each if any. -/
def windowSpec : Nat → Reader Window
  | 0 => tooDeep
  | fuel + 1 => do
    let base ←
      if (← atKeywords ["PARTITION", "ORDER", "RANGE", "ROWS", "GROUPS"]) || (← atSymbol ")") then
        pure none
      else some <$> name
    let partition ←
      if ← acceptKeyword "PARTITION" then expectKeyword "BY"; exprList fuel else pure []
    let order ← if ← acceptKeyword "ORDER" then expectKeyword "BY"; orderTerms fuel else pure []
    pure (.spec base partition order (← frameSpec fuel))

/-- A frame, if one is written: its unit, its bounds (one bound ends at the current row) and
what it leaves out. A frame may not end before it starts in the order of bounds. -/
def frameSpec : Nat → Reader (Option Frame)
  | 0 => tooDeep
  | fuel + 1 => do
    let unit? : Option FrameUnit ←
      if ← acceptKeyword "RANGE" then pure (some .range)
      else if ← acceptKeyword "ROWS" then pure (some .rows)
      else if ← acceptKeyword "GROUPS" then pure (some .groups)
      else pure none
    let some unit := unit? | return none
    let (start, finish) ←
      if ← acceptKeyword "BETWEEN" then
        let s ← frameBound fuel true
        expectKeyword "AND"
        pure (s, ← frameBound fuel false)
      else pure (← frameBound fuel true, FrameBound.currentRow)
    let exclude ←
      if ← acceptKeyword "EXCLUDE" then
        if ← acceptKeyword "NO" then expectKeyword "OTHERS"; pure FrameExclude.noOthers
        else if ← acceptKeyword "CURRENT" then expectKeyword "ROW"; pure .currentRow
        else if ← acceptKeyword "GROUP" then pure .group
        else if ← acceptKeyword "TIES" then pure .ties
        else unexpected
      else pure .unstated
    let backwards := match start, finish with
      | .currentRow, .preceding _ | .following _, .preceding _ | .following _, .currentRow => true
      | _, _ => false
    if backwards then throw (.refused "unsupported frame specification")
    pure (some (.mk unit start finish exclude))

/-- A bound of a frame: `UNBOUNDED PRECEDING` only where it starts, `UNBOUNDED FOLLOWING`
only where it ends, `CURRENT ROW`, or an offset before or after the current row. -/
def frameBound : Nat → Bool → Reader FrameBound
  | 0, _ => tooDeep
  | fuel + 1, starting => do
    if ← acceptKeyword "UNBOUNDED" then
      if starting then expectKeyword "PRECEDING"; pure .unboundedPreceding
      else expectKeyword "FOLLOWING"; pure .unboundedFollowing
    else if ← acceptKeyword "CURRENT" then expectKeyword "ROW"; pure .currentRow
    else
      let e ← exprAbove fuel 0
      if ← acceptKeyword "PRECEDING" then pure (.preceding e)
      else expectKeyword "FOLLOWING"; pure (.following e)

/-- The windows of a `WINDOW` clause, each a name and a window, at least one. -/
def windowDefs : Nat → Reader (List (String × Window))
  | 0 => tooDeep
  | fuel + 1 => do
    let n ← name
    expectKeyword "AS"
    expectSymbol "("
    let w ← windowSpec fuel
    expectSymbol ")"
    if ← acceptSymbol "," then pure ((n, w) :: (← windowDefs fuel)) else pure [(n, w)]

/-- The `WHEN … THEN …` branches of a `CASE`, at least one. -/
def whens : Nat → Reader (List (Expr × Expr))
  | 0 => tooDeep
  | fuel + 1 => do
    expectKeyword "WHEN"
    let c ← exprAbove fuel 0
    expectKeyword "THEN"
    let r ← exprAbove fuel 0
    if ← atKeyword "WHEN" then pure ((c, r) :: (← whens fuel)) else pure [(c, r)]

/-- Expressions separated by commas, at least one. -/
def exprList : Nat → Reader (List Expr)
  | 0 => tooDeep
  | fuel + 1 => do
    let e ← exprAbove fuel 0
    if ← acceptSymbol "," then pure (e :: (← exprList fuel)) else pure [e]

/-- The named queries of a `WITH` clause, at least one. -/
def commonTables : Nat → Reader (List CommonTable)
  | 0 => tooDeep
  | fuel + 1 => do
    let n ← name
    let cols ←
      if ← acceptSymbol "(" then
        let cs ← nameList fuel
        expectSymbol ")"
        pure cs
      else pure []
    expectKeyword "AS"
    if ← acceptKeyword "NOT" then expectKeyword "MATERIALIZED"
    else _ ← acceptKeyword "MATERIALIZED"
    expectSymbol "("
    let q ← query fuel
    expectSymbol ")"
    let t := CommonTable.mk n cols q
    if ← acceptSymbol "," then pure (t :: (← commonTables fuel)) else pure [t]

/-- A query: its bodies, then `ORDER BY`, `LIMIT` and `OFFSET`; or a `WITH` clause and the
query it serves. -/
def query : Nat → Reader Query
  | 0 => tooDeep
  | fuel + 1 => do
    if ← acceptKeyword "WITH" then
      _ ← acceptKeyword "RECURSIVE"
      let tables ← commonTables fuel
      return .withTables tables (← query fuel)
    let first ← oneBody fuel
    let body ← compound fuel first
    let orderBy ←
      if ← acceptKeyword "ORDER" then expectKeyword "BY"; orderTerms fuel else pure []
    if ← acceptKeyword "LIMIT" then
      let a ← exprAbove fuel 0
      if ← acceptKeyword "OFFSET" then pure (.mk body orderBy (some a) (some (← exprAbove fuel 0)))
      else if ← acceptSymbol "," then
        let b ← exprAbove fuel 0
        pure (.mk body orderBy (some b) (some a))
      else pure (.mk body orderBy (some a) none)
    else pure (.mk body orderBy none none)

/-- The bodies joined to `left` by compound operators. -/
def compound : Nat → QueryBody → Reader QueryBody
  | 0, _ => tooDeep
  | fuel + 1, left => do
    let op? : Option CompoundOp ←
      if ← acceptKeyword "UNION" then
        pure (some (if ← acceptKeyword "ALL" then .unionAll else .union))
      else if ← acceptKeyword "INTERSECT" then pure (some .intersect)
      else if ← acceptKeyword "EXCEPT" then pure (some .except)
      else pure none
    match op? with
    | none => pure left
    | some op =>
      let right ← oneBody fuel
      compound fuel (.compound op left right)

/-- One `SELECT` or `VALUES` body. -/
def oneBody : Nat → Reader QueryBody
  | 0 => tooDeep
  | fuel + 1 => do
    if ← acceptKeyword "VALUES" then
      let rows ← valueRows fuel
      match rows with
      | first :: rest =>
        if rest.any (·.length != first.length) then
          throw (.refused "all VALUES must have the same number of terms")
        pure (.values rows)
      | [] => pure (.values rows)
    else
      expectKeyword "SELECT"
      let distinct ← acceptKeyword "DISTINCT"
      if !distinct then _ ← acceptKeyword "ALL"
      let cols ← resultColumns fuel
      let source ← if ← acceptKeyword "FROM" then some <$> sources fuel else pure none
      let filter ← if ← acceptKeyword "WHERE" then some <$> exprAbove fuel 0 else pure none
      let groupBy ←
        if ← acceptKeyword "GROUP" then expectKeyword "BY"; exprList fuel else pure []
      let having ← if ← acceptKeyword "HAVING" then some <$> exprAbove fuel 0 else pure none
      let windows ← if ← atWindowClause then advance; windowDefs fuel else pure []
      pure (.select distinct cols source filter groupBy having windows)

/-- The rows of a `VALUES` body, each in parentheses. -/
def valueRows : Nat → Reader (List (List Expr))
  | 0 => tooDeep
  | fuel + 1 => do
    expectSymbol "("
    let row ← exprList fuel
    expectSymbol ")"
    if ← acceptSymbol "," then pure (row :: (← valueRows fuel)) else pure [row]

/-- The result columns of a `SELECT`. -/
def resultColumns : Nat → Reader (List ResultColumn)
  | 0 => tooDeep
  | fuel + 1 => do
    let c ← resultColumn fuel
    if ← acceptSymbol "," then pure (c :: (← resultColumns fuel)) else pure [c]

/-- One result column: `*`, `table.*`, or an expression with an optional alias. -/
def resultColumn : Nat → Reader ResultColumn
  | 0 => tooDeep
  | fuel + 1 => do
    if ← acceptSymbol "*" then pure .all else
    let pos ← position
    let a ← rawAt pos
    let d ← rawAt (pos + 1)
    let s ← rawAt (pos + 2)
    match a.bind nameOf?, d, s with
    | some n, some d, some s =>
      if d.isSymbol "." && s.isSymbol "*" then
        advance; advance; advance
        pure (.allOf n)
      else columnExpr fuel pos
    | _, _, _ => columnExpr fuel pos

/-- A result column that is an expression, starting at token `pos`. -/
def columnExpr : Nat → Nat → Reader ResultColumn
  | 0, _ => tooDeep
  | fuel + 1, pos => do
    let e ← exprAbove fuel 0
    let text ← textFrom pos
    let asName ← aliasOpt
    pure (.expr e asName text)

/-- The sources of a `FROM` clause, joined to the left. -/
def sources : Nat → Reader Source
  | 0 => tooDeep
  | fuel + 1 => do
    let first ← singleSource fuel
    joins fuel first

/-- The sources joined to `left`. -/
def joins : Nat → Source → Reader Source
  | 0, _ => tooDeep
  | fuel + 1, left => do
    let some (kind, natural) ← joinOp | pure left
    let right ← singleSource fuel
    if ← acceptKeyword "ON" then
      let e ← exprAbove fuel 0
      joins fuel (.join kind natural left right (some e) [])
    else if ← acceptKeyword "USING" then
      expectSymbol "("
      let cols ← nameList fuel
      expectSymbol ")"
      joins fuel (.join kind natural left right none cols)
    else joins fuel (.join kind natural left right none [])

/-- One source: a table or a call of a function that gives rows, with an optional alias, or a
query or sources in parentheses. -/
def singleSource : Nat → Reader Source
  | 0 => tooDeep
  | fuel + 1 => do
    if ← acceptSymbol "(" then
      if ← atKeywords ["SELECT", "VALUES", "WITH"] then
        let q ← query fuel
        expectSymbol ")"
        pure (.query q (← aliasOpt))
      else
        let s ← sources fuel
        expectSymbol ")"
        _ ← aliasOpt
        pure s
    else
      let first ← name
      let table : ObjectName ←
        if ← acceptSymbol "." then pure ⟨some first, ← name⟩ else pure ⟨none, first⟩
      if ← acceptSymbol "(" then
        let args ← if ← acceptSymbol ")" then pure [] else do
          let args ← exprList fuel
          expectSymbol ")"
          pure args
        return .call table args (← aliasOpt)
      let asName ← aliasOpt
      if ← acceptKeyword "INDEXED" then
        expectKeyword "BY"
        _ ← name
      else if ← acceptKeyword "NOT" then expectKeyword "INDEXED"
      pure (.table table asName)

/-- The terms of an order. -/
def orderTerms : Nat → Reader (List OrderTerm)
  | 0 => tooDeep
  | fuel + 1 => do
    let e ← exprAbove fuel 0
    let desc ← if ← acceptKeyword "DESC" then pure true else do _ ← acceptKeyword "ASC"; pure false
    let nulls ←
      if ← acceptKeyword "NULLS" then
        if ← acceptKeyword "FIRST" then pure (some true)
        else do expectKeyword "LAST"; pure (some false)
      else pure none
    let term := OrderTerm.mk e desc nulls
    if ← acceptSymbol "," then pure (term :: (← orderTerms fuel)) else pure [term]

end

/-- The fuel for reading one statement of a script. -/
def fuel : Reader Nat := do
  pure (4 * (← read).tokens.size + 16)

/-- A whole expression. -/
def expr : Reader Expr := do
  exprAbove (← fuel) 0

/-- A whole query. -/
def fullQuery : Reader Query := do
  query (← fuel)

end Reader

end Catalog.Sql
