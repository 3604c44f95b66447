import Catalog.Sql.Scope
import Catalog.Sql.Functions

/-!
# Window functions

A window function gives each result row of a query a value worked out from other result
rows: those of its *partition* (the rows with the same values of the `PARTITION BY`
expressions), taken in the window's order, and among them the rows of its *frame*. Rows
whose order values are equal are *peers*.

The frame is counted from the current row in rows (`ROWS`), in groups of peers (`GROUPS`),
or in distance from the current row's value of the order's one expression (`RANGE`; a text
or `null` value counts no distance, so its frame reaches its equals). Without a frame the
window reaches from the start of the partition to the last peer of the current row. The
frame may leave out the current row, its peers, or its peers but not itself.

* `row_number`, `rank`, `dense_rank`, `percent_rank`, `cume_dist` and `ntile(n)` number the
  rows of the partition and its groups of peers; `lag` and `lead` read the row a number of
  rows before or after the current one in the partition (one by default), or give their
  third argument (by default `null`).
* `first_value`, `last_value` and `nth_value` read a row of the frame.
* An aggregate function with a window works over the rows of the frame, those its `FILTER`
  condition holds for.

A query's window calls are lifted out of its result columns and order: each becomes
`windowValue k`, the `k`-th call's value for the current row, and the calls are worked out
over all the query's rows before any row is written. For each window the rows are sorted by
its partition and order, stably; the windows are taken from the last to the first as they
are first written, each with every call of the same window (frame included), so the rows
come out in the order of the first. The functions that number rows keep frames of their
own, so they need not share a pass with an aggregate over the same partition and order.
-/

namespace Catalog.Sql

open Catalog

/-- A term of a sort key: the value, whether the term descends, where `null` goes, and the
collation. -/
abbrev KeyTerm := Value × Bool × Option Bool × Collation

/-- Order two sort keys term by term: each term's direction and place for `null`. -/
def compareKeys : List KeyTerm → List KeyTerm → Ordering
  | (a, desc, nulls, coll) :: as, (b, _, _, _) :: bs =>
    let nullsFirst := nulls.getD (!desc)
    let o : Ordering :=
      match a.isNull, b.isNull with
      | true, true => .eq
      | true, false => if nullsFirst then .lt else .gt
      | false, true => if nullsFirst then .gt else .lt
      | false, false =>
        let o := Value.compareWith coll a b
        if desc then o.swap else o
    if o == .eq then compareKeys as bs else o
  | _, _ => .eq

/-! ## Calls as written -/

/-- The expression of an order term. -/
def OrderTerm.expr : OrderTerm → Expr
  | .mk e _ _ => e

/-- The expressions a window written in place reads: its partition and its order. -/
def Window.exprs : Window → List Expr
  | .named _ => []
  | .spec _ partition order _ => partition ++ order.map OrderTerm.expr

/-- The expressions directly under an expression, not those of a subquery. -/
def Expr.operands : Expr → List Expr
  | .unary _ a | .isNull _ a | .cast a _ | .collate a _ | .inQuery _ a _ => [a]
  | .binary _ a b => [a, b]
  | .pattern _ _ a b esc => [a, b] ++ esc.toList
  | .between _ a b c => [a, b, c]
  | .inList _ a items => a :: items
  | .case o bs x => o.toList ++ bs.flatMap (fun (c, r) => [c, r]) ++ x.toList
  | .call _ _ args | .vector args => args
  | .callWith _ _ args filter win => args ++ filter.toList ++ (win.map Window.exprs).getD []
  | _ => []

/-- The name of the first window call of an expression, outside a subquery, that stands
where no window call may: anywhere when `allowed` is false, and inside the arguments,
condition or window of an aggregate or window call in any case. -/
def misplacedWindow : Nat → Bool → Expr → Option String
  | 0, _, _ => none
  | fuel + 1, allowed, e =>
    match e with
    | .callWith name _ _ _ win =>
      if win.isSome && !allowed then some name
      else e.operands.findSome? (misplacedWindow fuel false)
    | .call name _ args =>
      args.findSome? (misplacedWindow fuel (allowed && !isAggregateCall name.toLower args.length))
    | _ => e.operands.findSome? (misplacedWindow fuel allowed)

/-- A window call as written: the function's name, whether `DISTINCT` was written, its
arguments, its `FILTER` condition and its window. -/
structure WrittenCall where
  name : String
  distinct : Bool
  args : List Expr
  filter : Option Expr
  window : Window

/-- An expression with each window call outside a subquery replaced by `windowValue k`, for
the `k`-th call met so far; the calls are kept in the order they are met. -/
def liftCalls : Nat → Expr → StateM (List WrittenCall) Expr
  | 0, e => pure e
  | fuel + 1, e =>
    match e with
    | .callWith name distinct args filter (some w) => do
      let k := (← get).length
      modify (· ++ [⟨name, distinct, args, filter, w⟩])
      pure (.windowValue k)
    | .unary op a => do pure (.unary op (← liftCalls fuel a))
    | .binary op a b => do pure (.binary op (← liftCalls fuel a) (← liftCalls fuel b))
    | .pattern op neg a b esc => do
      pure (.pattern op neg (← liftCalls fuel a) (← liftCalls fuel b) (← esc.mapM (liftCalls fuel)))
    | .between neg a b c => do
      pure (.between neg (← liftCalls fuel a) (← liftCalls fuel b) (← liftCalls fuel c))
    | .inList neg a items => do
      pure (.inList neg (← liftCalls fuel a) (← items.mapM (liftCalls fuel)))
    | .inQuery neg a q => do pure (.inQuery neg (← liftCalls fuel a) q)
    | .isNull neg a => do pure (.isNull neg (← liftCalls fuel a))
    | .case o bs x => do
      let o ← o.mapM (liftCalls fuel)
      let bs ← bs.mapM fun (c, r) => do pure ((← liftCalls fuel c), (← liftCalls fuel r))
      pure (.case o bs (← x.mapM (liftCalls fuel)))
    | .cast a ty => do pure (.cast (← liftCalls fuel a) ty)
    | .collate a c => do pure (.collate (← liftCalls fuel a) c)
    | .call name distinct args => do pure (.call name distinct (← args.mapM (liftCalls fuel)))
    | .vector items => do pure (.vector (← items.mapM (liftCalls fuel)))
    | other => pure other

/-- The depth to which window calls are lifted: deeper than any expression the store
reads. -/
def liftDepth : Nat := 1000

/-- A query's result columns and order terms with their window calls lifted, and the calls,
those of the columns first. -/
def liftQuery (cols : List ResultColumn) (order : List Expr) :
    (List ResultColumn × List Expr) × List WrittenCall :=
  let lifted : StateM (List WrittenCall) (List ResultColumn × List Expr) := do
    let cols ← cols.mapM fun c => match c with
      | .expr e asName text => do pure (ResultColumn.expr (← liftCalls liftDepth e) asName text)
      | other => pure other
    pure (cols, ← order.mapM (liftCalls liftDepth))
  lifted.run []

/-! ## Windows -/

/-- A window with the named window it builds on filled in, and its frame made explicit. -/
structure WindowDef where
  partition : List Expr
  order : List OrderTerm
  unit : FrameUnit
  start : FrameBound
  finish : FrameBound
  exclude : FrameExclude
  /-- Whether no frame was written, so that the default frame stands. -/
  implicit : Bool

/-- A window from its parts: without a frame, the frame from the start of the partition to
the current row's last peer. -/
def WindowDef.ofParts (partition : List Expr) (order : List OrderTerm) : Option Frame → WindowDef
  | some (.mk unit start finish exclude) => ⟨partition, order, unit, start, finish, exclude, false⟩
  | none => ⟨partition, order, .range, .unboundedPreceding, .currentRow, .unstated, true⟩

/-- A window of the `WINDOW` clause by name, the last of that name. -/
def findWindow (named : List (String × WindowDef)) (name : String) :
    Except StoreFault WindowDef :=
  match named.reverse.find? (sameName ·.1 name) with
  | some (_, w) => pure w
  | none => throw (.refused ("no such window: " ++ name))

/-- A window with the named window it builds on filled in. A window built on another may
add an order when that one has none, and a frame when that one has none written; it may
not add a partition. -/
def resolveWindow (named : List (String × WindowDef)) : Window → Except StoreFault WindowDef
  | .named n => findWindow named n
  | .spec none partition order frame => pure (WindowDef.ofParts partition order frame)
  | .spec (some b) partition order frame => do
    let base ← findWindow named b
    let refuse (what : String) : Except StoreFault WindowDef :=
      throw (.refused ("cannot override " ++ what ++ " of window: " ++ b))
    if !partition.isEmpty then refuse "PARTITION clause"
    else if !base.order.isEmpty && !order.isEmpty then refuse "ORDER BY clause"
    else if !base.implicit then refuse "frame specification"
    else pure (WindowDef.ofParts base.partition (if base.order.isEmpty then order else base.order)
      frame)

/-- The windows of a `WINDOW` clause, each built on those before it. -/
def resolveWindows (defs : List (String × Window)) :
    Except StoreFault (List (String × WindowDef)) :=
  defs.foldlM (fun acc (n, w) => do pure (acc ++ [(n, ← resolveWindow acc w)])) []

/-- The functions that only work over a window, with the numbers of arguments they take. -/
def windowArity : String → Option (Nat × Nat)
  | "row_number" | "rank" | "dense_rank" | "percent_rank" | "cume_dist" => some (0, 0)
  | "ntile" => some (1, 1)
  | "lag" | "lead" => some (1, 3)
  | "first_value" | "last_value" => some (1, 1)
  | "nth_value" => some (2, 2)
  | _ => none

/-- The frame a function that numbers rows keeps whatever its window says; any other
function keeps its window's. -/
def functionWindow (name : String) (w : WindowDef) : WindowDef :=
  let set (unit : FrameUnit) (start finish : FrameBound) : WindowDef :=
    { w with unit, start, finish, exclude := .unstated }
  match name with
  | "row_number" => set .rows .unboundedPreceding .currentRow
  | "rank" | "dense_rank" => set .range .unboundedPreceding .currentRow
  | "percent_rank" => set .groups .currentRow .unboundedFollowing
  | "cume_dist" => set .groups (.following (.literal (.integer 1))) .unboundedFollowing
  | "ntile" => set .rows .currentRow .unboundedFollowing
  | "lead" => set .rows .unboundedPreceding .unboundedFollowing
  | "lag" => set .rows .unboundedPreceding .currentRow
  | _ => w

/-- Whether a frame bound counts an offset. -/
def FrameBound.hasOffset : FrameBound → Bool
  | .preceding _ | .following _ => true
  | _ => false

/-- A call of a window function as a pass works it out: the function's name (lower case),
its arguments, its `FILTER` condition and its window. -/
structure WindowCall where
  name : String
  args : List Expr
  filter : Option Expr
  window : WindowDef

/-- A written window call with its window resolved against the `WINDOW` clause. A range
frame with an offset needs an order of one expression, and only an aggregate may have a
`FILTER` condition. -/
def resolveCall (named : List (String × WindowDef)) (c : WrittenCall) :
    Except StoreFault WindowCall := do
  let lname := c.name.toLower
  let w ← resolveWindow named c.window
  if w.unit == .range && (w.start.hasOffset || w.finish.hasOffset) && w.order.length != 1 then
    throw (.refused "RANGE with offset PRECEDING/FOLLOWING requires one ORDER BY expression")
  if (windowArity lname).isSome && c.filter.isSome then
    throw (.refused "FILTER clause may only be used with aggregate window functions")
  pure ⟨lname, c.args, c.filter, functionWindow lname w⟩

/-! ## Telling windows apart -/

/-- A text that tells expressions apart, for finding the calls that share a window; `none`
for an expression with a subquery, which shares its window with no other call. -/
def exprKey : Nat → Expr → Option String
  | 0, _ => none
  | fuel + 1, e =>
    let list (tag : String) (xs : List Expr) : Option String := do
      let parts ← xs.mapM (exprKey fuel)
      pure (tag ++ "(" ++ ",".intercalate parts ++ ")")
    match e with
    | .literal v => some ("v" ++ v.typeName ++ ":" ++ quoteValue v)
    | .column t n q =>
      some ("c" ++ (t.getD "").toLower ++ "." ++ n.toLower ++ (if q then "!" else ""))
    | .parameter => some "?"
    | .unary op a => list ("u" ++ toString (repr op)) [a]
    | .binary op a b => list ("b" ++ toString (repr op)) [a, b]
    | .pattern op neg a b esc =>
      list ("p" ++ toString (repr op) ++ toString neg ++ toString esc.isSome) ([a, b] ++ esc.toList)
    | .between neg a b c => list ("w" ++ toString neg) [a, b, c]
    | .inList neg a items => list ("i" ++ toString neg) (a :: items)
    | .isNull neg a => list ("n" ++ toString neg) [a]
    | .case o bs x =>
      list ("k" ++ toString o.isSome ++ toString x.isSome)
        (o.toList ++ bs.flatMap (fun (c, r) => [c, r]) ++ x.toList)
    | .cast a ty => list ("t" ++ ty.toLower) [a]
    | .collate a c => list ("l" ++ c.toLower) [a]
    | .call n d args => list ("f" ++ n.toLower ++ toString d) args
    | .callStar n => some ("s" ++ n.toLower)
    | .clock k => some ("d" ++ toString (repr k))
    | .vector items => list "r" items
    | .raise k m => some ("x" ++ toString (repr k) ++ m)
    | .windowValue k => some ("o" ++ toString k)
    | .inQuery .. | .exists _ | .scalar _ | .callWith .. => none

/-- A text that tells windows apart: their partitions, orders and frames. -/
def windowKey (w : WindowDef) : Option String := do
  let parts ← w.partition.mapM (exprKey liftDepth)
  let order ← w.order.mapM fun t => match t with
    | .mk e desc nulls => do pure ((← exprKey liftDepth e) ++ toString desc ++ toString nulls)
  let bound : FrameBound → Option String
    | .unboundedPreceding => some "UP"
    | .preceding e => do pure ("P" ++ (← exprKey liftDepth e))
    | .currentRow => some "C"
    | .following e => do pure ("F" ++ (← exprKey liftDepth e))
    | .unboundedFollowing => some "UF"
  pure (",".intercalate parts ++ "|" ++ ",".intercalate order ++ "|" ++ toString (repr w.unit) ++
    (← bound w.start) ++ (← bound w.finish) ++ toString (repr w.exclude))

/-! ## Frames -/

/-- The offset of a frame of rows or groups: a whole number, not negative, as a number or a
text that spells one. -/
def rowOffset (v : Value) : Option Nat :=
  match numericType v with
  | .integer n => if n ≥ 0 then some n.toNat else none
  | .real x =>
    match wholeOf? x with
    | some n => if n ≥ 0 then some n.toNat else none
    | none => none
  | _ => none

/-- The offset of a range frame: a number, not negative. -/
def rangeOffset : Value → Option Value
  | .integer n => if n ≥ 0 then some (.integer n) else none
  | .real x => if x ≥ 0.0 then some (.real x) else none
  | _ => none

/-- A frame offset as it is used: a count of rows or groups, or a distance in value. -/
inductive Offset where
  | count (n : Nat)
  | distance (v : Value)
  deriving Inhabited

/-- The count of an offset of rows or groups. -/
def Offset.rows : Offset → Nat
  | .count k => k
  | .distance _ => 0

/-- The distance of an offset of a range. -/
def Offset.reach : Offset → Value
  | .distance v => v
  | .count k => .integer k

/-- The number of each row's group of peers, for rows with these sort keys in order. -/
def peerGroups : Nat → Option (List KeyTerm) → List (List KeyTerm) → List Nat
  | _, _, [] => []
  | g, none, k :: ks => g :: peerGroups g (some k) ks
  | g, some prev, k :: ks =>
    let g := if compareKeys prev k == .eq then g else g + 1
    g :: peerGroups g (some k) ks

/-- A partition as a window pass sees it: its rows' order keys, and for each row the
number of its group of peers. -/
structure Partition where
  keys : Array (List KeyTerm)
  groupOf : Array Nat
  deriving Inhabited

namespace Partition

/-- The partition of rows with these order keys. -/
def ofKeys (keys : List (List KeyTerm)) : Partition :=
  ⟨keys.toArray, (peerGroups 0 none keys).toArray⟩

/-- The number of rows. -/
def size (p : Partition) : Nat := p.keys.size

/-- The group of peers of a row. -/
def group (p : Partition) (i : Nat) : Nat := p.groupOf.getD i 0

/-- The number of groups of peers. -/
def groupCount (p : Partition) : Nat :=
  if p.size == 0 then 0 else p.group (p.size - 1) + 1

/-- The first row of a group. -/
def groupFirst (p : Partition) (g : Nat) : Nat :=
  ((List.range p.size).find? fun j => p.group j == g).getD p.size

/-- The last row of a group. -/
def groupLast (p : Partition) (g : Nat) : Nat :=
  ((List.range p.size).reverse.find? fun j => p.group j == g).getD 0

/-- How a row's order value compares with a value, in the order's direction. -/
def compareAt (p : Partition) (j : Nat) (v : Value) : Ordering :=
  match p.keys.getD j [] with
  | [(x, desc, nulls, coll)] => compareKeys [(x, desc, nulls, coll)] [(v, desc, nulls, coll)]
  | _ => .eq

/-- The first row whose order value is not before a value. -/
def firstFrom (p : Partition) (v : Value) : Int :=
  ((List.range p.size).find? fun j => p.compareAt j v != .lt).getD p.size

/-- The last row whose order value is not after a value; `-1` when there is none. -/
def lastUpTo (p : Partition) (v : Value) : Int :=
  match (List.range p.size).reverse.find? fun j => p.compareAt j v != .gt with
  | some j => j
  | none => -1

/-- The value a distance from the current row's order value reaches, earlier (`back`) or
later in the order: a text, a blob or `null` reaches only itself. -/
def reach (p : Partition) (i : Nat) (d : Value) (back : Bool) : Value :=
  match p.keys.getD i [] with
  | [(x, desc, _, _)] =>
    match x with
    | .integer _ | .real _ => arithmetic (if back != desc then .sub else .add) x d
    | _ => x
  | _ => .null

/-- The rows of the frame of row `i`, in order, before any are left out. -/
def frame (p : Partition) (unit : FrameUnit) (start finish : FrameBound)
    (startOffset finishOffset : Offset) (i : Nat) : List Nat :=
  let n := p.size
  let g := p.group i
  let lo : Int := match start, unit with
    | .unboundedPreceding, _ => 0
    | .preceding _, .rows => (i : Int) - startOffset.rows
    | .preceding _, .groups => p.groupFirst (g - startOffset.rows)
    | .preceding _, .range => p.firstFrom (p.reach i startOffset.reach true)
    | .currentRow, .rows => i
    | .currentRow, _ => p.groupFirst g
    | .following _, .rows => i + startOffset.rows
    | .following _, .groups =>
      if g + startOffset.rows < p.groupCount then p.groupFirst (g + startOffset.rows) else n
    | .following _, .range => p.firstFrom (p.reach i startOffset.reach false)
    | .unboundedFollowing, _ => n
  let hi : Int := match finish, unit with
    | .unboundedFollowing, _ => (n : Int) - 1
    | .following _, .rows => i + finishOffset.rows
    | .following _, .groups => p.groupLast (min (g + finishOffset.rows) (p.groupCount - 1))
    | .following _, .range => p.lastUpTo (p.reach i finishOffset.reach false)
    | .currentRow, .rows => i
    | .currentRow, _ => p.groupLast g
    | .preceding _, .rows => (i : Int) - finishOffset.rows
    | .preceding _, .groups =>
      if g ≥ finishOffset.rows then p.groupLast (g - finishOffset.rows) else -1
    | .preceding _, .range => p.lastUpTo (p.reach i finishOffset.reach true)
    | .unboundedPreceding, _ => -1
  let lo := max lo 0
  let hi := min hi ((n : Int) - 1)
  if lo > hi then [] else (List.range (hi - lo + 1).toNat).map fun (k : Nat) => (lo + k).toNat

/-- The rows of a frame with those the window leaves out removed. -/
def exclude (p : Partition) (what : FrameExclude) (i : Nat) (rows : List Nat) : List Nat :=
  match what with
  | .unstated | .noOthers => rows
  | .currentRow => rows.filter (· != i)
  | .group => rows.filter fun j => p.group j != p.group i
  | .ties => rows.filter fun j => j == i || p.group j != p.group i

end Partition

/-! ## Values -/

/-- Whether an expression holds no column and no subquery, so that a frame offset may be
worked out before any row; any other offset is `null`. -/
def fixedOffset : Nat → Expr → Bool
  | 0, _ => false
  | fuel + 1, e =>
    match e with
    | .literal _ | .clock _ | .parameter => true
    | .column .. | .inQuery .. | .exists _ | .scalar _ | .callStar _ | .callWith .. | .raise .. |
      .windowValue _ => false
    | .call name _ args =>
      !(isAggregateCall name.toLower args.length) && args.all (fixedOffset fuel)
    | _ => e.operands.all (fixedOffset fuel)

/-- The offset of a frame bound, checked: whole and not negative for rows and groups, a
number not negative for a range. -/
def boundOffset {C : Type} (evalAt : C → Expr → Except StoreFault Value) (c : C)
    (unit : FrameUnit) (starting : Bool) : FrameBound → Except StoreFault Offset
  | .preceding e | .following e => do
    let v ← if fixedOffset liftDepth e then evalAt c e else pure .null
    let which := if starting then "starting" else "ending"
    match unit with
    | .range =>
      match rangeOffset v with
      | some d => pure (.distance d)
      | none => throw (.refused ("frame " ++ which ++ " offset must be a non-negative number"))
    | _ =>
      match rowOffset v with
      | some k => pure (.count k)
      | none => throw (.refused ("frame " ++ which ++ " offset must be a non-negative integer"))
  | _ => pure (.count 0)

/-- The row a number of rows away reaches in a partition of `n` rows: the current row's
number (from 1) less (`back`) or plus the offset, which must come out a whole number
within the partition. -/
def shiftedRow (i n : Nat) (offset : Value) (back : Bool) : Option Nat :=
  let target := arithmetic (if back then .sub else .add) (.integer (i + 1)) offset
  let whole : Option Int := match target with
    | .integer k => some k
    | .real x => wholeOf? x
    | _ => none
  match whole with
  | some k => if 1 ≤ k && k ≤ n then some (k - 1).toNat else none
  | none => none

/-- The place `nth_value` asks for: a whole number above zero. -/
def nthPlace (v : Value) : Option Nat :=
  match numericType v with
  | .integer k => if k > 0 then some k.toNat else none
  | .real x => (wholeOf? x).bind fun k => if k > 0 then some k.toNat else none
  | _ => none

/-- The value `nth_value` gives over a frame: each row of the frame, the `t`-th, asks for a
place with its second argument, which must be a whole number above zero, and the first row
whose place is its own gives its first argument. -/
def nthValue (argAt : Nat → Nat → JsonArg) : Nat → List Nat → Except StoreFault Value
  | _, [] => pure .null
  | t, j :: rest =>
    match nthPlace (argAt j 1).value with
    | none => throw (.refused "second argument to nth_value must be a positive integer")
    | some k => if k == t then pure (argAt j 0).value else nthValue argAt (t + 1) rest

/-- The values of one call over one partition, a row at a time. `args` holds the arguments
of each row and `kept` whether the `FILTER` condition holds for it. -/
def callValues {C : Type} [Inhabited C] (evalAt : C → Expr → Except StoreFault Value)
    (rows : Array C) (p : Partition) (call : WindowCall) (args : Array (List JsonArg))
    (kept : Array Bool) : Except StoreFault (List Value) := do
  let n := p.size
  if n == 0 then return []
  let w := call.window
  let first := rows.getD 0 default
  let startOffset ← boundOffset evalAt first w.unit true w.start
  let finishOffset ← boundOffset evalAt first w.unit false w.finish
  let argAt (j k : Nat) : JsonArg := (args.getD j []).getD k default
  let frameOf (i : Nat) : List Nat :=
    p.exclude w.exclude i (p.frame w.unit w.start w.finish startOffset finishOffset i)
  let tiles ← if call.name == "ntile" then do
      let k := (argAt 0 0).value.asInteger
      if k ≤ 0 then throw (.refused "argument of ntile must be a positive integer")
      pure k.toNat
    else pure 0
  (List.range n).mapM fun i => do
    let g := p.group i
    match call.name with
    | "row_number" => pure (.integer (i + 1))
    | "rank" => pure (.integer (p.groupFirst g + 1))
    | "dense_rank" => pure (.integer (g + 1))
    | "percent_rank" =>
      pure (.real (if n > 1 then floatOfInt (p.groupFirst g) / floatOfInt (n - 1) else 0.0))
    | "cume_dist" => pure (.real (floatOfInt (p.groupLast g + 1) / floatOfInt n))
    | "ntile" =>
      let size := n / tiles
      if size == 0 then pure (.integer (i + 1))
      else
        let large := n - tiles * size
        let small := large * (size + 1)
        pure (.integer (if i < small then 1 + i / (size + 1) else 1 + large + (i - small) / size))
    | "lag" | "lead" =>
      let offset := if call.args.length ≥ 2 then (argAt i 1).value else .integer 1
      match shiftedRow i n offset (call.name == "lag") with
      | some j => pure (argAt j 0).value
      | none => pure (if call.args.length ≥ 3 then (argAt i 2).value else .null)
    | "first_value" => pure (((frameOf i).head?.map fun j => (argAt j 0).value).getD .null)
    | "last_value" => pure (((frameOf i).getLast?.map fun j => (argAt j 0).value).getD .null)
    | "nth_value" => nthValue argAt 1 (frameOf i)
    | name =>
      let used := (frameOf i).filter fun j => kept.getD j true
      match name, call.args with
      | "json_group_array", [_] => groupArray (used.map fun j => argAt j 0)
      | "json_group_object", [_, _] =>
        groupObject (used.map fun j => ((argAt j 0).value, argAt j 1))
      | "count", [] => pure (.integer used.length)
      | _, _ =>
        let seps := if call.args.length == 2 then used.map fun j => (argAt j 1).value else []
        aggregate name (used.map fun j => (argAt j 0).value) seps

/-- Rows sorted by their partition keys, split into partitions. -/
def splitPartitions {α : Type} (rows : List (List KeyTerm × α)) : List (List α) :=
  (rows.foldr (fun (k, a) acc => match acc with
    | (k', part) :: more =>
      if compareKeys k k' == .eq then (k, a :: part) :: more else (k, [a]) :: acc
    | [] => [(k, [a])]) []).map (·.2)

/-- A row of a window pass: what its expressions are worked out in, and the values of the
calls worked out for it so far, by the call's number. -/
structure PassRow (C : Type) where
  base : C
  found : List (Nat × Value)

/-- One pass over the rows for the calls that share a window: sort the rows by the window's
partition and order, and work out each call for each row. -/
def windowPass {C : Type} [Inhabited C] (evalAt : C → Expr → Except StoreFault Value)
    (argAt : C → Expr → Except StoreFault JsonArg) (collationOf : C → Expr → Collation)
    (calls : List (Nat × WindowCall)) (rows : List (PassRow C)) :
    Except StoreFault (List (PassRow C)) := do
  let some (_, lead) := calls.head? | return rows
  let w := lead.window
  let keyed ← rows.mapM fun r => do
    let part ← w.partition.mapM fun e => do
      pure (((← evalAt r.base e), false, none, collationOf r.base e) : KeyTerm)
    let order ← w.order.mapM fun t => match t with
      | .mk e desc nulls => do
        pure (((← evalAt r.base e), desc, nulls, collationOf r.base e) : KeyTerm)
    pure (part, order, r)
  let sorted := keyed.mergeSort fun a b => compareKeys (a.1 ++ a.2.1) (b.1 ++ b.2.1) != .gt
  let parts := splitPartitions (sorted.map fun (part, order, r) => (part, (order, r)))
  let done ← parts.mapM fun part => do
    let p := Partition.ofKeys (part.map (·.1))
    let members := part.map (·.2)
    let bases := (members.map (·.base)).toArray
    let values ← calls.mapM fun (k, call) => do
      let args ← bases.toList.mapM fun c => call.args.mapM (argAt c)
      let kept ← bases.toList.mapM fun c => match call.filter with
        | some f => do pure ((← evalAt c f).truth? == some true)
        | none => pure true
      let vs ← callValues evalAt bases p call args.toArray kept.toArray
      pure (vs.map fun v => (k, v))
    pure (members.zipIdx.map fun (r, i) =>
      { r with found := r.found ++ values.filterMap (·[i]?) })
  pure done.flatten

/-- The values of a query's window calls for each of its rows, with the rows in the order
the windows leave them. The calls that share a window (partition, order and frame) are
worked out in one pass; the passes go from the last window first written to the first. -/
def windowValues {C : Type} [Inhabited C] (evalAt : C → Expr → Except StoreFault Value)
    (argAt : C → Expr → Except StoreFault JsonArg) (collationOf : C → Expr → Collation)
    (calls : List WindowCall) (bases : List C) : Except StoreFault (List (C × List Value)) := do
  let keyOf (k : Nat) (c : WindowCall) : String :=
    (windowKey c.window).getD ("#" ++ toString k)
  let passes := calls.zipIdx.foldl (fun (acc : List (String × List (Nat × WindowCall))) (c, k) =>
    let key := keyOf k c
    if acc.any (·.1 == key) then
      acc.map fun (key', cs) => if key' == key then (key', cs ++ [(k, c)]) else (key', cs)
    else acc ++ [(key, [(k, c)])]) []
  let rows ← passes.reverse.foldlM
    (fun rows (_, cs) => windowPass evalAt argAt collationOf cs rows) (bases.map fun b => ⟨b, []⟩)
  pure (rows.map fun r =>
    (r.base, (List.range calls.length).map fun k => (r.found.lookup k).getD .null))

end Catalog.Sql
