import Catalog.Pipeline.Directive
import Catalog.Data.SortedList

/-!
# Routing records to services

Routing applies the directives of one source to the records it produces. A record that a
directive accepts becomes input for the directive's target again: the target is added to
the record's input services and removed from those that processed it, and the pair of
target and output set is scheduled for a job. A deleted record is sent back to every
service that consumed it, with no output set, so that they can retract what they made of
it.

Scheduled pairs wait until the records behind them are committed; they are kept as a
sorted set, by service and then by output set, none first.
-/

namespace Catalog.Pipeline

/-- The directives of a source and the (service, output set) pairs scheduled so far. -/
structure Routing where
  directives : List Directive
  scheduled : List (Int × Option String) := []
  deriving Inhabited

/-- The order of scheduled pairs: by service, then no output set first, then by name. -/
def pairBefore (a b : Int × Option String) : Bool :=
  a.1 < b.1 || (a.1 == b.1 &&
    match a.2, b.2 with
    | none, _ => true
    | some _, none => false
    | some x, some y => decide (x ≤ y))

namespace Routing

/-- Schedule a pair once. -/
def schedule (ev : Routing) (p : Int × Option String) : Routing :=
  if ev.scheduled.contains p then ev
  else { ev with scheduled := (ev.scheduled ++ [p]).mergeSort pairBefore }

/-- Route a record: the record marked as input for every accepting directive's target,
the routing with their pairs scheduled, and the number of accepting directives. -/
def evaluate (ev : Routing) (r : Record) : Record × Routing × Nat :=
  let targets := (ev.directives.filter (·.matches r)).map fun d => (d.target, d.outputSet)
  let r := targets.foldl (fun (r : Record) t =>
    { r with
      inputFor := SortedList.insert t.1 r.inputFor
      processedBy := SortedList.erase t.1 r.processedBy }) r
  (r, targets.foldl schedule ev, targets.length)

/-- Send a record back to every service that processed it. -/
def reprocess (ev : Routing) (r : Record) : Record × Routing :=
  let consumers := r.processedBy
  ({ r with processedBy := [], inputFor := SortedList.union r.inputFor consumers },
    consumers.foldl (fun ev s => ev.schedule (s, none)) ev)

end Routing

end Catalog.Pipeline
