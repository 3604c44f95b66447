import Catalog.Engine.Pass
import Catalog.Matching.Parsed

/-!
# The aggregation service

Aggregation merges records that describe the same thing. Every input is indexed under the
configured matchers, whose points are kept in the store under the service's name. An input
that matches earlier records is linked to each of them; it joins the output of the first
match, in rule order, that has one, and otherwise gets an output of its own, numbered as a
new manifestation when its payload is an object. An input that has an output keeps it; the
output takes the input's payload (keeping its manifestation number) only while that input
alone backs it.

A deleted input leaves the index. An output still backed by another live input is detached
from it; an output it alone backed is deleted.
-/

namespace Catalog.Service

open Catalog.Store Catalog.Engine Catalog.Matching Catalog.Site

/-- The match engine of the pass. -/
def matchEngine : PassM (Config.MatchingSettings × MatchEngine) := do
  match (← current).worker with
  | .aggregation settings (some e) => pure (settings, e)
  | _ => fail (.internal "Match engine used outside a pass")

/-- Put a matcher in place of the one of its name in the pass's engine. -/
def putMatcher (m : Matcher) : PassM Unit := do
  let (settings, e) ← matchEngine
  setWorker (.aggregation settings (some { e with matchers := MatchEngine.placeMatcher m e.matchers }))

/-- Drop a record from one matcher: it forgets the record's points, then deletes them from
the store in a statement of its own. -/
def unindexFrom (id : Int) (m : Matcher) : PassM Unit := do
  putMatcher (m.forget id)
  if let some scope := m.scope then
    onSite (changePoints (·.deleteRecord scope m.name id))

/-- Save a matcher's unsaved points in a transaction of its own; when `force` holds, its
memory is emptied once they are saved. The matcher hands its unsaved points over before the
transaction runs, so a failed save loses them from memory. -/
def saveMatcher (force : Bool) (m : Matcher) : PassM Unit := do
  if let some scope := m.scope then
    putMatcher (m.release false)
    onSite (changePoints (·.insertPoints scope m.name m.pending))
    putMatcher (m.release force)

/-- Save a matcher's points and read every point the store holds for it into memory. -/
def loadMatcher (m : Matcher) : PassM Unit := do
  if let some scope := m.scope then
    saveMatcher true m
    let t ← onSite (query (·.points))
    putMatcher ((m.release true).withStored scope t)

/-- Drop a record from the index, matcher by matcher in name order; a failed delete stops
the matchers after it. -/
def unindex (id : Int) : PassM Unit := do
  let (_, e) ← matchEngine
  e.matchers.forM (unindexFrom id)

/-- The input's payload under the manifestation number the output already carries. -/
def refreshedPayload (input previous : Json) : Json :=
  match input, previous.get? "manifestation_id" with
  | .obj members, some m => .obj (Json.insertMember "manifestation_id" m members)
  | _, _ => input

/-- Whether a record other than `inputId` among the ids is visible and not deleted. -/
def backedBy (s : Store) (inputId : Int) (ids : List Int) : Bool :=
  ids.any fun p => p != inputId && match s.getAny? p with
    | .ok (some r) => !r.isDeleted
    | _ => false

/-- Withdraw a deleted input from one of its outputs: detach it when another live input
still backs the output, else add the output, deleted, to those to store. -/
def retractFrom (inputId : Int) (acc : List Record) (output : Record) : PassM (List Record) := do
  let outputId ← Engine.ofOutcome output.requireId
  let s ← onSite (query id)
  if backedBy s inputId (s.predecessorIds outputId) then
    onSite (atomically (removeLineage inputId outputId))
    pure acc
  else if !output.isDeleted then pure (acc ++ [{ output with status := .deleted }])
  else pure acc

/-- Withdraw a deleted input: detach it from outputs others still back, and delete the
outputs it alone backed. -/
def retract (inputId : Int) : PassM (List Record) := do
  unindex inputId
  let outputs ← existingSuccessors inputId
  outputs.foldlM (retractFrom inputId) []

/-- The output of the first candidate that has one. -/
def matchedOutput : List Int → PassM (Option Record)
  | [] => pure none
  | c :: rest => do
    match ← existingSuccessors c with
    | output :: _ => pure (some output)
    | [] => matchedOutput rest

/-- Merge one input record. -/
def aggregate (r : Record) : PassM (List Record) := do
  let inputId ← Engine.ofOutcome r.requireId
  if r.isDeleted then
    return ← retract inputId
  let parsed ← Engine.ofOutcome (ParsedRecord.ofRecord r)
  unindex inputId
  let (settings, e) ← matchEngine
  let points ← onSite (query (·.points))
  let (e, candidates) ← Engine.ofOutcome (e.determineMatches parsed points)
  setWorker (.aggregation settings (some e))
  candidates.forM fun c => onSite (atomically (addLink inputId c))
  match ← existingSuccessors inputId with
  | output :: _ =>
    let output :=
      if output.predecessors.all (· == inputId) then
        { output with payload := refreshedPayload r.payload output.payload }
      else output
    return [{ output with status := .active }]
  | [] =>
    match ← matchedOutput candidates with
    | some output => return [{ output with status := .active }]
    | none =>
      let payload ← match r.payload with
        | .obj members => do
          let m ← nextElement .manifestation
          pure (.obj (Json.insertMember "manifestation_id" (.int m) members))
        | other => pure other
      let oaiId ← nextOaiId
      pure [{ Record.new oaiId r.format with payload }]

end Catalog.Service
