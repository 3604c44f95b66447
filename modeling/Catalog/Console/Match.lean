import Catalog.Console.Pure

/-!
# Match sessions

A match request builds a match engine from its `matchers` and `rules` (the default matching
settings when absent; a value that is not a list, `null` included, names none), backed by a fresh store of match points when `store` holds, under
the scope `scope`. Its `steps` then run one after the other against that engine, each
answered on its own; a failing step does not stop the later ones.
-/

namespace Catalog.Console

open Catalog.Matching

/-- The state of a match session. -/
structure MatchSession where
  matcherNames : List String
  ruleNames : List String
  scope : Option String
  engine : MatchEngine
  table : PointTable

/-- Counts of every matcher: records and keys with a point. -/
def countsJson (e : MatchEngine) (t : PointTable) : Json :=
  Json.object (e.matchers.map fun m =>
    (m.name, Json.object [("record_ids", .int (m.recordCount t)),
      ("match_points", .int (m.keyCount t))]))

/-- Run one step of a match session. -/
def matchStep (s : MatchSession) (step : Json) : Reply × MatchSession :=
  let run : Except Fault (Json × MatchSession) := do
    let op ← needStr step "op"
    if op = "add" then
      let r ← specParsed step
      let (engine, ids) ← lift (s.engine.determineMatches r s.table)
      pure (Json.ofInts ids, { s with engine })
    else if op = "candidates" then
      let r ← specParsed step
      let ids ← lift (s.engine.candidates r s.table)
      pure (Json.ofInts ids, s)
    else if op = "remove" then
      let id ← needInt step "id"
      let (engine, table) := s.engine.remove id s.table
      pure (.null, { s with engine, table })
    else if op = "counts" then pure (countsJson s.engine s.table, s)
    else if op = "matching_ids" then
      let name ← needStr step "matcher"
      let key ← needStr step "key"
      match s.engine.matcher? name with
      | some m => pure (Json.ofInts (m.matchingIds key s.table), s)
      | none => pure (.null, s)
    else if op = "get_matching_ids" then
      let name ← needStr step "matcher"
      let r ← specParsed step
      match s.engine.matcher? name with
      | some m => pure (Json.ofInts (m.getMatchingIds r s.table), s)
      | none => pure (.null, s)
    else if op = "flush" then
      let (engine, table) := s.engine.flush (flag step "force") s.table
      pure (.null, { s with engine, table })
    else if op = "load" then
      let (engine, table) := s.engine.load s.table
      pure (.null, { s with engine, table })
    else if op = "reopen" then
      let scope := match s.scope with
        | some sc => some (strOr step "scope" sc)
        | none => none
      let engine ← lift (MatchEngine.ofNames s.matcherNames s.ruleNames scope)
      pure (.null, { s with engine, scope })
    else if op = "clear_scope" then
      match s.scope with
      | some sc =>
        let (table, n) := s.table.clearScope (strOr step "scope" sc)
        pure (.int n, { s with table })
      | none => pure (.null, s)
    else if op = "names" then pure (Json.ofStrings s.engine.names, s)
    else refuse ("unknown match step " ++ op)
  match run with
  | .ok (v, s) => (.ok v, s)
  | .error f => (.error f, s)

/-- `match`: a match session over the request's steps. -/
def matchRequest (j : Json) : Reply := do
  let defaults : Config.MatchingSettings := {}
  let matcherNames := if (j.get? "matchers").isSome then strList j "matchers"
    else defaults.matchers
  let ruleNames := if (j.get? "rules").isSome then strList j "rules" else defaults.matchRules
  let scope := if flag j "store" then some (strOr j "scope" "svc") else none
  let engine ← lift (MatchEngine.ofNames matcherNames ruleNames scope)
  let start : MatchSession := { matcherNames, ruleNames, scope, engine, table := [] }
  let (replies, _) := (items j "steps").foldl (fun (acc, s) step =>
    let (r, s) := matchStep s step
    (acc ++ [envelope r], s)) ([], start)
  pure (.arr replies)

end Catalog.Console
