import Catalog.Matching.Rule

/-!
# The match engine

The engine holds the active matchers, one per name and ordered by name, and the rules in the
order they were configured. Matching a record indexes it under every matcher and then asks
every rule in turn: the candidates are the ids the rules yield, each once, in the order in
which they first appear. Removing, saving and loading go to every matcher in name order.
-/

namespace Catalog.Matching

/-- The active matchers and rules. -/
structure MatchEngine where
  matchers : List Matcher
  rules : List Rule
  deriving Inhabited

namespace MatchEngine

/-- Put a matcher in place of the one of the same name, keeping the names ordered. -/
def placeMatcher (m : Matcher) : List Matcher → List Matcher
  | [] => [m]
  | m' :: rest =>
    if m.name < m'.name then m :: m' :: rest
    else if m.name = m'.name then m :: rest
    else m' :: placeMatcher m rest

/-- The engine for the named matchers and rules, backed by the store under `scope` when
one is given. An unknown matcher is reported first, then an unknown rule, then a rule whose
matcher is missing. -/
def ofNames (matcherNames ruleNames : List String) (scope : Option String) :
    Outcome MatchEngine := do
  let matchers ← matcherNames.foldlM (fun acc name =>
    match Matcher.builtin? name with
    | some m => pure (placeMatcher { m with scope } acc)
    | none => throw (.config ("Unknown matcher: " ++ name))) []
  let rules ← ruleNames.mapM fun name =>
    match Rule.builtin? name with
    | none => throw (.config ("Unknown match rule: " ++ name))
    | some rule =>
      match rule.matchers.find? (fun m => !matchers.any (·.name == m)) with
      | some missing =>
        throw (.config ("Match rule " ++ name ++ " needs matcher " ++ missing ++
          ", which is not configured"))
      | none => pure rule
  pure ⟨matchers, rules⟩

/-- The active matcher of a name. -/
def matcher? (e : MatchEngine) (name : String) : Option Matcher :=
  e.matchers.find? (·.name == name)

/-- The names of the active matchers, in order. -/
def names (e : MatchEngine) : List String :=
  e.matchers.map (·.name)

/-- Append to `acc` the ids of `ids` it does not hold yet. -/
def appendNew (acc ids : List Int) : List Int :=
  ids.foldl (fun acc id => if acc.contains id then acc else acc ++ [id]) acc

/-- The candidates of a record under the rules, without indexing it. -/
def candidates (e : MatchEngine) (r : ParsedRecord) (t : PointTable) : Outcome (List Int) :=
  e.rules.foldlM (fun acc rule => do
    let ids ← rule.determineMatches e.matchers r t
    pure (appendNew acc ids)) []

/-- Index a record under every matcher. -/
def index (e : MatchEngine) (r : ParsedRecord) : MatchEngine :=
  { e with matchers := e.matchers.map fun m => (m.add r).1 }

/-- Index a record and return its candidates. -/
def determineMatches (e : MatchEngine) (r : ParsedRecord) (t : PointTable) :
    Outcome (MatchEngine × List Int) := do
  let e := e.index r
  let ids ← e.candidates r t
  pure (e, ids)

/-- Apply a step that may touch the store to every matcher in order. -/
def eachMatcher (e : MatchEngine) (t : PointTable)
    (step : Matcher → PointTable → Matcher × PointTable) : MatchEngine × PointTable :=
  let (ms, t) := e.matchers.foldl (fun (acc, t) m =>
    let (m, t) := step m t
    (acc ++ [m], t)) ([], t)
  ({ e with matchers := ms }, t)

/-- Drop a record from every matcher. -/
def remove (e : MatchEngine) (id : Int) (t : PointTable) : MatchEngine × PointTable :=
  e.eachMatcher t fun m t => m.remove id t

/-- Save every matcher's unsaved points. -/
def flush (e : MatchEngine) (force : Bool) (t : PointTable) : MatchEngine × PointTable :=
  e.eachMatcher t fun m t => m.flush force t

/-- Save and reload every matcher. -/
def load (e : MatchEngine) (t : PointTable) : MatchEngine × PointTable :=
  e.eachMatcher t fun m t => m.load t

end MatchEngine

end Catalog.Matching
