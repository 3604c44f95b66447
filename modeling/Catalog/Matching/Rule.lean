import Catalog.Matching.Matcher

/-!
# Match rules

A rule decides which indexed records match a record. A single-matcher rule takes the
records sharing a key with it under one matcher; an intersection rule takes those that share
a key under every one of its matchers (a standard number together with a title, say). The
record itself is never its own match. A rule whose matcher is not active fails.
-/

namespace Catalog.Matching

/-- A match rule. -/
inductive Rule where
  /-- Records sharing a key under the matcher of this name. -/
  | single (matcher : String)
  /-- Records sharing a key under each of the matchers. -/
  | intersection (name : String) (matchers : List String)
  deriving Repr, BEq, Inhabited

namespace Rule

/-- The name of a rule. -/
def name : Rule → String
  | .single m => m
  | .intersection n _ => n

/-- The matchers a rule reads. -/
def matchers : Rule → List String
  | .single m => [m]
  | .intersection _ ms => ms

/-- The built-in rule of a name. -/
def builtin? (name : String) : Option Rule :=
  if name = "isbn" || name = "issn" || name = "lccn" || name = "system_control_number" then
    some (.single name)
  else if name = "x024a_x245ah" then some (.intersection name ["x024a", "x245ah"])
  else if name = "x028ab_x245ah" then some (.intersection name ["x028ab", "x245ah"])
  else none

/-- The active matcher of a name; a matcher that is not active is an error of the
settings. -/
def activeMatcher (active : List Matcher) (name : String) : Outcome Matcher :=
  match active.find? (·.name == name) with
  | some m => .ok m
  | none => .error (.config ("Matcher '" ++ name ++ "' is not active"))

/-- Narrow the candidates by the matchers in turn, stopping with none as soon as none is
left. -/
def narrow (active : List Matcher) (r : ParsedRecord) (t : PointTable) :
    Option (List Int) → List String → Outcome (List Int)
  | acc, [] => .ok (acc.getD [])
  | acc, name :: rest => do
    let m ← activeMatcher active name
    let ids := m.getMatchingIds r t
    let narrowed := match acc with
      | some previous => previous.filter (SortedList.contains · ids)
      | none => ids
    if narrowed.isEmpty then .ok [] else narrow active r t (some narrowed) rest

/-- The ids of the records a rule matches with a record, ascending. -/
def determineMatches (rule : Rule) (active : List Matcher) (r : ParsedRecord)
    (t : PointTable) : Outcome (List Int) :=
  match rule with
  | .single name => do
    let m ← activeMatcher active name
    pure (SortedList.erase r.id (m.getMatchingIds r t))
  | .intersection _ names => do
    let ids ← narrow active r t none names
    pure (SortedList.erase r.id ids)

end Rule

end Catalog.Matching
