import Catalog.Data.SortedList

/-!
# The store of match points

A match point says that a record has a key under a matcher. Matchers keep their points in
memory and save them to a shared table, where each point also names the scope it belongs to
(the service that owns it). The table is a set: saving a point twice keeps one row. It is
kept sorted by scope, matcher, key and record id.
-/

namespace Catalog.Matching

/-- One saved match point. -/
structure PointRow where
  scope : String
  matcher : String
  key : String
  recordId : Int
  deriving Repr, BEq, DecidableEq, Inhabited

/-- Rows compare by scope, matcher, key and record id, in this order. -/
instance : Ord PointRow where
  compare a b :=
    (compare a.scope b.scope).then <| (compare a.matcher b.matcher).then <|
      (compare a.key b.key).then (compare a.recordId b.recordId)

/-- The saved match points. -/
abbrev PointTable := List PointRow

namespace PointTable

/-- Whether a row belongs to a matcher of a scope. -/
def owns (scope matcher : String) (row : PointRow) : Bool :=
  row.scope == scope && row.matcher == matcher

/-- Save points of a matcher; a point saved already stays once. -/
def insertPoints (t : PointTable) (scope matcher : String) (points : List (String × Int)) :
    PointTable :=
  points.foldl (fun acc p => SortedList.insert ⟨scope, matcher, p.1, p.2⟩ acc) t

/-- The record ids saved under a key of a matcher. -/
def idsForKey (t : PointTable) (scope matcher key : String) : List Int :=
  SortedList.ofList ((t.filter fun r => owns scope matcher r && r.key == key).map (·.recordId))

/-- The points of a matcher, ordered by record id and then key. -/
def loadPoints (t : PointTable) (scope matcher : String) : List (String × Int) :=
  let rows := (t.filter (owns scope matcher)).mergeSort fun a b =>
    a.recordId < b.recordId || (a.recordId == b.recordId && a.key ≤ b.key)
  rows.map fun r => (r.key, r.recordId)

/-- The record ids that have a point of a matcher. -/
def recordIds (t : PointTable) (scope matcher : String) : List Int :=
  SortedList.ofList ((t.filter (owns scope matcher)).map (·.recordId))

/-- The keys that have a point of a matcher. -/
def keys (t : PointTable) (scope matcher : String) : List String :=
  SortedList.ofList ((t.filter (owns scope matcher)).map (·.key))

/-- Delete the points of one record under a matcher. -/
def deleteRecord (t : PointTable) (scope matcher : String) (id : Int) : PointTable :=
  t.filter fun r => !(owns scope matcher r && r.recordId == id)

/-- Delete every point of a scope, with the number of rows deleted. -/
def clearScope (t : PointTable) (scope : String) : PointTable × Nat :=
  let kept := t.filter fun r => r.scope != scope
  (kept, t.length - kept.length)

end PointTable

end Catalog.Matching
