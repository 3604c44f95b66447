import Catalog.Matching.Normalizer
import Catalog.Matching.Parsed
import Catalog.Matching.PointStore

/-!
# Field matchers

A matcher reads the keys of one family of fields and indexes records by them: two records
that share a key are candidates for being the same work. A matcher with one field takes the
key of each of its values; a matcher with several fields builds one key per occurrence,
joining the keys of the `i`-th value of every field that has one.

A matcher holds its points (pairs of key and record id) in memory. When it is backed by the
store under a scope, the points added since the last save are remembered as unsaved, saving
them (`flush`) writes them to the store, and every lookup reads the memory and the store
together, so that points saved and then dropped from memory are still found.
-/

namespace Catalog.Matching

/-- A key held by a record. -/
structure Point where
  key : String
  recordId : Int
  deriving Repr, BEq, DecidableEq, Inhabited

/-- Points compare by key and then record id. -/
instance : Ord Point where
  compare a b := (compare a.key b.key).then (compare a.recordId b.recordId)

/-- A matcher and its points. -/
structure Matcher where
  name : String
  fields : List String
  normalizer : Normalizer
  /-- The points in memory. -/
  points : List Point := []
  /-- The points in memory that the store does not have yet. -/
  unsaved : List Point := []
  /-- The scope of the store backing the matcher, if any. -/
  scope : Option String := none
  deriving Repr, Inhabited

/-- The names of the built-in matchers. -/
def builtinMatcherNames : List String :=
  ["isbn", "issn", "lccn", "system_control_number", "x024a", "x028ab", "x130a", "x240a",
    "x245ah", "x260abc"]

/-- The fields and normalizer of a built-in matcher. -/
def builtinDefinition? (name : String) : Option (List String × Normalizer) :=
  if name = "isbn" then some (["020a"], .isbn)
  else if name = "issn" then some (["022a"], .issn)
  else if name = "lccn" then some (["010a"], .lccn)
  else if name = "system_control_number" then some (["035a"], .controlNumber)
  else if name = "x024a" then some (["024a"], .text)
  else if name = "x028ab" then some (["028a", "028b"], .text)
  else if name = "x130a" then some (["130a"], .text)
  else if name = "x240a" then some (["240a"], .text)
  else if name = "x245ah" then some (["245a", "245h"], .text)
  else if name = "x260abc" then some (["260a", "260b", "260c"], .text)
  else none

/-- An empty built-in matcher of the given name. -/
def Matcher.builtin? (name : String) : Option Matcher :=
  (builtinDefinition? name).map fun (fields, normalizer) => { name, fields, normalizer }

namespace Matcher

/-- The keys of one occurrence of a multi-field matcher: the keys of the `i`-th values, in
field order, joined by blanks; none when no value has a key. -/
def occurrenceKey (m : Matcher) (columns : List (List String)) (i : Nat) : Option String :=
  let parts := columns.filterMap (·[i]?) |>.filterMap m.normalizer.apply
  if parts.isEmpty then none else some (" ".intercalate parts)

/-- The keys a record has under the matcher. -/
def extractKeys (m : Matcher) (r : ParsedRecord) : List String :=
  match m.fields with
  | [field] => SortedList.ofList ((r.values field).filterMap m.normalizer.apply)
  | fields =>
    let columns := fields.map r.values
    let occurrences := (columns.map List.length).foldl max 0
    SortedList.ofList ((List.range occurrences).filterMap (m.occurrenceKey columns))

/-- Index a record under its keys, with the number of keys. A point that is new in memory
is also remembered as unsaved when the matcher is backed by the store. -/
def add (m : Matcher) (r : ParsedRecord) : Matcher × Nat :=
  let keys := m.extractKeys r
  let m := keys.foldl (fun m k =>
    let p : Point := ⟨k, r.id⟩
    if SortedList.contains p m.points then m
    else
      { m with
        points := SortedList.insert p m.points
        unsaved := if m.scope.isSome then SortedList.insert p m.unsaved else m.unsaved }) m
  (m, keys.length)

/-- The matcher without the points of a record, in memory and among the unsaved. -/
def forget (m : Matcher) (id : Int) : Matcher :=
  { m with
    points := m.points.filter (·.recordId != id)
    unsaved := m.unsaved.filter (·.recordId != id) }

@[simp] theorem forget_scope (m : Matcher) (id : Int) : (m.forget id).scope = m.scope := rfl

@[simp] theorem forget_name (m : Matcher) (id : Int) : (m.forget id).name = m.name := rfl

/-- Drop every point of a record, from memory and from the store. -/
def remove (m : Matcher) (id : Int) (t : PointTable) : Matcher × PointTable :=
  let m := m.forget id
  match m.scope with
  | some scope => (m, t.deleteRecord scope m.name id)
  | none => (m, t)

/-- The ids of the records that have a key, in memory or in the store. -/
def matchingIds (m : Matcher) (key : String) (t : PointTable) : List Int :=
  let inMemory := SortedList.ofList ((m.points.filter (·.key == key)).map (·.recordId))
  match m.scope with
  | some scope => SortedList.union inMemory (t.idsForKey scope m.name key)
  | none => inMemory

/-- The ids of the other records sharing a key with a record. -/
def getMatchingIds (m : Matcher) (r : ParsedRecord) (t : PointTable) : List Int :=
  let ids := (m.extractKeys r).foldl (fun acc k => SortedList.union acc (m.matchingIds k t)) []
  SortedList.erase r.id ids

/-- The number of records with a point, in memory or in the store. -/
def recordCount (m : Matcher) (t : PointTable) : Nat :=
  let inMemory := SortedList.ofList (m.points.map (·.recordId))
  match m.scope with
  | some scope => (SortedList.union (t.recordIds scope m.name) inMemory).length
  | none => inMemory.length

/-- The number of keys with a point, in memory or in the store. -/
def keyCount (m : Matcher) (t : PointTable) : Nat :=
  let inMemory := SortedList.ofList (m.points.map (·.key))
  match m.scope with
  | some scope => (SortedList.union (t.keys scope m.name) inMemory).length
  | none => inMemory.length

/-- The unsaved points, as the pairs of key and record id the store saves. -/
def pending (m : Matcher) : List (String × Int) :=
  m.unsaved.map fun p => (p.key, p.recordId)

/-- The matcher once it has handed its unsaved points to the store; when `force` holds,
its memory is emptied too. -/
def release (m : Matcher) (force : Bool) : Matcher :=
  let m := { m with unsaved := [] }
  if force then { m with points := [] } else m

@[simp] theorem release_scope (m : Matcher) (force : Bool) : (m.release force).scope = m.scope := by
  cases force <;> rfl

@[simp] theorem release_name (m : Matcher) (force : Bool) : (m.release force).name = m.name := by
  cases force <;> rfl

/-- The matcher with the points the store holds for it under a scope read into memory. -/
def withStored (m : Matcher) (scope : String) (t : PointTable) : Matcher :=
  let loaded := t.loadPoints scope m.name
  { m with points := loaded.foldl (fun acc p => SortedList.insert ⟨p.1, p.2⟩ acc) m.points }

/-- Save the unsaved points to the store; when `force` holds, also empty the memory. A
matcher without a store is left as it is. -/
def flush (m : Matcher) (force : Bool) (t : PointTable) : Matcher × PointTable :=
  match m.scope with
  | none => (m, t)
  | some scope => (m.release force, t.insertPoints scope m.name m.pending)

/-- Save all points and read back every stored point of the matcher into memory. A matcher
without a store is left as it is. -/
def load (m : Matcher) (t : PointTable) : Matcher × PointTable :=
  match m.scope with
  | none => (m, t)
  | some scope =>
    let (m, t) := m.flush true t
    (m.withStored scope t, t)

end Matcher

end Catalog.Matching
