import Catalog.Store.Records

/-!
# Lineage, links and service input

Lineage edges say which record was derived from which; each edge is one row, read in both
directions. Links tie records that describe the same thing without one being derived from
the other. Both refuse an end that is not a stored record.

A record is pending input of a service while it is visible, marked as input for the
service, and not marked as processed by it. Pending input is read in ascending id order,
optionally of one record type only.
-/

namespace Catalog.Store

/-- Add a lineage edge. -/
def addLineage (predecessor successor : Int) : Tx Unit :=
  addEdge predecessor successor

/-- Remove a lineage edge. -/
def removeLineage (predecessor successor : Int) : Tx Unit :=
  modify fun s => { s with lineage := s.lineage.filter (· != (predecessor, successor)) }

/-- The ids reached from `reached` by following predecessor edges at most `fuel` times,
starting from the newly reached `frontier`. -/
def closeOver (s : Store) : Nat → List Int → List Int → List Int
  | 0, reached, _ => reached
  | fuel + 1, reached, frontier =>
    let found := s.lineage.filterMap fun e => if frontier.contains e.2 then some e.1 else none
    let fresh := SortedList.ofList (found.filter (!reached.contains ·))
    if fresh.isEmpty then reached
    else s.closeOver fuel (SortedList.union reached fresh) fresh

/-- The seeds and every record they were derived from, directly or not, ascending. Each
round reaches a new predecessor, so there are at most as many rounds as edges. -/
def populate (s : Store) (seeds : List Int) : List Int :=
  let start := SortedList.ofList seeds
  s.closeOver (s.lineage.length + 1) start start

/-- Add the successor of an edge to the set of its predecessor. -/
def addSuccessor (table : Int → List Int) (e : Int × Int) : Int → List Int :=
  fun p => if p = e.1 then SortedList.insert e.2 (table p) else table p

/-- The successors of the records `ids` names, as one read of the lineage gives them: each edge
from one of `ids` adds its successor to the set of its predecessor, and a record no edge leaves
has the empty set. -/
def successorTable (s : Store) (ids : List Int) : Int → List Int :=
  (s.lineage.filter fun e => ids.contains e.1).foldl addSuccessor fun _ => []

/-- Hand each record that has an id the set of its id and take that set out of the table, so
that a later record with the same id finds the empty set; a record without an id stays as it
is. -/
def handOutSuccessors (table : Int → List Int) : List Record → List Record
  | [] => []
  | r :: rs =>
    match r.id with
    | some id =>
      { r with successors := table id } ::
        handOutSuccessors (fun p => if p = id then [] else table p) rs
    | none => r :: handOutSuccessors table rs

/-- Fill the successors of the stored records of a slice from one read of the lineage. -/
def injectSuccessorIds (s : Store) (rs : List Record) : List Record :=
  let ids := SortedList.ofList (rs.filterMap (·.id))
  if ids.isEmpty then rs else handOutSuccessors (s.successorTable ids) rs

/-- Link one record to another. -/
def addLink (fromId toId : Int) : Tx Unit := do
  let s ← get
  if s.links.contains (fromId, toId) then pure ()
  else if s.hasRecord fromId && s.hasRecord toId then
    set { s with links := s.links ++ [(fromId, toId)] }
  else fault .foreignKey

/-- The ids of the records linked to a record, ascending. -/
def linkedIds (s : Store) (toId : Int) : List Int :=
  SortedList.ofList (firsts s.links toId)

/-- Whether a row is pending input of a service, above an id, of a record type when one is
named. -/
def isPending (s : Store) (service : Int) (recordType : Option String) (after : Int)
    (row : RecordRow) : Bool :=
  row.visible && s.inputFor.contains (row.id, service) && decide (row.id > after)
    && !s.processedBy.contains (row.id, service)
    && recordType.all (fun t => row.recordType == some t)

/-- Up to `limit` pending records of a service above an id; a negative limit sets no
bound. -/
def pending (s : Store) (service : Int) (recordType : Option String) (after : Int)
    (limit : Int) : Outcome (List Record) :=
  let rows := s.records.filter (s.isPending service recordType after)
  let rows := if limit < 0 then rows else rows.take limit.toNat
  rows.mapM s.view

/-- How many records are pending input of a service. -/
def countPending (s : Store) (service : Int) (recordType : Option String) : Nat :=
  (s.records.filter (s.isPending service recordType 0)).length

/-- The ids of the records a service has processed, ascending. -/
def processedByService (s : Store) (service : Int) : List Int :=
  SortedList.ofList (firsts s.processedBy service)

end Catalog.Store
