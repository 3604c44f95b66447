import Catalog.Json.Value
import Catalog.Error
import Catalog.Data.SortedList

/-!
# Records

A record is one metadata document of a repository: its OAI identifier, its metadata format,
the sets it belongs to, an optional record type, whether it is active or deleted, and its
payload. A record also carries its links to other records: the records it was derived from
(`predecessors`), those derived from it (`successors`), the services that have processed
it (`processedBy`) and those it still waits for (`inputFor`). All of these are sets, kept as
ascending lists. A record that has been stored has an `id`.
-/

namespace Catalog

/-- Whether a record is current or withdrawn. -/
inductive RecordStatus where
  | active
  | deleted
  deriving Repr, BEq, DecidableEq, Inhabited

/-- The stored name of a record status. -/
def RecordStatus.name : RecordStatus → String
  | .active => "ACTIVE"
  | .deleted => "DELETED"

/-- Read a record status from its stored name. -/
def RecordStatus.parse (s : String) : Outcome RecordStatus :=
  if s = "ACTIVE" then .ok .active
  else if s = "DELETED" then .ok .deleted
  else .error (.internal ("Unknown record status: " ++ s))

/-- A metadata record. -/
structure Record where
  id : Option Int := none
  oaiId : String
  format : String
  sets : List String := []
  recordType : Option String := none
  status : RecordStatus := .active
  payload : Json := .obj []
  predecessors : List Int := []
  successors : List Int := []
  processedBy : List Int := []
  inputFor : List Int := []
  deriving Inhabited

namespace Record

/-- A new active record with an empty object as payload. -/
def new (oaiId format : String) : Record :=
  { oaiId, format }

/-- Whether the record is deleted. -/
def isDeleted (r : Record) : Bool :=
  r.status == .deleted

/-- The id of a stored record; a record never stored is refused. -/
def requireId (r : Record) : Outcome Int :=
  match r.id with
  | some id => .ok id
  | none => .error (.invalidInput ("Record " ++ r.oaiId ++ " has not been stored"))

end Record

end Catalog
