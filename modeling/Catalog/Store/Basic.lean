import Catalog.Record.Basic
import Catalog.Service.Status
import Catalog.Pipeline.Stats
import Catalog.Pipeline.Directive
import Catalog.Pipeline.Job
import Catalog.Matching.PointStore
import Catalog.Store.Schema

/-!
# The record store

The store holds every table of the system as a list of rows: the records of all
repositories with their sets, lineage edges, links and service marks; the open write
batches and the repositories' modification times; providers, services, processing
directives, queued jobs, record types, identifier counters, match points, harvest schedules
and their steps; and the tables that update scripts created.

A table with generated ids draws them from its own sequence: the next id is one more than
the last id the table ever handed out, so an id is never reused, even after its row is
deleted. A transaction (`Tx`) either succeeds with a new store or fails with an error and no
store at all; the caller keeps the store it had, so a failed transaction leaves no trace,
not even a consumed id.

Records are stamped with the store's clock, which stands still: no answer shows a time.
-/

namespace Catalog.Store

open Catalog.Pipeline

/-- A stored record: its row of the record table. Sets, lineage and service marks are rows
of their own tables. A row that is not visible is staged by the write batch `batch`. The
payload is kept as the JSON it reads as; `rawPayload` is the stored text of a payload that
does not read as JSON, which only an update script can write. -/
structure RecordRow where
  id : Int
  repo : String
  oaiId : String
  format : String
  recordType : Option String
  status : RecordStatus
  payload : Json
  rawPayload : Option String := none
  visible : Bool
  batch : Option Nat
  updatedAt : Int
  deriving Inhabited

/-- A stored service with its running totals and the repository of its output. `strayStatus` is a stored status text that
names no status, which only an update script can write; reading such a service fails. -/
structure ServiceRow where
  id : Int
  name : String
  kind : String
  version : String
  repoName : String
  status : Service.Status
  strayStatus : Option String := none
  totals : ServiceTotals
  deriving Inhabited

/-- The repository that holds the output of a service of this name. -/
def serviceRepo (name : String) : String :=
  "service:" ++ name

/-- A stored harvest provider and the repository of its records. -/
structure ProviderRow where
  id : Int
  name : String
  baseUrl : String
  repoName : String
  deriving Inhabited

/-- The repository that holds the records harvested from a provider of this name. -/
def providerRepo (name : String) : String :=
  "provider:" ++ name

/-- A stored harvest schedule of a provider. -/
structure ScheduleRow where
  id : Int
  name : String
  providerId : Int
  deriving Inhabited

/-- A step of a harvest schedule: one format and optionally one set, harvested in
`order`, and when it last ran. -/
structure StepRow where
  id : Int
  scheduleId : Int
  order : Int
  format : String
  setSpec : Option String
  lastRan : Option Int
  deriving Inhabited

/-- The priority of a record type within a service. -/
structure RecordTypeRow where
  serviceId : Int
  name : String
  priority : Int
  deriving Inhabited

/-- The next value of a named counter within a scope. -/
structure CounterRow where
  scope : String
  name : String
  next : Int
  deriving Inhabited

/-- The tables whose rows get generated ids. -/
inductive Sequence where
  | records
  | providers
  | services
  | directives
  | jobs
  | schedules
  | steps
  deriving Repr, DecidableEq

end Catalog.Store

namespace Catalog

/-- Every table of the system. Relation tables hold pairs: `lineage` holds
(predecessor, successor), `links` holds (from, to), `processedBy` and `inputFor` hold
(record, service), `recordSets` holds (record, set), `openBatches` holds (batch, repository)
and `modified` holds (repository, time of its last change). `strayKinds` holds (job, kind
text) for the jobs whose stored kind names no kind. `tables` is the schema: every
table, index and view with the rows of the tables that update scripts created; a table of
the schema that a script dropped is missing from it. -/
structure Store where
  records : List Store.RecordRow := []
  recordSets : List (Int × String) := []
  lineage : List (Int × Int) := []
  links : List (Int × Int) := []
  processedBy : List (Int × Int) := []
  inputFor : List (Int × Int) := []
  openBatches : List (Nat × String) := []
  modified : List (String × Int) := []
  providers : List Store.ProviderRow := []
  services : List Store.ServiceRow := []
  directives : List Pipeline.Directive := []
  jobs : List Pipeline.Job := []
  strayKinds : List (Int × String) := []
  recordTypes : List Store.RecordTypeRow := []
  counters : List Store.CounterRow := []
  points : Matching.PointTable := []
  schedules : List Store.ScheduleRow := []
  steps : List Store.StepRow := []
  tables : Sql.Database := Store.initialTables
  lastId : Store.Sequence → Int := fun _ => 0
  lastBatch : Nat := 0
  clock : Int := Store.storeClock

end Catalog

namespace Catalog.Store

open Catalog.Pipeline

instance : Inhabited Store := ⟨{}⟩

/-- A transaction on the store: it fails as a whole or yields a value and a new store. -/
abbrev Tx := StateT Store (Except Error)

/-- Fail a transaction because the store refused a statement. -/
def fault {α : Type} (f : StoreFault) : Tx α :=
  throw (.storage f)

/-- Fail a transaction with a library error. -/
def failWith {α : Type} (e : Error) : Tx α :=
  throw e

/-- Run a library computation inside a transaction. -/
def ofOutcome {α : Type} : Outcome α → Tx α
  | .ok a => pure a
  | .error e => throw e

/-- Whether the schema has a table of this name; a table an update script dropped is
missing. -/
def hasTable (s : Store) (name : String) : Bool :=
  (s.tables.tableIn? .main name).isSome

/-- Fail a reading of a table that an update script dropped. -/
def needTable (s : Store) (name : String) : Outcome Unit :=
  if s.hasTable name then .ok () else .error (.storage (.noSuchTable name))

/-- Fail a transaction on a table that an update script dropped. -/
def useTable (name : String) : Tx Unit := do
  if !(← get).hasTable name then fault (.noSuchTable name)

/-- The next id of a table's sequence. -/
def nextId (q : Sequence) : Tx Int := do
  let s ← get
  let id := s.lastId q + 1
  set { s with lastId := fun q' => if q' = q then id else s.lastId q' }
  pure id

/-- A fresh write batch id. -/
def nextBatch : Tx Nat := do
  let s ← get
  set { s with lastBatch := s.lastBatch + 1 }
  pure (s.lastBatch + 1)

/-- Add a pair to a relation unless it is there already. -/
def addPair {α β : Type} [BEq α] [BEq β] (xs : List (α × β)) (p : α × β) :
    List (α × β) :=
  if xs.contains p then xs else xs ++ [p]

/-- The second components of the pairs whose first component is `a`. -/
def seconds {α β : Type} [BEq α] (xs : List (α × β)) (a : α) : List β :=
  xs.filterMap fun p => if p.1 == a then some p.2 else none

/-- The first components of the pairs whose second component is `b`. -/
def firsts {α β : Type} [BEq β] (xs : List (α × β)) (b : β) : List α :=
  xs.filterMap fun p => if p.2 == b then some p.1 else none

/-- Whether a record row of this id exists, staged or visible. -/
def hasRecord (s : Store) (id : Int) : Bool :=
  s.records.any (·.id == id)

/-- Note that a repository changed now. -/
def touch (repo : String) : Tx Unit :=
  modify fun s =>
    { s with modified := (s.modified.filter (·.1 != repo)) ++ [(repo, s.clock)] }

end Catalog.Store
