import Catalog.Store.Basic

/-!
# Services in the store

A service row holds the service's name (unique), kind, version text, status and running
totals; its output repository is named after it. Starting a run claims the service: the
claim fails while a run holds it (running or paused). A service's record types carry
priorities: typed input is processed type by type, lowest priority number first, ties by
name.

Deleting a service row takes with it the directives that name it as source or target and
its record types.
-/

namespace Catalog.Store

open Catalog.Pipeline Catalog.Service

/-- The row of a service of an id, as it is stored. -/
def serviceRow? (s : Store) (id : Int) : Option ServiceRow :=
  s.services.find? (·.id == id)

/-- A service row as reading it gives it: a stored status that names no status fails. -/
def ServiceRow.read (row : ServiceRow) : Outcome ServiceRow :=
  match row.strayStatus with
  | some text => (Status.parse text).map fun _ => row
  | none => .ok row

/-- The service of an id. -/
def service? (s : Store) (id : Int) : Outcome (Option ServiceRow) := do
  s.needTable "services"
  (s.serviceRow? id).mapM ServiceRow.read

/-- The service of a name. -/
def serviceNamed? (s : Store) (name : String) : Outcome (Option ServiceRow) := do
  s.needTable "services"
  (s.services.find? (·.name == name)).mapM ServiceRow.read

/-- Every service, by id. -/
def serviceList (s : Store) : Outcome (List ServiceRow) := do
  s.needTable "services"
  s.services.mapM ServiceRow.read

/-- Insert a service, not running and with zero totals. Its repository name is checked before
its name, as the index on the repository name is the newer one. -/
def insertService (name kind version : String) : Tx ServiceRow := do
  useTable "services"
  let s ← get
  if s.services.any (·.repoName == serviceRepo name) then
    fault (.unique ["services.repo_name"])
  if s.services.any (·.name == name) then
    fault (.unique ["services.name"])
  let id ← nextId .services
  let row : ServiceRow :=
    { id, name, kind, version, repoName := serviceRepo name, status := .notRunning, totals := {} }
  modify fun s => { s with services := s.services ++ [row] }
  pure row

/-- Change a service row in place. -/
def modifyService (id : Int) (f : ServiceRow → ServiceRow) : Tx Unit := do
  useTable "services"
  modify fun s =>
    { s with services :=
      s.services.map fun (row : ServiceRow) => if row.id == id then f row else row }

/-- The status of a service. -/
def status (s : Store) (id : Int) : Outcome Status := do
  match ← s.service? id with
  | some row => .ok row.status
  | none => .error (.notFound ("service " ++ toString id))

/-- Claim a service for a run; false when a run holds it or it does not exist. -/
def tryStart (id : Int) : Tx Bool := do
  useTable "services"
  let s ← get
  match s.serviceRow? id with
  | some row =>
    if row.status.isActive then pure false
    else
      modifyService id fun row => { row with status := .running, strayStatus := none }
      pure true
  | none => pure false

/-- Set the status of a service. -/
def setStatus (id : Int) (status : Status) : Tx Unit := do
  useTable "services"
  let s ← get
  unless (s.serviceRow? id).isSome do
    failWith (.notFound ("service " ++ toString id))
  modifyService id fun row => { row with status, strayStatus := none }

/-- Store the running totals of a service. -/
def saveTotals (id : Int) (totals : ServiceTotals) : Tx Unit :=
  modifyService id fun row => { row with totals }

/-- Store the version text of a service. -/
def setVersion (id : Int) (version : String) : Tx Unit :=
  modifyService id fun row => { row with version }

/-- Delete a service row with its directives and record types. -/
def deleteService (id : Int) : Tx Unit := do
  useTable "services"
  modify fun s =>
    { s with
      services := s.services.filter (·.id != id)
      directives := s.directives.filter fun d =>
        d.target != id && d.source != .service id
      recordTypes := s.recordTypes.filter (·.serviceId != id) }

/-- The services a run holds, by id. -/
def interrupted (s : Store) : Outcome (List ServiceRow) := do
  s.needTable "services"
  pure (s.services.filter (·.status.isActive))

/-- Drop every input and processed mark naming a service. -/
def clearMarks (id : Int) : Tx Unit :=
  modify fun s =>
    { s with
      inputFor := s.inputFor.filter (·.2 != id)
      processedBy := s.processedBy.filter (·.2 != id) }

/-- Set the priority of a record type of a service. -/
def setPriority (service : Int) (name : String) (priority : Int) : Tx Unit := do
  useTable "record_types"
  let s ← get
  if s.recordTypes.any (fun t => t.serviceId == service && t.name == name) then
    set { s with
      recordTypes := s.recordTypes.map fun (t : RecordTypeRow) =>
        if t.serviceId == service && t.name == name then { t with priority } else t }
  else if (s.serviceRow? service).isSome then
    let row : RecordTypeRow := { serviceId := service, name, priority }
    set { s with recordTypes := s.recordTypes ++ [row] }
  else fault .foreignKey

/-- Whether a record type comes before another: lower priority first, then by name. -/
def RecordTypeRow.before (a b : RecordTypeRow) : Bool :=
  a.priority < b.priority || (a.priority == b.priority && decide (a.name ≤ b.name))

/-- The record types of a service in processing order. -/
def priorityList (s : Store) (service : Int) : Outcome (List String) := do
  s.needTable "record_types"
  pure (((s.recordTypes.filter (·.serviceId == service)).mergeSort RecordTypeRow.before).map
    (·.name))

end Catalog.Store
