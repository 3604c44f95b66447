import Catalog.Engine.Hooks
import Catalog.Service.Version

/-!
# The life of a service

* Registering a service checks its kind, its version and that its name is free, stores it,
  installs it (a failed install removes it again) and queues a job to process all its input.
* Deleting a service, which no run may hold, deletes its outputs: each output loses its
  lineage and is sent back to the services that consumed it, which get jobs to retract what
  they made of it. Then the service's marks, directives, jobs and counters go, the service
  is uninstalled and its row deleted.
* Updating a service, which no run may hold, to a version not below its own runs the update
  scripts of the versions in between, oldest first, each in one transaction.
* Recovering after an interruption purges the staged rows of every batch and sets each
  service a run held back to not running, with a job to process its input again.
-/

namespace Catalog.Service

open Catalog.Store Catalog.Pipeline Catalog.Site Catalog.Engine

/-- The kinds of service this library implements. -/
def knownKinds : List String :=
  ["normalization", "aggregation", "scripted"]

/-- Register a service and queue a job for all its input. -/
def register (name kind version : String) : Action ServiceRow := do
  unless knownKinds.contains kind do
    throw (.config ("No service implementation for kind '" ++ kind ++ "'"))
  let _ ← Site.ofOutcome (Version.parse version)
  if (← lookup (·.serviceNamed? name)).isSome then
    throw (.invalidInput ("Service " ++ name ++ " already exists"))
  let info ← atomically (insertService name kind version)
  match ← Site.attempt (do install (← instantiate info)) with
  | .error e =>
    atomically (Store.deleteService info.id)
    throw e
  | .ok _ =>
    let _ ← enqueue info.id none .serviceReprocess
    pure info

/-- The service of an id, or the failure naming it. -/
def requireService (id : Int) : Action ServiceRow := do
  match ← lookup (·.service? id) with
  | some info => pure info
  | none => throw (.notFound ("service " ++ toString id))

/-- Withdraw one output of a deleted service: cut its lineage, mark it deleted and send it
back to its consumers. -/
def withdrawOutput (repo : String) (ev : Routing) (output : Record) : Action Routing := do
  let outputId ← Site.ofOutcome output.requireId
  let predecessors ← query (·.predecessorIds outputId)
  predecessors.forM fun p => atomically (removeLineage p outputId)
  let output := { output with predecessors := [], status := .deleted }
  let (output, ev) := ev.reprocess output
  atomically (updateRecord repo output)
  pure ev

/-- Withdraw the outputs of a repository page by page from above `cursor`, reading at most
`pages` pages. -/
def withdrawPages (repo : String) (size : Nat) : Nat → Int → Routing → Action Routing
  | 0, _, ev => pure ev
  | pages + 1, cursor, ev => do
    let page ← lookup (·.page repo { after := cursor } size)
    match page.getLast? with
    | none => pure ev
    | some last =>
      let ev ← page.foldlM (withdrawOutput repo) ev
      withdrawPages repo size pages (last.id.getD cursor) ev

/-- Delete a service and withdraw its outputs. -/
def delete (id : Int) : Action Unit := do
  let info ← requireService id
  if info.status.isActive then
    throw (.invalidInput ("Service " ++ info.name ++ " is " ++ info.status.name ++
      "; stop it before deleting"))
  let size := (max 1 (← get).settings.engine.pageSize).toNat
  let pages := (← query (·.records.length)) + 1
  let ev ← withdrawPages info.repoName size pages 0 { directives := [] }
  processComplete info.repoName
  let _ ← enqueueScheduled ev
  atomically (clearMarks id)
  let _ ← atomically (deleteDirectivesFor id)
  let _ ← atomically (removeJobsFor id)
  atomically (deleteCounters info.name)
  uninstall info (← instantiate info)
  atomically (Store.deleteService id)

/-- Run an update script on the store. What the script committed stays, even when it fails
afterwards. -/
def applyUpdate (text : String) : Action Unit := do
  let site ← get
  let (store, fault) := site.store.applyScript text
  set { site with store }
  match fault with
  | some f => throw (.storage f)
  | none => pure ()

/-- Update a service to a new version, running the update scripts in between. -/
def updateTo (id : Int) (newVersion : String) (scripts : Option (List (String × String))) :
    Action ServiceRow := do
  let info ← requireService id
  if info.status.isActive then
    throw (.invalidInput ("Service " ++ info.name ++ " is " ++ info.status.name))
  let source ← Site.ofOutcome (Version.parse info.version)
  let target ← Site.ofOutcome (Version.parse newVersion)
  if compare target source == .lt then
    throw (.invalidInput ("Cannot downgrade " ++ info.name ++ " from " ++ source.display ++
      " to " ++ target.display))
  if let some files := scripts then
    let found := files.filterMap fun (name, sql) => (scriptVersion name).map (·, sql)
    (plan found source target).forM fun s => applyUpdate s.2
  let _ ← instantiate info
  atomically (setVersion id newVersion)
  requireService id

/-- Reset the services a run held when the site stopped, and queue them again; the result
lists them by id. -/
def recover : Action (List Int) := do
  let _ ← atomically purgeAbandoned
  let held ← lookup (·.interrupted)
  held.mapM fun info => do
    atomically (setStatus info.id .notRunning)
    emit (.statusChanged info.id info.status .notRunning)
    let _ ← enqueue info.id none .serviceReprocess
    pure info.id

end Catalog.Service
