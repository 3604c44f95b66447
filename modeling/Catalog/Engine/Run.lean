import Catalog.Engine.Hooks

/-!
# Running a service

A run takes a service through its pending input in one pass:

1. it claims the service (a service that a run holds is refused) and announces RUNNING;
2. it processes the input of each record type of the service, lowest priority first, each
   type followed by a checkpoint, and then all remaining input;
3. it closes the pass: the last batch is committed, the index committed, the totals and
   counters stored, and the final status (NOT_RUNNING, CANCELED or ERROR) set and announced.

Input is read a page at a time in ascending id order. Between records the run honours the
control: a cancel ends it, a pause sets the status PAUSED until the watcher resumes or
cancels it. A record's outputs are stored in the open batch with the record as predecessor
(and in the output set, when one is asked for) and routed by the service's directives; the
record is marked processed when the batch ends. A checkpoint falls due after every
`checkpoint_interval` records: the service is told, the batch committed, the jobs its routing
scheduled queued, the index committed, the totals and counters stored, and a new batch
opened.

A record that fails counts as an error. Under the policy that aborts, the pass fails; under
a budget, the record is skipped until the errors exceed the budget. A failure of the store
always fails the pass.
-/

namespace Catalog.Engine

open Catalog.Store Catalog.Pipeline Catalog.Service Catalog.Site Catalog.Config

/-- How a run ended: the service, its final status, the counts and the reason of a
failure. -/
structure RunResult where
  serviceId : Int
  status : Status
  stats : PassStats
  failure : Option String

/-- How a stretch of processing ended. -/
inductive Flow where
  | completed
  | canceled
  deriving BEq, Inhabited

/-- The engine settings of the site. -/
def engineSettings : PassM EngineSettings := do
  pure (← get).1.settings.engine

/-- Store the pass's totals with the service. -/
def flushStats : PassM Unit := do
  let p ← current
  let available ← onSite (lookup (·.count p.info.repoName {}))
  onSite (atomically (saveTotals p.info.id (p.stats.totals p.base available)))

/-- Store the pass's counters; a stored counter is never lowered. -/
def persistCounters : PassM Unit := do
  let p ← current
  onSite <| atomically do
    saveCounter p.oaiIds.scope "oai" p.oaiIds.next
    ElementKind.all.forM fun k => saveCounter p.counters.scope k.name (p.counters.next k)

/-- Queue the jobs the routing scheduled. -/
def enqueueRouted : PassM Unit := do
  let ev := (← current).routing
  update fun p => { p with routing := { ev with scheduled := [] } }
  let _ ← onSite (enqueueScheduled ev)

/-- Open a new output batch. -/
def openBatch : PassM Unit := do
  let p ← current
  let (b, _) ← onSite (atomically (Batch.start p.info.repoName))
  update fun p => { p with batch := some b }

/-- Take the open batch away from the pass. -/
def takeBatch : PassM (Option Batch) := do
  let b := (← current).batch
  update fun p => { p with batch := none }
  pure b

/-- Commit a checkpoint and open a new batch. -/
def checkpoint : PassM Unit := do
  checkpointHook
  if let some b ← takeBatch then
    let _ ← onSite (atomically b.commit)
  enqueueRouted
  onSite commitIndex
  flushStats
  persistCounters
  update fun p =>
    { p with sinceCheckpoint := 0, stats := { p.stats with errorsSinceCommit := 0 } }
  openBatch
  let p ← current
  onSite (emit (.checkpoint p.info.id p.stats.processed))

/-- Honour the control between records: a cancel ends the stretch; a pause sets the status
PAUSED, after which the watcher either cancels the run or resumes it. -/
def observe : PassM Flow := do
  let p ← current
  if p.control.canceled then return .canceled
  if !p.control.paused then return .completed
  onSite (transition p.info.id .running .paused)
  if p.control.cancelOnPause then
    update fun p => { p with control := { p.control with canceled := true } }
    return .canceled
  update fun p => { p with control := { p.control with paused := false } }
  onSite (transition p.info.id .paused .running)
  pure .completed

/-- Count a failed record and apply the error policy. -/
def handleFailure (r : Record) (e : Error) : PassM Unit := do
  update fun p => { p with stats := p.stats.recordError r.oaiId }
  let e ← match e with
    | .storage _ => fail e
    | .recordProcessing _ _ => pure e
    | other => pure (.recordProcessing r.oaiId other.message)
  match (← engineSettings).errorPolicy with
  | .abortPass => fail e
  | .skipWithBudget budget =>
    if (← current).stats.errors > budget then
      fail (.internal ("Error budget of " ++ toString budget ++ " exhausted; last failure: " ++
        e.message))
    if let some id := r.id then
      update fun p => { p with skipped := id :: p.skipped }

/-- An output of a record as it is stored, with the routing that results: the record is
among its predecessors, it is in the output set asked for, the service's directives route
it, and a deleted output is sent back to the services that consumed it. -/
def prepareOutput (p : Pass) (inputId : Int) (o : Record) : Record × Routing :=
  let o := { o with predecessors := SortedList.insert inputId o.predecessors }
  let o := match p.outputSet with
    | some s => { o with sets := SortedList.insert s o.sets }
    | none => o
  let (o, routing, _) := p.routing.evaluate o
  if o.isDeleted then routing.reprocess o else (o, routing)

/-- Write a prepared output: a stored output is rewritten, a new one is staged in the open
batch. -/
def writeOutput (o : Record) : PassM Unit := do
  let b ← outputBatch
  if o.id.isSome then
    onSite (atomically (updateRecord b.repo o))
    update fun p =>
      { p with stats := { p.stats with outputsUpdated := p.stats.outputsUpdated + 1 } }
  else
    let (_, b) ← onSite (atomically (b.add o))
    update fun p =>
      { p with batch := some b, stats := { p.stats with outputsAdded := p.stats.outputsAdded + 1 } }

/-- Store one output of a record in the open batch. -/
def storeOutput (inputId : Int) (o : Record) : PassM Unit := do
  let p ← current
  let (o, routing) := prepareOutput p inputId o
  update fun p => { p with routing }
  writeOutput o

/-- Process one record and store its outputs. -/
def processRecord (r : Record) : PassM Unit := do
  let inputId ← Engine.ofOutcome r.requireId
  let _ ← outputBatch
  let result ← attempt (processWith r)
  update fun p =>
    { p with
      stats := { p.stats with processed := p.stats.processed + 1 }
      sinceCheckpoint := p.sinceCheckpoint + 1 }
  match result with
  | .error e => handleFailure r e
  | .ok outputs =>
    outputs.forM (storeOutput inputId)
    let b ← outputBatch
    update fun p => { p with batch := some (b.mark inputId p.info.id) }

/-- Process the records of one page; true when the run was canceled. -/
def processPage : List Record → PassM Bool
  | [] => pure false
  | r :: rest => do
    if (← observe) == .canceled then return true
    let skipped := (← current).skipped
    if !(r.id.any skipped.contains) then
      processRecord r
      if (← current).sinceCheckpoint ≥ (← engineSettings).checkpointInterval then
        checkpoint
    processPage rest

/-- Process pending input page by page from above `cursor`, reading at most `pages`
pages. -/
def processPages (recordType : Option String) : Nat → Int → PassM Flow
  | 0, _ => pure .completed
  | pages + 1, cursor => do
    let p ← current
    let size := (← engineSettings).pageSize
    let page ← onSite (lookup (·.pending p.info.id recordType cursor size))
    match page.getLast? with
    | none => pure .completed
    | some last =>
      if ← processPage page then pure .canceled
      else processPages recordType pages (last.id.getD cursor)

/-- The most pages one stretch of processing reads. Input that a pass keeps producing for
itself could otherwise be read without end. -/
def pageLimit : Nat := 1000000

/-- Process the pending input of a record type, or all of it. -/
def processPending (recordType : Option String) : PassM Flow :=
  processPages recordType pageLimit 0

/-- Process the typed input type by type, each followed by a checkpoint, then the rest. -/
def driveTypes : List String → PassM Flow
  | [] => processPending none
  | t :: rest => do
    match ← processPending (some t) with
    | .canceled => pure .canceled
    | .completed =>
      checkpoint
      driveTypes rest

/-- The body of a pass. -/
def drive : PassM Flow := do
  beginPass
  let p ← current
  let total ← onSite (query (·.countPending p.info.id none))
  update fun p => { p with stats := { p.stats with totalInput := total } }
  let types ← onSite (lookup (·.priorityList p.info.id))
  openBatch
  driveTypes types

/-- Wait for the index, commit it and note the change of the service's repository. -/
def refreshIndex : PassM Unit := do
  let p ← current
  onSite waitIndex
  onSite (processComplete p.info.repoName)

/-- Close a pass, whatever its outcome, and announce its end. -/
def finish (result : Except Error Flow) : PassM RunResult := do
  let (status, failure) : Status × Option String := match result with
    | .ok .canceled => (.canceled, none)
    | .ok .completed => (.notRunning, none)
    | .error e => (.error, some e.message)
  let _ ← attempt endPassHook
  let (status, failure) ← match ← takeBatch with
    | none => pure (status, failure)
    | some b => do
      match ← attempt (onSite (atomically b.commit)) with
      | .ok _ =>
        let _ ← attempt enqueueRouted
        pure (status, failure)
      | .error e => pure (Status.error, failure <|> some e.message)
  let commit ← attempt (if status == .notRunning then refreshIndex else onSite commitIndex)
  let (status, failure) := match commit with
    | .ok _ => (status, failure)
    | .error e => (Status.error, failure <|> some e.message)
  let _ ← attempt flushStats
  let _ ← attempt persistCounters
  let p ← current
  let now ← onSite (lookup (·.status p.info.id))
  onSite (transition p.info.id now status)
  onSite (emit (.runFinished p.info.id status p.stats.processed p.stats.errors))
  pure { serviceId := p.info.id, status, stats := p.stats, failure }

/-- Run a pass computation from a pass state. -/
def runPass {α : Type} (m : PassM α) (pass : Pass) : Action α := do
  let site ← get
  let (r, (site, _)) := (m.run).run (site, pass)
  set site
  Site.ofOutcome r

/-- The state of a new pass of a service. -/
def prepare (serviceId : Int) (outputSet : Option String) (worker : Worker) (control : Control) :
    Action Pass := do
  let some info ← lookup (·.service? serviceId)
    | throw (.notFound ("service " ++ toString serviceId))
  let directives ← query (·.directivesFor (.service info.id))
  let settings := (← get).settings.engine
  let oaiNext := (← query (·.counter? info.name "oai")).getD 1
  let counters ← query fun s => ElementKind.all.foldl (fun c k =>
    match s.counter? info.name k.name with
    | some v => c.set k v
    | none => c) (ElementCounters.new info.name)
  pure {
    info, worker, control, outputSet, counters
    base := { info.totals with errorsPerCommit := 0 }
    routing := { directives }
    oaiIds := OaiIds.new settings.domainName settings.instanceName info.name oaiNext }

/-- Run one pass of a service with a worker, into an output set, under a control. -/
def run (worker : Worker) (serviceId : Int) (outputSet : Option String) (control : Control) :
    Action RunResult := do
  let previous ← lookup (·.status serviceId)
  unless ← atomically (tryStart serviceId) do
    throw (.alreadyRunning ("service " ++ toString serviceId))
  emit (.statusChanged serviceId previous .running)
  match ← Site.attempt (prepare serviceId outputSet worker control) with
  | .error e =>
    atomically (setStatus serviceId .error)
    emit (.statusChanged serviceId .running .error)
    throw e
  | .ok pass =>
    runPass (do finish (← attempt drive)) pass

end Catalog.Engine
