import Catalog.Site.Queue

/-!
# Running a harvest schedule

A harvest schedule is run step by step; the first failing step ends the run. A step asks
the feed for the records of its format and set changed since the step last ran (everything,
the first time) and stores them in the provider's repository within one write batch:

* a record the repository holds takes the sent format, sets and status, and the sent payload
  unless it is deleted; a deleted one is sent back to its consumers, any other is routed by
  the provider's directives;
* a deletion of a record the repository never held is ignored;
* any other record is added and routed.

If storing fails, the batch is aborted. Otherwise the batch is committed, the index
committed, the routed jobs queued, the time of the step noted and the step announced.
-/

namespace Catalog.Harvest

open Catalog.Store Catalog.Pipeline Catalog.Site

/-- What one harvest step did: the request the feed reported, and how many records it
added, updated, deleted and ignored. -/
structure Summary where
  stepId : Int
  request : String
  added : Nat := 0
  updated : Nat := 0
  deleted : Nat := 0
  ignored : Nat := 0

/-- The number of records a step received. -/
def Summary.total (s : Summary) : Nat :=
  s.added + s.updated + s.deleted + s.ignored

/-- Send a request to the feed. -/
def ask (r : Request) : Action (List Harvested × String) := do
  let site ← get
  let (feed, answer) := site.feed.answer r
  set { site with feed }
  Site.ofOutcome answer

/-- A record as a harvest leaves it. -/
def Harvested.applyTo (h : Harvested) (format : String) (r : Record) : Record :=
  let r := { r with format, sets := h.sets }
  if h.deleted then { r with status := .deleted }
  else { r with status := .active, payload := h.payload }

/-- Store harvested records in the open batch, routing them. -/
def stage (format : String) : List Harvested → Batch → Routing → Summary →
    Action (Batch × Routing × Summary)
  | [], b, ev, sum => pure (b, ev, sum)
  | h :: rest, b, ev, sum => do
    match ← lookup (b.getOai? · h.oaiId) with
    | some r =>
      let r := h.applyTo format r
      let (r, ev, sum) :=
        if r.isDeleted then
          let (r, ev) := ev.reprocess r
          (r, ev, { sum with deleted := sum.deleted + 1 })
        else
          let (r, ev, _) := ev.evaluate r
          (r, ev, { sum with updated := sum.updated + 1 })
      atomically (updateRecord b.repo r)
      stage format rest b ev sum
    | none =>
      if h.deleted then stage format rest b ev { sum with ignored := sum.ignored + 1 }
      else
        let (r, ev, _) := ev.evaluate (h.applyTo format (Record.new h.oaiId format))
        let (_, b) ← atomically (b.add r)
        stage format rest b ev { sum with added := sum.added + 1 }

/-- Run one step of a provider's schedule. -/
def runStep (provider : ProviderRow) (step : StepRow) : Action Summary := do
  let site ← get
  let started := site.store.clock
  let (records, reported) ← ask {
    baseUrl := provider.baseUrl, metadataPrefix := step.format, setSpec := step.setSpec
    fromMs := step.lastRan, untilMs := started, harvestAll := step.lastRan.isNone
    timeoutMs := site.settings.harvest.timeoutMs, stepId := step.id }
  let directives ← query (·.directivesFor (.provider provider.id))
  let (b, _) ← atomically (Batch.start provider.repoName)
  let summary : Summary := { stepId := step.id, request := reported }
  match ← Site.attempt (stage step.format records b { directives } summary) with
  | .error e =>
    let _ ← Site.attempt (atomically b.abort)
    throw e
  | .ok (b, ev, sum) =>
    let _ ← atomically b.commit
    processComplete provider.repoName
    let _ ← enqueueScheduled ev
    atomically (setLastRan step.id started)
    emit (.harvestCompleted provider.id step.id sum.total)
    pure sum

/-- Run every step of a schedule in order. -/
def runSchedule (id : Int) : Action (List Summary) := do
  let (schedule, steps) ← lookup (·.schedule id)
  let provider ← lookup (·.provider schedule.providerId)
  steps.mapM (runStep provider)

end Catalog.Harvest
