import Catalog.Site.Queue
import Catalog.Pipeline.Identifiers

/-!
# A pass of a service

A pass takes a service through its pending input. Besides the site, it keeps the service's
row and worker, the open output batch, the counts of the pass, the totals stored before it,
the routing of the outputs, the counters that name new outputs, the output set asked for,
the records processed since the last checkpoint, the records skipped after a failure, and
the run control, through which a pass is paused or canceled between records.

A pass computation may fail and keeps, like a site action, what it did before.
-/

namespace Catalog.Engine

open Catalog.Store Catalog.Pipeline Catalog.Service Catalog.Site

/-- Requests to pause or cancel a run, and what its watcher does when the run pauses:
resume it, or cancel it. -/
structure Control where
  paused : Bool := false
  canceled : Bool := false
  cancelOnPause : Bool := false
  deriving Inhabited

/-- The state of a pass. -/
structure Pass where
  info : ServiceRow
  worker : Worker
  batch : Option Batch := none
  stats : PassStats := {}
  base : ServiceTotals := {}
  routing : Routing
  oaiIds : OaiIds
  counters : ElementCounters
  outputSet : Option String
  sinceCheckpoint : Nat := 0
  skipped : List Int := []
  control : Control

/-- A computation of a pass on a site. -/
abbrev PassM := ExceptT Error (StateM (Site × Pass))

/-- Run a site action within a pass. -/
def onSite {α : Type} (a : Action α) : PassM α := do
  let (site, pass) ← get
  let (r, site) := (a.run).run site
  set (site, pass)
  match r with
  | .ok x => pure x
  | .error e => throw e

/-- The state of the pass. -/
def current : PassM Pass := do
  pure (← get).2

/-- Change the state of the pass. -/
def update (f : Pass → Pass) : PassM Unit :=
  modify fun (site, pass) => (site, f pass)

/-- Fail the pass. -/
def fail {α : Type} (e : Error) : PassM α :=
  throw e

/-- Run a library computation within a pass. -/
def ofOutcome {α : Type} : Outcome α → PassM α
  | .ok a => pure a
  | .error e => throw e

/-- Run a computation of the pass, catching its failure. -/
def attempt {α : Type} (m : PassM α) : PassM (Except Error α) :=
  tryCatch (.ok <$> m) (fun e => pure (.error e))

/-! ## What a service may use while it processes a record -/

/-- The open output batch. -/
def outputBatch : PassM Batch := do
  match (← current).batch with
  | some b => pure b
  | none => fail (.internal "No open output batch")

/-- The outputs of this service already derived from a record, visible or staged by the
open batch, by id. -/
def existingSuccessors (inputId : Int) : PassM (List Record) := do
  let b ← outputBatch
  onSite (lookup fun s => (s.successorIds inputId).filterMapM (b.get? s))

/-- The next OAI identifier of the service. -/
def nextOaiId : PassM String := do
  let (id, g) := (← current).oaiIds.take
  update fun p => { p with oaiIds := g }
  pure id

/-- The next number of a kind of entity. -/
def nextElement (k : ElementKind) : PassM Int := do
  let (n, c) := (← current).counters.take k
  update fun p => { p with counters := c }
  pure n

/-- Count a warning. -/
def warn : PassM Unit :=
  update fun p => { p with stats := p.stats.warn }

/-- Replace the worker's state. -/
def setWorker (w : Worker) : PassM Unit :=
  update fun p => { p with worker := w }

/-- Change the saved match points in a transaction of its own, with the triggers it sets
off. -/
def changePoints (f : Matching.PointTable → Matching.PointTable) : Action Unit :=
  atomically (modify fun s : Store => { s with points := f s.points })

end Catalog.Engine
