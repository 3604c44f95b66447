import Catalog.Store.Batch
import Catalog.Store.Lineage
import Catalog.Store.Services
import Catalog.Store.Routing
import Catalog.Store.Jobs
import Catalog.Store.Script
import Catalog.Store.Triggers
import Catalog.Service.Worker
import Catalog.Harvest.Feed

/-!
# A site

A site is one installation of the pipeline: its store, its settings, the log of the events
it announced, its search index, the scripts of its scripted services and the feed that
answers its harvest requests. The search index is known only by the calls made to it:
commits and waits for queued work, counted from one; the calls whose numbers are listed as
failing fail, and count all the same.

An action on a site may fail; the site keeps what the action did before it failed. An
action runs store transactions atomically: a failed transaction changes nothing.
-/

namespace Catalog.Site

open Catalog.Store Catalog.Pipeline Catalog.Service Catalog.Config

/-- What a site announces. -/
inductive Event where
  /-- The stored status of a service changed. -/
  | statusChanged (service : Int) (old new : Status)
  /-- A run committed a checkpoint after processing this many records. -/
  | checkpoint (service : Int) (processed : Nat)
  /-- A run ended. -/
  | runFinished (service : Int) (status : Status) (processed errors : Nat)
  /-- A job was queued. -/
  | jobEnqueued (job : Job)
  /-- A harvest step stored this many records. -/
  | harvestCompleted (provider step : Int) (records : Nat)

/-- The calls made to the search index, and the calls that fail. -/
structure IndexLog where
  commits : Nat := 0
  waits : Nat := 0
  failCommits : List Nat := []
  failWaits : List Nat := []
  deriving Inhabited

end Site

/-- One installation of the pipeline. -/
structure Site where
  store : Store := {}
  settings : Config.Settings := {}
  events : List Site.Event := []
  index : Site.IndexLog := {}
  scripts : List (String × Service.Script) := []
  scriptedCheckpoints : Nat := 0
  feed : Harvest.Feed := {}

instance : Inhabited Site := ⟨{}⟩

namespace Site

open Catalog.Store Catalog.Pipeline Catalog.Service Catalog.Config

/-- An action on a site: it may fail, keeping what it did before. -/
abbrev Action := ExceptT Error (StateM Site)

/-- Run a transaction on the store, with the triggers its changes set off: all of it, or
nothing and its error. -/
def atomically {α : Type} (tx : Tx α) : Action α := do
  let site ← get
  match tx.run site.store with
  | .ok (a, store) =>
    match withTriggers site.store store with
    | .ok store =>
      set { site with store }
      pure a
    | .error f => throw (.storage f)
  | .error e => throw e

/-- Read the store. -/
def query {α : Type} (f : Store → α) : Action α := do
  pure (f (← get).store)

/-- Read the store where the reading may fail. -/
def lookup {α : Type} (f : Store → Outcome α) : Action α := do
  match f (← get).store with
  | .ok a => pure a
  | .error e => throw e

/-- Run a library computation. -/
def ofOutcome {α : Type} : Outcome α → Action α
  | .ok a => pure a
  | .error e => throw e

/-- Announce an event. -/
def emit (e : Event) : Action Unit :=
  modify fun site => { site with events := site.events ++ [e] }

/-- Commit the search index. -/
def commitIndex : Action Unit := do
  let site ← get
  let n := site.index.commits + 1
  set { site with index := { site.index with commits := n } }
  if site.index.failCommits.contains n then
    throw (.internal ("index commit " ++ toString n ++ " failed"))

/-- Wait for the search index's queued work. -/
def waitIndex : Action Unit := do
  let site ← get
  let n := site.index.waits + 1
  set { site with index := { site.index with waits := n } }
  if site.index.failWaits.contains n then
    throw (.internal ("index wait " ++ toString n ++ " failed"))

/-- A repository's owner finished its work: commit the index and note the change. -/
def processComplete (repo : String) : Action Unit := do
  commitIndex
  atomically (touch repo)

/-- Set the stored status of a service and announce the change from `old`. -/
def transition (service : Int) (old new : Status) : Action Unit := do
  atomically (setStatus service new)
  emit (.statusChanged service old new)

/-- Run an action, catching its failure. -/
def attempt {α : Type} (a : Action α) : Action (Except Error α) :=
  tryCatch (.ok <$> a) (fun e => pure (.error e))

end Catalog.Site
