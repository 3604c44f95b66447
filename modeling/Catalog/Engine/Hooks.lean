import Catalog.Service.Normalize
import Catalog.Service.Copy
import Catalog.Service.Aggregate

/-!
# What each kind of service does at each point of its life

A service is installed when it is registered, uninstalled when it is deleted and told when
it is updated; within a run it is told that a pass begins, that a checkpoint is due and that
the pass ends, and it processes records one at a time.

An aggregation builds its match engine on the store when a pass begins, saves new match
points at every checkpoint and at the end, and drops its match points when uninstalled. A
scripted service counts its checkpoints and fails the hooks its script names.
-/

namespace Catalog.Engine

open Catalog.Store Catalog.Service Catalog.Site Catalog.Matching

/-- The worker of a service, fresh for a pass or a hook. -/
def instantiate (info : ServiceRow) : Action Worker := do
  let site ← get
  Site.ofOutcome (Worker.ofKind site.settings site.scripts info.kind info.name)

/-- Install a service. -/
def install : Worker → Action Unit
  | .scripted script _ =>
    if script.failInstall then throw (.internal "scripted install failure") else pure ()
  | _ => pure ()

/-- Uninstall a service. -/
def uninstall (info : ServiceRow) : Worker → Action Unit
  | .aggregation _ _ => changePoints fun t => (t.clearScope info.name).1
  | .scripted script _ =>
    if script.failUninstall then throw (.internal "scripted uninstall failure") else pure ()
  | .normalization => pure ()

/-- Begin a pass. -/
def beginPass : PassM Unit := do
  let p ← current
  match p.worker with
  | .aggregation settings _ =>
    let e ← Engine.ofOutcome
      (MatchEngine.ofNames settings.matchers settings.matchRules (some p.info.name))
    setWorker (.aggregation settings (some e))
    e.matchers.forM loadMatcher
  | .scripted script _ =>
    if script.failBegin then fail (.internal "scripted begin failure")
  | .normalization => pure ()

/-- Tell the service that a checkpoint is due. -/
def checkpointHook : PassM Unit := do
  match (← current).worker with
  | .aggregation _ _ =>
    let (_, e) ← matchEngine
    e.matchers.forM (saveMatcher false)
  | .scripted _ _ =>
    onSite (modify fun site => { site with scriptedCheckpoints := site.scriptedCheckpoints + 1 })
  | .normalization => pure ()

/-- End a pass. -/
def endPassHook : PassM Unit := do
  match (← current).worker with
  | .aggregation _ (some e) => e.matchers.forM (saveMatcher true)
  | _ => pure ()

/-- Process one record into the outputs to store. -/
def processWith (r : Record) : PassM (List Record) := do
  match (← current).worker with
  | .normalization => normalize r
  | .aggregation _ _ => aggregate r
  | .scripted script seen => copy script seen r

end Catalog.Engine
