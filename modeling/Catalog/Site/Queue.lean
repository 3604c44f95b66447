import Catalog.Site.Basic
import Catalog.Pipeline.Routing

/-!
# The job queue of a site

Queuing a job announces it. A routing's scheduled pairs become jobs once the records behind
them are committed: each pair gets a job unless one waits for it already.
-/

namespace Catalog.Site

open Catalog.Store Catalog.Pipeline

/-- Queue a job for a service and output set, unless one waits already. -/
def enqueue (service : Int) (outputSet : Option String) (kind : JobKind) : Action (Option Job) := do
  let job? ← atomically (insertJob service outputSet kind)
  if let some job := job? then emit (.jobEnqueued job)
  pure job?

/-- Queue a job for every scheduled pair, in order; the result counts the jobs created and
the routing has nothing scheduled. -/
def enqueueScheduled (ev : Routing) : Action (Nat × Routing) := do
  let created ← ev.scheduled.foldlM (fun n p => do
    let job? ← enqueue p.1 p.2 .processingDirective
    pure (if job?.isSome then n + 1 else n)) 0
  pure (created, { ev with scheduled := [] })

end Catalog.Site
