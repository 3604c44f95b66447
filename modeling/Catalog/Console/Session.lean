import Catalog.Console.Forms

/-!
# System sessions: records, batches, input and the queue

A system request runs its steps against one fresh site. The session holds the site, the
open write batches by the names the steps give them, and how many of the site's events the
steps have already been shown. A step that names a batch the session does not hold is
refused.

This module holds the steps on records (in the repository named by `repo`, `"repo"` by
default, read in pages of `page_size`, at least one and 1000 by default), on write batches
(named by `batch`, `"b"` by default), on service input and on the job queue.
-/

namespace Catalog.Console

open Catalog.Store Catalog.Pipeline Catalog.Service Catalog.Site Catalog.Engine

/-- The state of a system session. -/
structure Session where
  site : Site
  batches : List (String × Batch) := []
  reported : Nat := 0

/-- A step of a system session. -/
abbrev SessionM := ExceptT Fault (StateM Session)

/-- Run a site action as a step. -/
def act {α : Type} (a : Action α) : SessionM α := do
  let s ← get
  let (r, site) := (a.run).run s.site
  set { s with site }
  match r with
  | .ok x => pure x
  | .error e => throw (.library e)

/-- Read the site's store. -/
def read {α : Type} (f : Store → α) : SessionM α := do
  pure (f (← get).site.store)

/-- Use a decoded request value, or refuse the step. -/
def take {α : Type} : Except Fault α → SessionM α
  | .ok a => pure a
  | .error f => throw f

/-- The open batch of a name. -/
def handle (name : String) : SessionM Batch := do
  match (← get).batches.lookup name with
  | some b => pure b
  | none => throw (.request ("no open batch '" ++ name ++ "'"))

/-- Keep a batch under a name. -/
def keepHandle (name : String) (b : Batch) : SessionM Unit :=
  modify fun s => { s with batches := (s.batches.filter (·.1 != name)) ++ [(name, b)] }

/-- Forget the batch of a name. -/
def dropHandle (name : String) : SessionM Unit :=
  modify fun s => { s with batches := s.batches.filter (·.1 != name) }

/-- A required integer field of a step. -/
def intField (j : Json) (key : String) : SessionM Int :=
  take (needInt j key)

/-- A required string field of a step. -/
def strField (j : Json) (key : String) : SessionM String :=
  take (needStr j key)

/-- The steps on the records of a repository. -/
def repositoryStep (op : String) (j : Json) : Option (SessionM Json) :=
  let repo := strOr j "repo" "repo"
  let size := (max 1 (intOr j "page_size" 1000)).toNat
  match op with
  | "add" => some do
    let r ← take (stepRecord j)
    pure (.int (← act (atomically (addRecord repo r))))
  | "add_many" => some do
    let rs ← take ((items j "records").mapM recordOf)
    pure (Json.ofInts (← act (atomically (addRecords repo rs))))
  | "update" => some do
    let r ← take (stepRecord j)
    act (atomically (updateRecord repo r))
    pure .null
  | "mark_deleted" => some do
    act (atomically (markDeleted repo (← intField j "id")))
    pure .null
  | "get" => some do
    let id ← intField j "id"
    pure (optRecordJson (← act (lookup (·.getRecord? repo id))))
  | "get_oai" => some do
    let oaiId ← strField j "oai_id"
    pure (optRecordJson (← act (lookup (·.getOaiRecord? repo oaiId))))
  | "get_any" => some do
    let id ← intField j "id"
    pure (optRecordJson (← act (lookup (·.getAny? id))))
  | "records" => some do
    pure (.arr ((← act (lookup (·.page repo (filterOf j) size))).map recordJson))
  | "stream" => some do
    pure (.arr ((← act (lookup (·.stream repo (filterOf j) size))).map recordJson))
  | "count" => some do
    pure (.int (← act (lookup (·.count repo (filterOf j)))))
  | "headers" => some do
    pure (.arr ((← act (lookup (·.headers repo (filterOf j) size))).map headerJson))
  | "predecessors" => some do
    let id ← intField j "id"
    pure (Json.ofInts (← read (·.predecessorIds id)))
  | "successors" => some do
    let id ← intField j "id"
    pure (Json.ofInts (← read (·.successorIds id)))
  | "inject" => some do
    let r ← take (stepRecord j)
    let id ← act (Site.ofOutcome r.requireId)
    pure (Json.ofInts (← read (·.successorIds id)))
  | "inject_many" => some do
    let rs ← take ((items j "records").mapM recordOf)
    let s ← read id
    pure (.arr ((s.injectSuccessorIds rs).map fun r => Json.ofInts r.successors))
  | "add_lineage" => some do
    act (atomically (addLineage (← intField j "predecessor") (← intField j "successor")))
    pure .null
  | "remove_lineage" => some do
    act (atomically (removeLineage (← intField j "predecessor") (← intField j "successor")))
    pure .null
  | "populate" => some do
    let seeds := intList j "seeds"
    pure (Json.ofInts (← read (·.populate seeds)))
  | "add_link" => some do
    act (atomically (addLink (← intField j "from") (← intField j "to")))
    pure .null
  | "links" => some do
    let toId ← intField j "to"
    pure (Json.ofInts (← read (·.linkedIds toId)))
  | "activate" => some do
    act (atomically (activateRecord repo (← intField j "id")))
    pure .null
  | "process_complete" => some do
    act (processComplete repo)
    pure .null
  | "last_modified" => some do
    pure (.bool (← read (·.lastModified? repo)).isSome)
  | "page_size" => some (pure (.int size))
  | _ => none

/-- The steps on write batches. -/
def batchStep (op : String) (j : Json) : Option (SessionM Json) :=
  let name := strOr j "batch" "b"
  match op with
  | "begin_batch" => some do
    let (b, _) ← act (atomically (Batch.start (strOr j "repo" "repo")))
    keepHandle name b
    pure .null
  | "batch_add" => some do
    let b ← handle name
    let r ← take (stepRecord j)
    let (id, b) ← act (atomically (b.add r))
    keepHandle name b
    pure (.int id)
  | "batch_update" => some do
    let b ← handle name
    let r ← take (stepRecord j)
    act (atomically (updateRecord b.repo r))
    pure .null
  | "batch_mark" => some do
    let b ← handle name
    keepHandle name (b.mark (← intField j "record_id") (← intField j "service_id"))
    pure .null
  | "batch_get" => some do
    let b ← handle name
    let id ← intField j "id"
    pure (optRecordJson (← act (lookup (b.get? · id))))
  | "batch_get_oai" => some do
    let b ← handle name
    let oaiId ← strField j "oai_id"
    pure (optRecordJson (← act (lookup (b.getOai? · oaiId))))
  | "batch_info" => some do
    let b ← handle name
    pure (Json.object [("staged_count", .int b.staged.length),
      ("pending_marks", .int b.marks.length), ("repo", .str b.repo),
      ("staged", Json.ofInts ((intList j "ids").filter b.isStaged))])
  | "batch_end" => some do
    let b ← handle name
    dropHandle name
    let (activated, marks) ← act (atomically b.commit)
    pure (Json.object [("activated", .int activated), ("processed_marks", .int marks)])
  | "batch_abort" => some do
    let b ← handle name
    dropHandle name
    pure (.int (← act (atomically b.abort)))
  | "batch_drop" => some do
    let _ ← handle name
    dropHandle name
    pure .null
  | "purge" => some do
    pure (.int (← act (atomically purgeAbandoned)))
  | _ => none

/-- The steps on the input of services and on the job queue. -/
def queueStep (op : String) (j : Json) : Option (SessionM Json) :=
  match op with
  | "pending" => some do
    let service ← intField j "service"
    let after := intOr j "after" 0
    let rs ← act (lookup (·.pending service (optStr j "type") after (intOr j "limit" 1000)))
    pure (Json.ofInts (rs.filterMap (·.id)))
  | "count_pending" => some do
    let service ← intField j "service"
    pure (.int (← read (·.countPending service (optStr j "type"))))
  | "processed_by_service" => some do
    let service ← intField j "service"
    pure (Json.ofInts (← read (·.processedByService service)))
  | "enqueue" => some do
    let service ← intField j "service"
    let kind ← take (lift (JobKind.parse (strOr j "kind" "PROCESSING_DIRECTIVE")))
    pure (optJobJson (← act (enqueue service (optStr j "output_set") kind)))
  | "next" => some do
    pure (optJobJson (← act (do Site.ofOutcome (← atomically takeJob).job?)))
  | "peek" => some do
    pure (optJobJson (← act (lookup (·.firstJob))))
  | "jobs" => some do
    pure (.arr ((← act (lookup (·.queued))).map jobJson))
  | "pending_jobs" => some do
    let service ← intField j "service"
    pure (.arr ((← act (lookup (·.jobsOf service))).map jobJson))
  | "remove_job" => some do
    pure (.bool (← act (atomically (removeJob (← intField j "job")))))
  | "remove_jobs_for" => some do
    pure (.int (← act (atomically (removeJobsFor (← intField j "service")))))
  | "queue_len" => some do
    let n ← act (lookup (·.queueLength))
    pure (Json.object [("len", .int n), ("is_empty", .bool (n == 0))])
  | _ => none

end Catalog.Console
