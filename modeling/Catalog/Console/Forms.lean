import Catalog.Console.Pure
import Catalog.Engine.Scheduler
import Catalog.Harvest.Runner
import Catalog.Service.Lifecycle

/-!
# JSON forms of the site's values

How records, headers, jobs, services, providers, directives, schedules, run results,
events and harvest summaries are written as JSON, and how records, filters and harvested
records are read from it. Sets of names and ids are written sorted, each once; an absent
optional value is `null`.
-/

namespace Catalog.Console

open Catalog.Store Catalog.Pipeline Catalog.Service Catalog.Site Catalog.Engine
  Catalog.Harvest

/-! ## Writing -/

/-- The JSON form of a record. -/
def recordJson (r : Record) : Json :=
  Json.object [
    ("id", Json.ofOptInt r.id), ("oai_id", .str r.oaiId), ("format", .str r.format),
    ("sets", Json.ofStrings r.sets), ("record_type", Json.ofOptString r.recordType),
    ("status", .str r.status.name), ("payload", r.payload),
    ("predecessors", Json.ofInts r.predecessors), ("successors", Json.ofInts r.successors),
    ("processed_by", Json.ofInts r.processedBy), ("input_for", Json.ofInts r.inputFor)]

/-- A record or `null`. -/
def optRecordJson : Option Record → Json
  | some r => recordJson r
  | none => .null

/-- The JSON form of a record header. -/
def headerJson (h : Header) : Json :=
  Json.object [("id", .int h.id), ("oai_id", .str h.oaiId), ("format", .str h.format),
    ("status", .str h.status.name), ("sets", Json.ofStrings h.sets)]

/-- The JSON form of a job. -/
def jobJson (j : Job) : Json :=
  Json.object [("id", .int j.id), ("service_id", .int j.serviceId),
    ("output_set", Json.ofOptString j.outputSet), ("kind", .str j.kind.name),
    ("order", .int j.order)]

/-- A job or `null`. -/
def optJobJson : Option Job → Json
  | some j => jobJson j
  | none => .null

/-- The JSON form of a service. -/
def serviceJson (s : ServiceRow) : Json :=
  Json.object [
    ("id", .int s.id), ("name", .str s.name), ("kind", .str s.kind),
    ("version", .str s.version), ("repo_name", .str s.repoName),
    ("status", .str s.status.name), ("warnings", .int s.totals.warnings),
    ("errors", .int s.totals.errors), ("errors_per_commit", .int s.totals.errorsPerCommit),
    ("input_record_count", .int s.totals.inputRecordCount),
    ("output_record_count", .int s.totals.outputRecordCount)]

/-- A service or `null`. -/
def optServiceJson : Option ServiceRow → Json
  | some s => serviceJson s
  | none => .null

/-- The JSON form of a provider. -/
def providerJson (p : ProviderRow) : Json :=
  Json.object [("id", .int p.id), ("name", .str p.name), ("base_url", .str p.baseUrl),
    ("repo_name", .str p.repoName)]

/-- The JSON form of a directive source. -/
def sourceJson : DirectiveSource → Json
  | .provider id => Json.object [("provider", .int id)]
  | .service id => Json.object [("service", .int id)]

/-- The JSON form of a directive. -/
def directiveJson (d : Directive) : Json :=
  Json.object [("id", .int d.id), ("source", sourceJson d.source), ("target", .int d.target),
    ("output_set", Json.ofOptString d.outputSet), ("formats", Json.ofStrings d.formats),
    ("sets", Json.ofStrings d.sets)]

/-- The JSON form of a schedule step. -/
def stepJson (s : StepRow) : Json :=
  Json.object [("id", .int s.id), ("schedule_id", .int s.scheduleId),
    ("step_order", .int s.order), ("format", .str s.format),
    ("set_spec", Json.ofOptString s.setSpec), ("has_last_ran", .bool s.lastRan.isSome)]

/-- The JSON form of a schedule with its steps. -/
def scheduleJson (s : ScheduleRow) (steps : List StepRow) : Json :=
  Json.object [("id", .int s.id), ("name", .str s.name), ("provider_id", .int s.providerId),
    ("steps", .arr (steps.map stepJson))]

/-- The JSON form of the end of a run. -/
def runJson (r : RunResult) : Json :=
  Json.object [("service_id", .int r.serviceId), ("status", .str r.status.name),
    ("failure", Json.ofOptString r.failure), ("stats", statsJson r.stats)]

/-- The JSON form of an event. -/
def eventJson : Event → Json
  | .statusChanged s old new => Json.object [("type", .str "StatusChanged"),
    ("service_id", .int s), ("old", .str old.name), ("new", .str new.name)]
  | .checkpoint s n => Json.object [("type", .str "Checkpoint"), ("service_id", .int s),
    ("processed", .int n)]
  | .runFinished s status n e => Json.object [("type", .str "RunFinished"),
    ("service_id", .int s), ("status", .str status.name), ("processed", .int n),
    ("errors", .int e)]
  | .jobEnqueued j => Json.object [("type", .str "JobEnqueued"), ("job_id", .int j.id),
    ("service_id", .int j.serviceId), ("output_set", Json.ofOptString j.outputSet),
    ("order", .int j.order)]
  | .harvestCompleted p s n => Json.object [("type", .str "HarvestCompleted"),
    ("provider_id", .int p), ("step_id", .int s), ("records", .int n)]

/-- The JSON form of a harvest step's summary. -/
def summaryJson (s : Summary) : Json :=
  Json.object [("step_id", .int s.stepId), ("request", .str s.request), ("added", .int s.added),
    ("updated", .int s.updated), ("deleted", .int s.deleted), ("ignored", .int s.ignored),
    ("total", .int s.total)]

/-- The JSON form of a request as the feed received it. -/
def requestJson (r : Request) : Json :=
  Json.object [("request", .str r.reported), ("set_spec", Json.ofOptString r.setSpec),
    ("metadata_prefix", .str r.metadataPrefix), ("harvest_all", .bool r.harvestAll),
    ("has_from", .bool r.fromMs.isSome), ("timeout_ms", .int r.timeoutMs),
    ("step_id", .int r.stepId)]

/-! ## Reading -/

/-- The record a step carries in `record`; a step without one carries the record of all
defaults. -/
def stepRecord (j : Json) : Except Fault Record :=
  recordOf ((j.get? "record").getD .null)

/-- The record filter a step carries. -/
def filterOf (j : Json) : Filter :=
  { after := intOr j "starting_id" 0, fromMs := optInt j "from_ms", untilMs := optInt j "until_ms"
    format := optStr j "format", setSpec := optStr j "set" }

/-- A harvested record from its JSON form. -/
def harvestedOf (j : Json) : Harvested :=
  { oaiId := strOr j "oai_id" "", sets := SortedList.ofList (strList j "sets")
    deleted := flag j "deleted", payload := (j.get? "payload").getD .null }

end Catalog.Console
