import Catalog.Console.Session
import Catalog.Console.Match

/-!
# System sessions: services, runs, harvests and observation

The steps on services, providers, directives, schedules and counters; the scripts of the
scripted services; runs of services and of queued jobs; harvests; the life of services; and
the views of the site: its tables, its match points, its index calls, its events and a
snapshot of its state.

A system request reads its settings from `config` (TOML), the index calls that fail from
`index`, and runs `steps` against a fresh site, each step answered on its own.
-/

namespace Catalog.Console

open Catalog.Store Catalog.Pipeline Catalog.Service Catalog.Site Catalog.Engine
  Catalog.Harvest Catalog.Config Catalog.Matching

/-- The routing of an `evaluate` step: its directives numbered from one. -/
def evaluationRouting (j : Json) : Routing :=
  { directives := (items j "directives").zipIdx.map fun (d, i) =>
      { id := i + 1, source := .service 0, target := intOr d "target" 0
        outputSet := optStr d "output_set", formats := SortedList.ofList (strList d "formats")
        sets := SortedList.ofList (strList d "sets") } }

/-- The JSON form of scheduled pairs. -/
def scheduledJson (ev : Routing) : Json :=
  .arr (ev.scheduled.map fun (s, o) => .arr [.int s, Json.ofOptString o])

/-- Carry out one action of an `evaluate` step. -/
def evaluateAction (ev : Routing) (a : Json) : SessionM (Json × Routing) := do
  let r ← take (recordOf ((a.get? "record").getD (.obj [])))
  let op := strOr a "op" "evaluate"
  let (result, r, ev) ← match op with
    | "evaluate" => do
      let (r, ev, n) := ev.evaluate r
      pure (Json.int n, r, ev)
    | "reprocess" => do
      let (r, ev) := ev.reprocess r
      pure (Json.null, r, ev)
    | "enqueue" => do
      let (n, ev) ← act (enqueueScheduled ev)
      pure (Json.int n, r, ev)
    | other => throw (.request ("unknown action " ++ other))
  pure (Json.object [("result", result), ("input_for", Json.ofInts r.inputFor),
    ("processed_by", Json.ofInts r.processedBy), ("scheduled", scheduledJson ev)], ev)

/-- The identifiers that `persist_ids` hands out and stores; they are named under the
domain `d` and the instance `i`. -/
def persistIds (scope : String) (count : Nat) (kinds : List ElementKind) : Action (List Json) := do
  let site ← get
  let next := (site.store.counter? scope "oai").getD 1
  let (ids, g) := (OaiIds.new "d" "i" scope next).takeMany count
  let start := ElementKind.all.foldl (fun c k =>
    match site.store.counter? scope k.name with
    | some v => c.set k v
    | none => c) (ElementCounters.new scope)
  let (numbers, c) := kinds.foldl (fun (acc, c) k =>
    let (n, c) := c.take k
    (acc ++ [n], c)) (([] : List Int), start)
  atomically do
    saveCounter g.scope "oai" g.next
    ElementKind.all.forM fun k => saveCounter c.scope k.name (c.next k)
  pure (ids.map Json.str ++ numbers.map Json.int)

/-- The steps on services, providers, directives, schedules and counters. -/
def rowStep (op : String) (j : Json) : Option (SessionM Json) :=
  match op with
  | "provider" => some do
    let name ← strField j "name"
    let url := strOr j "base_url" "http://provider.example/oai"
    pure (providerJson (← act (atomically (insertProvider name url))))
  | "load_provider" => some do
    let id ← intField j "provider"
    pure (providerJson (← act (lookup (·.provider id))))
  | "service" => some do
    let name ← strField j "name"
    let kind ← strField j "kind"
    pure (serviceJson (← act (atomically (insertService name kind (strOr j "version" "1.0")))))
  | "register" => some do
    let name ← strField j "name"
    let kind ← strField j "kind"
    pure (serviceJson (← act (register name kind (strOr j "version" "1.0"))))
  | "services" => some do
    pure (.arr ((← act (lookup (·.serviceList))).map serviceJson))
  | "load_service" => some do
    let id ← intField j "service"
    pure (optServiceJson (← act (lookup (·.service? id))))
  | "service_by_name" => some do
    let name ← strField j "name"
    pure (optServiceJson (← act (lookup (·.serviceNamed? name))))
  | "set_status" => some do
    let id ← intField j "service"
    let status ← take (lift (Status.parse (← strField j "status")))
    act (atomically (setStatus id status))
    pure .null
  | "status" => some do
    let id ← intField j "service"
    pure (.str (← act (lookup (·.status id))).name)
  | "try_start" => some do
    pure (.bool (← act (atomically (tryStart (← intField j "service")))))
  | "interrupted" => some do
    pure (Json.ofInts ((← act (lookup (·.interrupted))).map (·.id)))
  | "clear_marks" => some do
    act (atomically (clearMarks (← intField j "service")))
    pure .null
  | "directive" => some do
    let source ← match optInt j "source_provider" with
      | some id => pure (DirectiveSource.provider id)
      | none => pure (.service (← intField j "source_service"))
    let target ← intField j "target"
    let id ← act (atomically (insertDirective source target (optStr j "output_set")
      (strList j "formats") (strList j "sets")))
    pure (.int id)
  | "directives" => some do
    let source ← match optInt j "provider" with
      | some id => pure (DirectiveSource.provider id)
      | none => pure (.service (← intField j "service"))
    pure (.arr ((← read (·.directivesFor source)).map directiveJson))
  | "delete_directives" => some do
    pure (.int (← act (atomically (deleteDirectivesFor (← intField j "service")))))
  | "record_type" => some do
    let service ← intField j "service"
    let name ← strField j "name"
    act (atomically (setPriority service name (← intField j "priority")))
    pure .null
  | "record_types" => some do
    let service ← intField j "service"
    pure (Json.ofStrings (← act (lookup (·.priorityList service))))
  | "schedule" => some do
    let name ← strField j "name"
    pure (.int (← act (atomically (insertSchedule name (← intField j "provider")))))
  | "step" => some do
    let schedule ← intField j "schedule"
    let format ← strField j "format"
    pure (.int (← act (atomically (addStep schedule format (optStr j "set")))))
  | "load_schedule" => some do
    let id ← intField j "schedule"
    let (s, steps) ← act (lookup (·.schedule id))
    pure (scheduleJson s steps)
  | "counter" => some do
    let scope ← strField j "scope"
    let name ← strField j "name"
    pure (Json.ofOptInt (← read (·.counter? scope name)))
  | "save_counter" => some do
    let scope ← strField j "scope"
    let name ← strField j "name"
    act (atomically (saveCounter scope name (← intField j "value")))
    pure .null
  | "delete_counters" => some do
    act (atomically (deleteCounters (← strField j "scope")))
    pure .null
  | "load_ids" => some do
    let scope ← strField j "scope"
    let s ← read id
    let oaiNext := max 1 ((s.counter? scope "oai").getD 1)
    pure (Json.object [("oai_next", .int oaiNext),
      ("elements", Json.object (ElementKind.all.map fun k =>
        (k.name, .int ((s.counter? scope k.name).getD 1))))])
  | "persist_ids" => some do
    let scope ← strField j "scope"
    let kinds := (strList j "kinds").filterMap ElementKind.ofName?
    pure (.arr (← act (persistIds scope (countOr j "oai" 0) kinds)))
  | _ => none

/-- The script of a scripted service from a `script` step. -/
def scriptOf (j : Json) : Script :=
  { failOn := strList j "fail_on", failInvalidOn := strList j "fail_invalid_on"
    pauseAfter := optCount j "pause_after"
    cancelAfter := optCount j "cancel_after"
    failBegin := flag j "fail_begin", failInstall := flag j "fail_install"
    failUninstall := flag j "fail_uninstall" }

/-- Run a pass of a service as a `run` step asks. -/
def runService (id : Int) (j : Json) : Action RunResult := do
  let control : Control :=
    { canceled := flag j "cancel_first", cancelOnPause := strOr j "on_pause" "" == "cancel" }
  let worker ← match ← lookup (·.service? id) with
    | some info => instantiate info
    | none => pure .normalization
  run worker id (optStr j "output_set") control

/-- Take the next job and run it: the job and the envelope of its run, or `null`. -/
def runNext : SessionM Json := do
  match ← act (do Site.ofOutcome (← atomically takeJob).job?) with
  | none => pure .null
  | some job =>
    let outcome ← act (Site.attempt (runJob job {}))
    let reply : Reply := match outcome with
      | .ok r => .ok (runJson r)
      | .error e => .error (.library e)
    pure (Json.object [("job", jobJson job), ("outcome", envelope reply)])

/-- Run queued jobs one by one, at most `max` of them, until the queue is empty. -/
def drain : Nat → SessionM (List Json)
  | 0 => pure []
  | n + 1 => do
    match ← runNext with
    | .null => pure []
    | answer => pure (answer :: (← drain n))

/-- Run a harvest schedule against a feed of the given answers. -/
def harvestStep (j : Json) : SessionM Json := do
  let id ← intField j "schedule"
  let responses := (items j "responses").map fun r =>
    (r.asArray?.getD []).map harvestedOf
  modify fun s =>
    { s with
      site := { s.site with
        feed := { responses, failure := optStr j "fail"
                  delayMs := (countOr j "delay_ms" 0) } } }
  let outcome ← act (Site.attempt (runSchedule id))
  let requests := .arr ((← get).site.feed.requests.map requestJson)
  match outcome with
  | .ok summaries =>
    pure (Json.object [("summaries", .arr (summaries.map summaryJson)), ("requests", requests)])
  | .error e =>
    pure (Json.object [("error", .str e.kind), ("message", .str e.message), ("requests", requests)])

/-- The steps on runs, scripts, harvests and the life of services. -/
def runStep (op : String) (j : Json) : Option (SessionM Json) :=
  match op with
  | "script" => some do
    let name ← strField j "name"
    modify fun s =>
      { s with
        site := { s.site with
          scripts := (s.site.scripts.filter (·.1 != name)) ++ [(name, scriptOf j)] } }
    pure .null
  | "run" => some do
    let id ← intField j "service"
    pure (runJson (← act (runService id j)))
  | "run_next" => some runNext
  | "drain" => some do
    pure (.arr (← drain (countOr j "max" 50)))
  | "run_until_idle" => some do
    pure (.arr ((← act runUntilIdle).map runJson))
  | "harvest" => some (harvestStep j)
  | "delete_service" => some do
    act (Service.delete (← intField j "service"))
    pure .null
  | "update_service" => some do
    let id ← intField j "service"
    let version ← strField j "version"
    let scripts := match j.get? "scripts" with
      | some (.obj files) => some (files.filterMap fun (name, v) => v.asString?.map (name, ·))
      | _ => none
    pure (serviceJson (← act (updateTo id version scripts)))
  | "recover" => some do
    pure (Json.ofInts (← act recover))
  | _ => none

/-- The match counts of a scope, and the candidates of a query record when one is given. -/
def matchState (j : Json) : SessionM Json := do
  let scope ← strField j "scope"
  let settings := (← get).site.settings.matching
  let e ← act (Site.ofOutcome
    (MatchEngine.ofNames settings.matchers settings.matchRules (some scope)))
  let points ← read (·.points)
  -- a new engine has nothing unsaved, so loading it only reads the store
  let e := (e.load points).1
  let counts := countsJson e points
  match j.get? "query" with
  | some q =>
    let r ← take (specParsed q)
    let ids ← act (Site.ofOutcome (e.candidates r points))
    pure (Json.object [("counts", counts), ("candidates", Json.ofInts ids)])
  | none => pure (Json.object [("counts", counts)])

/-- The snapshot of a site: its records, links, jobs, services, counters, match points and
the number of open batches, every list sorted. -/
def snapshot (s : Store) : Json :=
  let records := s.records.map fun row =>
    let base :=
      [("id", Json.int row.id), ("repo", .str row.repo), ("visible", .bool row.visible)]
    match row.visible, s.view row with
    | true, .ok r => Json.object (base ++ [("record", recordJson (s.withSuccessors r))])
    | _, _ => Json.object base
  let links := (s.links.mergeSort fun a b => a.1 < b.1 || (a.1 == b.1 && a.2 ≤ b.2)).map
    fun (f, t) => Json.arr [.int f, .int t]
  let counterBefore (a b : CounterRow) : Bool :=
    a.scope < b.scope || (a.scope == b.scope && decide (a.name ≤ b.name))
  let counters := (s.counters.mergeSort counterBefore).map fun c =>
    Json.arr [.str c.scope, .str c.name, .int c.next]
  let points := (SortedList.ofList s.points).map fun p =>
    Json.arr [.str p.scope, .str p.matcher, .str p.key, .int p.recordId]
  Json.object [("records", .arr records), ("links", .arr links),
    ("jobs", .arr (s.jobsInOrder.map jobJson)), ("services", .arr (s.services.map serviceJson)),
    ("counters", .arr counters), ("match_points", .arr points),
    ("open_batches", .int s.openBatches.length)]

/-- The steps that observe a site. -/
def observeStep (op : String) (j : Json) : Option (SessionM Json) :=
  match op with
  | "sql_tables" => some do
    pure (Json.ofStrings (← read (·.tablesLike (strOr j "like" "%"))))
  | "sql_count" => some do
    let table ← strField j "table"
    unless table.all fun c => c.isAlphanum || c == '_' do
      throw (.request "bad table name")
    match ← read (·.countRows table) with
    | .ok n => pure (.int n)
    | .error f => act (throw (.storage f))
  | "match_state" => some (matchState j)
  | "index" => some do
    let log := (← get).site.index
    pure (Json.object [("commits", .int log.commits), ("waits", .int log.waits)])
  | "service_checkpoints" => some do
    pure (.int (← get).site.scriptedCheckpoints)
  | "events" => some do
    let s ← get
    set { s with reported := s.site.events.length }
    pure (.arr ((s.site.events.drop s.reported).map eventJson))
  | "snapshot" => some do
    pure (snapshot (← get).site.store)
  | _ => none

/-- Run one step of a system session. -/
def systemStep (s : Session) (step : Json) : Reply × Session :=
  let run : SessionM Json := do
    let op ← strField step "op"
    let chosen := [repositoryStep, batchStep, queueStep, rowStep, runStep, observeStep].findSome?
      fun group => group op step
    let evaluate : Option (SessionM Json) :=
      if op = "evaluate" then some do
        let (answers, _) ← (items step "actions").foldlM (fun (acc, ev) a => do
          let (answer, ev) ← evaluateAction ev a
          pure (acc ++ [answer], ev)) (([] : List Json), evaluationRouting step)
        pure (.arr answers)
      else none
    match chosen <|> evaluate with
    | some m => m
    | none => throw (.request ("unknown step " ++ op))
  let (r, s) := (run.run).run s
  (r, s)

/-- The index calls that fail, from the request's `index`. -/
def indexOf (j : Json) : IndexLog :=
  let idx := (j.get? "index").getD (.obj [])
  { failCommits := countList idx "fail_commits"
    failWaits := countList idx "fail_waits" }

/-- `system`: a session on a fresh site over the request's steps. -/
def systemRequest (j : Json) : Reply := do
  let settings ← match optStr j "config" with
    | some toml => lift (Settings.ofToml toml)
    | none => pure {}
  let settings := { settings with
    engine := { settings.engine with pausePollMs := 20 }, scheduler := { pollMs := 20 } }
  let start : Session := { site := { settings, index := indexOf j } }
  let (replies, _) := (items j "steps").foldl (fun (acc, s) step =>
    let (r, s) := systemStep s step
    (acc ++ [envelope r], s)) ([], start)
  pure (.arr replies)

end Catalog.Console
