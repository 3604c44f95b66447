import Catalog.Console.Reply
import Catalog.Matching.Engine
import Catalog.Service.Version
import Catalog.Pipeline.Identifiers
import Catalog.Pipeline.Stats
import Catalog.Pipeline.Directive
import Catalog.Pipeline.Job
import Catalog.Config.Settings
import Catalog.Harvest.Request

/-!
# Requests without state

The requests that call one function of the library on the values they carry: key
normalization, field parsing and matching rules, directive matching, versions and update
plans, identifier counters, pass statistics and reports, settings, harvest queries, status
names and instants.
-/

namespace Catalog.Console

open Catalog.Matching Catalog.Pipeline Catalog.Service Catalog.Config

/-! ## JSON forms -/

/-- The JSON form of a version. -/
def versionJson (v : Version) : List (String × Json) :=
  [("major", .int v.major), ("minor", .int v.minor), ("patch", .int v.patch),
    ("display", .str v.display)]

/-- The JSON form of an error policy. -/
def errorPolicyJson : ErrorPolicy → Json
  | .abortPass => Json.object [("mode", .str "abort_pass")]
  | .skipWithBudget n => Json.object [("mode", .str "skip_with_budget"), ("max_errors", .int n)]

/-- The JSON form of settings. -/
def settingsJson (s : Settings) : Json :=
  Json.object [
    ("root_folder", Json.ofOptString s.rootFolder),
    ("engine", Json.object [
      ("checkpoint_interval", .int s.engine.checkpointInterval),
      ("pause_poll_ms", .int s.engine.pausePollMs),
      ("page_size", .int s.engine.pageSize),
      ("error_policy", errorPolicyJson s.engine.errorPolicy),
      ("domain_name", .str s.engine.domainName),
      ("instance_name", .str s.engine.instanceName),
      ("max_lock_wait_ms", .int s.engine.maxLockWaitMs),
      ("index_wait_ms", .int s.engine.indexWaitMs)]),
    ("matching", Json.object [
      ("matchers", Json.ofStrings s.matching.matchers),
      ("match_rules", Json.ofStrings s.matching.matchRules)]),
    ("harvest", Json.object [("timeout_ms", .int s.harvest.timeoutMs)]),
    ("scheduler", Json.object [("poll_ms", .int s.scheduler.pollMs)])]

/-- The JSON form of pass statistics. -/
def statsJson (s : PassStats) : Json :=
  Json.object [
    ("processed", .int s.processed), ("outputs_added", .int s.outputsAdded),
    ("outputs_updated", .int s.outputsUpdated), ("errors", .int s.errors),
    ("errors_since_commit", .int s.errorsSinceCommit), ("warnings", .int s.warnings),
    ("unprocessed_error_ids", Json.ofStrings s.unprocessedErrorIds),
    ("total_input", .int s.totalInput)]

/-- The JSON form of service totals. -/
def totalsJson (t : ServiceTotals) : Json :=
  Json.object [
    ("warnings", .int t.warnings), ("errors", .int t.errors),
    ("errors_per_commit", .int t.errorsPerCommit),
    ("input_record_count", .int t.inputRecordCount),
    ("output_record_count", .int t.outputRecordCount)]

/-! ## Records -/

/-- A sorted set of integers from an array field. -/
def idSet (j : Json) (key : String) : List Int :=
  SortedList.ofList (intList j key)

/-- A record from its JSON form; every field has a default (a value that is not an object
gives all defaults), and an unknown status is refused. -/
def recordOf (j : Json) : Except Fault Record := do
  let status ← lift (RecordStatus.parse (strOr j "status" "ACTIVE"))
  pure {
    id := optInt j "id", oaiId := strOr j "oai_id" "", format := strOr j "format" "marc21"
    sets := SortedList.ofList (strList j "sets"), recordType := optStr j "record_type"
    status, payload := (j.get? "payload").getD (.obj [])
    predecessors := idSet j "predecessors", successors := idSet j "successors"
    processedBy := idSet j "processed_by", inputFor := idSet j "input_for" }

/-! ## Records given for matching -/

/-- The record of a matching request: `id` (one when absent; none when it is not an
integer that fits a signed 64-bit word, `null` included), `oai_id` (`oai:driver:1` when
absent) and either the whole `payload` or its `fields`. -/
def specRecord (j : Json) : Record :=
  let id : Option Int := match j.get? "id" with
    | some v => v.asI64?
    | none => some 1
  let payload := match j.get? "payload" with
    | some p => p
    | none => Json.object [("fields", (j.get? "fields").getD (Json.obj []))]
  { id, oaiId := strOr j "oai_id" "oai:driver:1", format := "marc21", payload }

/-- The parsed record of a matching request. -/
def specParsed (j : Json) : Except Fault ParsedRecord :=
  lift (ParsedRecord.ofRecord (specRecord j))

/-! ## The requests -/

/-- `normalize`: the key of a value under a normalizer. -/
def normalizeRequest (j : Json) : Reply := do
  let name ← needStr j "normalizer"
  let value ← needStr j "value"
  match Normalizer.ofName? name with
  | some n => pure (Json.ofOptString (n.apply value))
  | none => refuse ("unknown normalizer " ++ name)

/-- `extract_keys`: the keys of a record under a built-in or a custom matcher. -/
def extractKeysRequest (j : Json) : Reply := do
  let r ← specParsed j
  match optStr j "matcher" with
  | some name =>
    match Matcher.builtin? name with
    | some m => pure (Json.ofStrings (m.extractKeys r))
    | none => pure .null
  | none =>
    let nname ← needStr j "normalizer"
    match Normalizer.ofName? nname with
    | some n =>
      let m : Matcher := { name := "custom", fields := strList j "field_names", normalizer := n }
      pure (Json.ofStrings (m.extractKeys r))
    | none => refuse ("unknown normalizer " ++ nname)

/-- `parse`: the values of the named fields of a record. -/
def parseRequest (j : Json) : Reply := do
  let r ← specParsed j
  let names := strList j "field_names"
  pure (Json.object [
    ("id", .int r.id), ("is_empty", .bool r.isEmpty),
    ("values", Json.object (names.map fun n => (n, Json.ofStrings (r.values n))))])

/-- `rule`: the matches of a query record under a built-in rule, over indexed records. -/
def ruleRequest (j : Json) : Reply := do
  let name ← needStr j "rule"
  match Rule.builtin? name with
  | none => pure .null
  | some rule =>
    let active := (strList j "active").filterMap Matcher.builtin?
    let records ← (items j "records").mapM specParsed
    let active := active.map fun m => records.foldl (fun m r => (m.add r).1) m
    let query ← specParsed ((j.get? "query").getD (Json.obj []))
    let ids ← lift (rule.determineMatches active query [])
    pure (Json.object [("name", .str rule.name), ("matchers", Json.ofStrings rule.matchers),
      ("matches", Json.ofInts ids)])

/-- `directive_match`: whether a directive takes a record. -/
def directiveMatchRequest (j : Json) : Reply := do
  let d := (j.get? "directive").getD (Json.obj [])
  let r ← recordOf ((j.get? "record").getD (Json.obj []))
  pure (.bool (Directive.accepts (strList d "formats") (strList d "sets") r.format r.sets))

/-- `version`: a version read from text, compared with another when one is given. -/
def versionRequest (j : Json) : Reply := do
  let v ← lift (Version.parse (← needStr j "text"))
  match optStr j "compare" with
  | some other => do
    let w ← lift (Version.parse other)
    let c : Int := match compare v w with
      | .lt => -1
      | .eq => 0
      | .gt => 1
    pure (Json.object (versionJson v ++ [("cmp", .int c)]))
  | none => pure (Json.object (versionJson v))

/-- `script_version`: the version an update script's name gives. -/
def scriptVersionRequest (j : Json) : Reply := do
  match scriptVersion (← needStr j "file_name") with
  | some v => pure (Json.object (versionJson v))
  | none => pure .null

/-- `plan`: the update scripts to run between two versions. -/
def planRequest (j : Json) : Reply := do
  let source ← lift (Version.parse (← needStr j "from"))
  let target ← lift (Version.parse (← needStr j "to"))
  let scripts := (strList j "files").filterMap fun f => (scriptVersion f).map (·, f)
  pure (Json.ofStrings ((plan scripts source target).map (·.2)))

/-- `oai_ids`: identifiers from a generator. -/
def oaiIdsRequest (j : Json) : Reply := do
  let g := OaiIds.new (strOr j "domain" "localhost") (strOr j "instance" "recflow")
    (strOr j "service" "") (intOr j "next" 1)
  let count := min (countOr j "count" 1) 1000
  let (ids, g) := g.takeMany count
  pure (Json.object [("ids", Json.ofStrings ids), ("peek_next", .int g.next)])

/-- `element_counters`: numbers from element counters. -/
def elementCountersRequest (j : Json) : Reply := do
  let c := ElementCounters.new (strOr j "scope" "svc")
  let (ids, c) := (strList j "kinds").foldl (fun (acc, c) k =>
    match ElementKind.ofName? k with
    | some kind =>
      let (n, c) := c.take kind
      (acc ++ [Json.int n], c)
    | none => (acc ++ [Json.null], c)) ([], c)
  pure (Json.object [("ids", .arr ids),
    ("peek", Json.object (ElementKind.all.map fun k => (k.name, .int (c.next k))))])

/-- `pass_stats`: pass statistics after some failures and warnings, with the totals. -/
def passStatsRequest (j : Json) : Reply := do
  let n (k : String) : Nat := countOr j k 0
  let s : PassStats := {
    processed := n "processed", outputsAdded := n "outputs_added",
    outputsUpdated := n "outputs_updated", errors := n "errors",
    errorsSinceCommit := n "errors_since_commit", warnings := n "warnings",
    totalInput := n "total_input" }
  let s := (strList j "record_errors").foldl PassStats.recordError s
  let s := s.warnMany (countOr j "warn" 0)
  let b := (j.get? "base").getD (Json.obj [])
  let base : ServiceTotals := {
    warnings := intOr b "warnings" 0, errors := intOr b "errors" 0,
    errorsPerCommit := intOr b "errors_per_commit" 0,
    inputRecordCount := intOr b "input_record_count" 0,
    outputRecordCount := intOr b "output_record_count" 0 }
  pure (Json.object [("stats", statsJson s), ("succeeded", .int s.succeeded),
    ("totals", totalsJson (s.totals base (intOr j "available" 0)))])

/-- `report`: the text of a pass report. -/
def reportRequest (j : Json) : Reply := do
  let status ← lift (Status.parse (strOr j "status" "NOT_RUNNING"))
  let n (k : String) : Nat := countOr j k 0
  let r : PassReport := {
    service := strOr j "service" "", status, totalInput := n "total_input",
    processed := n "processed", succeeded := n "succeeded", errors := n "errors",
    warnings := n "warnings", failure := optStr j "failure",
    unprocessedErrorIds := strList j "unprocessed_error_ids" }
  pure (.str r.text)

/-- `config`: settings read from a TOML document. -/
def configRequest (j : Json) : Reply := do
  let s ← lift (Settings.ofToml (strOr j "toml" ""))
  pure (settingsJson s)

/-- `request_string`: the query text of a harvest request. -/
def requestStringRequest (j : Json) : Reply := do
  let r : Harvest.Request := {
    baseUrl := strOr j "base_url" "", metadataPrefix := strOr j "metadata_prefix" "",
    setSpec := optStr j "set_spec", fromMs := (optInt j "from_ms").map Time.ofMillis,
    untilMs := Time.ofMillis (intOr j "until_ms" 0), harvestAll := false, timeoutMs := 0,
    stepId := 0 }
  pure (.str r.text)

/-- `parse_status`: a status or job kind read from its name. -/
def parseStatusRequest (j : Json) : Reply := do
  let kind ← needStr j "kind"
  let text ← needStr j "text"
  if kind = "record" then
    let s ← lift (RecordStatus.parse text)
    pure (.str s.name)
  else if kind = "service" then
    let s ← lift (Status.parse text)
    pure (Json.object [("status", .str s.name), ("is_active", .bool s.isActive)])
  else if kind = "job" then
    let k ← lift (JobKind.parse text)
    pure (.str k.name)
  else refuse ("unknown status kind " ++ kind)

/-- `time`: an instant read from milliseconds, and its RFC 3339 text. -/
def timeRequest (j : Json) : Reply := do
  let ms := Time.ofMillis (← needInt j "ms")
  pure (Json.object [("millis", .int ms), ("rfc3339", .str (Time.rfc3339 ms))])

end Catalog.Console
