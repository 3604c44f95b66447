import Catalog.Console.Pure
import Catalog.Console.Match
import Catalog.Console.System
import Catalog.Json.Read
import Catalog.Json.Write

/-!
# The console

The console reads one JSON request per line and answers each with one JSON line. A request
names its operation in the field `op`; the other fields are the operation's arguments.
-/

namespace Catalog.Console

/-- The reply to a request. -/
def answer (j : Json) : Reply := do
  let op ← needStr j "op"
  if op = "normalize" then normalizeRequest j
  else if op = "extract_keys" then extractKeysRequest j
  else if op = "parse" then parseRequest j
  else if op = "rule" then ruleRequest j
  else if op = "directive_match" then directiveMatchRequest j
  else if op = "version" then versionRequest j
  else if op = "script_version" then scriptVersionRequest j
  else if op = "plan" then planRequest j
  else if op = "oai_ids" then oaiIdsRequest j
  else if op = "element_counters" then elementCountersRequest j
  else if op = "pass_stats" then passStatsRequest j
  else if op = "report" then reportRequest j
  else if op = "config" then configRequest j
  else if op = "request_string" then requestStringRequest j
  else if op = "parse_status" then parseStatusRequest j
  else if op = "time" then timeRequest j
  else if op = "match" then matchRequest j
  else if op = "system" then systemRequest j
  else refuse ("unknown op " ++ op)

/-- The answer line to a request line. A request line that is not JSON is refused. -/
def answerLine (line : String) : String :=
  match Json.parse line with
  | .ok j =>
    match j with
    | .obj _ => Json.render (envelope (answer j))
    | _ => Json.render (envelope (refuse "request is not an object"))
  | .error e => Json.render (envelope (refuse ("invalid JSON: " ++ e)))

end Catalog.Console
