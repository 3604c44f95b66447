import Catalog.Matching.Engine
import Catalog.Config.Settings

/-!
# Service kinds

A service row names its kind, and the kind says what the service does with a record:

* `normalization` cleans the field values of each input into one output;
* `aggregation` merges inputs that match under the configured matchers into one output;
* `scripted` copies each input into one output and follows a script of faults: records
  on which it fails, a count of records after which the run is paused or canceled, and
  hooks that fail.

A worker is a kind together with the state it keeps during a pass. An unknown kind has no
worker, and an aggregation needs usable matching settings.
-/

namespace Catalog.Service

open Catalog.Matching Catalog.Config

/-- The faults a scripted service is told to show. -/
structure Script where
  failOn : List String := []
  failInvalidOn : List String := []
  pauseAfter : Option Nat := none
  cancelAfter : Option Nat := none
  failBegin : Bool := false
  failInstall : Bool := false
  failUninstall : Bool := false
  deriving Inhabited

/-- The implementation of a service, with its pass state. -/
inductive Worker where
  /-- Cleans field values. -/
  | normalization
  /-- Merges matching records; the match engine exists during a pass. -/
  | aggregation (settings : MatchingSettings) (engine : Option MatchEngine)
  /-- Copies records, following a script; `seen` counts the records it was given. -/
  | scripted (script : Script) (seen : Nat)
  deriving Inhabited

/-- The worker for a service of a kind and name; scripted services follow the script given
for their name. -/
def Worker.ofKind (settings : Settings) (scripts : List (String × Script)) (kind name : String) :
    Outcome Worker :=
  match kind with
  | "normalization" => .ok .normalization
  | "aggregation" => do
    let _ ← MatchEngine.ofNames settings.matching.matchers settings.matching.matchRules none
    pure (.aggregation settings.matching none)
  | "scripted" => .ok (.scripted ((scripts.lookup name).getD {}) 0)
  | other => .error (.config ("No service implementation for kind '" ++ other ++ "'"))

end Catalog.Service
