import Catalog.Error

/-!
# Service status

A service is not running, running, paused within a run, canceled by its last run, or failed
by its last run. A running or paused service is active: a run holds it.
-/

namespace Catalog.Service

/-- The status of a service. -/
inductive Status where
  | notRunning
  | running
  | paused
  | canceled
  | error
  deriving Repr, BEq, DecidableEq, Inhabited

namespace Status

/-- The stored name of a status. -/
def name : Status → String
  | .notRunning => "NOT_RUNNING"
  | .running => "RUNNING"
  | .paused => "PAUSED"
  | .canceled => "CANCELED"
  | .error => "ERROR"

/-- Read a status from its stored name. -/
def parse (s : String) : Outcome Status :=
  if s = "NOT_RUNNING" then .ok .notRunning
  else if s = "RUNNING" then .ok .running
  else if s = "PAUSED" then .ok .paused
  else if s = "CANCELED" then .ok .canceled
  else if s = "ERROR" then .ok .error
  else .error (.internal ("Unknown service status: " ++ s))

/-- Whether a run holds the service. -/
def isActive : Status → Bool
  | .running | .paused => true
  | _ => false

end Status

end Catalog.Service
