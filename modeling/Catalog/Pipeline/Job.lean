import Catalog.Error

/-!
# Jobs

A job asks for a pass of a service, either because a directive routed new input to it
(optionally into an output set) or because the service must reprocess all its input.
-/

namespace Catalog.Pipeline

/-- Why a job was queued. -/
inductive JobKind where
  | processingDirective
  | serviceReprocess
  deriving Repr, BEq, DecidableEq, Inhabited

/-- The stored name of a job kind. -/
def JobKind.name : JobKind → String
  | .processingDirective => "PROCESSING_DIRECTIVE"
  | .serviceReprocess => "SERVICE_REPROCESS"

/-- Read a job kind from its stored name. -/
def JobKind.parse (s : String) : Outcome JobKind :=
  if s = "PROCESSING_DIRECTIVE" then .ok .processingDirective
  else if s = "SERVICE_REPROCESS" then .ok .serviceReprocess
  else .error (.internal ("Unknown job kind: " ++ s))

/-- A queued job; jobs run in ascending `order`. -/
structure Job where
  id : Int
  serviceId : Int
  outputSet : Option String
  kind : JobKind
  order : Int
  deriving Repr, BEq, Inhabited

end Catalog.Pipeline
