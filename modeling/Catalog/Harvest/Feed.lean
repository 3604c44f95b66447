import Catalog.Harvest.Request
import Catalog.Record.Basic

/-!
# The provider feed

A feed answers harvest requests in place of the providers: each request gets the next list
of records it was given, or none when the lists are used up. A feed can be told to fail every
request with a message, or to take a while before it answers; a request that takes longer
than its timeout fails. A feed keeps every request it was sent.

The request a feed reports back is the request as sent, with its instants written as the
epoch: the instants of a real harvest are times of day.
-/

namespace Catalog.Harvest

/-- A record as a provider sends it. -/
structure Harvested where
  oaiId : String
  sets : List String
  deleted : Bool
  payload : Json
  deriving Inhabited

/-- The answers a feed gives, and the requests it was sent. -/
structure Feed where
  responses : List (List Harvested) := []
  failure : Option String := none
  delayMs : Nat := 0
  requests : List Request := []
  deriving Inhabited

/-- The request as a feed reports it back. -/
def Request.reported (r : Request) : String :=
  { r with untilMs := 0, fromMs := r.fromMs.map fun _ => 0 }.text

/-- Answer a request: the records and the request as reported, or the failure. -/
def Feed.answer (f : Feed) (r : Request) : Feed × Outcome (List Harvested × String) :=
  let f := { f with requests := f.requests ++ [r] }
  if f.delayMs > r.timeoutMs then (f, .error (.timeout r.timeoutMs))
  else match f.failure with
    | some message => (f, .error (.internal message))
    | none =>
      match f.responses with
      | [] => (f, .ok ([], r.reported))
      | records :: rest => ({ f with responses := rest }, .ok (records, r.reported))

end Catalog.Harvest
