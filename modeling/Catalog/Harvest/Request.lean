import Catalog.Time.Instant

/-!
# Harvest requests

A harvest asks a provider for the records of one metadata format, optionally of one set,
changed since the last harvest (none for a first, full harvest) and until a given instant.
The request is written as an OAI-PMH `ListRecords` query:
`BASE?verb=ListRecords&metadataPrefix=FORMAT[&set=SET][&from=FROM]&until=UNTIL`, the
instants in whole seconds of UTC.
-/

namespace Catalog.Harvest

/-- A request to a provider. -/
structure Request where
  baseUrl : String
  metadataPrefix : String
  setSpec : Option String
  fromMs : Option Int
  untilMs : Int
  harvestAll : Bool
  timeoutMs : Nat
  stepId : Int
  deriving Repr, Inhabited

/-- The query text of a request. -/
def Request.text (r : Request) : String :=
  r.baseUrl ++ "?verb=ListRecords&metadataPrefix=" ++ r.metadataPrefix ++
    (match r.setSpec with
     | some s => "&set=" ++ s
     | none => "") ++
    (match r.fromMs with
     | some ms => "&from=" ++ Time.rfc3339Seconds ms
     | none => "") ++
    "&until=" ++ Time.rfc3339Seconds r.untilMs

end Catalog.Harvest
