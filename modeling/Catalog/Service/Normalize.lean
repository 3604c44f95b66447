import Catalog.Engine.Pass
import Catalog.Matching.Parsed
import Catalog.Text.Blank

/-!
# The normalization service

Normalization cleans the extracted field values of a payload: each value is cut into
words at blanks and the words are joined by single spaces; a value left empty is dropped,
counted as a warning, and a field left without values goes. The rest of the payload stays
as it is, and a payload that is not an object is refused.

Each input keeps one output, which is rewritten when the input changes; a deleted input
deletes its outputs.
-/

namespace Catalog.Service

open Catalog.Store Catalog.Engine Catalog.Matching

/-- A value with its words joined by single spaces, or none when it has no words. -/
def cleanValue (v : String) : Option String :=
  match Text.words v.toList with
  | [] => none
  | ws => some (" ".intercalate (ws.map String.ofList))

/-- Clean the values of one field: the cleaned field, if any value is left, and the number
of values dropped. -/
def cleanField (name : String) (v : Json) : Option (String × Json) × Nat :=
  let raw := fieldValues v
  let kept := raw.filterMap cleanValue
  (if kept.isEmpty then none else some (name, .arr (kept.map .str)), raw.length - kept.length)

/-- The cleaned payload and the number of values dropped; none when the payload is not an
object. -/
def normalizePayload : Json → Option (Json × Nat)
  | .obj members =>
    match members.lookup "fields" with
    | some (.obj fields) =>
      let cleaned := fields.map fun (name, v) => cleanField name v
      let dropped := cleaned.foldl (fun n c => n + c.2) 0
      some (.obj (Json.insertMember "fields" (.obj (cleaned.filterMap (·.1))) members), dropped)
    | _ => some (.obj members, 0)
  | _ => none

/-- Normalize one input record into its output. -/
def normalize (r : Record) : PassM (List Record) := do
  let inputId ← Engine.ofOutcome r.requireId
  let existing ← existingSuccessors inputId
  if r.isDeleted then
    return (existing.filter (!·.isDeleted)).map fun o => { o with status := .deleted }
  let some (payload, dropped) := normalizePayload r.payload
    | fail (.recordProcessing r.oaiId "payload is not a JSON object")
  update fun p => { p with stats := { p.stats with warnings := p.stats.warnings + dropped } }
  let output ← match existing with
    | previous :: _ => pure { previous with status := .active, format := r.format, payload }
    | [] => do pure { Record.new (← nextOaiId) r.format with payload }
  pure [{ output with recordType := r.recordType }]

end Catalog.Service
