import Catalog.Engine.Pass

/-!
# The scripted copying service

The scripted service copies each input into one output: the output it made before, or a new
record with the next OAI identifier and the input's format; the output takes the input's
payload and record type, and a deleted input deletes its outputs. It counts the records it
is given and follows its script: when the count reaches the number given, it asks for the
run to pause or to be canceled, and it fails on the records named.
-/

namespace Catalog.Service

open Catalog.Store Catalog.Engine

/-- Follow the script for the `n`-th record given: ask for the run to pause or to be
canceled when the script's count is reached, and fail on the records it names. -/
def followScript (script : Script) (n : Nat) (r : Record) : PassM Unit := do
  if script.pauseAfter == some n then
    update fun p => { p with control := { p.control with paused := true } }
  if script.cancelAfter == some n then
    update fun p => { p with control := { p.control with canceled := true } }
  if script.failOn.contains r.oaiId then
    fail (.recordProcessing r.oaiId "scripted failure")
  if script.failInvalidOn.contains r.oaiId then
    fail (.invalidInput "scripted invalid")

/-- Copy one input record, following the script; `seen` counts the records given before. -/
def copy (script : Script) (seen : Nat) (r : Record) : PassM (List Record) := do
  let n := seen + 1
  setWorker (.scripted script n)
  followScript script n r
  let inputId ← Engine.ofOutcome r.requireId
  let existing ← existingSuccessors inputId
  if r.isDeleted then
    return existing.map fun o => { o with status := .deleted }
  let output ← match existing with
    | previous :: _ => pure previous
    | [] => do pure (Record.new (← nextOaiId) r.format)
  pure [{ output with payload := r.payload, recordType := r.recordType }]

end Catalog.Service
