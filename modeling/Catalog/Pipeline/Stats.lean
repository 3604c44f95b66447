import Catalog.Service.Status
import Catalog.Data.Word

/-!
# Pass statistics and reports

A pass of a service over its pending input counts the records it processed, the outputs it
added and rewrote, its failures (in total and since the last checkpoint) and its warnings,
and lists the OAI identifiers of the records that failed. At each checkpoint and at the end
the counts are added to the totals stored with the service. The counts are unsigned 64-bit
words and the totals signed ones, and both wrap around as such words do.

A pass ends with a report: a few lines giving the service, the final status, the counts,
the failed records when there are any, and the reason of a failure when there is one.
-/

namespace Catalog.Pipeline

/-- The counts of one pass. -/
structure PassStats where
  processed : Nat := 0
  outputsAdded : Nat := 0
  outputsUpdated : Nat := 0
  errors : Nat := 0
  errorsSinceCommit : Nat := 0
  warnings : Nat := 0
  unprocessedErrorIds : List String := []
  totalInput : Nat := 0
  deriving Repr, Inhabited

/-- The running totals stored with a service. -/
structure ServiceTotals where
  warnings : Int := 0
  errors : Int := 0
  errorsPerCommit : Int := 0
  inputRecordCount : Int := 0
  outputRecordCount : Int := 0
  deriving Repr, Inhabited

namespace PassStats

/-- Count a failed record. -/
def recordError (s : PassStats) (oaiId : String) : PassStats :=
  { s with
    errors := Word.unsigned (s.errors + 1)
    errorsSinceCommit := Word.unsigned (s.errorsSinceCommit + 1)
    unprocessedErrorIds := s.unprocessedErrorIds ++ [oaiId] }

/-- Count a warning. -/
def warn (s : PassStats) : PassStats :=
  { s with warnings := Word.unsigned (s.warnings + 1) }

/-- Count `n` warnings at once, as `n` calls of `warn` would. -/
def warnMany (s : PassStats) (n : Nat) : PassStats :=
  { s with warnings := Word.unsigned (s.warnings + n) }

/-- The records processed without failure. -/
def succeeded (s : PassStats) : Nat :=
  s.processed - s.errors

/-- The totals after the pass so far, given the totals before it and the number of records
now available in the service's repository. The input count is the records processed
overall, or the available records when that is zero; the output count is the available
records. -/
def totals (s : PassStats) (base : ServiceTotals) (available : Int) : ServiceTotals :=
  let input := Word.signed (base.inputRecordCount + Word.signed s.processed)
  { warnings := Word.signed (base.warnings + Word.signed s.warnings)
    errors := Word.signed (base.errors + Word.signed s.errors)
    errorsPerCommit := Word.signed s.errorsSinceCommit
    inputRecordCount := if input = 0 then available else input
    outputRecordCount := available }

end PassStats

/-- The report of a finished pass. -/
structure PassReport where
  service : String
  status : Service.Status
  totalInput : Nat
  processed : Nat
  succeeded : Nat
  errors : Nat
  warnings : Nat
  failure : Option String
  unprocessedErrorIds : List String
  deriving Repr

/-- The text of a report, one line per item. -/
def PassReport.text (r : PassReport) : String :=
  "Service: " ++ r.service ++ "\n" ++
  "Status: " ++ r.status.name ++ "\n" ++
  "Records pending at start: " ++ toString r.totalInput ++ "\n" ++
  "Records processed: " ++ toString r.processed ++ "\n" ++
  "Processed successfully: " ++ toString r.succeeded ++ "\n" ++
  "Errors: " ++ toString r.errors ++ "\n" ++
  "Warnings: " ++ toString r.warnings ++ "\n" ++
  (if r.unprocessedErrorIds.isEmpty then ""
   else "Unprocessed: " ++ ", ".intercalate r.unprocessedErrorIds ++ "\n") ++
  (match r.failure with
   | some reason => "Failure: " ++ reason ++ "\n"
   | none => "")

end Catalog.Pipeline
