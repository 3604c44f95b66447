import Catalog.Store.Records

/-!
# Write batches

A write batch stages the records it adds: they are stored invisible under the batch's id
and become visible together when the batch ends. Marks saying that a service has processed
an input record are held back until then too. Ending a batch makes every row it staged
visible, applies its marks (the input stops being input for that service) and forgets the
batch; aborting deletes its staged rows. A batch that is dropped without either stays
registered as open, and its rows stay invisible.

Opening a batch first deletes the repository's invisible rows whose batch is no longer
open; purging deletes every invisible row and forgets every open batch.
-/

namespace Catalog.Store

/-- An open write batch: its repository and id, the ids it staged (ascending) and the
held-back marks, as (record, service) pairs in the order they were made. -/
structure Batch where
  repo : String
  id : Nat
  staged : List Int := []
  marks : List (Int × Int) := []
  deriving Inhabited

namespace Batch

/-- Open a batch on a repository; the result also counts the abandoned rows deleted. -/
def start (repo : String) : Tx (Batch × Nat) := do
  let s ← get
  let openIds := s.openBatches.map (·.1)
  let purged ← deleteRecords fun row =>
    row.repo == repo && !row.visible && row.batch.all (fun b => !openIds.contains b)
  let id ← nextBatch
  modify fun s => { s with openBatches := s.openBatches ++ [(id, repo)] }
  pure ({ repo, id }, purged)

/-- Stage a record; the result is its id. -/
def add (b : Batch) (r : Record) : Tx (Int × Batch) := do
  let id ← insertRecord b.repo r (some b.id)
  touch b.repo
  pure (id, { b with staged := SortedList.insert id b.staged })

/-- Hold back the mark that a service processed a record. -/
def mark (b : Batch) (record service : Int) : Batch :=
  { b with marks := b.marks ++ [(record, service)] }

/-- Whether the batch staged a record. -/
def isStaged (b : Batch) (id : Int) : Bool :=
  b.staged.contains id

/-- A record of the batch's repository by id, if it is visible or staged by this batch. -/
def get? (b : Batch) (s : Store) (id : Int) : Outcome (Option Record) :=
  ((s.findRow? b.repo id).filter fun row => row.visible || b.isStaged id).mapM s.view

/-- A record of the batch's repository by OAI identifier, if it is visible or staged by
this batch. -/
def getOai? (b : Batch) (s : Store) (oaiId : String) : Outcome (Option Record) :=
  ((s.findOaiRow? b.repo oaiId).filter fun row => row.visible || b.isStaged row.id).mapM
    s.view

/-- Record that a service processed a record: the record must exist, and it stops being
input for that service. -/
def applyMark (m : Int × Int) : Tx Unit := do
  let s ← get
  unless s.processedBy.contains m || s.hasRecord m.1 do
    fault .foreignKey
  set { s with
    processedBy := addPair s.processedBy m
    inputFor := s.inputFor.filter (· != m) }

/-- End the batch: its rows become visible and its marks are applied. The result counts the
rows made visible and the marks. -/
def commit (b : Batch) : Tx (Nat × Nat) := do
  let s ← get
  let activated := (s.records.filter (·.batch == some b.id)).length
  set { s with
    records := s.records.map fun (row : RecordRow) =>
      if row.batch == some b.id then { row with visible := true, batch := none } else row }
  b.marks.forM applyMark
  modify fun s => { s with openBatches := s.openBatches.filter (·.1 != b.id) }
  pure (activated, b.marks.length)

/-- Abort the batch: its staged rows are deleted. The result counts them. -/
def abort (b : Batch) : Tx Nat := do
  let removed ← deleteRecords fun row => row.batch == some b.id && !row.visible
  modify fun s => { s with openBatches := s.openBatches.filter (·.1 != b.id) }
  pure removed

end Batch

/-- Delete every staged row and forget every open batch; the result counts the rows. -/
def purgeAbandoned : Tx Nat := do
  let purged ← deleteRecords (!·.visible)
  modify fun s => { s with openBatches := [] }
  pure purged

end Catalog.Store
