import Catalog.Store.Basic
import Catalog.Time.Instant
import Catalog.Json.Read

/-!
# Records in the store

A repository is a named part of the record table; ids are shared by all repositories, so
lineage edges and service marks may cross them. Writing a record writes its row and then
its relations in a fixed order: its sets, the services that processed it, the services it
is input for, the edges from its predecessors and the edges to its successors. An edge to
a record that does not exist is refused (`FOREIGN KEY`), and a second record with the same
OAI identifier in one repository is refused (`UNIQUE`).

Reading a record gives its sets, predecessors and service marks as sorted sets. Sets are
read back the way they are joined in storage: a set name holding the unit separator
(U+001F) reads back as the names between the separators. A payload is stored as its JSON
text, so it reads back as that text reads (`Json.reread`); a stored text that is no JSON,
which only an update script can write, makes reading its record fail.

Queries see only visible rows of one repository, above an id, in a window of update times,
of a format and of a set, in ascending id order, one page at a time.
-/

namespace Catalog.Store

open Catalog.Pipeline

/-- The set names as they read back from their stored names, each split at the unit
separator. -/
def readSets (specs : List String) : List String :=
  SortedList.ofList (specs.flatMap fun s => (s.toList.splitOn '\x1f').map String.ofList)

/-- The ids of the records a record was derived from, ascending. -/
def predecessorIds (s : Store) (id : Int) : List Int :=
  SortedList.ofList (firsts s.lineage id)

/-- The ids of the records derived from a record, ascending. -/
def successorIds (s : Store) (id : Int) : List Int :=
  SortedList.ofList (seconds s.lineage id)

/-- The payload of a row as reading it gives it: a stored text that is no JSON fails. -/
def RecordRow.document (row : RecordRow) : Outcome Json :=
  match row.rawPayload with
  | some text =>
    match Json.parse text with
    | .ok j => .ok j
    | .error e => .error (.serialization e)
  | none => .ok row.payload

/-- The record of a row, with its sets, predecessors and service marks; its successors are
left empty. Reading fails when the stored payload is no JSON. -/
def view (s : Store) (row : RecordRow) : Outcome Record := do
  let payload ← row.document
  pure
    { id := some row.id
      oaiId := row.oaiId
      format := row.format
      sets := readSets (seconds s.recordSets row.id)
      recordType := row.recordType
      status := row.status
      payload
      predecessors := s.predecessorIds row.id
      processedBy := SortedList.ofList (seconds s.processedBy row.id)
      inputFor := SortedList.ofList (seconds s.inputFor row.id) }

/-- A record with its successors filled in. -/
def withSuccessors (s : Store) (r : Record) : Record :=
  match r.id with
  | some id => { r with successors := s.successorIds id }
  | none => r

/-- The row of a repository with this id, visible or staged. -/
def findRow? (s : Store) (repo : String) (id : Int) : Option RecordRow :=
  s.records.find? fun row => row.id == id && row.repo == repo

/-- The row of a repository with this OAI identifier, visible or staged. -/
def findOaiRow? (s : Store) (repo : String) (oaiId : String) : Option RecordRow :=
  s.records.find? fun row => row.oaiId == oaiId && row.repo == repo

/-- A visible record of a repository by id. -/
def getRecord? (s : Store) (repo : String) (id : Int) : Outcome (Option Record) := do
  s.needTable "records"
  ((s.findRow? repo id).filter (·.visible)).mapM s.view

/-- A visible record of a repository by OAI identifier. -/
def getOaiRecord? (s : Store) (repo : String) (oaiId : String) : Outcome (Option Record) := do
  s.needTable "records"
  ((s.findOaiRow? repo oaiId).filter (·.visible)).mapM s.view

/-- A visible record of any repository by id. -/
def getAny? (s : Store) (id : Int) : Outcome (Option Record) := do
  s.needTable "records"
  (s.records.find? fun row => row.id == id && row.visible).mapM s.view

-- ---------------------------------------------------------------------------
-- Writing
-- ---------------------------------------------------------------------------

/-- Add the lineage edge from `p` to `q`; both records must exist. -/
def addEdge (p q : Int) : Tx Unit := do
  let s ← get
  if s.lineage.contains (p, q) then pure ()
  else if s.hasRecord p && s.hasRecord q then set { s with lineage := s.lineage ++ [(p, q)] }
  else fault .foreignKey

/-- Write a record's sets, service marks and lineage edges under `id`. -/
def writeRelations (id : Int) (r : Record) : Tx Unit := do
  modify fun s =>
    { s with
      recordSets := r.sets.foldl (fun acc spec => addPair acc (id, spec)) s.recordSets
      processedBy := r.processedBy.foldl (fun acc sv => addPair acc (id, sv)) s.processedBy
      inputFor := r.inputFor.foldl (fun acc sv => addPair acc (id, sv)) s.inputFor }
  r.predecessors.forM fun p => addEdge p id
  r.successors.forM fun q => addEdge id q

/-- Insert a record into a repository, visible, or staged by a batch when one is given; the
result is its new id. -/
def insertRecord (repo : String) (r : Record) (batch : Option Nat) : Tx Int := do
  useTable "records"
  let s ← get
  if s.records.any (fun row => row.repo == repo && row.oaiId == r.oaiId) then
    fault (.unique ["records.repo_name", "records.oai_id"])
  let id ← nextId .records
  modify fun s =>
    { s with
      records := s.records ++ [{
        id, repo, oaiId := r.oaiId, format := r.format, recordType := r.recordType
        status := r.status, payload := r.payload.reread, visible := batch.isNone, batch
        updatedAt := s.clock }] }
  writeRelations id r
  pure id

/-- Add a visible record to a repository. -/
def addRecord (repo : String) (r : Record) : Tx Int := do
  let id ← insertRecord repo r none
  touch repo
  pure id

/-- Add visible records to a repository, all or none. -/
def addRecords (repo : String) (rs : List Record) : Tx (List Int) := do
  let ids ← rs.mapM fun r => insertRecord repo r none
  touch repo
  pure ids

/-- Rewrite a stored record of a repository, visible or staged: its row, its sets and its
service marks are replaced; lineage edges are only added. -/
def updateRecord (repo : String) (r : Record) : Tx Unit := do
  let id ← ofOutcome r.requireId
  useTable "records"
  let s ← get
  unless (s.findRow? repo id).isSome do
    failWith (.notFound ("record " ++ toString id ++ " in " ++ repo))
  set { s with
    records := s.records.map fun (row : RecordRow) =>
      if row.id == id then
        { row with
          format := r.format, recordType := r.recordType, status := r.status
          payload := r.payload.reread, rawPayload := none, updatedAt := s.clock }
      else row
    recordSets := s.recordSets.filter (·.1 != id)
    processedBy := s.processedBy.filter (·.1 != id)
    inputFor := s.inputFor.filter (·.1 != id) }
  writeRelations id r
  touch repo

/-- Mark a record of a repository deleted; it stays readable. -/
def markDeleted (repo : String) (id : Int) : Tx Unit := do
  useTable "records"
  let s ← get
  unless (s.findRow? repo id).isSome do
    failWith (.notFound ("record " ++ toString id ++ " in " ++ repo))
  set { s with
    records := s.records.map fun (row : RecordRow) =>
      if row.id == id then { row with status := .deleted, updatedAt := s.clock } else row }
  touch repo

/-- Make a staged record of a repository visible. -/
def activateRecord (repo : String) (id : Int) : Tx Unit :=
  modify fun s =>
    { s with
      records := s.records.map fun (row : RecordRow) =>
        if row.id == id && row.repo == repo then { row with visible := true, batch := none }
        else row }

/-- Delete the record rows that satisfy `p`, with every relation row naming them; the
result is how many rows went. -/
def deleteRecords (p : RecordRow → Bool) : Tx Nat := do
  let s ← get
  let gone := (s.records.filter p).map (·.id)
  let keep (id : Int) : Bool := !gone.contains id
  set { s with
    records := s.records.filter (fun row => !p row)
    recordSets := s.recordSets.filter (fun (e : Int × String) => keep e.1)
    lineage := s.lineage.filter (fun (e : Int × Int) => keep e.1 && keep e.2)
    links := s.links.filter (fun (e : Int × Int) => keep e.1 && keep e.2)
    processedBy := s.processedBy.filter (fun (e : Int × Int) => keep e.1)
    inputFor := s.inputFor.filter (fun (e : Int × Int) => keep e.1) }
  pure gone.length

-- ---------------------------------------------------------------------------
-- Queries
-- ---------------------------------------------------------------------------

/-- What a record query selects: ids above `after`, update times within
`[fromMs, untilMs]`, one format and one set, each only when given. -/
structure Filter where
  after : Int := 0
  fromMs : Option Int := none
  untilMs : Option Int := none
  format : Option String := none
  setSpec : Option String := none
  deriving Inhabited

/-- Whether a row is a visible record of the repository that the filter selects. Times
outside the representable range count as the epoch. -/
def Filter.admits (f : Filter) (s : Store) (repo : String) (row : RecordRow) : Bool :=
  row.repo == repo && row.visible && decide (row.id > f.after)
    && f.fromMs.all (fun t => decide (row.updatedAt ≥ Time.ofMillis t))
    && f.untilMs.all (fun t => decide (row.updatedAt ≤ Time.ofMillis t))
    && f.format.all (row.format == ·)
    && f.setSpec.all (fun spec => s.recordSets.contains (row.id, spec))

/-- The rows a filter selects, in ascending id order. -/
def selectRows (s : Store) (repo : String) (f : Filter) : List RecordRow :=
  s.records.filter (f.admits s repo)

/-- One page of the records a filter selects. -/
def page (s : Store) (repo : String) (f : Filter) (size : Nat) : Outcome (List Record) := do
  s.needTable "records"
  ((s.selectRows repo f).take size).mapM s.view

/-- A record read from a row carries the row's id. -/
theorem view_id {s : Store} {row : RecordRow} {r : Record} (h : s.view row = .ok r) : r.id = some row.id := by
  simp only [view, bind, Except.bind] at h
  split at h
  · cases h
  · cases h
    rfl

/-- The records read from rows carry the rows' ids, in order. -/
theorem mapM_view_ids {s : Store} {rows : List RecordRow} {rs : List Record} (h : rows.mapM s.view = .ok rs) :
    rs.map (·.id) = rows.map (some ·.id) := by
  induction rows generalizing rs with
  | nil =>
    cases h
    rfl
  | cons row rows ih =>
    rw [List.mapM_cons] at h
    rcases hr : s.view row with e | r <;> rw [hr] at h
    · cases h
    rcases hrest : rows.mapM s.view with e | rs' <;> rw [hrest] at h
    · cases h
    cases h
    rw [List.map_cons, List.map_cons, view_id hr, ih hrest]

/-- Moving the cursor up to `a` keeps the rows above `a` of those the filter selects. -/
theorem selectRows_after {s : Store} {repo : String} {f : Filter} {a : Int} (hle : f.after ≤ a) :
    s.selectRows repo { f with after := a } = (s.selectRows repo f).filter (a < ·.id) := by
  rw [selectRows, selectRows, List.filter_filter]
  refine List.filter_congr fun row _ => ?_
  simp only [Filter.admits, Bool.and_comm (decide (a < row.id))]
  by_cases ha : a < row.id
  · have hf : f.after < row.id := Int.lt_of_le_of_lt hle ha
    simp [ha, hf]
  · simp [ha]

/-- The id of the last record of a page is the id of a row the filter selects. -/
theorem page_last {s : Store} {repo : String} {f : Filter} {size : Nat} {pg : List Record} {last : Int}
    (h : s.page repo f size = .ok pg) (hlast : pg.getLast?.bind (·.id) = some last) :
    ∃ row ∈ s.selectRows repo f, row.id = last := by
  simp only [page, bind, Except.bind] at h
  split at h
  · cases h
  rw [Option.bind_eq_some_iff] at hlast
  obtain ⟨r, hr, hid⟩ := hlast
  have hids := congrArg List.getLast? (mapM_view_ids h)
  rw [List.getLast?_map, List.getLast?_map, hr, Option.map_some, hid] at hids
  obtain ⟨row, hrow, hrid⟩ := Option.map_eq_some_iff.1 hids.symm
  exact ⟨row, List.mem_of_mem_take (List.mem_of_getLast? hrow), Option.some.inj hrid⟩

/-- Fewer rows are selected above the last id of a page than from the page's cursor. -/
theorem selectRows_after_last_lt {s : Store} {repo : String} {f : Filter} {size : Nat} {pg : List Record}
    {last : Int} (h : s.page repo f size = .ok pg) (hlast : pg.getLast?.bind (·.id) = some last) :
    (s.selectRows repo { f with after := last }).length < (s.selectRows repo f).length := by
  obtain ⟨row, hrow, rfl⟩ := page_last h hlast
  have hadmits : f.admits s repo row = true := (List.mem_filter.1 hrow).2
  simp only [Filter.admits, Bool.and_eq_true, decide_eq_true_eq] at hadmits
  obtain ⟨⟨⟨⟨⟨⟨-, -⟩, hafter⟩, -⟩, -⟩, -⟩, -⟩ := hadmits
  rw [selectRows_after (Int.le_of_lt hafter), List.length_filter_lt_length_iff_exists]
  exact ⟨row, hrow, by simp⟩

/-- The pages a cursor walk reads, `size` records at most each: the page the filter
selects and, while a page ends with a record, the pages above that record's id. -/
def pages (s : Store) (repo : String) (size : Nat) (f : Filter) :
    Outcome (List (List Record)) :=
  match h : s.page repo f size with
  | .error e => .error e
  | .ok pg =>
    match hlast : pg.getLast?.bind (·.id) with
    | none => .ok []
    | some last =>
      have : (s.selectRows repo { f with after := last }).length <
          (s.selectRows repo f).length := selectRows_after_last_lt h hlast
      (pg :: ·) <$> s.pages repo size { f with after := last }
termination_by (s.selectRows repo f).length

/-- All records a filter selects, read page by page, with their successors. -/
def stream (s : Store) (repo : String) (f : Filter) (size : Nat) : Outcome (List Record) :=
  (s.pages repo size f).map fun ps => ps.flatten.map s.withSuccessors

/-- How many records a filter selects. -/
def count (s : Store) (repo : String) (f : Filter) : Outcome Nat := do
  s.needTable "records"
  pure (s.selectRows repo f).length

/-- The header of a record: id, OAI identifier, format, status and sets. -/
structure Header where
  id : Int
  oaiId : String
  format : String
  status : RecordStatus
  sets : List String

/-- One page of record headers. -/
def headers (s : Store) (repo : String) (f : Filter) (size : Nat) : Outcome (List Header) := do
  s.needTable "records"
  pure <| ((s.selectRows repo f).take size).map fun row =>
    { id := row.id, oaiId := row.oaiId, format := row.format, status := row.status
      sets := readSets (seconds s.recordSets row.id) }

/-- The time a repository last changed, if it ever did. -/
def lastModified? (s : Store) (repo : String) : Option Int :=
  (s.modified.find? (·.1 == repo)).map (·.2)

end Catalog.Store
