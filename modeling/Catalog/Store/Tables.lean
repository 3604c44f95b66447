import Catalog.Store.Basic
import Catalog.Json.Read
import Catalog.Json.Write

/-!
# The store as tables of values

The store keeps its rows as typed lists; an update script sees them as the rows of the
schema's tables. `Store.encode` writes every typed list into its table, and `Store.decode`
reads the tables back after the script: a row keeps the values of the columns the store
knows, by column name, and a table that the script dropped leaves its list empty. A column
that a script added to one of these tables keeps its values, row by row, and a row the store
adds later takes the column's default. A payload
text that does not read as JSON and a status text that names no status are kept as text, so
that reading them fails later, when the store reads the row.

A table with `AUTOINCREMENT` hands out one more than the larger of the sequence it recorded
and the largest id in the table, so after a script the last id of a sequence is that larger
value.
-/

namespace Catalog.Sql

/-- A row given by column name. -/
abbrev Fields := List (String × Value)

/-- The value of a named column of a row; null when the table has no such column. -/
def Table.field (t : Table) (r : Row) (name : String) : Value :=
  match t.columnIndex? name with
  | some k => r.get k
  | none => .null

/-- Whether two rows hold the same values, kind by kind. -/
def sameValues (a b : List Value) : Bool :=
  a.length == b.length &&
    (a.zip b).all fun (x, y) => x.typeName == y.typeName && x.same .binary y

/-- Whether a table row has the key of a row given by column name: the same row id where
the table has a row-id column, else the same primary key, else the same value in every
column the row names. -/
def Table.hasKey (t : Table) (fs : Fields) (r : Row) : Bool :=
  let named (c : String) : Value := ((fs.find? fun (n, _) => sameName n c).map (·.2)).getD .null
  match t.rowidColumn with
  | some k => (named ((t.columns.getD k default).name)).asInteger == r.rowid
  | none =>
    let key := if t.primaryKey.isEmpty then fs.map (·.1) else t.primaryKey
    key.all fun c => sameValues [t.field r c] [named c]

/-- The rows of a table from rows given by column name. A column the row does not name
keeps the value it has in the table's row with the same key, or else takes the value
`fresh` gives it: so a column that an update script added keeps its values while the store
writes its rows again. The row id is the value of the row-id column, or the position in the
list for a table without one; the rows are kept in row-id order. -/
def Table.fill (t : Table) (fresh : Column → Value) (rows : List Fields) : Table :=
  let named (fs : Fields) (c : Column) : Option Value :=
    (fs.find? fun (n, _) => sameName n c.name).map (·.2)
  let unnamed := rows.head?.any fun fs => t.columns.any fun c => (named fs c).isNone
  let made := (rows.zip (List.range rows.length)).map fun (fs, i) =>
    let old := if unnamed then t.rows.find? (t.hasKey fs) else none
    let values := (t.columns.zip (List.range t.columns.length)).map fun (c, k) =>
      match named fs c, old with
      | some v, _ => v
      | none, some r => r.get k
      | none, none => fresh c
    let rowid : Int := match t.rowidColumn with
      | some k => (values.getD k .null).asInteger
      | none => ((i + 1 : Nat) : Int)
    (⟨rowid, values⟩ : Row)
  { t with rows := made.mergeSort fun a b => decide (a.rowid ≤ b.rowid) }

end Catalog.Sql

namespace Catalog.Store

open Catalog.Sql Catalog.Pipeline

/-- A text, or null. -/
def textOrNull : Option String → Value
  | some s => .text s
  | none => .null

/-- An integer, or null. -/
def intOrNull : Option Int → Value
  | some n => .integer n
  | none => .null

/-- The table of the schema that holds a sequence. -/
def Sequence.table : Sequence → String
  | .records => "records"
  | .providers => "providers"
  | .services => "services"
  | .directives => "processing_directives"
  | .jobs => "jobs"
  | .schedules => "harvest_schedules"
  | .steps => "harvest_schedule_steps"

/-- Every sequence. -/
def Sequence.all : List Sequence :=
  [.records, .providers, .services, .directives, .jobs, .schedules, .steps]

/-- The rows of every table the store keeps typed, by table name. -/
def typedRows (s : Store) : List (String × List Fields) :=
  let pairs (a b : String) (xs : List (Int × Int)) : List Fields :=
    xs.map fun (x, y) => [(a, .integer x), (b, .integer y)]
  [("repositories", s.modified.map fun (repo, t) =>
      [("name", .text repo), ("last_modified", .integer t)]),
    ("records", s.records.map fun r =>
      [("id", .integer r.id), ("repo_name", .text r.repo), ("oai_id", .text r.oaiId),
        ("format", .text r.format), ("record_type", textOrNull r.recordType),
        ("status", .text r.status.name),
        ("payload", .text (r.rawPayload.getD (Json.render r.payload))),
        ("visible", .integer (if r.visible then 1 else 0)),
        ("batch_id", textOrNull (r.batch.map toString)), ("updated_at", .integer r.updatedAt)]),
    ("open_batches", s.openBatches.map fun (b, repo) =>
      [("batch_id", .text (toString b)), ("repo_name", .text repo),
        ("opened_at", .integer s.clock)]),
    ("record_sets", s.recordSets.map fun (id, spec) =>
      [("record_id", .integer id), ("set_spec", .text spec)]),
    ("record_lineage", pairs "predecessor_id" "successor_id" s.lineage),
    ("record_links", pairs "from_id" "to_id" s.links),
    ("record_processed_by", pairs "record_id" "service_id" s.processedBy),
    ("record_input_for", pairs "record_id" "service_id" s.inputFor),
    ("providers", s.providers.map fun p =>
      [("id", .integer p.id), ("name", .text p.name), ("base_url", .text p.baseUrl),
        ("repo_name", .text p.repoName)]),
    ("services", s.services.map fun v =>
      [("id", .integer v.id), ("name", .text v.name), ("kind", .text v.kind),
        ("version", .text v.version), ("repo_name", .text v.repoName),
        ("status", .text (v.strayStatus.getD v.status.name)),
        ("warnings", .integer v.totals.warnings), ("errors", .integer v.totals.errors),
        ("errors_per_commit", .integer v.totals.errorsPerCommit),
        ("input_record_count", .integer v.totals.inputRecordCount),
        ("output_record_count", .integer v.totals.outputRecordCount),
        ("status_changed_at", .integer s.clock)]),
    ("processing_directives", s.directives.map fun d =>
      [("id", .integer d.id),
        ("source_provider_id", match d.source with
          | .provider p => .integer p
          | .service _ => .null),
        ("source_service_id", match d.source with
          | .service v => .integer v
          | .provider _ => .null),
        ("target_service_id", .integer d.target), ("output_set", textOrNull d.outputSet)]),
    ("directive_formats", s.directives.flatMap fun d =>
      d.formats.map fun f => [("directive_id", .integer d.id), ("format", .text f)]),
    ("directive_sets", s.directives.flatMap fun d =>
      d.sets.map fun f => [("directive_id", .integer d.id), ("set_spec", .text f)]),
    ("jobs", s.jobs.map fun j =>
      [("id", .integer j.id), ("service_id", .integer j.serviceId),
        ("output_set", textOrNull j.outputSet), ("job_kind", .text ((s.strayKinds.lookup j.id).getD j.kind.name)),
        ("job_order", .integer j.order), ("created_at", .integer s.clock)]),
    ("record_types", s.recordTypes.map fun t =>
      [("service_id", .integer t.serviceId), ("name", .text t.name),
        ("priority", .integer t.priority)]),
    ("id_counters", s.counters.map fun c =>
      [("scope", .text c.scope), ("name", .text c.name), ("next_value", .integer c.next)]),
    ("match_points", s.points.map fun p =>
      [("scope", .text p.scope), ("matcher", .text p.matcher), ("match_key", .text p.key),
        ("record_id", .integer p.recordId)]),
    ("harvest_schedules", s.schedules.map fun h =>
      [("id", .integer h.id), ("name", .text h.name), ("provider_id", .integer h.providerId)]),
    ("harvest_schedule_steps", s.steps.map fun st =>
      [("id", .integer st.id), ("schedule_id", .integer st.scheduleId),
        ("step_order", .integer st.order), ("format", .text st.format),
        ("set_spec", textOrNull st.setSpec), ("last_ran", intOrNull st.lastRan)]),
    ("sqlite_sequence", (Sequence.all.filter fun q => decide (s.lastId q > 0)).map fun q =>
      [("name", .text q.table), ("seq", .integer (s.lastId q))])]

/-- The names of the tables the store keeps typed. -/
def typedTables : List String :=
  (typedRows {}).map (·.1)

/-- The value a new row takes in a column it does not name: the column's default, worked
out at the store's clock, or null. -/
def freshValue (s : Store) (t : Table) (c : Column) : Value :=
  match c.default with
  | some e =>
    match (evalIn {} [] e).run { db := s.tables, clock := s.clock } with
    | .ok v _ => v.withAffinity (t.storeAffinity c)
    | .error _ _ => .null
  | none => .null

/-- The store's tables with the rows of its typed lists. -/
def encode (s : Store) : Database :=
  (typedRows s).foldl (fun db (name, rows) =>
    match db.tableIn? .main name with
    | some t => db.putTable .main (t.fill (freshValue s t) rows)
    | none => db) s.tables

/-- The rows of a table of a database, with the table; none when the table is missing. -/
def rowsOf (db : Database) (name : String) : List (Table × Row) :=
  match db.tableIn? .main name with
  | some t => t.rows.map (t, ·)
  | none => []

/-- A text column, the empty text for null. -/
def textAt (t : Table) (r : Row) (name : String) : String :=
  (t.field r name).asText

/-- A text column that may be null. -/
def optTextAt (t : Table) (r : Row) (name : String) : Option String :=
  (t.field r name).asText?

/-- An integer column. -/
def intAt (t : Table) (r : Row) (name : String) : Int :=
  (t.field r name).asInteger

/-- An integer column that may be null. -/
def optIntAt (t : Table) (r : Row) (name : String) : Option Int :=
  if (t.field r name).isNull then none else some (intAt t r name)

/-- A record row read back from its table row. -/
def recordOf (t : Table) (r : Row) : RecordRow :=
  let text := textAt t r "payload"
  let (payload, rawPayload) := match Json.parse text with
    | .ok j => (j, none)
    | .error _ => (Json.null, some text)
  { id := intAt t r "id", repo := textAt t r "repo_name", oaiId := textAt t r "oai_id"
    format := textAt t r "format", recordType := optTextAt t r "record_type"
    status := if textAt t r "status" == "DELETED" then .deleted else .active
    payload, rawPayload, visible := intAt t r "visible" != 0
    batch := (optTextAt t r "batch_id").bind String.toNat?
    updatedAt := intAt t r "updated_at" }

/-- A service row read back from its table row. -/
def serviceOf (t : Table) (r : Row) : ServiceRow :=
  let text := textAt t r "status"
  let (status, strayStatus) := match Service.Status.parse text with
    | .ok st => (st, none)
    | .error _ => (Service.Status.notRunning, some text)
  { id := intAt t r "id", name := textAt t r "name", kind := textAt t r "kind"
    version := textAt t r "version", repoName := textAt t r "repo_name", status, strayStatus
    totals := { warnings := intAt t r "warnings", errors := intAt t r "errors"
                errorsPerCommit := intAt t r "errors_per_commit"
                inputRecordCount := intAt t r "input_record_count"
                outputRecordCount := intAt t r "output_record_count" } }

/-- A directive read back from its table row and the rows of its formats and sets. -/
def directiveOf (db : Database) (t : Table) (r : Row) : Directive :=
  let id := intAt t r "id"
  let source : DirectiveSource := match optIntAt t r "source_provider_id" with
    | some p => .provider p
    | none => .service (intAt t r "source_service_id")
  let values (table column : String) : List String :=
    (rowsOf db table).filterMap fun (u, row) =>
      if intAt u row "directive_id" == id then some (textAt u row column) else none
  { id, source, target := intAt t r "target_service_id"
    outputSet := optTextAt t r "output_set", formats := values "directive_formats" "format"
    sets := values "directive_sets" "set_spec" }

/-- The job kind a stored name gives. -/
def jobKindOf (name : String) : JobKind :=
  if name == "SERVICE_REPROCESS" then .serviceReprocess else .processingDirective

/-- The last id of a sequence after a script: the larger of its recorded value and the
largest id of its table. -/
def lastIdOf (db : Database) (q : Sequence) : Int :=
  let recorded := (rowsOf db "sqlite_sequence").foldl (fun acc (t, r) =>
    if textAt t r "name" == q.table then max acc (intAt t r "seq") else acc) 0
  (rowsOf db q.table).foldl (fun acc (_, r) => max acc r.rowid) recorded

/-- The store the tables of a database give back: the typed lists read from their tables,
and the tables themselves, whose rows keep the values of columns the typed lists do not
hold. -/
def decode (s : Store) (db : Database) : Store :=
  let pairs (table a b : String) : List (Int × Int) :=
    (rowsOf db table).map fun (t, r) => (intAt t r a, intAt t r b)
  { s with
    modified := (rowsOf db "repositories").map fun (t, r) =>
      (textAt t r "name", intAt t r "last_modified")
    records := (rowsOf db "records").map fun (t, r) => recordOf t r
    openBatches := (rowsOf db "open_batches").filterMap fun (t, r) =>
      (String.toNat? (textAt t r "batch_id")).map (·, textAt t r "repo_name")
    recordSets := (rowsOf db "record_sets").map fun (t, r) =>
      (intAt t r "record_id", textAt t r "set_spec")
    lineage := pairs "record_lineage" "predecessor_id" "successor_id"
    links := pairs "record_links" "from_id" "to_id"
    processedBy := pairs "record_processed_by" "record_id" "service_id"
    inputFor := pairs "record_input_for" "record_id" "service_id"
    providers := (rowsOf db "providers").map fun (t, r) =>
      { id := intAt t r "id", name := textAt t r "name", baseUrl := textAt t r "base_url"
        repoName := textAt t r "repo_name" }
    services := (rowsOf db "services").map fun (t, r) => serviceOf t r
    directives := (rowsOf db "processing_directives").map fun (t, r) => directiveOf db t r
    jobs := (rowsOf db "jobs").map fun (t, r) =>
      { id := intAt t r "id", serviceId := intAt t r "service_id"
        outputSet := optTextAt t r "output_set", kind := jobKindOf (textAt t r "job_kind")
        order := intAt t r "job_order" }
    strayKinds := (rowsOf db "jobs").filterMap fun (t, r) =>
      let text := textAt t r "job_kind"
      match JobKind.parse text with
      | .ok _ => none
      | .error _ => some (intAt t r "id", text)
    recordTypes := (rowsOf db "record_types").map fun (t, r) =>
      { serviceId := intAt t r "service_id", name := textAt t r "name"
        priority := intAt t r "priority" }
    counters := (rowsOf db "id_counters").map fun (t, r) =>
      { scope := textAt t r "scope", name := textAt t r "name", next := intAt t r "next_value" }
    points := SortedList.ofList ((rowsOf db "match_points").map fun (t, r) =>
      { scope := textAt t r "scope", matcher := textAt t r "matcher"
        key := textAt t r "match_key", recordId := intAt t r "record_id" })
    schedules := (rowsOf db "harvest_schedules").map fun (t, r) =>
      { id := intAt t r "id", name := textAt t r "name", providerId := intAt t r "provider_id" }
    steps := (rowsOf db "harvest_schedule_steps").map fun (t, r) =>
      { id := intAt t r "id", scheduleId := intAt t r "schedule_id"
        order := intAt t r "step_order", format := textAt t r "format"
        setSpec := optTextAt t r "set_spec", lastRan := optIntAt t r "last_ran" }
    lastId := fun q => lastIdOf db q
    tables := db }

/-- Run an update script on the store in a transaction of its own: the store it leaves and
its failure, if any. A script that fails before any commit leaves the store as it was. -/
def applyScript (s : Store) (text : String) : Store × Option StoreFault :=
  match runScript text { db := s.encode, clock := s.clock } with
  | (some db, fault) => (s.decode db, fault)
  | (none, fault) => (s, fault)

end Catalog.Store
