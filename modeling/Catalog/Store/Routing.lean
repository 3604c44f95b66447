import Catalog.Store.Records

/-!
# Providers, directives, schedules and counters in the store

A provider is a harvest source with a unique name; its records live in the repository named
after it. A processing directive routes the records of one provider or service to a target
service; it needs at least one format, and its formats and sets are stored one row each and
read back like record sets. A harvest schedule belongs to a provider and holds steps,
numbered one past the schedule's last step. Counters hold the next value of a named
sequence within a scope; a stored value is never lowered.
-/

namespace Catalog.Store

open Catalog.Pipeline

/-! ## Providers -/

/-- Insert a provider. Its repository name is checked before its name, as the index on the
repository name is the newer one. -/
def insertProvider (name baseUrl : String) : Tx ProviderRow := do
  let s ← get
  if s.providers.any (·.repoName == providerRepo name) then
    fault (.unique ["providers.repo_name"])
  if s.providers.any (·.name == name) then
    fault (.unique ["providers.name"])
  let id ← nextId .providers
  let row : ProviderRow := { id, name, baseUrl, repoName := providerRepo name }
  modify fun s => { s with providers := s.providers ++ [row] }
  pure row

/-- The provider of an id. -/
def provider (s : Store) (id : Int) : Outcome ProviderRow :=
  match s.providers.find? (·.id == id) with
  | some row => .ok row
  | none => .error (.notFound ("provider " ++ toString id))

/-! ## Directives -/

/-- Insert a directive; its source and target must exist. The result is its id. -/
def insertDirective (source : DirectiveSource) (target : Int) (outputSet : Option String)
    (formats sets : List String) : Tx Int := do
  if formats.isEmpty then
    failWith (.config "Processing directive needs at least one format")
  let s ← get
  let sourceExists := match source with
    | .provider id => s.providers.any (·.id == id)
    | .service id => s.services.any (·.id == id)
  unless sourceExists && s.services.any (·.id == target) do
    fault .foreignKey
  let id ← nextId .directives
  let distinct (xs : List String) : List String :=
    xs.foldl (fun acc x => if acc.contains x then acc else acc ++ [x]) []
  modify fun s =>
    { s with
      directives := s.directives ++
        [{ id, source, target, outputSet, formats := distinct formats, sets := distinct sets }] }
  pure id

/-- A directive as it reads back: formats and sets sorted and split at unit separators. -/
def Directive.readBack (d : Directive) : Directive :=
  { d with formats := readSets d.formats, sets := readSets d.sets }

/-- The directives of a source, by id. -/
def directivesFor (s : Store) (source : DirectiveSource) : List Directive :=
  (s.directives.filter (·.source == source)).map Directive.readBack

/-- Delete the directives naming a service as source or target; the result counts them. -/
def deleteDirectivesFor (service : Int) : Tx Nat := do
  let s ← get
  let names (d : Directive) : Bool := d.source == .service service || d.target == service
  set { s with directives := s.directives.filter (!names ·) }
  pure (s.directives.filter names).length

/-! ## Harvest schedules -/

/-- Insert a schedule of a provider; the result is its id. -/
def insertSchedule (name : String) (providerId : Int) : Tx Int := do
  let s ← get
  if s.schedules.any (·.name == name) then
    fault (.unique ["harvest_schedules.name"])
  unless s.providers.any (·.id == providerId) do
    fault .foreignKey
  let id ← nextId .schedules
  modify fun s => { s with schedules := s.schedules ++ [{ id, name, providerId }] }
  pure id

/-- Append a step to a schedule; the result is its id. -/
def addStep (scheduleId : Int) (format : String) (setSpec : Option String) : Tx Int := do
  let s ← get
  unless s.schedules.any (·.id == scheduleId) do
    fault .foreignKey
  let last := (s.steps.filter (·.scheduleId == scheduleId)).foldl (fun m st => max m st.order) 0
  let id ← nextId .steps
  modify fun s =>
    { s with
      steps := s.steps ++
        [{ id, scheduleId, order := last + 1, format, setSpec, lastRan := none }] }
  pure id

/-- A schedule with its steps in order. -/
def schedule (s : Store) (id : Int) : Outcome (ScheduleRow × List StepRow) :=
  match s.schedules.find? (·.id == id) with
  | none => .error (.notFound ("harvest schedule " ++ toString id))
  | some row =>
    .ok (row, (s.steps.filter (·.scheduleId == id)).mergeSort fun a b => a.order ≤ b.order)

/-- Note when a step last ran. -/
def setLastRan (stepId : Int) (time : Int) : Tx Unit :=
  modify fun s =>
    { s with
      steps := s.steps.map fun (st : StepRow) =>
        if st.id == stepId then { st with lastRan := some time } else st }

/-! ## Counters -/

/-- The stored next value of a counter. -/
def counter? (s : Store) (scope name : String) : Option Int :=
  (s.counters.find? fun c => c.scope == scope && c.name == name).map (·.next)

/-- Store the next value of a counter, keeping a larger stored value. -/
def saveCounter (scope name : String) (next : Int) : Tx Unit :=
  modify fun s =>
    if s.counters.any (fun c => c.scope == scope && c.name == name) then
      { s with
        counters := s.counters.map fun (c : CounterRow) =>
          if c.scope == scope && c.name == name then { c with next := max c.next next } else c }
    else { s with counters := s.counters ++ [{ scope, name, next }] }

/-- Delete every counter of a scope. -/
def deleteCounters (scope : String) : Tx Unit :=
  modify fun s => { s with counters := s.counters.filter (·.scope != scope) }

end Catalog.Store
