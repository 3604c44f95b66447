import Catalog.Store.Basic

/-!
# Queued jobs in the store

Jobs run in ascending order; a new job's order is one past the largest order queued, so
the table stays in queue order as jobs are appended. At most one job waits per service and
output set (an absent output set matches only an absent one).

A job whose stored kind names no kind (only an update script writes one) cannot be read:
reading it fails, but counting or removing it does not.
-/

namespace Catalog.Store

open Catalog.Pipeline

/-- Queue a job unless one for the same service and output set waits already. -/
def insertJob (service : Int) (outputSet : Option String) (kind : JobKind) :
    Tx (Option Job) := do
  useTable "jobs"
  let s ← get
  if s.jobs.any (fun j => j.serviceId == service && j.outputSet == outputSet) then
    pure none
  else
    let order := s.jobs.foldl (fun m j => max m j.order) 0 + 1
    let id ← nextId .jobs
    let job : Job := { id, serviceId := service, outputSet, kind, order }
    modify fun s => { s with jobs := s.jobs ++ [job] }
    pure (some job)

/-- The jobs of the table in order. -/
def jobsInOrder (s : Store) : List Job :=
  s.jobs.mergeSort fun a b => a.order ≤ b.order

/-- Read a stored job: one whose stored kind names no kind fails. -/
def readJob (s : Store) (j : Job) : Outcome Job :=
  match s.strayKinds.lookup j.id with
  | some text => JobKind.parse text |>.map fun kind => { j with kind }
  | none => pure j

/-- The queued jobs in order. -/
def queued (s : Store) : Outcome (List Job) := do
  s.needTable "jobs"
  s.jobsInOrder.mapM s.readJob

/-- The first queued job, without taking it. -/
def firstJob (s : Store) : Outcome (Option Job) := do
  s.needTable "jobs"
  s.jobsInOrder.head?.mapM s.readJob

/-- The queued jobs of a service in order. -/
def jobsOf (s : Store) (service : Int) : Outcome (List Job) := do
  s.needTable "jobs"
  (s.jobsInOrder.filter (·.serviceId == service)).mapM s.readJob

/-- The number of queued jobs. -/
def queueLength (s : Store) : Outcome Nat := do
  s.needTable "jobs"
  pure s.jobs.length

/-- A job taken from the queue: none, a job, or a job whose stored kind could not be read,
which is gone from the queue all the same. -/
inductive Taken where
  | empty
  | job (j : Job)
  | unreadable (text : String)

/-- The job taken, or the failure of reading it. -/
def Taken.job? : Taken → Outcome (Option Job)
  | .empty => pure none
  | .job j => pure (some j)
  | .unreadable text => JobKind.parse text |>.map fun _ => none

/-- Remove and return the first job. -/
def takeJob : Tx Taken := do
  useTable "jobs"
  let s ← get
  match s.jobsInOrder with
  | [] => pure .empty
  | j :: _ =>
    set { s with
      jobs := s.jobs.filter (·.id != j.id)
      strayKinds := s.strayKinds.filter (·.1 != j.id) }
    match s.strayKinds.lookup j.id with
    | some text => pure (.unreadable text)
    | none => pure (.job j)

/-- Remove a job; false when it was not queued. -/
def removeJob (id : Int) : Tx Bool := do
  useTable "jobs"
  let s ← get
  set { s with
    jobs := s.jobs.filter (·.id != id)
    strayKinds := s.strayKinds.filter (·.1 != id) }
  pure (s.jobs.any (·.id == id))

/-- Remove every job of a service; the result counts them. -/
def removeJobsFor (service : Int) : Tx Nat := do
  useTable "jobs"
  let s ← get
  let gone := (s.jobs.filter (·.serviceId == service)).map (·.id)
  set { s with
    jobs := s.jobs.filter (·.serviceId != service)
    strayKinds := s.strayKinds.filter fun (id, _) => !gone.contains id }
  pure (s.jobs.filter (·.serviceId == service)).length

end Catalog.Store
