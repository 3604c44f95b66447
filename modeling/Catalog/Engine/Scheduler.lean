import Catalog.Engine.Run

/-!
# Running queued jobs

A job is run by loading its service, making a worker for it and running a pass into the
job's output set. The scheduler runs jobs until none can be started, in a loop that
dispatches and then waits for one run to end:

* A dispatch lists the queue in order and claims the first job of every service that no run
  in flight holds, that is not held back and that it has not claimed already. Claiming takes
  the job off the queue and starts its run. A failure to list the queue or to take a job ends
  the dispatch; the runs it started go on.
* Runs end in any order, each with its result, with a failure, or by panicking. A run that
  finds its service held elsewhere (`alreadyRunning`) puts its job back on the queue, and its
  service is held back for the rest of the call. A panicked run's job goes back too, and the
  call stops dispatching, as it does after a failed dispatch. Putting a job back is best
  effort: when queuing it fails, the job is dropped.
* The loop ends when no run is in flight after the dispatch of a round, or when none is left
  once dispatching has stopped. The answer is the first failure, or else every result.

A run's effects are taken at the moment it ends. Runs that keep queuing jobs for one another
could keep the loop going forever: past `roundLimit` rounds the call stops dispatching, with
a failure, and waits for the runs in flight.
-/

namespace Catalog.Engine

open Catalog.Store Catalog.Pipeline Catalog.Service Catalog.Site

/-- Run the pass a job asks for. -/
def runJob (job : Job) (control : Control) : Action RunResult := do
  let some info ← lookup (·.service? job.serviceId)
    | throw (.notFound ("service " ++ toString job.serviceId))
  run (← instantiate info) info.id job.outputSet control

/-- How a started run ends: it returns its result or its failure, or it panics, with the
text the panic leaves. -/
inductive Ending where
  | returned (result : Except Error RunResult)
  | panicked (reason : String)

/-- A run that ends so found its service held elsewhere: its service is held back. -/
def Ending.holds : Ending → Bool
  | .returned (.error (.alreadyRunning _)) => true
  | _ => false

/-- A run that ends so panicked: the call stops dispatching. -/
def Ending.panics : Ending → Bool
  | .panicked _ => true
  | _ => false

/-- The failure a run that ends so notes, if any. -/
def Ending.failure? : Ending → Option Error
  | .returned (.ok _) => none
  | .returned (.error e) => some e
  | .panicked reason => some (.internal ("Run task failed: " ++ reason))

/-- What a dispatch did: the jobs it listed, in queue order (none when it could not list
them), the jobs it claimed and started, in that order, and the failure that ended it, if
one did. -/
structure Dispatch where
  listed : List Job := []
  started : List Job := []
  failure : Option Error := none

/-- What happens during a call. -/
inductive Happening where
  /-- A dispatch that skipped the given services. -/
  | dispatched (skip : List Int) (d : Dispatch)
  /-- The run of a job ended. -/
  | ended (job : Job) (ending : Ending)
  /-- The call ran out of rounds. -/
  | outOfRounds

/-- The failure a happening notes, if any. -/
def Happening.failure? : Happening → Option Error
  | .dispatched _ d => d.failure
  | .ended _ ending => ending.failure?
  | .outOfRounds => some (.internal "scheduler round limit reached")

/-- The result a happening brings, if any. -/
def Happening.result? : Happening → Option RunResult
  | .ended _ (.returned (.ok r)) => some r
  | _ => none

/-- What a call holds between rounds. -/
structure Loop where
  /-- The runs in flight, by their jobs, in the order they started. -/
  inFlight : List Job := []
  /-- The services held back: a run of theirs found them held elsewhere. -/
  held : List Int := []
  /-- Whether the call still dispatches. -/
  dispatching : Bool := true
  /-- What happened so far, in order. -/
  happened : List Happening := []

/-- The runs of a call: how the run of a job ends, and which run in flight ends next. Given
all that happened so far, `next` is the position of the run that ends next among the runs in
flight, in the order they started; past the last, it is the last. -/
structure Runs where
  run : Job → StateM Site Ending
  next : Loop → Nat

/-- Claim, from the listed jobs in order, the first job of every service neither skipped nor
claimed already, after the jobs in `claimed`. A claim takes the job off the queue; one that
finds it gone passes over it. A failure to take a job ends the claiming. -/
def claim (skip : List Int) : List Job → List Job → Action (List Job × Option Error)
  | [], claimed => pure (claimed, none)
  | job :: rest, claimed =>
    if claimed.any (·.serviceId == job.serviceId) || skip.contains job.serviceId then
      claim skip rest claimed
    else do
      match ← Site.attempt (atomically (removeJob job.id)) with
      | .error e => pure (claimed, some e)
      | .ok true => claim skip rest (claimed ++ [job])
      | .ok false => claim skip rest claimed

/-- List the queue and claim from it the first job of every service not skipped. -/
def dispatch (skip : List Int) : Action Dispatch := do
  match ← Site.attempt (lookup (·.queued)) with
  | .error e => pure { failure := some e }
  | .ok listed =>
    let (started, failure) ← claim skip listed []
    pure { listed, started, failure }

/-- Put a job back on the queue, as best one can: a failure to queue it is dropped. -/
def requeue (job : Job) : Action Unit := do
  let _ ← Site.attempt (enqueue job.serviceId job.outputSet job.kind)

/-- The job at a position among a nonempty list of jobs, the last when the list is shorter,
and the others in their order. -/
def pick : Nat → Job → List Job → Job × List Job
  | 0, job, others => (job, others)
  | _ + 1, job, [] => (job, [])
  | n + 1, job, next :: rest =>
    let (picked, others) := pick n next rest
    (picked, job :: others)

/-- Dispatch, skipping the services held back and those of the runs in flight: the runs it
starts join those in flight, and a failure stops dispatching. -/
def Loop.dispatchNow (l : Loop) : Action Loop := do
  let skip := l.held ++ l.inFlight.map (·.serviceId)
  let d ← dispatch skip
  pure { l with
    inFlight := l.inFlight ++ d.started
    dispatching := d.failure.isNone
    happened := l.happened ++ [.dispatched skip d] }

/-- Wait for the run of a job in flight to end, the other runs staying in flight, and note
how it ended. -/
def Loop.collect (runs : Runs) (l : Loop) (job : Job) (others : List Job) : Action Loop := do
  let ending ← (runs.run job : StateM Site Ending)
  if ending.holds || ending.panics then requeue job
  pure { l with
    inFlight := others
    held := if ending.holds then job.serviceId :: l.held else l.held
    dispatching := l.dispatching && !ending.panics
    happened := l.happened ++ [.ended job ending] }

/-- Wait for the run that ends next, if a run is in flight; the flag says whether one was. -/
def Loop.collectNext (runs : Runs) (l : Loop) : Action (Loop × Bool) :=
  match l.inFlight with
  | [] => pure (l, false)
  | job :: jobs => do
    let (job, others) := pick (runs.next l) job jobs
    pure (← l.collect runs job others, true)

/-- One round: dispatch while the call dispatches, then wait for the run that ends next. The
flag says whether the loop goes on: it ends when no run is in flight. -/
def Loop.round (runs : Runs) (l : Loop) : Action (Loop × Bool) := do
  let l ← if l.dispatching then l.dispatchNow else pure l
  l.collectNext runs

/-- Rounds while the loop goes on, at most `n` of them; the flag says whether it would go
on. -/
def Loop.rounds (runs : Runs) : Nat → Loop → Action (Loop × Bool)
  | 0, l => pure (l, true)
  | n + 1, l => do
    let (l, more) ← l.round runs
    if more then Loop.rounds runs n l else pure (l, false)

/-- The call runs out of rounds: it stops dispatching, with a failure. -/
def Loop.runOut (l : Loop) : Loop :=
  { l with dispatching := false, happened := l.happened ++ [.outOfRounds] }

/-- The most rounds one call runs. Jobs that runs keep queuing for each other could
otherwise be run without end. -/
def roundLimit : Nat := 1000000

/-- A call: rounds until the loop ends; past `roundLimit` of them, it runs out and waits for
the runs in flight, one round each. -/
def Loop.call (runs : Runs) : Action Loop := do
  let (l, more) ← Loop.rounds runs roundLimit {}
  if more then
    let l := l.runOut
    return (← Loop.rounds runs l.inFlight.length l).1
  else pure l

/-- The answer of a call: its first failure, or else the result of every run, ordered by
service. -/
def Loop.answer (l : Loop) : Outcome (List RunResult) :=
  match l.happened.findSome? Happening.failure? with
  | some e => .error e
  | none =>
    .ok ((l.happened.filterMap Happening.result?).mergeSort fun a b => a.serviceId ≤ b.serviceId)

/-- Run queued jobs, with the given runs, until none can be started. -/
def runUntilIdleWith (runs : Runs) : Action (List RunResult) := do
  Site.ofOutcome (← Loop.call runs).answer

/-- The scheduler's runs: a job's run is the pass it asks for, and runs end in the order
they started. -/
def Runs.passes : Runs where
  run job := Ending.returned <$> (runJob job {}).run
  next _ := 0

/-- Run queued jobs until none can be started; the results are ordered by service. -/
def runUntilIdle : Action (List RunResult) :=
  runUntilIdleWith .passes

end Catalog.Engine
