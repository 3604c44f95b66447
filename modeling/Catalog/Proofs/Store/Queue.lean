import Catalog.Store.Jobs

/-!
# The job queue: first in, first out, one job per key

A job waits under a key, the service and the output set it asks a pass for, where an absent
output set is a key of its own. The queue is read in ascending order; a new job's order is
one past the largest order queued when it arrives, so orders are reused once the jobs that
held them are gone. Ids come from a sequence that never hands one out twice.

Reading in order of `order` is reading in order of arrival because of one invariant: along
the table, which keeps its jobs in the order they were queued, ids and orders both rise. A
job queued later gets an id and an order above every job queued at that moment, and taking
or removing jobs keeps the rest in their order. So the jobs sorted by order are the jobs as
they were queued, and the first by order is the oldest. A queue is well formed (`QueueWF`)
when that holds, no two jobs share a key, no id is above the last one handed out, and every
stored kind reads. Every call keeps a queue well formed.

## Main results

* `QueueCall.step_meets`: on a well-formed queue every call succeeds, answers as the queue
  promises (`QueueCall.Meets`), and leaves the queue well formed
* `QueueCall.Serves.taken_sublist`: along a run of calls, the jobs that `next` takes come in
  the order the jobs were queued
* `queue_serves_first_in_first_out`: any sequence of calls from a well-formed queue is served
  so, and the jobs leave in the order they came
-/

namespace Catalog.Pipeline

/-- The key a job waits under: its service and its output set. -/
def Job.key (j : Job) : Int × Option String :=
  (j.serviceId, j.outputSet)

end Catalog.Pipeline

namespace Catalog.Store

open Catalog.Pipeline

/-- A well-formed queue: the table exists, every stored kind reads, ids and orders rise along
the table, no id is above the last one handed out, and no two jobs share a key. -/
structure QueueWF (s : Store) : Prop where
  table : s.hasTable "jobs" = true
  readable : s.strayKinds = []
  rising : s.jobs.Pairwise fun a b => a.id < b.id ∧ a.order < b.order
  issued : ∀ j ∈ s.jobs, j.id ≤ s.lastId .jobs
  keyed : s.jobs.Pairwise fun a b => a.key ≠ b.key

variable {s : Store}

-- ---------------------------------------------------------------------------
-- Reading the queue
-- ---------------------------------------------------------------------------

/-- Jobs whose orders rise along the table are already in queue order. -/
theorem jobsInOrder_eq (h : s.jobs.Pairwise fun a b => a.order < b.order) :
    s.jobsInOrder = s.jobs :=
  List.mergeSort_of_pairwise (h.imp fun hab => decide_eq_true (Int.le_of_lt hab))

theorem QueueWF.jobsInOrder_eq (h : s.QueueWF) : s.jobsInOrder = s.jobs :=
  Store.jobsInOrder_eq (h.rising.imp And.right)

/-- Every job of a well-formed queue reads as it is stored. -/
theorem QueueWF.readJob_eq (h : s.QueueWF) : s.readJob = pure := by
  funext j
  simp only [readJob, h.readable, List.lookup_nil]

theorem QueueWF.queued_eq (h : s.QueueWF) : s.queued = .ok s.jobs := by
  have hread : s.jobs.mapM s.readJob = .ok s.jobs := by
    rw [h.readJob_eq]
    have hpure := List.mapM_pure (m := Except Error) (l := s.jobs) (f := id)
    rw [List.map_id] at hpure
    exact hpure
  simp only [queued, needTable, h.table, if_true, h.jobsInOrder_eq, hread]
  rfl

theorem QueueWF.firstJob_eq (h : s.QueueWF) : s.firstJob = .ok s.jobs.head? := by
  simp only [firstJob, needTable, h.table, if_true, h.jobsInOrder_eq, h.readJob_eq]
  cases s.jobs <;> rfl

theorem QueueWF.queueLength_eq (h : s.QueueWF) : s.queueLength = .ok s.jobs.length := by
  simp only [queueLength, needTable, h.table, if_true]
  rfl

/-- The first job of a well-formed queue has an order below every other job. -/
theorem QueueWF.head_order_lt {j : Job} {rest : List Job} (h : s.QueueWF)
    (hjobs : s.jobs = j :: rest) : ∀ i ∈ rest, j.order < i.order := by
  have hr := h.rising
  rw [hjobs, List.pairwise_cons] at hr
  exact fun i hi => (hr.1 i hi).2

/-- No job of a well-formed queue has an order below its first job. -/
theorem QueueWF.head?_order_le (h : s.QueueWF) :
    ∀ j ∈ s.jobs.head?, ∀ i ∈ s.jobs, j.order ≤ i.order := by
  intro j hj i hi
  cases hjobs : s.jobs with
  | nil => simp [hjobs] at hj
  | cons k rest =>
    rw [hjobs, List.head?_cons, Option.mem_some_iff] at hj
    subst hj
    rw [hjobs] at hi
    rcases List.mem_cons.1 hi with rfl | hi
    · exact Int.le_refl _
    · exact Int.le_of_lt (h.head_order_lt hjobs i hi)

-- ---------------------------------------------------------------------------
-- Queuing a job
-- ---------------------------------------------------------------------------

/-- The largest order of a list of jobs, at least `m`. -/
theorem le_foldl_max_order (js : List Job) (m : Int) :
    m ≤ js.foldl (fun m j => max m j.order) m ∧
      ∀ j ∈ js, j.order ≤ js.foldl (fun m j => max m j.order) m := by
  induction js generalizing m with
  | nil => simp
  | cons i js ih =>
    obtain ⟨hm, hjs⟩ := ih (max m i.order)
    refine ⟨Int.le_trans (Int.le_max_left _ _) hm, fun j hj => ?_⟩
    rcases List.mem_cons.1 hj with rfl | hj
    · exact Int.le_trans (Int.le_max_right _ _) hm
    · exact hjs j hj

/-- The job queued under a key that no job waits under. -/
def freshJob (s : Store) (service : Int) (outputSet : Option String) (kind : JobKind) : Job :=
  { id := s.lastId .jobs + 1, serviceId := service, outputSet := outputSet, kind := kind,
    order := s.jobs.foldl (fun m j => max m j.order) 0 + 1 }

/-- The store with a job appended and its id handed out. -/
def withJob (s : Store) (j : Job) : Store :=
  { s with
    jobs := s.jobs ++ [j]
    lastId := fun q => if q = .jobs then s.lastId .jobs + 1 else s.lastId q }

theorem freshJob_order_gt (service : Int) (outputSet : Option String) (kind : JobKind) :
    ∀ i ∈ s.jobs, i.order < (s.freshJob service outputSet kind).order := fun i hi =>
  Int.lt_add_one_of_le ((le_foldl_max_order s.jobs 0).2 i hi)

theorem key_eq_iff {j : Job} {service : Int} {outputSet : Option String} :
    j.key = (service, outputSet) ↔ j.serviceId = service ∧ j.outputSet = outputSet := by
  simp [Job.key]

/-- Queuing under a key that a job waits under changes nothing and creates no job. -/
theorem insertJob_run_waiting {service : Int} {outputSet : Option String} (kind : JobKind)
    (ht : s.hasTable "jobs" = true) (hw : ∃ j ∈ s.jobs, j.key = (service, outputSet)) :
    (insertJob service outputSet kind).run s = .ok (none, s) := by
  simp only [key_eq_iff] at hw
  simp [insertJob, useTable, ht, hw]
  rfl

/-- Queuing under a free key appends a fresh job. -/
theorem insertJob_run_free {service : Int} {outputSet : Option String} (kind : JobKind)
    (ht : s.hasTable "jobs" = true) (hf : ¬∃ j ∈ s.jobs, j.key = (service, outputSet)) :
    (insertJob service outputSet kind).run s =
      .ok (some (s.freshJob service outputSet kind),
        s.withJob (s.freshJob service outputSet kind)) := by
  simp only [key_eq_iff] at hf
  simp [insertJob, useTable, nextId, ht, hf]
  rfl

/-- Appending a fresh job under a free key keeps a queue well formed. -/
theorem QueueWF.withJob {service : Int} {outputSet : Option String} (kind : JobKind)
    (h : s.QueueWF) (hf : ¬∃ j ∈ s.jobs, j.key = (service, outputSet)) :
    (s.withJob (s.freshJob service outputSet kind)).QueueWF := by
  have horder := freshJob_order_gt (s := s) service outputSet kind
  refine ⟨h.table, h.readable, ?rising, ?issued, ?keyed⟩
  case rising =>
    refine List.pairwise_append.2 ⟨h.rising, List.pairwise_singleton _ _, ?_⟩
    intro i hi j hj
    rw [List.mem_singleton.1 hj]
    exact ⟨Int.lt_add_one_of_le (h.issued i hi), horder i hi⟩
  case issued =>
    intro j hj
    rcases List.mem_append.1 hj with hj | hj
    · simpa [Store.withJob] using Int.le_add_one (h.issued j hj)
    · simp [List.mem_singleton.1 hj, Store.withJob, freshJob]
  case keyed =>
    refine List.pairwise_append.2 ⟨h.keyed, List.pairwise_singleton _ _, ?_⟩
    intro i hi j hj heq
    rw [List.mem_singleton.1 hj] at heq
    exact hf ⟨i, hi, heq⟩

-- ---------------------------------------------------------------------------
-- Taking and removing jobs
-- ---------------------------------------------------------------------------

/-- Keeping some of the jobs, in their order, keeps a queue well formed. -/
theorem QueueWF.sublist {js : List Job} (h : s.QueueWF) (hsub : js.Sublist s.jobs) :
    ({ s with jobs := js } : Store).QueueWF :=
  ⟨h.table, h.readable, h.rising.sublist hsub, fun j hj => h.issued j (hsub.subset hj),
    h.keyed.sublist hsub⟩

theorem takeJob_run_empty (ht : s.hasTable "jobs" = true) (h : s.jobsInOrder = []) :
    takeJob.run s = .ok (.empty, s) := by
  simp [takeJob, useTable, ht, h]
  rfl

/-- Taking from a well-formed queue takes its first job, the oldest. -/
theorem QueueWF.takeJob_run_cons {j : Job} {rest : List Job} (h : s.QueueWF)
    (hjobs : s.jobs = j :: rest) : takeJob.run s = .ok (.job j, { s with jobs := rest }) := by
  have hfilter : s.jobs.filter (·.id != j.id) = rest := by
    have hr := h.rising
    rw [hjobs, List.pairwise_cons] at hr
    rw [hjobs, List.filter_cons_of_neg (by simp)]
    exact List.filter_eq_self.2 fun i hi => by simpa using Int.ne_of_gt (hr.1 i hi).1
  have horder := h.jobsInOrder_eq
  rw [hjobs] at horder
  simp [takeJob, useTable, h.table, horder, h.readable, hfilter]
  rfl

theorem removeJob_run (ht : s.hasTable "jobs" = true) (hk : s.strayKinds = []) (id : Int) :
    (removeJob id).run s =
      .ok (s.jobs.any (·.id == id), { s with jobs := s.jobs.filter (·.id != id) }) := by
  simp [removeJob, useTable, ht, hk]
  rfl

theorem removeJobsFor_run (ht : s.hasTable "jobs" = true) (hk : s.strayKinds = [])
    (service : Int) :
    (removeJobsFor service).run s =
      .ok ((s.jobs.filter (·.serviceId == service)).length,
        { s with jobs := s.jobs.filter (·.serviceId != service) }) := by
  simp [removeJobsFor, useTable, ht, hk]
  rfl

-- ---------------------------------------------------------------------------
-- Calls on the queue
-- ---------------------------------------------------------------------------

/-- A call on the job queue. -/
inductive QueueCall where
  | enqueue (service : Int) (outputSet : Option String) (kind : JobKind)
  | next
  | peek
  | list
  | length
  | remove (id : Int)
  | removeFor (service : Int)

/-- What a call on the job queue answers. -/
inductive QueueAnswer where
  | enqueued (job : Option Job)
  | taken (taken : Taken)
  | first (job : Option Job)
  | jobs (jobs : List Job)
  | length (n : Nat)
  | removed (found : Bool)
  | removedFor (n : Nat)

/-- A call, made as one transaction on the store. -/
def QueueCall.run : QueueCall → Tx QueueAnswer
  | .enqueue service outputSet kind => .enqueued <$> insertJob service outputSet kind
  | .next => .taken <$> takeJob
  | .peek => do .first <$> ofOutcome (← get).firstJob
  | .list => do .jobs <$> ofOutcome (← get).queued
  | .length => do .length <$> ofOutcome (← get).queueLength
  | .remove id => .removed <$> removeJob id
  | .removeFor service => .removedFor <$> removeJobsFor service

/-- What the queue promises for a call made on the store `s`, answered by `a`, leaving `t`. -/
def QueueCall.Meets : QueueCall → Store → QueueAnswer → Store → Prop
  | .enqueue service outputSet kind, s, a, t =>
    -- no job while one waits under the key, whatever its kind; else a job after all others
    ((∃ j ∈ s.jobs, j.key = (service, outputSet)) ∧ a = .enqueued none ∧ t.jobs = s.jobs) ∨
    ((¬∃ j ∈ s.jobs, j.key = (service, outputSet)) ∧ ∃ j, a = .enqueued (some j) ∧
      j.key = (service, outputSet) ∧ j.kind = kind ∧ (∀ i ∈ s.jobs, i.order < j.order) ∧
      t.jobs = s.jobs ++ [j])
  | .next, s, a, t =>
    (s.jobs = [] ∧ a = .taken .empty ∧ t.jobs = []) ∨
    (∃ j rest, s.jobs = j :: rest ∧ a = .taken (.job j) ∧ (∀ i ∈ rest, j.order < i.order) ∧
      t.jobs = rest)
  | .peek, s, a, t =>
    a = .first s.jobs.head? ∧ (∀ j ∈ s.jobs.head?, ∀ i ∈ s.jobs, j.order ≤ i.order) ∧ t = s
  | .list, s, a, t =>
    a = .jobs s.jobs ∧ s.jobs.Pairwise (fun i j => i.order < j.order) ∧ t = s
  | .length, s, a, t => a = .length s.jobs.length ∧ t = s
  | .remove id, s, a, t =>
    ∃ found, a = .removed found ∧ (found = true ↔ ∃ j ∈ s.jobs, j.id = id) ∧
      t.jobs = s.jobs.filter (·.id ≠ id)
  | .removeFor service, s, a, t =>
    a = .removedFor (s.jobs.filter (·.serviceId = service)).length ∧
      t.jobs = s.jobs.filter (·.serviceId ≠ service)

/-- One call on a well-formed queue: it succeeds, answers as promised and leaves the queue
well formed. -/
theorem QueueCall.step_meets (c : QueueCall) (h : s.QueueWF) :
    ∃ a t, c.run.run s = .ok (a, t) ∧ c.Meets s a t ∧ t.QueueWF := by
  cases c with
  | enqueue service outputSet kind =>
    by_cases hw : ∃ j ∈ s.jobs, j.key = (service, outputSet)
    · refine ⟨.enqueued none, s, ?_, .inl ⟨hw, rfl, rfl⟩, h⟩
      rw [QueueCall.run, StateT.run_map, insertJob_run_waiting kind h.table hw]
      rfl
    · refine ⟨.enqueued (some (s.freshJob service outputSet kind)),
        s.withJob (s.freshJob service outputSet kind), ?_, .inr ⟨hw, _, rfl, rfl, rfl,
          freshJob_order_gt service outputSet kind, rfl⟩, h.withJob kind hw⟩
      rw [QueueCall.run, StateT.run_map, insertJob_run_free kind h.table hw]
      rfl
  | next =>
    cases hjobs : s.jobs with
    | nil =>
      have hrun := takeJob_run_empty h.table (h.jobsInOrder_eq.trans hjobs)
      refine ⟨.taken .empty, s, ?_, .inl ⟨hjobs, rfl, hjobs⟩, h⟩
      rw [QueueCall.run, StateT.run_map, hrun]
      rfl
    | cons j rest =>
      refine ⟨.taken (.job j), { s with jobs := rest }, ?_,
        .inr ⟨j, rest, hjobs, rfl, h.head_order_lt hjobs, rfl⟩,
        h.sublist (hjobs ▸ List.sublist_cons_self j rest)⟩
      rw [QueueCall.run, StateT.run_map, h.takeJob_run_cons hjobs]
      rfl
  | peek =>
    refine ⟨.first s.jobs.head?, s, ?_, ⟨rfl, ?_, rfl⟩, h⟩
    · show (QueueAnswer.first <$> ofOutcome s.firstJob).run s = _
      rw [StateT.run_map, h.firstJob_eq]
      rfl
    · exact h.head?_order_le
  | list =>
    refine ⟨.jobs s.jobs, s, ?_, ⟨rfl, h.rising.imp And.right, rfl⟩, h⟩
    show (QueueAnswer.jobs <$> ofOutcome s.queued).run s = _
    rw [StateT.run_map, h.queued_eq]
    rfl
  | length =>
    refine ⟨.length s.jobs.length, s, ?_, ⟨rfl, rfl⟩, h⟩
    show (QueueAnswer.length <$> ofOutcome s.queueLength).run s = _
    rw [StateT.run_map, h.queueLength_eq]
    rfl
  | remove id =>
    refine ⟨.removed (s.jobs.any (·.id == id)), { s with jobs := s.jobs.filter (·.id != id) },
      ?_, ⟨_, rfl, by simp, List.filter_congr fun _ _ => by rw [decide_not]; rfl⟩,
      h.sublist List.filter_sublist⟩
    rw [QueueCall.run, StateT.run_map, removeJob_run h.table h.readable]
    rfl
  | removeFor service =>
    refine ⟨.removedFor (s.jobs.filter (·.serviceId == service)).length,
      { s with jobs := s.jobs.filter (·.serviceId != service) }, ?_,
      ⟨rfl, List.filter_congr fun _ _ => by rw [decide_not]; rfl⟩,
      h.sublist List.filter_sublist⟩
    rw [QueueCall.run, StateT.run_map, removeJobsFor_run h.table h.readable]
    rfl

-- ---------------------------------------------------------------------------
-- Runs of calls
-- ---------------------------------------------------------------------------

/-- The job a `next` took. -/
def QueueAnswer.taken? : QueueAnswer → Option Job
  | .taken (.job j) => some j
  | _ => none

/-- The job an `enqueue` created. -/
def QueueAnswer.created? : QueueAnswer → Option Job
  | .enqueued j => j
  | _ => none

theorem filterMap_cons_toList {α β : Type} (f : α → Option β) (a : α) (as : List α) :
    (a :: as).filterMap f = (f a).toList ++ as.filterMap f := by
  cases h : f a <;> simp [h]

/-- A call leaves the jobs in their order: the job it took, then the jobs it left, come in
the order of the jobs before it, then the job it created. -/
theorem QueueCall.Meets.sublist {c : QueueCall} {t : Store} {a : QueueAnswer}
    (h : c.Meets s a t) : (a.taken?.toList ++ t.jobs).Sublist (s.jobs ++ a.created?.toList) := by
  cases c with
  | enqueue service outputSet kind =>
    rcases h with ⟨-, rfl, ht⟩ | ⟨-, j, rfl, -, -, -, ht⟩ <;>
      simp [QueueAnswer.taken?, QueueAnswer.created?, ht]
  | next =>
    rcases h with ⟨hs, rfl, ht⟩ | ⟨j, rest, hs, rfl, -, ht⟩ <;>
      simp [QueueAnswer.taken?, QueueAnswer.created?, hs, ht]
  | peek =>
    obtain ⟨rfl, -, rfl⟩ := h
    simp [QueueAnswer.taken?, QueueAnswer.created?]
  | list =>
    obtain ⟨rfl, -, rfl⟩ := h
    simp [QueueAnswer.taken?, QueueAnswer.created?]
  | length =>
    obtain ⟨rfl, rfl⟩ := h
    simp [QueueAnswer.taken?, QueueAnswer.created?]
  | remove id =>
    obtain ⟨found, rfl, -, ht⟩ := h
    simp [QueueAnswer.taken?, QueueAnswer.created?, ht]
  | removeFor service =>
    obtain ⟨rfl, ht⟩ := h
    simp [QueueAnswer.taken?, QueueAnswer.created?, ht]

/-- A run of calls from `s` to `u` with these answers: each call is made on a well-formed
queue, succeeds, and answers as promised. -/
inductive QueueCall.Serves : Store → List QueueCall → List QueueAnswer → Store → Prop
  | done {s : Store} : s.QueueWF → QueueCall.Serves s [] [] s
  | call {s t u : Store} {c : QueueCall} {cs : List QueueCall} {a : QueueAnswer}
      {as : List QueueAnswer} : s.QueueWF → c.run.run s = .ok (a, t) → c.Meets s a t →
      QueueCall.Serves t cs as u → QueueCall.Serves s (c :: cs) (a :: as) u

/-- Every sequence of calls on a well-formed queue is served. -/
theorem QueueCall.serves (h : s.QueueWF) (calls : List QueueCall) :
    ∃ answers u, QueueCall.Serves s calls answers u := by
  induction calls generalizing s with
  | nil => exact ⟨[], s, .done h⟩
  | cons c cs ih =>
    obtain ⟨a, t, hrun, hmeets, ht⟩ := c.step_meets h
    obtain ⟨as, u, hu⟩ := ih ht
    exact ⟨a :: as, u, .call h hrun hmeets hu⟩

/-- Along a run, the jobs taken and then the jobs left come in the order of the jobs queued
at the start and then the jobs created. -/
theorem QueueCall.Serves.taken_sublist {calls : List QueueCall} {answers : List QueueAnswer}
    {u : Store} (h : QueueCall.Serves s calls answers u) :
    (answers.filterMap QueueAnswer.taken? ++ u.jobs).Sublist
      (s.jobs ++ answers.filterMap QueueAnswer.created?) := by
  induction h with
  | done _ => simp
  | @call s t u c cs a as _ _ hmeets _ ih =>
    -- the first call's own order, then the rest of the run from where it left the queue
    have hrest : ((a.taken?.toList ++ t.jobs) ++ as.filterMap QueueAnswer.created?).Sublist
        ((s.jobs ++ a.created?.toList) ++ as.filterMap QueueAnswer.created?) :=
      hmeets.sublist.append_right _
    have hfirst : (a.taken?.toList ++ (as.filterMap QueueAnswer.taken? ++ u.jobs)).Sublist
        ((a.taken?.toList ++ t.jobs) ++ as.filterMap QueueAnswer.created?) := by
      simpa only [List.append_assoc] using ih.append_left a.taken?.toList
    simpa only [filterMap_cons_toList, List.append_assoc] using hfirst.trans hrest

/-- The job queue on any sequence of calls from a well-formed queue: every call succeeds and
answers as promised, every queue on the way is well formed (no two jobs share a key or an
order), and the jobs that `next` takes leave in the order they came: they are, in order, a
sublist of the jobs queued at the start followed by the jobs `enqueue` created. -/
theorem queue_serves_first_in_first_out (h : s.QueueWF) (calls : List QueueCall) :
    ∃ answers u, QueueCall.Serves s calls answers u ∧
      (answers.filterMap QueueAnswer.taken?).Sublist
        (s.jobs ++ answers.filterMap QueueAnswer.created?) := by
  obtain ⟨answers, u, hserve⟩ := QueueCall.serves h calls
  exact ⟨answers, u, hserve, (List.sublist_append_left _ _).trans hserve.taken_sublist⟩

/-- An empty queue serving a run in which an order comes back: job 1 is taken and job 2
removed, so job 3 is given order 1 again, as job 1 had; job 1 and job 3 still leave in the
order they came. -/
theorem queue_serves_reused_orders :
    let s₀ : Store :=
      { tables := { main := [.table { (default : Sql.Table) with name := "jobs" }] } }
    let calls : List QueueCall :=
      [.enqueue 1 none .processingDirective, .enqueue 2 (some "a") .processingDirective,
        .enqueue 1 none .serviceReprocess, .next, .remove 2, .enqueue 3 none .serviceReprocess,
        .enqueue 1 (some "a") .processingDirective, .peek, .list, .length, .next, .removeFor 1]
    s₀.QueueWF ∧ ∃ answers u, QueueCall.Serves s₀ calls answers u ∧
      (answers.filterMap QueueAnswer.taken?).Sublist
        (s₀.jobs ++ answers.filterMap QueueAnswer.created?) := by
  intro s₀ calls
  have hwf : s₀.QueueWF :=
    ⟨by decide, rfl, List.Pairwise.nil, fun _ h => absurd h List.not_mem_nil, List.Pairwise.nil⟩
  exact ⟨hwf, queue_serves_first_in_first_out hwf calls⟩

end Catalog.Store
