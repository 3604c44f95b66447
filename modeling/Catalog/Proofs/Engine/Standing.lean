import Catalog.Proofs.Engine.Commit
import Catalog.Proofs.Engine.Frame

/-!
# Where the services stand during a pass

A run of a service sets the service's status at a few points only: when it claims the
service, when it pauses and resumes it, and when it finishes. Everything else a pass does
(reading and writing records, the index, the match points, the jobs, the counters and the
totals) leaves the status of every service alone, and the schema that decides whether the
services can be read and written. This module says so once for each step of a pass, so that
a proof about the status of a service only has to look at the steps that set it.

*Where the services stand* (`standing`) is the stored status of every service, the schema,
and the status changes the site announced. On a store whose schema sets off nothing, a
transaction keeps it when it leaves the statuses alone (`KeepsStatuses`), a site action when
it also announces no status change (`LeavesStanding`), and a computation of a pass when it
also keeps the pass's service (`Steady`).

## Main results

* `status_congr`: the status of a service is read off where the services stand
* `KeepsStatuses`, with one lemma for each transaction a pass runs
* `LeavesStanding`, with one lemma for each site action a pass runs
* `Steady`, with one lemma for each step of a pass that sets no status
-/

namespace Catalog.Store

open Std.Do

variable {α β : Type}

-- ---------------------------------------------------------------------------
-- The statuses of the services
-- ---------------------------------------------------------------------------

/-- What of a service row its status is read from: the service, its status, and a stored
text that names no status. -/
def ServiceRow.standing (row : ServiceRow) : Int × Service.Status × Option String :=
  (row.id, row.status, row.strayStatus)

/-- The stored statuses of the services, and the schema, which says whether they can be read
and written. -/
def statuses (s : Store) : List (Int × Service.Status × Option String) × Sql.Database :=
  (s.services.map ServiceRow.standing, s.tables)

theorem serviceRow?_standing (s : Store) (id : Int) :
    (s.serviceRow? id).map ServiceRow.standing =
      (s.services.map ServiceRow.standing).find? (·.1 == id) := by
  simp only [serviceRow?, List.find?_map]
  rfl

/-- The status of a service is read off the statuses and the schema. -/
theorem status_congr {s t : Store} (h : t.statuses = s.statuses) (id : Int) :
    t.status id = s.status id := by
  have hservices : t.services.map ServiceRow.standing = s.services.map ServiceRow.standing :=
    congrArg Prod.fst h
  have hrow : (t.serviceRow? id).map ServiceRow.standing =
      (s.serviceRow? id).map ServiceRow.standing := by
    rw [serviceRow?_standing, serviceRow?_standing, hservices]
  have htables : t.tables = s.tables := congrArg Prod.snd h
  simp only [status, service?, needTable, hasTable, htables]
  by_cases hc : (s.tables.tableIn? .main "services").isSome = true
  · simp only [hc, if_true]
    rcases ht : t.serviceRow? id with _ | a <;> rcases hs : s.serviceRow? id with _ | b <;>
      simp only [ht, hs, Option.map_none, Option.map_some, reduceCtorEq, Option.some.injEq] at hrow
    · rfl
    · -- the row is read alike: its status and stray status are the same
      obtain ⟨-, hstatus, hstray⟩ : a.id = b.id ∧ a.status = b.status ∧
          a.strayStatus = b.strayStatus := by simpa only [ServiceRow.standing, Prod.mk.injEq] using hrow
      simp only [Option.mapM_some, ServiceRow.read, hstray]
      rcases b.strayStatus with _ | text
      · show Except.ok a.status = Except.ok b.status
        rw [hstatus]
      · dsimp only
        rcases Service.Status.parse text with e | v
        · rfl
        · show Except.ok a.status = Except.ok b.status
          rw [hstatus]
  · simp only [hc]
    rfl
/-- A transaction that leaves the statuses and the schema alone whenever it succeeds. -/
def KeepsStatuses (tx : Tx α) : Prop :=
  ∀ v, ⦃fun s => ⌜s.statuses = v⌝⦄ tx ⦃⇓? _ s => ⌜s.statuses = v⌝⦄

theorem KeepsStatuses.statuses_eq {tx : Tx α} (h : KeepsStatuses tx) {s t : Store} {a : α}
    (hrun : tx.run s = .ok (a, t)) : t.statuses = s.statuses :=
  Tx.of_spec (h s.statuses) rfl hrun

theorem KeepsStatuses.of_run {tx : Tx α}
    (h : ∀ s a t, tx.run s = .ok (a, t) → t.statuses = s.statuses) : KeepsStatuses tx := by
  intro v s hs
  exact Tx.spec_of_run (fun a t ht => (h s a t ht).trans hs) s rfl

theorem KeepsStatuses.pure (a : α) : KeepsStatuses (pure a : Tx α) := by
  intro v
  mvcgen

theorem KeepsStatuses.bind {x : Tx α} {f : α → Tx β} (hx : KeepsStatuses x)
    (hf : ∀ a, KeepsStatuses (f a)) : KeepsStatuses (x >>= f) := by
  refine KeepsStatuses.of_run fun s b t h => ?_
  obtain ⟨a, u, hxu, hft⟩ := Tx.bind_eq_ok.1 h
  exact ((hf a).statuses_eq hft).trans (hx.statuses_eq hxu)

theorem KeepsStatuses.forM {xs : List α} {f : α → Tx PUnit} (h : ∀ a, KeepsStatuses (f a)) :
    KeepsStatuses (xs.forM f) := by
  induction xs with
  | nil => exact KeepsStatuses.pure _
  | cons a as ih => exact (h a).bind fun _ => ih

/-- A change of the store that keeps the statuses of every store. -/
theorem keepsStatuses_modify {f : Store → Store} (h : ∀ s, (f s).statuses = s.statuses) :
    KeepsStatuses (modify f) := by
  intro v
  mvcgen
  rename_i s hs t
  exact (h s).trans hs

theorem touch_keepsStatuses (repo : String) : KeepsStatuses (touch repo) :=
  keepsStatuses_modify fun _ => rfl

theorem saveTotals_keepsStatuses (id : Int) (totals : Pipeline.ServiceTotals) :
    KeepsStatuses (saveTotals id totals) := by
  intro v
  mvcgen [saveTotals, modifyService, useTable]
  rename_i s hs _ t
  rw [← hs]
  simp only [t, statuses, List.map_map]
  congr 1
  exact List.map_congr_left fun row _ => by
    simp only [Function.comp_apply]
    split <;> rfl

theorem saveCounter_keepsStatuses (scope name : String) (next : Int) :
    KeepsStatuses (saveCounter scope name next) :=
  keepsStatuses_modify fun s => by split <;> rfl

theorem insertJob_keepsStatuses (service : Int) (outputSet : Option String)
    (kind : Pipeline.JobKind) : KeepsStatuses (insertJob service outputSet kind) := by
  intro v
  mvcgen [insertJob, nextId, useTable]

theorem addLink_keepsStatuses (fromId toId : Int) : KeepsStatuses (addLink fromId toId) := by
  intro v
  mvcgen [addLink]

theorem modifyPoints_keepsStatuses (f : Matching.PointTable → Matching.PointTable) :
    KeepsStatuses (modify fun s : Store => { s with points := f s.points }) :=
  keepsStatuses_modify fun _ => rfl

theorem removeLineage_keepsStatuses (p q : Int) : KeepsStatuses (removeLineage p q) :=
  keepsStatuses_modify fun _ => rfl

theorem addEdge_keepsStatuses (p q : Int) : KeepsStatuses (addEdge p q) := by
  intro v
  mvcgen [addEdge]

theorem writeRelations_keepsStatuses (id : Int) (r : Record) :
    KeepsStatuses (writeRelations id r) := by
  have hp : KeepsStatuses (r.predecessors.forM fun p => addEdge p id) :=
    KeepsStatuses.forM fun p => addEdge_keepsStatuses p id
  have hs : KeepsStatuses (r.successors.forM fun q => addEdge id q) :=
    KeepsStatuses.forM fun q => addEdge_keepsStatuses id q
  intro v
  have hpv := hp v
  have hsv := hs v
  mvcgen [writeRelations, hpv, hsv]

theorem insertRecord_keepsStatuses (repo : String) (r : Record) (batch : Option Nat) :
    KeepsStatuses (insertRecord repo r batch) := by
  intro v
  have hw := fun i => writeRelations_keepsStatuses i r v
  mvcgen [insertRecord, useTable, nextId, hw]

theorem updateRecord_keepsStatuses (repo : String) (r : Record) :
    KeepsStatuses (updateRecord repo r) := by
  refine KeepsStatuses.of_run fun s a t h => ?_
  obtain ⟨i, u, hi, hrest⟩ := Tx.bind_eq_ok.1 h
  obtain ⟨-, rfl⟩ := ofOutcome_eq_ok hi
  refine Tx.of_spec (P := fun w => w.statuses = u.statuses)
    (Q := fun _ t => t.statuses = u.statuses) ?_ rfl hrest
  have hw := fun i => writeRelations_keepsStatuses i r u.statuses
  have ht := touch_keepsStatuses repo u.statuses
  mvcgen [useTable, hw, ht]

theorem deleteRecords_keepsStatuses (p : RecordRow → Bool) : KeepsStatuses (deleteRecords p) := by
  intro v
  mvcgen [deleteRecords]

theorem Batch.start_keepsStatuses (repo : String) : KeepsStatuses (Batch.start repo) := by
  intro v
  have hd := fun p => deleteRecords_keepsStatuses p v
  mvcgen [Batch.start, nextBatch, hd]

theorem Batch.add_keepsStatuses (b : Batch) (r : Record) : KeepsStatuses (b.add r) := by
  intro v
  have hi := insertRecord_keepsStatuses b.repo r (some b.id) v
  have ht := touch_keepsStatuses b.repo v
  mvcgen [Batch.add, hi, ht]

theorem Batch.commit_keepsStatuses (b : Batch) : KeepsStatuses b.commit := by
  have hmarks : KeepsStatuses (b.marks.forM Batch.applyMark) :=
    KeepsStatuses.forM fun m => by
      intro v
      mvcgen [Batch.applyMark]
  intro v
  have hm := hmarks v
  mvcgen [Batch.commit, hm]

end Catalog.Store

namespace Catalog.Site

open Catalog.Store

variable {α β : Type}

-- ---------------------------------------------------------------------------
-- Where the services of a site stand
-- ---------------------------------------------------------------------------

/-- The status change an event announces, if it announces one. -/
def Event.statusChange? : Event → Option (Int × Service.Status × Service.Status)
  | .statusChanged service old new => some (service, old, new)
  | _ => none

/-- The status changes announced by a list of events, in order. -/
def statusChanges (events : List Event) : List (Int × Service.Status × Service.Status) :=
  events.filterMap Event.statusChange?

theorem statusChanges_append (es es' : List Event) :
    statusChanges (es ++ es') = statusChanges es ++ statusChanges es' :=
  List.filterMap_append

/-- Where the services of a site stand: their stored statuses, the schema, and the status
changes the site announced. -/
def standing (s : Site) :
    (List (Int × Service.Status × Option String) × Sql.Database) ×
      List (Int × Service.Status × Service.Status) :=
  (s.store.statuses, statusChanges s.events)

theorem tables_of_standing {s t : Site} (h : t.standing = s.standing) :
    t.store.tables = s.store.tables :=
  congrArg (fun v => v.1.2) h

theorem quiet_of_standing {s t : Site} (h : t.standing = s.standing)
    (hq : s.store.needsReplay = false) : t.store.needsReplay = false := by
  rw [needsReplay_congr (tables_of_standing h), hq]

theorem status_of_standing {s t : Site} (h : t.standing = s.standing) (id : Int) :
    t.store.status id = s.store.status id :=
  status_congr (congrArg Prod.fst h) id

/-- An action that leaves where the services stand, whether it succeeds or fails, as long as
the store's schema sets off nothing. -/
def LeavesStanding (a : Action α) : Prop :=
  ∀ s, s.store.needsReplay = false → (((a.run).run s).2).standing = s.standing

theorem LeavesStanding.of_site {a : Action α}
    (h : ∀ s, (((a.run).run s).2).store = s.store ∧ (((a.run).run s).2).events = s.events) :
    LeavesStanding a := fun s _ => by
  simp only [standing, (h s).1, (h s).2]

theorem LeavesStanding.pure (a : α) : LeavesStanding (pure a : Action α) :=
  LeavesStanding.of_site fun _ => ⟨rfl, rfl⟩

theorem LeavesStanding.bind {x : Action α} {f : α → Action β} (hx : LeavesStanding x)
    (hf : ∀ a, LeavesStanding (f a)) : LeavesStanding (x >>= f) := by
  intro s hs
  have hstand := hx s hs
  rw [run_bind]
  rcases hrun : (x.run).run s with ⟨_ | a, t⟩ <;> rw [hrun] at hstand
  · exact hstand
  · exact (hf a t (quiet_of_standing hstand hs)).trans hstand

theorem LeavesStanding.foldlM {f : β → α → Action β} (hf : ∀ b a, LeavesStanding (f b a))
    (xs : List α) (init : β) : LeavesStanding (xs.foldlM f init) := by
  induction xs generalizing init with
  | nil => exact LeavesStanding.pure init
  | cons a as ih => exact (hf init a).bind fun b => ih b

/-- A transaction that keeps the statuses, run as an action. -/
theorem atomically_leavesStanding {tx : Tx α} (h : KeepsStatuses tx) :
    LeavesStanding (atomically tx) := by
  intro s hs
  rw [atomically_run tx s hs]
  rcases hrun : tx.run s.store with e | ⟨a, t⟩
  · rfl
  · simp only [standing, h.statuses_eq hrun]

theorem lookup_leavesStanding (f : Store → Outcome α) : LeavesStanding (lookup f) :=
  LeavesStanding.of_site fun s => by rw [lookup_run]; exact ⟨rfl, rfl⟩

theorem query_leavesStanding (f : Store → α) : LeavesStanding (query f) :=
  LeavesStanding.of_site fun _ => ⟨rfl, rfl⟩

theorem emit_run (e : Event) (s : Site) :
    ((emit e).run).run s = (.ok (), { s with events := s.events ++ [e] }) := rfl

/-- Announcing an event that is no status change. -/
theorem emit_leavesStanding {e : Event} (he : e.statusChange? = none) :
    LeavesStanding (emit e) := fun s _ => by
  rw [emit_run]
  simp only [standing, statusChanges_append]
  simp [statusChanges, he]

theorem commitIndex_leavesStanding : LeavesStanding commitIndex :=
  LeavesStanding.of_site fun s => by
    simp only [commitIndex, run_bind, run_get, run_set]
    split <;> exact ⟨rfl, rfl⟩

theorem waitIndex_leavesStanding : LeavesStanding waitIndex :=
  LeavesStanding.of_site fun s => by
    simp only [waitIndex, run_bind, run_get, run_set]
    split <;> exact ⟨rfl, rfl⟩

theorem processComplete_leavesStanding (repo : String) :
    LeavesStanding (processComplete repo) :=
  commitIndex_leavesStanding.bind fun _ => atomically_leavesStanding (touch_keepsStatuses repo)

theorem enqueue_leavesStanding (service : Int) (outputSet : Option String)
    (kind : Pipeline.JobKind) : LeavesStanding (enqueue service outputSet kind) := by
  refine (atomically_leavesStanding (insertJob_keepsStatuses service outputSet kind)).bind
    fun job => ?_
  cases job with
  | none => exact LeavesStanding.pure none
  | some job => exact (emit_leavesStanding rfl).bind fun _ => LeavesStanding.pure _

theorem enqueueScheduled_leavesStanding (ev : Pipeline.Routing) :
    LeavesStanding (enqueueScheduled ev) := by
  unfold enqueueScheduled
  refine (LeavesStanding.foldlM (fun n p => ?_) ev.scheduled 0).bind fun _ =>
    LeavesStanding.pure _
  exact (enqueue_leavesStanding p.1 p.2 _).bind fun _ => LeavesStanding.pure _

theorem changePoints_leavesStanding (f : Matching.PointTable → Matching.PointTable) :
    LeavesStanding (Engine.changePoints f) :=
  atomically_leavesStanding (modifyPoints_keepsStatuses f)

end Catalog.Site


namespace Catalog.Engine

open Catalog.Store Catalog.Site Catalog.Pipeline Catalog.Service

variable {α β : Type}

-- ---------------------------------------------------------------------------
-- Steps of a pass that set no status
-- ---------------------------------------------------------------------------

/-- A computation of a pass that sets no status: it leaves where the services stand and the
pass's service, whether it succeeds or fails, as long as the store's schema sets off
nothing. -/
def Steady (m : PassM α) : Prop :=
  ∀ st, st.1.store.needsReplay = false →
    (((m.run).run st).2.1).standing = st.1.standing ∧ (((m.run).run st).2.2).info = st.2.info

theorem Steady.pure (a : α) : Steady (pure a : PassM α) := fun _ _ => ⟨rfl, rfl⟩

theorem Steady.bind {x : PassM α} {f : α → PassM β} (hx : Steady x) (hf : ∀ a, Steady (f a)) :
    Steady (x >>= f) := by
  intro st hq
  obtain ⟨hstand, hinfo⟩ := hx st hq
  rw [Engine.run_bind]
  rcases hrun : (x.run).run st with ⟨_ | a, t⟩ <;> rw [hrun] at hstand hinfo
  · exact ⟨hstand, hinfo⟩
  · obtain ⟨hstand', hinfo'⟩ := hf a t (quiet_of_standing hstand hq)
    exact ⟨hstand'.trans hstand, hinfo'.trans hinfo⟩

theorem Steady.onSite {a : Action α} (h : LeavesStanding a) : Steady (onSite a) := by
  intro st hq
  rw [onSite_run]
  exact ⟨h st.1 hq, rfl⟩

theorem Steady.attempt {m : PassM α} (h : Steady m) : Steady (attempt m) := by
  intro st hq
  rw [run_attempt]
  exact h st hq

theorem Steady.forM {f : α → PassM PUnit} (h : ∀ a, Steady (f a)) (xs : List α) :
    Steady (xs.forM f) := by
  induction xs with
  | nil => exact Steady.pure _
  | cons a as ih => exact (h a).bind fun _ => ih

theorem Steady.foldlM {f : β → α → PassM β} (h : ∀ b a, Steady (f b a)) (xs : List α)
    (init : β) : Steady (xs.foldlM f init) := by
  induction xs generalizing init with
  | nil => exact Steady.pure init
  | cons a as ih => exact (h init a).bind fun b => ih b

theorem steady_get : Steady (get : PassM (Site × Pass)) := fun _ _ => ⟨rfl, rfl⟩

theorem steady_current : Steady current := fun _ _ => ⟨rfl, rfl⟩

theorem steady_update {f : Pass → Pass} (h : ∀ p, (f p).info = p.info) : Steady (update f) :=
  fun st _ => ⟨rfl, h st.2⟩

theorem steady_throw (e : Error) : Steady (throw e : PassM α) := fun _ _ => ⟨rfl, rfl⟩

theorem steady_ofOutcome (x : Outcome α) : Steady (Engine.ofOutcome x) := by
  cases x with
  | error e => exact steady_throw e
  | ok a => exact Steady.pure a

theorem engineSettings_steady : Steady engineSettings :=
  steady_get.bind fun _ => Steady.pure _

theorem flushStats_steady : Steady flushStats := by
  unfold flushStats
  refine steady_current.bind fun _ => Steady.bind ?_ fun _ => ?_
  · exact Steady.onSite (lookup_leavesStanding _)
  · exact Steady.onSite (atomically_leavesStanding (saveTotals_keepsStatuses _ _))

theorem persistCounters_steady : Steady persistCounters := by
  unfold persistCounters
  refine steady_current.bind fun _ => Steady.onSite (atomically_leavesStanding ?_)
  exact (saveCounter_keepsStatuses _ _ _).bind fun _ =>
    KeepsStatuses.forM fun _ => saveCounter_keepsStatuses _ _ _

theorem enqueueRouted_steady : Steady enqueueRouted := by
  unfold enqueueRouted
  refine steady_current.bind fun _ => Steady.bind ?_ fun _ => Steady.bind ?_ fun _ => ?_
  · exact steady_update fun _ => by rfl
  · exact Steady.onSite (enqueueScheduled_leavesStanding _)
  · exact Steady.pure _

theorem openBatch_steady : Steady openBatch := by
  unfold openBatch
  refine steady_current.bind fun _ => Steady.bind ?_ fun _ => ?_
  · exact Steady.onSite (atomically_leavesStanding (Batch.start_keepsStatuses _))
  · exact steady_update fun _ => by rfl

theorem takeBatch_steady : Steady takeBatch := by
  unfold takeBatch
  refine steady_current.bind fun _ => Steady.bind ?_ fun _ => Steady.pure _
  exact steady_update fun _ => by rfl

theorem outputBatch_steady : Steady outputBatch := by
  unfold outputBatch
  refine steady_current.bind fun p => ?_
  cases p.batch with
  | none => exact steady_throw _
  | some b => exact Steady.pure b

theorem existingSuccessors_steady (inputId : Int) : Steady (existingSuccessors inputId) :=
  outputBatch_steady.bind fun _ => Steady.onSite (lookup_leavesStanding _)

theorem nextOaiId_steady : Steady nextOaiId := by
  unfold nextOaiId
  refine steady_current.bind fun _ => Steady.bind ?_ fun _ => Steady.pure _
  exact steady_update fun _ => by rfl

theorem nextElement_steady (k : ElementKind) : Steady (nextElement k) := by
  unfold nextElement
  refine steady_current.bind fun _ => Steady.bind ?_ fun _ => Steady.pure _
  exact steady_update fun _ => by rfl

theorem setWorker_steady (w : Worker) : Steady (setWorker w) :=
  steady_update fun _ => by rfl

theorem refreshIndex_steady : Steady refreshIndex := by
  unfold refreshIndex
  refine steady_current.bind fun _ => Steady.bind ?_ fun _ => ?_
  · exact Steady.onSite waitIndex_leavesStanding
  · exact Steady.onSite (processComplete_leavesStanding _)

theorem Steady.ite {c : Prop} [Decidable c] {x y : PassM α} (hx : Steady x) (hy : Steady y) :
    Steady (if c then x else y) := by
  split
  · exact hx
  · exact hy

-- ---------------------------------------------------------------------------
-- The services
-- ---------------------------------------------------------------------------

theorem matchEngine_steady : Steady Service.matchEngine := by
  unfold Service.matchEngine
  refine steady_current.bind fun p => ?_
  split
  · exact Steady.pure _
  · exact steady_throw _

theorem putMatcher_steady (m : Matching.Matcher) : Steady (Service.putMatcher m) :=
  matchEngine_steady.bind fun _ => setWorker_steady _

theorem unindexFrom_steady (id : Int) (m : Matching.Matcher) :
    Steady (Service.unindexFrom id m) := by
  unfold Service.unindexFrom
  refine (putMatcher_steady _).bind fun _ => ?_
  split
  · exact Steady.onSite (changePoints_leavesStanding _)
  · exact Steady.pure _

theorem saveMatcher_steady (force : Bool) (m : Matching.Matcher) :
    Steady (Service.saveMatcher force m) := by
  unfold Service.saveMatcher
  split
  · exact (putMatcher_steady _).bind fun _ =>
      (Steady.onSite (changePoints_leavesStanding _)).bind fun _ => putMatcher_steady _
  · exact Steady.pure _

theorem loadMatcher_steady (m : Matching.Matcher) : Steady (Service.loadMatcher m) := by
  unfold Service.loadMatcher
  split
  · exact (saveMatcher_steady _ _).bind fun _ =>
      (Steady.onSite (query_leavesStanding _)).bind fun _ => putMatcher_steady _
  · exact Steady.pure _

theorem unindex_steady (id : Int) : Steady (Service.unindex id) :=
  matchEngine_steady.bind fun _ => Steady.forM (unindexFrom_steady id) _

theorem retractFrom_steady (inputId : Int) (acc : List Record) (output : Record) :
    Steady (Service.retractFrom inputId acc output) := by
  unfold Service.retractFrom
  refine (steady_ofOutcome _).bind fun _ => (Steady.onSite (query_leavesStanding _)).bind
    fun _ => ?_
  split
  · exact (Steady.onSite (atomically_leavesStanding (removeLineage_keepsStatuses _ _))).bind
      fun _ => Steady.pure _
  · split <;> exact Steady.pure _

theorem retract_steady (inputId : Int) : Steady (Service.retract inputId) :=
  (unindex_steady inputId).bind fun _ => (existingSuccessors_steady inputId).bind fun _ =>
    Steady.foldlM (retractFrom_steady inputId) _ _

theorem matchedOutput_steady : ∀ candidates, Steady (Service.matchedOutput candidates)
  | [] => Steady.pure _
  | c :: rest => by
    unfold Service.matchedOutput
    refine (existingSuccessors_steady c).bind fun outputs => ?_
    cases outputs with
    | nil => exact matchedOutput_steady rest
    | cons output _ => exact Steady.pure _

theorem aggregate_steady (r : Record) : Steady (Service.aggregate r) := by
  unfold Service.aggregate
  refine (steady_ofOutcome _).bind fun inputId => Steady.ite (retract_steady inputId) ?_
  refine (steady_ofOutcome _).bind fun _ => (unindex_steady inputId).bind fun _ =>
    matchEngine_steady.bind fun (_, _) => (Steady.onSite (query_leavesStanding _)).bind fun _ =>
      (steady_ofOutcome _).bind fun (_, candidates) => (setWorker_steady _).bind fun _ => ?_
  refine (Steady.forM (fun _ => Steady.onSite (atomically_leavesStanding
    (addLink_keepsStatuses _ _))) _).bind fun _ => ?_
  refine (existingSuccessors_steady inputId).bind fun outputs => ?_
  split
  · exact Steady.pure _
  refine (matchedOutput_steady candidates).bind fun matched => ?_
  split
  · exact Steady.pure _
  -- a new output, numbered as a new manifestation when its payload is an object
  extract_lets newOutput
  have hnew : ∀ payload, Steady (newOutput payload) := fun _ =>
    nextOaiId_steady.bind fun _ => Steady.pure _
  split
  · exact (nextElement_steady _).bind fun _ => (Steady.pure _).bind hnew
  · exact (Steady.pure _).bind hnew

theorem followScript_steady (script : Script) (n : Nat) (r : Record) :
    Steady (Service.followScript script n r) := by
  unfold Service.followScript
  -- one step of the script after another, each a join point of the next
  extract_lets failInvalid failOn cancelAfter
  have hinvalid : ∀ u, Steady (failInvalid u) := fun _ =>
    Steady.ite (steady_throw _) (Steady.pure _)
  have hfail : ∀ u, Steady (failOn u) := fun _ =>
    Steady.ite ((steady_throw _).bind hinvalid) (hinvalid ())
  have hcancel : ∀ u, Steady (cancelAfter u) := fun _ =>
    Steady.ite ((steady_update fun _ => by rfl).bind hfail) (hfail ())
  exact Steady.ite ((steady_update fun _ => by rfl).bind hcancel) (hcancel ())

theorem copy_steady (script : Script) (seen : Nat) (r : Record) :
    Steady (Service.copy script seen r) := by
  unfold Service.copy
  extract_lets n
  refine (setWorker_steady _).bind fun _ => (followScript_steady _ _ _).bind fun _ =>
    (steady_ofOutcome _).bind fun inputId => (existingSuccessors_steady inputId).bind
      fun existing => Steady.ite (Steady.pure _) ?_
  -- the output made before, or a new record
  split
  · exact (Steady.pure _).bind fun _ => Steady.pure _
  · exact nextOaiId_steady.bind fun _ => (Steady.pure _).bind fun _ => Steady.pure _

theorem normalize_steady (r : Record) : Steady (Service.normalize r) := by
  unfold Service.normalize
  refine (steady_ofOutcome _).bind fun inputId => (existingSuccessors_steady inputId).bind
    fun existing => Steady.ite (Steady.pure _) ?_
  split
  · refine (steady_update fun _ => by rfl).bind fun _ => ?_
    extract_lets withType
    have hout : ∀ o, Steady (withType o) := fun _ => Steady.pure _
    split
    · exact (Steady.pure _).bind hout
    · exact nextOaiId_steady.bind fun _ => (Steady.pure _).bind hout
  · exact steady_throw _

theorem processWith_steady (r : Record) : Steady (processWith r) := by
  unfold processWith
  refine steady_current.bind fun p => ?_
  split
  · exact normalize_steady r
  · exact aggregate_steady r
  · exact copy_steady _ _ r

-- ---------------------------------------------------------------------------
-- The hooks and the bookkeeping of a pass
-- ---------------------------------------------------------------------------

theorem beginPass_steady : Steady beginPass := by
  unfold beginPass
  refine steady_current.bind fun p => ?_
  split
  · exact (steady_ofOutcome _).bind fun _ => (setWorker_steady _).bind fun _ =>
      Steady.forM loadMatcher_steady _
  · exact Steady.ite (steady_throw _) (Steady.pure _)
  · exact Steady.pure _

theorem checkpointHook_steady : Steady checkpointHook := by
  unfold checkpointHook
  refine steady_current.bind fun p => ?_
  split
  · exact matchEngine_steady.bind fun _ => Steady.forM (saveMatcher_steady false) _
  · exact Steady.onSite (LeavesStanding.of_site fun _ => ⟨rfl, rfl⟩)
  · exact Steady.pure _

theorem endPassHook_steady : Steady endPassHook := by
  unfold endPassHook
  refine steady_current.bind fun p => ?_
  split
  · exact Steady.forM (saveMatcher_steady true) _
  · exact Steady.pure _

theorem handleFailure_steady (r : Record) (e : Error) : Steady (handleFailure r e) := by
  unfold handleFailure
  refine (steady_update fun _ => by rfl).bind fun _ => ?_
  -- what the failure counts as, then the error policy, then the record skipped
  extract_lets skip policy
  have hskip : ∀ u, Steady (skip u) := fun _ => by
    dsimp only [skip]
    split
    · exact steady_update fun _ => by rfl
    · exact Steady.pure _
  have hpolicy : ∀ e, Steady (policy e) := fun e => by
    dsimp only [policy]
    refine engineSettings_steady.bind fun settings => ?_
    split
    · exact steady_throw _
    · exact steady_current.bind fun _ => Steady.ite ((steady_throw _).bind hskip) (hskip ())
  split
  · exact (steady_throw _).bind hpolicy
  · exact (Steady.pure _).bind hpolicy
  · exact (Steady.pure _).bind hpolicy

theorem writeOutput_steady (o : Record) : Steady (writeOutput o) := by
  unfold writeOutput
  refine outputBatch_steady.bind fun b => Steady.ite ?_ ?_
  · exact (Steady.onSite (atomically_leavesStanding (updateRecord_keepsStatuses _ _))).bind
      fun _ => steady_update fun _ => by rfl
  · exact (Steady.onSite (atomically_leavesStanding (Batch.add_keepsStatuses _ _))).bind
      fun _ => steady_update fun _ => by rfl

theorem storeOutput_steady (inputId : Int) (o : Record) : Steady (storeOutput inputId o) :=
  steady_current.bind fun _ => (steady_update fun _ => by rfl).bind fun _ => writeOutput_steady _

theorem processRecord_steady (r : Record) : Steady (processRecord r) := by
  unfold processRecord
  refine (steady_ofOutcome _).bind fun inputId => outputBatch_steady.bind fun _ =>
    (processWith_steady r).attempt.bind fun result => (steady_update fun _ => by rfl).bind
      fun _ => ?_
  split
  · exact handleFailure_steady r _
  · exact (Steady.forM (storeOutput_steady inputId) _).bind fun _ => outputBatch_steady.bind
      fun _ => steady_update fun _ => by rfl

theorem checkpoint_steady : Steady checkpoint := by
  unfold checkpoint
  refine checkpointHook_steady.bind fun _ => takeBatch_steady.bind fun _ => ?_
  -- after the batch is committed: the jobs, the index, the totals and counters, a new batch
  extract_lets rest
  have hrest : ∀ u, Steady (rest u) := fun _ =>
    enqueueRouted_steady.bind fun _ => (Steady.onSite commitIndex_leavesStanding).bind fun _ =>
      flushStats_steady.bind fun _ => persistCounters_steady.bind fun _ =>
        (steady_update fun _ => by rfl).bind fun _ => openBatch_steady.bind fun _ =>
          steady_current.bind fun _ => Steady.onSite (emit_leavesStanding rfl)
  split
  · exact (Steady.onSite (atomically_leavesStanding (Batch.commit_keepsStatuses _))).bind
      fun _ => hrest ()
  · exact hrest ()

end Catalog.Engine
