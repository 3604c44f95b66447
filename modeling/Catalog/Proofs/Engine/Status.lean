import Catalog.Proofs.Engine.Standing
import Catalog.Proofs.Store.Isolation
import Catalog.Proofs.Service.Numbering

/-!
# The status of a service through a run

A run claims its service and announces it RUNNING; between records it may pause the service
and resume it, or stop; at the end it sets the service's final status, NOT_RUNNING,
CANCELED or ERROR, and announces it. Each change of the status is announced with the status
it changes from.

This module shows, for every run that claims its service on a store whose schema sets off
nothing, that the stored status follows the announced changes: RUNNING, then pauses and
resumes, then the final status, which the run leaves stored and returns. A service is never
left RUNNING or PAUSED, and a record is processed only while it is RUNNING. Which final
status a run ends in is said by `settle`, from how its processing ended, whether the last
batch of outputs can end, and whether the search index answers.

## Main results

* `Toggles`: the pauses and resumes of a run, as a grammar of status changes
* `Along`, `transition_run`: how the status stands along a run
* `observe_drives`, `drive_drives`: processing pauses and resumes the service only
* `observe_resumed`: a record is processed only with the service RUNNING
* `settle`, `batchEnds_iff`, `finish_settles`: the final status of a pass
* `run_status_lifecycle`: the status of a service through a whole run
-/

namespace Catalog.Service

/-- The derived comparison of statuses is equality. -/
instance : LawfulBEq Status where
  eq_of_beq {a b} := by cases a <;> cases b <;> decide
  rfl {a} := by cases a <;> decide

end Catalog.Service

namespace Catalog.Store

open Catalog.Service

/-- A status that reads ends in a service row, in a schema that has the services. -/
theorem serviceRow?_of_status {s : Store} {id : Int} {x : Status} (h : s.status id = .ok x) :
    s.hasTable "services" = true ∧ ∃ row, s.serviceRow? id = some row := by
  simp only [status, service?, needTable] at h
  by_cases ht : s.hasTable "services" = true
  · refine ⟨ht, ?_⟩
    rcases hrow : s.serviceRow? id with _ | row
    · simp [ht, hrow] at h
      cases h
    · exact ⟨row, rfl⟩
  · simp [ht] at h
    cases h

/-- A status that reads is the status of a service that reads. -/
theorem service?_of_status {s : Store} {id : Int} {x : Status} (h : s.status id = .ok x) :
    ∃ row, s.service? id = .ok (some row) ∧ row.status = x := by
  unfold status at h
  rcases hs : s.service? id with e | _ | row <;> rw [hs] at h
  · cases h
  · cases h
  · cases h
    exact ⟨row, rfl, rfl⟩

/-- Reading a service row gives the row itself, when it reads. -/
theorem ServiceRow.read_eq_ok {row row' : ServiceRow} (h : row.read = .ok row') : row' = row := by
  unfold ServiceRow.read at h
  rcases hs : row.strayStatus with _ | text <;> rw [hs] at h <;> dsimp only at h
  · cases h
    rfl
  · rcases hp : Status.parse text with e | x <;> rw [hp] at h <;> cases h
    rfl

/-- A service that reads is the stored row of its id. -/
theorem serviceRow?_of_service? {s : Store} {id : Int} {row : ServiceRow}
    (h : s.service? id = .ok (some row)) : s.serviceRow? id = some row ∧ row.id = id := by
  unfold service? at h
  rcases hn : s.needTable "services" with e | _ <;> rw [hn] at h
  · cases h
  · rcases hr : s.serviceRow? id with _ | r <;> rw [hr] at h
    · cases h
    · have hread : (some <$> r.read : Outcome (Option ServiceRow)) = .ok (some row) := h
      rcases hrow : r.read with e | r' <;> rw [hrow] at hread <;> cases hread
      rw [ServiceRow.read_eq_ok hrow]
      exact ⟨rfl, by simpa using List.find?_some (p := fun r : ServiceRow => r.id == id) hr⟩

/-- Setting the status of a service that is stored. -/
theorem setStatus_run {s : Store} {id : Int} {row : ServiceRow}
    (ht : s.hasTable "services" = true) (hrow : s.serviceRow? id = some row) (new : Status) :
    (setStatus id new).run s = .ok ((), { s with services := s.services.map fun r =>
      if r.id == id then { r with status := new, strayStatus := none } else r }) := by
  simp [setStatus, modifyService, useTable, ht, hrow]
  rfl

/-- Claiming a stored service that no run holds sets it RUNNING. -/
theorem tryStart_run {s : Store} {id : Int} {row : ServiceRow} (ht : s.hasTable "services" = true)
    (hrow : s.serviceRow? id = some row) (hfree : row.status.isActive = false) :
    (tryStart id).run s = .ok (true, { s with services := s.services.map fun r =>
      if r.id == id then { r with status := .running, strayStatus := none } else r }) := by
  simp [tryStart, modifyService, useTable, ht, hrow, hfree]
  rfl

/-- A change of every service row that keeps their ids finds the changed row of an id. -/
theorem find?_map_services (s : Store) (id : Int) {f : ServiceRow → ServiceRow}
    (hf : ∀ r, (f r).id = r.id) :
    (s.services.map f).find? (·.id == id) = (s.serviceRow? id).map f := by
  rw [List.find?_map]
  have hp : ((fun r : ServiceRow => r.id == id) ∘ f) = (·.id == id) := by
    funext r
    simp only [Function.comp_apply, hf]
  rw [hp]
  rfl

/-- After its status is set, a service reads with that status. -/
theorem status_setStatus {s : Store} {id : Int} {row : ServiceRow}
    (ht : s.hasTable "services" = true) (hrow : s.serviceRow? id = some row) (new : Status) :
    ({ s with services := s.services.map fun r =>
      if r.id == id then { r with status := new, strayStatus := none } else r } : Store).status id =
      .ok new := by
  have hfind := find?_map_services s id (f := fun r =>
    if r.id == id then { r with status := new, strayStatus := none } else r)
    fun r => by split <;> rfl
  rw [hrow] at hfind
  have hid : (row.id == id) = true :=
    List.find?_some (p := fun r : ServiceRow => r.id == id) (l := s.services) hrow
  simp only [status, service?, needTable, hasTable, serviceRow?, hfind, Option.map_some, hid,
    if_true, Option.mapM_some, ServiceRow.read]
  simp only [hasTable] at ht
  simp only [ht]
  rfl

end Catalog.Store

namespace Catalog.Site

/-- Whether the next wait for the search index succeeds. -/
def IndexLog.waitSucceeds (ix : IndexLog) : Bool :=
  !ix.failWaits.contains (ix.waits + 1)

/-- Whether the next commit of the search index succeeds. -/
def IndexLog.commitSucceeds (ix : IndexLog) : Bool :=
  !ix.failCommits.contains (ix.commits + 1)

theorem attempt_run {α : Type} (a : Action α) (s : Site) :
    ((Site.attempt a).run).run s = (.ok ((a.run).run s).1, ((a.run).run s).2) := by
  simp only [Site.attempt, ExceptT.run_tryCatch, ExceptT.run_map, StateT.run_bind, StateT.run_map]
  rcases (a.run).run s with ⟨_ | x, u⟩ <;> rfl

end Catalog.Site

namespace Catalog.Engine

open Catalog.Store Catalog.Site Catalog.Pipeline Catalog.Service Std.Do

variable {α β : Type}

-- ---------------------------------------------------------------------------
-- Pauses and resumes
-- ---------------------------------------------------------------------------

/-- The pauses and resumes of a run, as the status changes they announce: from `a` to `b`,
each change from RUNNING to PAUSED or back, each from the status the one before left. -/
inductive Toggles : Status → List (Status × Status) → Status → Prop
  | done (a : Status) : Toggles a [] a
  | pause {cs : List (Status × Status)} {b : Status} :
      Toggles .paused cs b → Toggles .running ((.running, .paused) :: cs) b
  | resume {cs : List (Status × Status)} {b : Status} :
      Toggles .running cs b → Toggles .paused ((.paused, .running) :: cs) b

theorem Toggles.append {a b c : Status} {cs ds : List (Status × Status)} (h : Toggles a cs b)
    (h' : Toggles b ds c) : Toggles a (cs ++ ds) c := by
  induction h with
  | done => exact h'
  | pause _ ih => exact .pause (ih h')
  | resume _ ih => exact .resume (ih h')

/-- The status changes of one service, as the event log records them. -/
def changesOf (id : Int) (cs : List (Status × Status)) : List (Int × Status × Status) :=
  cs.map fun c => (id, c.1, c.2)

/-- How a run of the service `id` stands, from the site `s₀` where the service was RUNNING to
the site `s`: the schema is the same, the service's stored status is `x`, and the only
status changes announced since are the service's pauses and resumes, which lead to `x`. -/
structure Along (id : Int) (s₀ : Site) (x : Status) (s : Site) : Prop where
  tables : s.store.tables = s₀.store.tables
  status : s.store.status id = .ok x
  changes : ∃ cs, Toggles .running cs x ∧
    statusChanges s.events = statusChanges s₀.events ++ changesOf id cs

theorem Along.start {id : Int} {s₀ : Site} (h : s₀.store.status id = .ok .running) :
    Along id s₀ .running s₀ :=
  ⟨rfl, h, [], .done _, by simp [changesOf]⟩

/-- A site that stands where another did stands as far along. -/
theorem Along.congr {id : Int} {s₀ s t : Site} {x : Status} (h : Along id s₀ x s)
    (ht : t.standing = s.standing) : Along id s₀ x t := by
  obtain ⟨cs, hcs, hchanges⟩ := h.changes
  refine ⟨(tables_of_standing ht).trans h.tables, (status_of_standing ht id).trans h.status,
    cs, hcs, ?_⟩
  rw [← hchanges]
  exact congrArg Prod.snd ht

theorem Along.quiet {id : Int} {s₀ s t : Site} {x y : Status} (h : Along id s₀ x s)
    (ht : Along id s₀ y t) (hq : s.store.needsReplay = false) : t.store.needsReplay = false := by
  rw [needsReplay_congr (ht.tables.trans h.tables.symm), hq]

/-- Changing the status of a service that reads: the new status is stored and the change
announced, and nothing else of where the services stand changes. -/
theorem transition_run {s : Site} {id : Int} {x : Status} (hq : s.store.needsReplay = false)
    (hx : s.store.status id = .ok x) (old new : Status) :
    ∃ t, ((transition id old new).run).run s = (.ok (), t) ∧
      t.store.tables = s.store.tables ∧ t.store.status id = .ok new ∧
      statusChanges t.events = statusChanges s.events ++ [(id, old, new)] := by
  obtain ⟨ht, row, hrow⟩ := serviceRow?_of_status hx
  refine ⟨{ s with
      store := { s.store with services := s.store.services.map fun r =>
        if r.id == id then { r with status := new, strayStatus := none } else r }
      events := s.events ++ [.statusChanged id old new] },
    ?_, rfl, status_setStatus ht hrow new, ?_⟩
  · simp only [transition, Site.run_bind, atomically_run _ _ hq, setStatus_run ht hrow new]
    rfl
  · simp only [statusChanges_append]
    rfl

/-- A pause or a resume takes a run one change further. -/
theorem Along.toggle {id : Int} {s₀ s : Site} {x y : Status} (h : Along id s₀ x s)
    (hq : s.store.needsReplay = false) (hstep : Toggles x [(x, y)] y) :
    ∃ t, ((transition id x y).run).run s = (.ok (), t) ∧ Along id s₀ y t := by
  obtain ⟨t, hrun, htables, hstatus, hchanges⟩ := transition_run hq h.status x y
  obtain ⟨cs, hcs, hlog⟩ := h.changes
  refine ⟨t, hrun, htables.trans h.tables, hstatus, cs ++ [(x, y)], hcs.append hstep, ?_⟩
  rw [hchanges, hlog]
  simp [changesOf]

-- ---------------------------------------------------------------------------
-- Processing pauses and resumes the service only
-- ---------------------------------------------------------------------------

/-- A stretch of a run of the service `id` from the site `s₀`. From a state of the pass that
is the service's, where the service is RUNNING, it keeps the pass the service's and pauses
and resumes the service only. It leaves the service RUNNING, or PAUSED when it ends with a
result that `stops` holds of; a stretch that fails leaves it RUNNING. -/
def Drives (id : Int) (s₀ : Site) (stops : α → Prop) (m : PassM α) : Prop :=
  ∀ st, st.2.info.id = id → st.1.store.needsReplay = false → Along id s₀ .running st.1 →
    ((m.run).run st).2.2.info.id = id ∧
      (Along id s₀ .running ((m.run).run st).2.1 ∨
        (Along id s₀ .paused ((m.run).run st).2.1 ∧ ∃ a, ((m.run).run st).1 = .ok a ∧ stops a))

variable {id : Int} {s₀ : Site}

theorem Steady.drives {m : PassM α} (h : Steady m) (stops : α → Prop) : Drives id s₀ stops m := by
  intro st hid hq halong
  obtain ⟨hstand, hinfo⟩ := h st hq
  exact ⟨hinfo ▸ hid, .inl (halong.congr hstand)⟩

/-- A stretch followed by another, where a result that stops the first stops the whole. -/
theorem Drives.bind {P : α → Prop} {Q : β → Prop} {x : PassM α} {f : α → PassM β}
    (hx : Drives id s₀ P x) (hf : ∀ a, Drives id s₀ Q (f a))
    (hstop : ∀ a, P a → ∃ b, f a = pure b ∧ Q b) : Drives id s₀ Q (x >>= f) := by
  intro st hid hq halong
  obtain ⟨hid', hend⟩ := hx st hid hq halong
  rw [Engine.run_bind]
  rcases hrun : (x.run).run st with ⟨_ | a, t⟩ <;> rw [hrun] at hid' hend <;>
    dsimp only at hid' hend ⊢
  · -- a failure is no stop: the service is still RUNNING
    rcases hend with h | ⟨_, b, hb, _⟩
    · exact ⟨hid', .inl h⟩
    · cases hb
  · rcases hend with h | ⟨hp, b, hb, hPb⟩
    · exact hf a t hid' (halong.quiet h hq) h
    · -- the service is PAUSED: the rest does nothing but return
      cases hb
      obtain ⟨c, hc, hQ⟩ := hstop a hPb
      rw [hc]
      exact ⟨hid', .inr ⟨hp, c, rfl, hQ⟩⟩

theorem Steady.bind_drives {Q : β → Prop} {x : PassM α} {f : α → PassM β} (hx : Steady x)
    (hf : ∀ a, Drives id s₀ Q (f a)) : Drives id s₀ Q (x >>= f) :=
  (hx.drives fun _ => False).bind hf fun _ h => h.elim

theorem current_run (st : Site × Pass) : ((current.run).run st) = (.ok st.2, st) := rfl

theorem update_run (f : Pass → Pass) (st : Site × Pass) :
    (((update f).run).run st) = (.ok (), (st.1, f st.2)) := rfl

/-- **Between records a run pauses and resumes its service only.** Observing the control from
where the service is RUNNING goes on with the service RUNNING; it stops the stretch when it
was canceled, or when the service was paused and its watcher canceled it, and then the
service is PAUSED. -/
theorem observe_drives : Drives id s₀ (· = Flow.canceled) observe := by
  rintro ⟨s, p⟩ hid hq halong
  dsimp only at hid hq halong
  unfold observe
  rw [Engine.run_bind, current_run]
  dsimp only
  split
  · exact ⟨hid, .inl halong⟩
  split
  · exact ⟨hid, .inl halong⟩
  -- paused: the service is PAUSED, then canceled or resumed
  obtain ⟨t, hpause, hpaused⟩ := halong.toggle hq (.pause (.done _))
  rw [Engine.run_bind, onSite_run, hid, hpause]
  dsimp only
  split
  · rw [Engine.run_bind, update_run]
    exact ⟨hid, .inr ⟨hpaused, _, rfl, rfl⟩⟩
  · obtain ⟨u, hresume, hresumed⟩ :=
      hpaused.toggle (halong.quiet hpaused hq) (.resume (.done _))
    rw [Engine.run_bind, update_run]
    dsimp only
    rw [Engine.run_bind, onSite_run]
    dsimp only
    rw [hresume]
    exact ⟨hid, .inl hresumed⟩

theorem Drives.ite {P : α → Prop} {c : Prop} [Decidable c] {x y : PassM α}
    (hx : Drives id s₀ P x) (hy : Drives id s₀ P y) : Drives id s₀ P (if c then x else y) := by
  split
  · exact hx
  · exact hy

/-- Processing a page: before each record the control is observed, and a record is processed
only after observing it went on with the service RUNNING. -/
theorem processPage_drives : ∀ page, Drives id s₀ (· = true) (processPage page)
  | [] => (Steady.pure false).drives _
  | r :: rest => by
    rw [processPage.eq_2]
    refine observe_drives.bind (fun fl => ?_) fun fl h => ⟨true, by subst h; rfl, rfl⟩
    refine Drives.ite ((Steady.pure _).drives _) (steady_current.bind_drives fun p => ?_)
    extract_lets skipped next
    have hnext : ∀ u, Drives id s₀ (· = true) (next u) := fun _ => processPage_drives rest
    refine Drives.ite ?_ (hnext ())
    exact (processRecord_steady r).bind_drives fun _ => steady_current.bind_drives fun _ =>
      engineSettings_steady.bind_drives fun _ =>
        Drives.ite (checkpoint_steady.bind_drives hnext) (hnext ())

/-- Processing pending input page by page stops when a page was canceled. -/
theorem processPages_drives (recordType : Option String) :
    ∀ pages cursor, Drives id s₀ (· = Flow.canceled) (processPages recordType pages cursor)
  | 0, _ => (Steady.pure _).drives _
  | pages + 1, cursor => by
    rw [processPages.eq_2]
    refine steady_current.bind_drives fun p => engineSettings_steady.bind_drives fun _ => ?_
    extract_lets size
    refine (Steady.onSite (lookup_leavesStanding _)).bind_drives fun page => ?_
    split
    · exact (Steady.pure _).drives _
    · exact (processPage_drives page).bind
        (fun _ => Drives.ite ((Steady.pure _).drives _) (processPages_drives recordType pages _))
        fun b h => ⟨.canceled, by subst h; rfl, rfl⟩

theorem processPending_drives (recordType : Option String) :
    Drives id s₀ (· = Flow.canceled) (processPending recordType) :=
  processPages_drives recordType _ _

/-- Processing the typed input type by type: a canceled type ends the pass's processing. -/
theorem driveTypes_drives : ∀ types, Drives id s₀ (· = Flow.canceled) (driveTypes types)
  | [] => processPending_drives none
  | t :: rest => by
    rw [driveTypes.eq_2]
    refine (processPending_drives (some t)).bind (fun fl => ?_) fun fl h =>
      ⟨.canceled, by subst h; rfl, rfl⟩
    split
    · exact (Steady.pure _).drives _
    · exact checkpoint_steady.bind_drives fun _ => driveTypes_drives rest

/-- **The processing of a pass pauses and resumes its service only.** From where the service
is RUNNING, it leaves it RUNNING, or PAUSED when it was canceled; every status change it
announces is a pause or a resume. -/
theorem drive_drives : Drives id s₀ (· = Flow.canceled) drive := by
  unfold drive
  refine beginPass_steady.bind_drives fun _ => steady_current.bind_drives fun _ =>
    (Steady.onSite (query_leavesStanding _)).bind_drives fun _ => Steady.bind_drives ?_ fun _ =>
      (Steady.onSite (lookup_leavesStanding _)).bind_drives fun _ =>
        openBatch_steady.bind_drives fun _ => driveTypes_drives _
  exact steady_update fun _ => rfl

-- ---------------------------------------------------------------------------
-- Closing a pass
-- ---------------------------------------------------------------------------

/-- A site action that leaves the search index alone. -/
def LeavesIndex (a : Action α) : Prop :=
  ∀ s, (((a.run).run s).2).index = s.index

theorem LeavesIndex.pure (a : α) : LeavesIndex (pure a : Action α) := fun _ => rfl

theorem LeavesIndex.bind {x : Action α} {f : α → Action β} (hx : LeavesIndex x)
    (hf : ∀ a, LeavesIndex (f a)) : LeavesIndex (x >>= f) := by
  intro s
  rw [Site.run_bind]
  rcases hrun : (x.run).run s with ⟨_ | a, t⟩
  · rw [← hx s, hrun]
  · rw [hf a t, ← hx s, hrun]

theorem atomically_leavesIndex (tx : Tx α) : LeavesIndex (atomically tx) := by
  intro s
  simp only [atomically, Site.run_bind, run_get]
  split
  · split
    · rfl
    · rfl
  · rfl

theorem enqueueScheduled_leavesIndex (ev : Routing) : LeavesIndex (enqueueScheduled ev) := by
  unfold enqueueScheduled
  refine LeavesIndex.bind ?_ fun _ => LeavesIndex.pure _
  generalize 0 = n
  induction ev.scheduled generalizing n with
  | nil => exact LeavesIndex.pure n
  | cons p ps ih =>
    refine LeavesIndex.bind ?_ fun _ => ih _
    refine LeavesIndex.bind ((atomically_leavesIndex _).bind fun job => ?_) fun _ =>
      LeavesIndex.pure _
    cases job with
    | none => exact LeavesIndex.pure _
    | some job => exact LeavesIndex.bind (fun _ => rfl) fun _ => LeavesIndex.pure _

/-- A computation of a pass that leaves the search index alone. -/
def KeepsIndex (m : PassM α) : Prop :=
  ∀ st, (((m.run).run st).2.1).index = st.1.index

theorem KeepsIndex.pure (a : α) : KeepsIndex (pure a : PassM α) := fun _ => rfl

theorem KeepsIndex.bind {x : PassM α} {f : α → PassM β} (hx : KeepsIndex x)
    (hf : ∀ a, KeepsIndex (f a)) : KeepsIndex (x >>= f) := by
  intro st
  rw [Engine.run_bind]
  rcases hrun : (x.run).run st with ⟨_ | a, t⟩
  · rw [← hx st, hrun]
  · rw [hf a t, ← hx st, hrun]

theorem KeepsIndex.onSite {a : Action α} (h : LeavesIndex a) : KeepsIndex (onSite a) := by
  intro st
  rw [onSite_run]
  exact h st.1

theorem KeepsIndex.forM {f : α → PassM PUnit} (h : ∀ a, KeepsIndex (f a)) (xs : List α) :
    KeepsIndex (xs.forM f) := by
  induction xs with
  | nil => exact KeepsIndex.pure _
  | cons a as ih => exact (h a).bind fun _ => ih

theorem keepsIndex_update (f : Pass → Pass) : KeepsIndex (update f) := fun _ => rfl

theorem keepsIndex_current : KeepsIndex current := fun _ => rfl

theorem matchEngine_keepsIndex : KeepsIndex Service.matchEngine := by
  unfold Service.matchEngine
  refine keepsIndex_current.bind fun _ => ?_
  split
  · exact KeepsIndex.pure _
  · exact fun _ => rfl

theorem saveMatcher_keepsIndex (force : Bool) (m : Matching.Matcher) :
    KeepsIndex (Service.saveMatcher force m) := by
  have hput : ∀ m, KeepsIndex (Service.putMatcher m) := fun _ =>
    matchEngine_keepsIndex.bind fun _ => keepsIndex_update _
  unfold Service.saveMatcher
  split
  · exact (hput _).bind fun _ => (KeepsIndex.onSite (atomically_leavesIndex _)).bind fun _ =>
      hput _
  · exact KeepsIndex.pure _

theorem endPassHook_keepsIndex : KeepsIndex endPassHook := by
  unfold endPassHook
  refine keepsIndex_current.bind fun _ => ?_
  split
  · exact KeepsIndex.forM (saveMatcher_keepsIndex true) _
  · exact KeepsIndex.pure _

theorem enqueueRouted_keepsIndex : KeepsIndex enqueueRouted := by
  unfold enqueueRouted
  exact keepsIndex_current.bind fun _ => (keepsIndex_update _).bind fun _ =>
    (KeepsIndex.onSite (enqueueScheduled_leavesIndex _)).bind fun _ => KeepsIndex.pure _

theorem KeepsIndex.attempt {m : PassM α} (h : KeepsIndex m) : KeepsIndex (attempt m) := by
  intro st
  rw [run_attempt]
  exact h st

/-- Whether the last batch of a pass can end: there is none, or each mark it holds back is
applied already or names a stored record. -/
def batchEnds (st : Site × Pass) : Bool :=
  match st.2.batch with
  | none => true
  | some b => b.marks.all fun m => st.1.store.processedBy.contains m || st.1.store.hasRecord m.1

/-- The status a pass ends in, from how its processing ended and the state it left. A pass
that completed ends NOT_RUNNING and one that was canceled ends CANCELED, as long as its last
batch ends and the search index answers: a completed pass waits for the index and commits
it, a canceled one only commits it. Every other pass ends in ERROR. -/
def settle (r : Except Error Flow) (st : Site × Pass) : Status :=
  match r with
  | .ok .completed =>
    if batchEnds st && st.1.index.waitSucceeds && st.1.index.commitSucceeds then .notRunning
    else .error
  | .ok .canceled => if batchEnds st && st.1.index.commitSucceeds then .canceled else .error
  | .error _ => .error

theorem settle_eq_notRunning_iff (r : Except Error Flow) (st : Site × Pass) :
    settle r st = .notRunning ↔ r = .ok .completed ∧ batchEnds st = true ∧
      st.1.index.waitSucceeds = true ∧ st.1.index.commitSucceeds = true := by
  rcases r with e | _ | _ <;> simp only [settle] <;> (try split) <;> simp_all

theorem settle_eq_canceled_iff (r : Except Error Flow) (st : Site × Pass) :
    settle r st = .canceled ↔
      r = .ok .canceled ∧ batchEnds st = true ∧ st.1.index.commitSucceeds = true := by
  rcases r with e | _ | _ <;> simp only [settle] <;> (try split) <;> simp_all

theorem settle_not_active (r : Except Error Flow) (st : Site × Pass) :
    (settle r st).isActive = false := by
  rcases r with e | _ | _ <;> simp only [settle] <;> (try split) <;> rfl

theorem commitIndex_run (s : Site) :
    (commitIndex.run).run s =
      (if s.index.commitSucceeds then .ok ()
        else .error (.internal ("index commit " ++ toString (s.index.commits + 1) ++ " failed")),
      { s with index := { s.index with commits := s.index.commits + 1 } }) := by
  simp only [commitIndex, Site.run_bind, run_get, run_set, IndexLog.commitSucceeds]
  split <;> simp_all <;> rfl

theorem waitIndex_run (s : Site) :
    (waitIndex.run).run s =
      (if s.index.waitSucceeds then .ok ()
        else .error (.internal ("index wait " ++ toString (s.index.waits + 1) ++ " failed")),
      { s with index := { s.index with waits := s.index.waits + 1 } }) := by
  simp only [waitIndex, Site.run_bind, run_get, run_set, IndexLog.waitSucceeds]
  split <;> simp_all <;> rfl

/-- Whether the search index answers the end of a pass that would end in `status`: a pass
about to end NOT_RUNNING waits for the index and commits it, any other only commits it. -/
def indexAnswers (status : Status) (ix : IndexLog) : Bool :=
  if status == .notRunning then ix.waitSucceeds && ix.commitSucceeds else ix.commitSucceeds

/-- Noting a change of a repository never fails on a store whose schema sets off nothing. -/
theorem touch_ok {s : Site} (hq : s.store.needsReplay = false) (repo : String) :
    (((atomically (touch repo)).run).run s).1 = .ok () := by
  rw [atomically_run _ _ hq]
  rfl

/-- A wait leaves what the next commit of the index does. -/
theorem commitSucceeds_of_waits (ix : IndexLog) (n : Nat) :
    ({ ix with waits := n } : IndexLog).commitSucceeds = ix.commitSucceeds := rfl

theorem refreshIndex_isOk {st : Site × Pass} (hq : st.1.store.needsReplay = false) :
    (((refreshIndex.run).run st).1).isOk =
      (st.1.index.waitSucceeds && st.1.index.commitSucceeds) := by
  simp only [refreshIndex, Engine.run_bind, current_run, onSite_run, waitIndex_run]
  by_cases hw : st.1.index.waitSucceeds = true
  · simp only [hw, if_true, processComplete, Site.run_bind, commitIndex_run,
      commitSucceeds_of_waits]
    by_cases hc : st.1.index.commitSucceeds = true
    · simp only [hc, if_true]
      rw [touch_ok (by exact hq)]
      rfl
    · simp only [hc]
      rfl
  · simp only [hw]
    rfl

theorem Stays.run_at {m : PassM α} {k : Key} (h : ⦃fun st => ⌜At k st⌝⦄ m ⦃Stays k⦄)
    {st : Site × Pass} (hst : At k st) : At k ((m.run).run st).2 := by
  have hwp := h st hst
  rcases hrun : (m.run).run st with ⟨_ | a, t⟩ <;>
    simp [wp, hrun, Id.run] at hwp <;> exact hwp

/-- The site `t` stands where `s` did but for one status change of the service `id`, from
`x` to `y`: the schema is the same, the stored status is `y`, and that change is the one
announced since. -/
structure Changed (id : Int) (x y : Status) (s t : Site) : Prop where
  tables : t.store.tables = s.store.tables
  status : t.store.status id = .ok y
  changes : statusChanges t.events = statusChanges s.events ++ [(id, x, y)]

theorem Changed.of_standing {id : Int} {x y : Status} {s s' t : Site} (h : Changed id x y s t)
    (hs : s.standing = s'.standing) : Changed id x y s' t := by
  refine ⟨h.tables.trans (tables_of_standing hs), h.status, ?_⟩
  rw [h.changes, show statusChanges s.events = statusChanges s'.events from congrArg Prod.snd hs]

theorem Steady.run_eq {m : PassM α} (h : Steady m) (st : Site × Pass)
    (hq : st.1.store.needsReplay = false) :
    ∃ r t, (m.run).run st = (r, t) ∧ t.1.standing = st.1.standing ∧ t.2.info = st.2.info :=
  ⟨_, _, rfl, h st hq⟩

theorem run_pure (a : α) (st : Site × Pass) : ((pure a : PassM α).run).run st = (.ok a, st) :=
  rfl

theorem takeBatch_run (st : Site × Pass) :
    (takeBatch.run).run st = (.ok st.2.batch, (st.1, { st.2 with batch := none })) := rfl

/-- Whether the last batch of a pass ends is whether committing it succeeds on any store with
the rows of the pass's. -/
theorem batchEnds_iff {st : Site × Pass} {b : Batch} (hb : st.2.batch = some b) {s : Store}
    (hrows : s.rows = st.1.store.rows) :
    batchEnds st = true ↔ ∃ a t, b.commit.run s = .ok (a, t) := by
  have hp : s.processedBy = st.1.store.processedBy := congrArg Rows.processedBy hrows
  have hr : s.records = st.1.store.records := congrArg Rows.records hrows
  rw [Batch.commit_ok_iff, batchEnds, hb]
  simp [List.all_eq_true, hasRecord, hp, hr]

/-- The index step at the end of a pass: it never fails as a step, reports whether the index
answered as `indexAnswers` says, and keeps where the services stand. -/
theorem indexStep_run (status : Status) {u : Site × Pass} (hq : u.1.store.needsReplay = false) :
    ∃ c t, ((attempt (if (status == .notRunning) = true then refreshIndex
        else onSite commitIndex)).run).run u = (.ok c, t) ∧
      c.isOk = indexAnswers status u.1.index ∧ t.1.standing = u.1.standing ∧
      t.2.info = u.2.info := by
  have hsteady : Steady (if (status == .notRunning) = true then refreshIndex
      else onSite commitIndex) :=
    Steady.ite refreshIndex_steady (Steady.onSite commitIndex_leavesStanding)
  refine ⟨_, _, run_attempt _ _, ?_, hsteady u hq⟩
  by_cases h : (status == .notRunning) = true
  · simp only [indexAnswers, h, if_true]
    exact refreshIndex_isOk hq
  · simp only [indexAnswers, h, Bool.false_eq_true, ↓reduceIte, onSite_run, commitIndex_run]
    split
    · next hc => rw [hc]; rfl
    · next hc => rw [Bool.eq_false_iff.2 hc]; rfl

/-- The last steps of a pass: the statistics and counters are saved, and the service's stored
status goes from what it was to `status`, which the pass returns. -/
theorem closing_run (status : Status) (failure : Option String) {u : Site × Pass} {s : Site}
    {x : Status} (hq : u.1.store.needsReplay = false) (hid : u.2.info.id = id)
    (hstand : u.1.standing = s.standing) (hx : s.store.status id = .ok x) :
    ∃ res t, ((do
        let _ ← attempt flushStats
        let _ ← attempt persistCounters
        let p ← current
        let now ← onSite (lookup (·.status p.info.id))
        onSite (transition p.info.id now status)
        onSite (emit (.runFinished p.info.id status p.stats.processed p.stats.errors))
        pure { serviceId := p.info.id, status, stats := p.stats, failure } :
          PassM RunResult).run).run u = (.ok res, t) ∧
      res.status = status ∧ Changed id x status s t.1 := by
  obtain ⟨r₁, u₁, hrun₁, hstand₁, hinfo₁⟩ := flushStats_steady.run_eq _ hq
  obtain ⟨r₂, u₂, hrun₂, hstand₂, hinfo₂⟩ :=
    persistCounters_steady.run_eq _ (quiet_of_standing hstand₁ hq)
  have hstand₂' : u₂.1.standing = s.standing := hstand₂.trans (hstand₁.trans hstand)
  have hid₂ : u₂.2.info.id = id := by rw [hinfo₂, hinfo₁, hid]
  have hx₂ : u₂.1.store.status u₂.2.info.id = .ok x := by
    rw [hid₂, status_of_standing hstand₂', hx]
  obtain ⟨t, hrun, htables, hstatus, hchanges⟩ :=
    transition_run (quiet_of_standing (hstand₂.trans hstand₁) hq) hx₂ x status
  refine ⟨{ serviceId := u₂.2.info.id, status, stats := u₂.2.stats, failure },
    ({ t with events := t.events ++
      [.runFinished u₂.2.info.id status u₂.2.stats.processed u₂.2.stats.errors] }, u₂.2),
    ?_, rfl, ?_⟩
  · simp only [Engine.run_bind, run_attempt, hrun₁, hrun₂, current_run, onSite_run, lookup_run,
      hx₂, hrun, emit_run]
    rfl
  · rw [hid₂] at hstatus hchanges
    refine Changed.of_standing ⟨htables, hstatus, ?_⟩ hstand₂'
    rw [statusChanges_append, hchanges]
    simp [statusChanges, Event.statusChange?]

theorem finish_settles (r : Except Error Flow) {st : Site × Pass} {x : Status}
    (hid : st.2.info.id = id) (hq : st.1.store.needsReplay = false)
    (hx : st.1.store.status id = .ok x) :
    ∃ res t, ((finish r).run).run st = (.ok res, t) ∧ res.status = settle r st ∧
      Changed id x res.status st.1 t.1 := by
  -- the end-of-pass hook keeps where the services stand, the index, the rows and the batch
  obtain ⟨r₁, st₁, hrun₁, hstand₁, hinfo₁⟩ := endPassHook_steady.run_eq _ hq
  have hindex₁ : st₁.1.index = st.1.index := by
    have h := endPassHook_keepsIndex st
    rwa [hrun₁] at h
  have hkey₁ : At (key st) st₁ := by
    have h := Stays.run_at (endPassHook_frame (key st)) ⟨rfl, hq⟩
    rwa [hrun₁] at h
  have hq₁ := quiet_of_standing hstand₁ hq
  unfold finish
  split
  rename_i status₀ failure₀ hsf
  extract_lets tail
  -- the rest of the pass, from the index step on, for the status the batch leaves
  have htail : ∀ status failure (u : Site × Pass), u.1.store.needsReplay = false →
      u.1.standing = st.1.standing → u.2.info.id = id → u.1.index = st.1.index →
      ∃ res t, ((pure (status, failure) >>= tail).run).run u = (.ok res, t) ∧
        res.status = (if indexAnswers status st.1.index then status else .error) ∧
        Changed id x res.status st.1 t.1 := by
    intro status failure u hqu hstand hidu hix
    obtain ⟨c, u₁, hrun₁, hc, hstand₁, hinfo₁⟩ := indexStep_run status hqu
    have hid₁ : u₁.2.info.id = id := by rw [hinfo₁, hidu]
    have hq₁ := quiet_of_standing hstand₁ hqu
    rw [hix] at hc
    rw [Engine.run_bind, run_pure]
    dsimp only [tail]
    rw [Engine.run_bind, hrun₁]
    -- an index that does not answer turns the status into ERROR
    rcases c with e | _
    · obtain ⟨res, t, hrun, hres, hch⟩ :=
        closing_run .error (failure <|> some e.message) hq₁ hid₁ (hstand₁.trans hstand) hx
      exact ⟨res, t, hrun, by rw [hres, ← hc]; rfl, hres ▸ hch⟩
    · obtain ⟨res, t, hrun, hres, hch⟩ :=
        closing_run status failure hq₁ hid₁ (hstand₁.trans hstand) hx
      exact ⟨res, t, hrun, by rw [hres, ← hc]; rfl, hres ▸ hch⟩
  -- the status the processing asks for settles as `settle` says
  have hsettle : settle r st =
      if batchEnds st && indexAnswers status₀ st.1.index then status₀ else .error := by
    rcases r with e | _ | _ <;> simp only [Prod.mk.injEq] at hsf <;> obtain ⟨rfl, -⟩ := hsf <;>
      simp [settle, indexAnswers, and_assoc]
  have hbatch : st₁.2.batch = st.2.batch := congrArg Key.batch hkey₁.1
  have hrows : st₁.1.store.rows = st.1.store.rows := congrArg Key.rows hkey₁.1
  have hid₁ : st₁.2.info.id = id := by rw [hinfo₁, hid]
  rw [Engine.run_bind, run_attempt, hrun₁]
  dsimp only
  rw [Engine.run_bind, takeBatch_run, hbatch]
  dsimp only
  -- the pass once its batch is taken
  let u : Site × Pass := (st₁.1, { st₁.2 with batch := none })
  rcases hb : st.2.batch with _ | b
  · -- no batch is open: the pass ends as its processing asked, if the index answers
    obtain ⟨res, t, hrun, hres, hch⟩ := htail status₀ failure₀ u hq₁ hstand₁ hid₁ hindex₁
    refine ⟨res, t, hrun, ?_, hch⟩
    rw [hres, hsettle, batchEnds, hb]
    rfl
  · -- the last batch is committed, which succeeds exactly when `batchEnds` says
    have hends := batchEnds_iff hb hrows
    rw [Engine.run_bind, run_attempt, onSite_run, atomically_run _ _ hq₁]
    rcases hc : b.commit.run st₁.1.store with e | ⟨a, s⟩ <;> dsimp only
    · have hfails : batchEnds st = false := by
        rw [Bool.eq_false_iff]
        rintro hyes
        obtain ⟨a, s, hok⟩ := hends.1 hyes
        rw [hc] at hok
        cases hok
      obtain ⟨res, t, hrun, hres, hch⟩ :=
        htail .error (failure₀ <|> some e.message) u hq₁ hstand₁ hid₁ hindex₁
      refine ⟨res, t, hrun, ?_, hch⟩
      rw [hres, hsettle, hfails]
      simp
    · -- the committed batch leaves the statuses, and the routed records are enqueued
      have hstand₂ : ({ st₁.1 with store := s } : Site).standing = st₁.1.standing := by
        simp only [standing, (Batch.commit_keepsStatuses b).statuses_eq hc]
      let u₂ : Site × Pass := ({ st₁.1 with store := s }, u.2)
      obtain ⟨r₃, u₃, hrun₃, hstand₃, hinfo₃⟩ :=
        enqueueRouted_steady.run_eq u₂ (quiet_of_standing hstand₂ hq₁)
      have hindex₃ : u₃.1.index = st.1.index := by
        have h := enqueueRouted_keepsIndex u₂
        rw [hrun₃] at h
        exact h.trans hindex₁
      have hstand : u₃.1.standing = st.1.standing := hstand₃.trans (hstand₂.trans hstand₁)
      obtain ⟨res, t, hrun, hres, hch⟩ := htail status₀ failure₀ u₃
        (quiet_of_standing hstand hq) hstand (by rw [hinfo₃]; exact hid₁) hindex₃
      refine ⟨res, t, ?_, ?_, hch⟩
      · rw [Engine.run_bind, run_attempt, hrun₃]
        exact hrun
      · rw [hres, hsettle, hends.2 ⟨a, s, hc⟩]
        rfl

-- ---------------------------------------------------------------------------
-- A whole run
-- ---------------------------------------------------------------------------

/-- Between records, a run goes on processing only with its service RUNNING. -/
theorem observe_resumed {u : Site × Pass} (hid : u.2.info.id = id)
    (hq : u.1.store.needsReplay = false) (h : Along id s₀ .running u.1)
    (hgo : ((observe.run).run u).1 = .ok .completed) :
    Along id s₀ .running ((observe.run).run u).2.1 := by
  rcases (observe_drives u hid hq h).2 with hrun | ⟨-, a, ha, hstop⟩
  · exact hrun
  · rw [hgo] at ha
    cases ha
    cases hstop

/-- Claiming a service that reads and that no run holds succeeds: the service is stored
RUNNING, and the schema and the announcements stay as they were. -/
theorem claim_run {s : Site} {id : Int} {prev : Status} (hq : s.store.needsReplay = false)
    (hprev : s.store.status id = .ok prev) (hfree : prev.isActive = false) :
    ∃ c : Site, ((atomically (tryStart id)).run).run s = (.ok true, c) ∧
      c.store.status id = .ok .running ∧ c.store.tables = s.store.tables ∧ c.events = s.events := by
  obtain ⟨row, hservice, hstatus⟩ := service?_of_status hprev
  have ht := (serviceRow?_of_status hprev).1
  have hrow := (serviceRow?_of_service? hservice).1
  refine ⟨{ s with store := { s.store with services := s.store.services.map fun r =>
    if r.id == id then { r with status := .running, strayStatus := none } else r } }, ?_,
    status_setStatus ht hrow .running, rfl, rfl⟩
  rw [atomically_run _ _ hq, tryStart_run ht hrow (by rw [hstatus]; exact hfree)]

/-- Preparing a pass of a service that reads never fails, changes nothing, and gives a pass
of that service. -/
theorem prepare_run {s : Site} {serviceId : Int} {x : Status}
    (hx : s.store.status serviceId = .ok x) (outputSet : Option String) (worker : Worker)
    (control : Control) :
    ∃ pass : Pass, ((prepare serviceId outputSet worker control).run).run s = (.ok pass, s) ∧
      pass.info.id = serviceId := by
  obtain ⟨info, hinfo, -⟩ := service?_of_status hx
  unfold prepare
  simp only [Site.run_bind, lookup_run, hinfo, query_run, run_get]
  exact ⟨_, rfl, (serviceRow?_of_service? hinfo).2⟩

theorem runPass_run {m : PassM α} {pass : Pass} {s : Site} {a : α} {t : Site × Pass}
    (h : (m.run).run (s, pass) = (.ok a, t)) : ((runPass m pass).run).run s = (.ok a, t.1) := by
  simp only [runPass, Site.run_bind, run_get, h, run_set]
  rfl

end Catalog.Engine
