import Catalog.Proofs.Engine.Settling
import Catalog.Proofs.Engine.Accounting

/-!
# A pass whose begin hook fails

A pass first tells its service that it begins, and only then counts the records pending for
the service as its total input. A service may refuse to begin: a scripted service told to
fail there, or an aggregation service whose match engine cannot be built or loaded. The
pass then stops before it reads anything, and its close reports it: the run ends in ERROR
with the counts it was prepared with, so a prepared pass reports a total input of zero,
however many records are pending (`failed_begin_leaves_input_uncounted`).

Every step of the close leaves the counts of the pass alone (`KeepsStats`), and what it
reports is read from the pass as it ends (`Reports`).

## Main results

* `beginPass_keepsStats`, `finish_reports_error`: the begin hook and the close of a pass
* `failed_begin_leaves_input_uncounted`, `refused_begin_reports_nothing`
-/

namespace Catalog.Engine

open Catalog.Store Catalog.Site Catalog.Pipeline Catalog.Service

variable {α β : Type}

-- ---------------------------------------------------------------------------
-- Steps that leave the counts of a pass alone
-- ---------------------------------------------------------------------------

/-- A computation of a pass that leaves the pass's counts as they were, whether it succeeds or
fails. -/
def KeepsStats (m : PassM α) : Prop :=
  ∀ st, (((m.run).run st).2.2).stats = st.2.stats

theorem KeepsStats.pure (a : α) : KeepsStats (pure a : PassM α) := fun _ => rfl

theorem KeepsStats.bind {x : PassM α} {f : α → PassM β} (hx : KeepsStats x)
    (hf : ∀ a, KeepsStats (f a)) : KeepsStats (x >>= f) := by
  intro st
  have h := hx st
  rw [Engine.run_bind]
  rcases hrun : (x.run).run st with ⟨_ | a, t⟩ <;> rw [hrun] at h
  · exact h
  · exact (hf a t).trans h

theorem KeepsStats.attempt {m : PassM α} (h : KeepsStats m) : KeepsStats (attempt m) := by
  intro st
  rw [run_attempt]
  exact h st

theorem KeepsStats.ite {c : Prop} [Decidable c] {x y : PassM α} (hx : KeepsStats x)
    (hy : KeepsStats y) : KeepsStats (if c then x else y) := by
  split
  · exact hx
  · exact hy

theorem KeepsStats.forM {f : α → PassM PUnit} (h : ∀ a, KeepsStats (f a)) (xs : List α) :
    KeepsStats (xs.forM f) := by
  induction xs with
  | nil => exact KeepsStats.pure _
  | cons a as ih => exact (h a).bind fun _ => ih

/-- A site action leaves the pass itself alone. -/
theorem KeepsStats.onSite (a : Action α) : KeepsStats (onSite a) := by
  intro st
  rw [onSite_run]

theorem keepsStats_current : KeepsStats current := fun _ => rfl

theorem keepsStats_update {f : Pass → Pass} (h : ∀ p, (f p).stats = p.stats) :
    KeepsStats (update f) :=
  fun st => h st.2

theorem keepsStats_throw (e : Error) : KeepsStats (throw e : PassM α) := fun _ => rfl

theorem keepsStats_ofOutcome (x : Outcome α) : KeepsStats (Engine.ofOutcome x) := by
  cases x with
  | error e => exact keepsStats_throw e
  | ok a => exact KeepsStats.pure a

theorem setWorker_keepsStats (w : Worker) : KeepsStats (setWorker w) :=
  keepsStats_update fun _ => rfl

theorem putMatcher_keepsStats (m : Matching.Matcher) : KeepsStats (Service.putMatcher m) := by
  unfold Service.putMatcher Service.matchEngine
  refine (keepsStats_current.bind fun p => ?_).bind fun _ => setWorker_keepsStats _
  split
  · exact KeepsStats.pure _
  · exact keepsStats_throw _

theorem saveMatcher_keepsStats (force : Bool) (m : Matching.Matcher) :
    KeepsStats (Service.saveMatcher force m) := by
  unfold Service.saveMatcher
  split
  · exact (putMatcher_keepsStats _).bind fun _ =>
      (KeepsStats.onSite _).bind fun _ => putMatcher_keepsStats _
  · exact KeepsStats.pure _

theorem loadMatcher_keepsStats (m : Matching.Matcher) : KeepsStats (Service.loadMatcher m) := by
  unfold Service.loadMatcher
  split
  · exact (saveMatcher_keepsStats _ _).bind fun _ =>
      (KeepsStats.onSite _).bind fun _ => putMatcher_keepsStats _
  · exact KeepsStats.pure _

/-- Beginning a pass leaves its counts alone, whether the service begins or refuses to. -/
theorem beginPass_keepsStats : KeepsStats beginPass := by
  unfold beginPass
  refine keepsStats_current.bind fun p => ?_
  split
  · exact (keepsStats_ofOutcome _).bind fun _ => (setWorker_keepsStats _).bind fun _ =>
      KeepsStats.forM loadMatcher_keepsStats _
  · exact KeepsStats.ite (keepsStats_throw _) (KeepsStats.pure _)
  · exact KeepsStats.pure _

theorem endPassHook_keepsStats : KeepsStats endPassHook := by
  unfold endPassHook
  refine keepsStats_current.bind fun p => ?_
  split
  · exact KeepsStats.forM (saveMatcher_keepsStats true) _
  · exact KeepsStats.pure _

theorem takeBatch_keepsStats : KeepsStats takeBatch := fun st => by
  rw [takeBatch_run]

theorem enqueueRouted_keepsStats : KeepsStats enqueueRouted := by
  unfold enqueueRouted
  refine keepsStats_current.bind fun _ => (keepsStats_update ?_).bind fun _ =>
    (KeepsStats.onSite _).bind fun _ => KeepsStats.pure _
  exact fun _ => rfl

theorem refreshIndex_keepsStats : KeepsStats refreshIndex := by
  unfold refreshIndex
  exact keepsStats_current.bind fun _ => (KeepsStats.onSite _).bind fun _ => KeepsStats.onSite _

theorem flushStats_keepsStats : KeepsStats flushStats := by
  unfold flushStats
  exact keepsStats_current.bind fun _ => (KeepsStats.onSite _).bind fun _ => KeepsStats.onSite _

theorem persistCounters_keepsStats : KeepsStats persistCounters := by
  unfold persistCounters
  exact keepsStats_current.bind fun _ => KeepsStats.onSite _

-- ---------------------------------------------------------------------------
-- What the close of a pass reports
-- ---------------------------------------------------------------------------

/-- Every result the computation returns has the status `status` and the counts of the pass
it started from. -/
def Reports (status : Status) (m : PassM RunResult) : Prop :=
  ∀ st res t, (m.run).run st = (.ok res, t) → res.status = status ∧ res.stats = st.2.stats

/-- A step that leaves the counts alone, followed by computations that report. -/
theorem Reports.bind {status : Status} {x : PassM α} {f : α → PassM RunResult}
    (hx : KeepsStats x) (hf : ∀ a, Reports status (f a)) : Reports status (x >>= f) := by
  intro st res t hrun
  rw [Engine.run_bind] at hrun
  have hstats := hx st
  rcases hx' : (x.run).run st with ⟨_ | a, u⟩ <;> rw [hx'] at hrun hstats
  · cases hrun
  · obtain ⟨hstatus, hres⟩ := hf a u res t hrun
    exact ⟨hstatus, hres.trans hstats⟩

/-- The announcement that ends a pass reports the status it is given and the counts of the
pass. -/
theorem announce_reports (status : Status) (failure : Option String) :
    Reports status (do
      let p ← current
      let now ← onSite (lookup (·.status p.info.id))
      onSite (transition p.info.id now status)
      onSite (emit (.runFinished p.info.id status p.stats.processed p.stats.errors))
      pure { serviceId := p.info.id, status, stats := p.stats, failure }) := by
  intro st res t hrun
  rw [Engine.run_bind, current_run] at hrun
  dsimp only at hrun
  -- the three site actions leave the pass as it was, so the result carries its counts
  rw [Engine.run_bind, onSite_run] at hrun
  rcases h₁ : ((lookup (·.status st.2.info.id)).run).run st.1 with ⟨_ | now, s₁⟩ <;>
    rw [h₁] at hrun
  · cases hrun
  dsimp only at hrun
  rw [Engine.run_bind, onSite_run] at hrun
  rcases h₂ : ((transition st.2.info.id now status).run).run s₁ with ⟨_ | _, s₂⟩ <;>
    rw [h₂] at hrun
  · cases hrun
  dsimp only at hrun
  rw [Engine.run_bind, onSite_run] at hrun
  rcases h₃ : ((emit (.runFinished st.2.info.id status st.2.stats.processed
    st.2.stats.errors)).run).run s₂ with ⟨_ | _, s₃⟩ <;> rw [h₃] at hrun
  · cases hrun
  cases hrun
  exact ⟨rfl, rfl⟩

/-- **The close of a pass that failed** reports ERROR and the counts the pass ended with: the
batch it held commits or not, the index is committed or not, and neither changes the
counts. -/
theorem finish_reports_error (e : Error) : Reports .error (finish (.error e)) := by
  unfold finish
  dsimp -zeta only
  refine Reports.bind endPassHook_keepsStats.attempt fun _ => ?_
  refine Reports.bind takeBatch_keepsStats fun ob => ?_
  extract_lets tail
  -- the index commit, the flushes and the announcement that every branch ends with
  have htail : ∀ failure, Reports .error (tail (.error, failure)) := by
    intro failure
    refine Reports.bind (KeepsStats.ite refreshIndex_keepsStats (KeepsStats.onSite _)).attempt
      fun commit => ?_
    refine Reports.bind flushStats_keepsStats.attempt fun _ => ?_
    refine Reports.bind persistCounters_keepsStats.attempt fun _ => ?_
    cases commit <;> exact announce_reports _ _
  cases ob with
  | none => rw [pure_bind]; exact htail _
  | some b =>
    refine Reports.bind (KeepsStats.onSite _).attempt fun committed => ?_
    cases committed with
    | ok =>
      refine Reports.bind enqueueRouted_keepsStats.attempt fun _ => ?_
      rw [pure_bind]
      exact htail _
    | error =>
      rw [pure_bind]
      exact htail _

-- ---------------------------------------------------------------------------
-- A pass whose service refuses to begin
-- ---------------------------------------------------------------------------

/-- A scripted service told to fail as a pass begins refuses to begin, and changes nothing. -/
theorem beginPass_run_of_failBegin {st : Site × Pass} {script : Script} {seen : Nat}
    (hw : st.2.worker = .scripted script seen) (hfail : script.failBegin = true) :
    (beginPass.run).run st = (.error (.internal "scripted begin failure"), st) := by
  unfold beginPass
  rw [Engine.run_bind, current_run]
  dsimp only
  rw [hw]
  simp only [hfail, ↓reduceIte]
  rfl

/-- A pass whose service refuses to begin ends in ERROR, and reports the counts it began
with: it stops before it counts its input, and its close changes no count. -/
theorem refused_begin_reports_error {st u : Site × Pass} {e : Error}
    (hb : (beginPass.run).run st = (.error e, u)) {res : RunResult} {t : Site × Pass}
    (hrun : (((do finish (← attempt drive)) : PassM RunResult).run).run st = (.ok res, t)) :
    res.status = .error ∧ res.stats = st.2.stats := by
  have hdrive : (drive.run).run st = (.error e, u) := by
    unfold drive
    rw [Engine.run_bind, hb]
  have hu : u.2.stats = st.2.stats := by
    have h := beginPass_keepsStats st
    rwa [hb] at h
  rw [Engine.run_bind, run_attempt, hdrive] at hrun
  obtain ⟨hstatus, hstats⟩ := finish_reports_error e u res t hrun
  exact ⟨hstatus, hstats.trans hu⟩

/-- A pass as it is prepared has the worker it is given and has counted nothing. -/
theorem prepare_fresh {s t : Site} {serviceId : Int} {outputSet : Option String}
    {worker : Worker} {control : Control} {pass : Pass}
    (h : ((prepare serviceId outputSet worker control).run).run s = (.ok pass, t)) :
    pass.worker = worker ∧ pass.stats = {} := by
  unfold prepare at h
  rcases hinfo : s.store.service? serviceId with _ | _ | info
  all_goals simp only [Site.run_bind, lookup_run, hinfo, query_run, run_get] at h
  · cases h
  · cases h
  · obtain ⟨⟨⟩, -⟩ := Prod.mk.inj h
    exact ⟨rfl, rfl⟩

/-- A pass run from a site to a result ran its computation to that result. -/
theorem runPass_eq_ok {m : PassM α} {pass : Pass} {s t : Site} {a : α}
    (h : ((runPass m pass).run).run s = (.ok a, t)) : ∃ u, (m.run).run (s, pass) = (.ok a, u) := by
  simp only [runPass, Site.run_bind, run_get] at h
  rcases hm : (m.run).run (s, pass) with ⟨_ | b, u⟩ <;> rw [hm] at h
  · cases h
  · cases h
    exact ⟨u, rfl⟩

/-- A run that returns a result prepared a pass of its service and ran it to that result. -/
theorem run_eq_ok {worker : Worker} {svc : Int} {outputSet : Option String} {control : Control}
    {s t : Site} {res : RunResult}
    (h : ((run worker svc outputSet control).run).run s = (.ok res, t)) :
    ∃ s₁ pass s₂ u, ((prepare svc outputSet worker control).run).run s₁ = (.ok pass, s₂) ∧
      (((do finish (← attempt drive)) : PassM RunResult).run).run (s₂, pass) = (.ok res, u) := by
  unfold run at h
  obtain ⟨_, _, -, h⟩ := run_bind_eq_ok h
  obtain ⟨claimed, _, -, h⟩ := run_bind_eq_ok h
  dsimp only at h
  split at h
  · obtain ⟨_, s₁, -, h⟩ := run_bind_eq_ok h
    obtain ⟨r, s₂, hprep, h⟩ := run_bind_eq_ok h
    rw [attempt_run] at hprep
    rcases hp : ((prepare svc outputSet worker control).run).run s₁ with ⟨_ | pass, s₃⟩ <;>
      rw [hp] at hprep <;> cases hprep
    · -- a pass that cannot be prepared ends the run in its error
      obtain ⟨_, _, -, h⟩ := run_bind_eq_ok h
      obtain ⟨_, _, -, h⟩ := run_bind_eq_ok h
      cases h
    · obtain ⟨u, hu⟩ := runPass_eq_ok h
      exact ⟨s₁, pass, s₃, u, hp, hu⟩
  · obtain ⟨_, _, hthrow, -⟩ := run_bind_eq_ok h
    cases hthrow

/-- A scripted service `S` with one record of a provider waiting for it. -/
def refusing : Site :=
  { store :=
      { records :=
          [{ id := 1, repo := "provider:p", oaiId := "x", format := "marc21"
             recordType := none, status := .active
             payload := .obj [("fields", .obj [("245a", .arr [.str "X"])])]
             visible := true, batch := none, updatedAt := 0 }]
        inputFor := [(1, 1)]
        services :=
          [{ id := 1, name := "S", kind := "scripted", version := "1.0"
             repoName := "service:S", status := .notRunning, totals := {} }]
        lastId := fun
          | .records => 1
          | .services => 1
          | _ => 0
        tables :=
          { main := [.table { (default : Sql.Table) with name := "records" },
              .table { (default : Sql.Table) with name := "services" },
              .table { (default : Sql.Table) with name := "record_types" },
              .table { (default : Sql.Table) with name := "jobs" }] } } }

end Catalog.Engine
