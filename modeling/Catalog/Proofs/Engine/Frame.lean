import Mathlib
import Catalog.Engine.Run
import Catalog.Proofs.Store.Footprint

/-!
# What a pass leaves alone

Most of what a pass does touches neither the record tables nor what the pass's outputs are
stored under: counting, reading the store, announcing events, calling the search index,
queuing jobs, saving counters and totals, keeping match points. This module says so once
for each such step, so that a proof about the outputs and marks of a pass only has to look
at the steps that write them.

On a site, such an action *leaves the rows* of the store (`LeavesRows`) as long as the
store's schema sets off no trigger. Within a pass, such a computation keeps the *key* of the
pass's state (`Key`): the rows, the service, the directives its outputs are routed by, and
the open batch. The latter are stated as triples, one for each step of a pass that keeps the
key, so that a proof by `mvcgen` about a larger step needs only the steps that change it.

## Main results

* `atomically_run`, `atomically_eq_ok`, `atomically_error`, `onSite_run`, `onSite_spec`,
  `onSite_atomically`: how a transaction and a site action run
* `LeavesRows`, with `atomically_leavesRows` and one lemma for each action a pass runs
* `At`, `Stays`, `onSite_leaves`, `forM_stays`: keeping the key of a pass
* the frames of the hooks of a service, of the match engine's steps, and of the bookkeeping
  of a pass: `flushStats_frame`, `persistCounters_frame`, `enqueueRouted_frame`,
  `observe_frame`, `handleFailure_frame`, `refreshIndex_frame`, `checkpointHook_frame`,
  `endPassHook_frame`, `beginPass_frame`
-/

namespace Catalog.Site

open Catalog.Store Std.Do

variable {α β : Type}

-- ---------------------------------------------------------------------------
-- Running site actions
-- ---------------------------------------------------------------------------

/-- The run of a bind: the first action, then the rest from the site it left, unless it
failed. -/
theorem run_bind (x : Action α) (f : α → Action β) (s : Site) :
    ((x >>= f).run).run s = match (x.run).run s with
      | (.ok a, t) => ((f a).run).run t
      | (.error e, t) => (.error e, t) := by
  simp only [ExceptT.run_bind, StateT.run_bind]
  rcases (x.run).run s with ⟨_ | a, t⟩ <;> rfl

theorem run_get (s : Site) : ((get : Action Site).run).run s = (.ok s, s) := rfl

theorem run_set (s t : Site) : ((set t : Action PUnit).run).run s = (.ok ⟨⟩, t) := rfl

/-- On a store whose schema sets off nothing, a transaction changes the store as it
returned it when it succeeds, and nothing when it fails. -/
theorem atomically_run (tx : Tx α) (s : Site) (h : s.store.needsReplay = false) :
    ((atomically tx).run).run s = match tx.run s.store with
      | .ok (a, t) => (.ok a, { s with store := t })
      | .error e => (.error e, s) := by
  have hw : ∀ t, withTriggers s.store t = .ok t := fun t => by simp [withTriggers, h]; rfl
  rcases ht : tx.run s.store with e | ⟨a, t⟩ <;>
    simp only [atomically, run_bind, run_get, ht, hw] <;> rfl

/-- A bind that succeeded ran its first action to a value, then the rest from there. -/
theorem run_bind_eq_ok {x : Action α} {k : α → Action β} {s t : Site} {b : β}
    (h : ((x >>= k).run).run s = (.ok b, t)) :
    ∃ a u, (x.run).run s = (.ok a, u) ∧ ((k a).run).run u = (.ok b, t) := by
  rw [run_bind] at h
  rcases hx : (x.run).run s with ⟨_ | a, u⟩ <;> rw [hx] at h
  · cases h
  · exact ⟨a, u, rfl, h⟩

/-- A transaction that succeeded on a store whose schema sets off nothing changed the store
as it returned it, and nothing else of the site. -/
theorem atomically_eq_ok {tx : Tx α} {s t : Site} {a : α} (hq : s.store.needsReplay = false)
    (h : ((atomically tx).run).run s = (.ok a, t)) :
    tx.run s.store = .ok (a, t.store) ∧ t = { s with store := t.store } := by
  rw [atomically_run tx s hq] at h
  rcases htx : tx.run s.store with e | ⟨b, u⟩ <;> rw [htx] at h
  · cases h
  · cases h
    exact ⟨rfl, rfl⟩

/-- A transaction that fails leaves the site as it was, whatever triggers the schema holds. -/
theorem atomically_error {tx : Tx α} {s t : Site} {e : Error}
    (h : ((atomically tx).run).run s = (.error e, t)) : t = s := by
  simp only [atomically, run_bind, run_get] at h
  split at h
  · split at h
    · simp only [run_bind, run_set] at h
      cases h
    · exact (congrArg Prod.snd h).symm
  · exact (congrArg Prod.snd h).symm

-- ---------------------------------------------------------------------------
-- Actions that leave the rows alone
-- ---------------------------------------------------------------------------

/-- An action that leaves the rows of a store alone, whether it succeeds or fails, as long as
the store's schema sets off nothing. -/
def LeavesRows (a : Action α) : Prop :=
  ∀ s, s.store.rows.replay = false → (((a.run).run s).2.store).rows = s.store.rows

theorem LeavesRows.of_store {a : Action α} (h : ∀ s, (((a.run).run s).2).store = s.store) :
    LeavesRows a :=
  fun s _ => by rw [h s]

theorem LeavesRows.pure (a : α) : LeavesRows (pure a : Action α) :=
  LeavesRows.of_store fun _ => rfl

theorem LeavesRows.bind {x : Action α} {f : α → Action β} (hx : LeavesRows x)
    (hf : ∀ a, LeavesRows (f a)) : LeavesRows (x >>= f) := by
  intro s hs
  have hrows := hx s hs
  rw [run_bind]
  rcases hrun : (x.run).run s with ⟨_ | a, t⟩ <;> rw [hrun] at hrows
  · exact hrows
  · exact (hf a t (hrows ▸ hs)).trans hrows

theorem LeavesRows.foldlM {f : β → α → Action β} (hf : ∀ b a, LeavesRows (f b a))
    (xs : List α) (init : β) : LeavesRows (xs.foldlM f init) := by
  induction xs generalizing init with
  | nil => exact LeavesRows.pure init
  | cons a as ih => exact (hf init a).bind fun b => ih b

/-- A transaction that keeps the rows, run as an action. -/
theorem atomically_leavesRows {tx : Tx α} (h : KeepsRows tx) : LeavesRows (atomically tx) := by
  intro s hs
  rw [atomically_run tx s hs]
  rcases hrun : tx.run s.store with e | ⟨a, t⟩
  · rfl
  · exact h.rows_eq hrun

/-- Reading the store gives what it holds and changes nothing. -/
theorem lookup_run (f : Store → Outcome α) (s : Site) : ((lookup f).run).run s = (f s.store, s) := by
  rcases h : f s.store with e | a <;> simp only [lookup, h, run_bind, run_get] <;> rfl

theorem query_run (f : Store → α) (s : Site) : ((query f).run).run s = (.ok (f s.store), s) := rfl

theorem lookup_leavesRows (f : Store → Outcome α) : LeavesRows (lookup f) :=
  LeavesRows.of_store fun s => by rw [lookup_run]

theorem query_leavesRows (f : Store → α) : LeavesRows (query f) :=
  LeavesRows.of_store fun _ => rfl

theorem emit_leavesRows (e : Event) : LeavesRows (emit e) :=
  LeavesRows.of_store fun _ => rfl

theorem commitIndex_leavesRows : LeavesRows commitIndex :=
  LeavesRows.of_store fun s => by
    simp only [commitIndex, run_bind, run_get, run_set]
    split <;> rfl

theorem waitIndex_leavesRows : LeavesRows waitIndex :=
  LeavesRows.of_store fun s => by
    simp only [waitIndex, run_bind, run_get, run_set]
    split <;> rfl

theorem processComplete_leavesRows (repo : String) : LeavesRows (processComplete repo) :=
  commitIndex_leavesRows.bind fun _ => atomically_leavesRows (touch_keepsRows repo)

theorem transition_leavesRows (service : Int) (old new : Service.Status) :
    LeavesRows (transition service old new) :=
  (atomically_leavesRows (setStatus_keepsRows service new)).bind fun _ =>
    emit_leavesRows _

theorem enqueue_leavesRows (service : Int) (outputSet : Option String)
    (kind : Pipeline.JobKind) : LeavesRows (enqueue service outputSet kind) := by
  refine (atomically_leavesRows (insertJob_keepsRows service outputSet kind)).bind fun job => ?_
  cases job with
  | none => exact LeavesRows.pure none
  | some job => exact (emit_leavesRows _).bind fun _ => LeavesRows.pure _

theorem enqueueScheduled_leavesRows (ev : Pipeline.Routing) :
    LeavesRows (enqueueScheduled ev) := by
  unfold enqueueScheduled
  refine (LeavesRows.foldlM (fun n p => ?_) ev.scheduled 0).bind fun _ => LeavesRows.pure _
  exact (enqueue_leavesRows p.1 p.2 _).bind fun _ => LeavesRows.pure _

theorem changePoints_leavesRows (f : Matching.PointTable → Matching.PointTable) :
    LeavesRows (Engine.changePoints f) :=
  atomically_leavesRows (modifyPoints_keepsRows f)

end Catalog.Site

namespace Catalog.Engine

open Catalog.Store Catalog.Site Catalog.Pipeline Catalog.Service Std.Do

variable {α β : Type}

-- ---------------------------------------------------------------------------
-- The key of a pass
-- ---------------------------------------------------------------------------

/-- What of a pass's state its outputs and marks are stored under: the rows of the store,
the service's row, the directives that route its outputs, and the open batch. -/
structure Key where
  rows : Rows
  info : ServiceRow
  directives : List Directive
  batch : Option Batch

/-- The key of a pass's state. -/
def key (st : Site × Pass) : Key :=
  ⟨st.1.store.rows, st.2.info, st.2.routing.directives, st.2.batch⟩

/-- The pass's state has key `k`, and its store's schema sets off nothing. -/
def At (k : Key) (st : Site × Pass) : Prop :=
  key st = k ∧ k.rows.replay = false

/-- The key is still `k`, whether the computation succeeded or failed. -/
abbrev Stays (k : Key) : PostCond α (.except Error (.arg (Site × Pass) .pure)) :=
  post⟨fun _ st => ⌜At k st⌝, fun _ st => ⌜At k st⌝⟩

-- ---------------------------------------------------------------------------
-- Site actions within a pass
-- ---------------------------------------------------------------------------

/-- A site action within a pass runs on the site and leaves the pass's state alone. -/
theorem onSite_run (a : Action α) (st : Site × Pass) :
    ((onSite a).run).run st = (((a.run).run st.1).1, (((a.run).run st.1).2, st.2)) := by
  have hget : ((get : PassM (Site × Pass)).run).run st = pure (.ok st, st) := rfl
  rcases h : (a.run).run st.1 with ⟨_ | x, s⟩ <;>
    simp [onSite, h, hget, ExceptT.run_bind] <;> rfl

/-- The strongest specification of a site action within a pass: it ends as the action's
run on the site. -/
theorem onSite_spec (a : Action α) (st₀ : Site × Pass) :
    ⦃fun st => ⌜st = st₀⌝⦄ onSite a
    ⦃post⟨fun x st => ⌜((a.run).run st₀.1) = (.ok x, st.1) ∧ st.2 = st₀.2⌝,
      fun e st => ⌜((a.run).run st₀.1) = (.error e, st.1) ∧ st.2 = st₀.2⌝⟩⦄ := by
  intro st hst
  subst hst
  rcases h : (a.run).run st.1 with ⟨_ | x, s⟩ <;> simp [wp, onSite_run, h, Id.run]

/-- A transaction within a pass, on a store whose schema sets off nothing: it changes the
store as it returned it when it succeeds, and nothing when it fails. -/
theorem onSite_atomically (tx : Tx α) (st₀ : Site × Pass) :
    ⦃fun st => ⌜st = st₀ ∧ st₀.1.store.needsReplay = false⌝⦄ onSite (atomically tx)
    ⦃post⟨fun a st => ⌜∃ t, tx.run st₀.1.store = .ok (a, t) ∧
        st = ({ st₀.1 with store := t }, st₀.2)⌝,
      fun e st => ⌜tx.run st₀.1.store = .error e ∧ st = st₀⌝⟩⦄ := by
  rintro st ⟨rfl, hq⟩
  rcases h : tx.run st.1.store with e | ⟨a, t⟩ <;>
    simp [wp, onSite_run, atomically_run tx st.1 hq, h, Id.run]

theorem At.onSite {a : Action α} (ha : LeavesRows a) {k : Key} {st₀ st : Site × Pass}
    (hk : At k st₀) (hrun : ((a.run).run st₀.1).2 = st.1) (hpass : st.2 = st₀.2) : At k st := by
  obtain ⟨hkey, hq⟩ := hk
  subst hkey
  have hrows := ha st₀.1 hq
  rw [hrun] at hrows
  exact ⟨by simp only [key, hrows, hpass], hq⟩

/-- A site action that leaves the rows keeps the key of the pass. -/
theorem onSite_leaves {a : Action α} (ha : LeavesRows a) (k : Key) :
    ⦃fun st => ⌜At k st⌝⦄ onSite a ⦃Stays k⦄ := by
  intro st hst
  rcases h : (a.run).run st.1 with ⟨_ | x, s⟩ <;> simp [wp, onSite_run, h, Id.run] <;>
    exact hst.onSite ha (by rw [h]) rfl

/-- Reading the store within a pass gives what the store holds. -/
@[spec] theorem onSite_lookup (f : Store → Outcome α) (k : Key) :
    ⦃fun st => ⌜At k st⌝⦄ onSite (lookup f)
    ⦃post⟨fun a st => ⌜At k st ∧ f st.1.store = .ok a⌝, fun _ st => ⌜At k st⌝⟩⦄ := by
  intro st hst
  rcases h : f st.1.store with e | a <;> simp [wp, onSite_run, lookup_run, h, Id.run] <;>
    exact hst

@[spec] theorem onSite_query (f : Store → α) (k : Key) :
    ⦃fun st => ⌜At k st⌝⦄ onSite (query f)
    ⦃post⟨fun a st => ⌜At k st ∧ a = f st.1.store⌝, fun _ st => ⌜At k st⌝⟩⦄ := by
  intro st hst
  simp [wp, onSite_run, query_run, Id.run]
  exact hst

@[spec] theorem onSite_emit (e : Event) (k : Key) :
    ⦃fun st => ⌜At k st⌝⦄ onSite (emit e) ⦃Stays k⦄ :=
  onSite_leaves (emit_leavesRows e) k

@[spec] theorem onSite_commitIndex (k : Key) :
    ⦃fun st => ⌜At k st⌝⦄ onSite commitIndex ⦃Stays k⦄ :=
  onSite_leaves commitIndex_leavesRows k

@[spec] theorem onSite_waitIndex (k : Key) :
    ⦃fun st => ⌜At k st⌝⦄ onSite waitIndex ⦃Stays k⦄ :=
  onSite_leaves waitIndex_leavesRows k

@[spec] theorem onSite_processComplete (repo : String) (k : Key) :
    ⦃fun st => ⌜At k st⌝⦄ onSite (processComplete repo) ⦃Stays k⦄ :=
  onSite_leaves (processComplete_leavesRows repo) k

@[spec] theorem onSite_transition (service : Int) (old new : Status) (k : Key) :
    ⦃fun st => ⌜At k st⌝⦄ onSite (transition service old new) ⦃Stays k⦄ :=
  onSite_leaves (transition_leavesRows service old new) k

@[spec] theorem onSite_enqueueScheduled (ev : Routing) (k : Key) :
    ⦃fun st => ⌜At k st⌝⦄ onSite (enqueueScheduled ev) ⦃Stays k⦄ :=
  onSite_leaves (enqueueScheduled_leavesRows ev) k

@[spec] theorem onSite_changePoints (f : Matching.PointTable → Matching.PointTable) (k : Key) :
    ⦃fun st => ⌜At k st⌝⦄ onSite (changePoints f) ⦃Stays k⦄ :=
  onSite_leaves (changePoints_leavesRows f) k

@[spec] theorem onSite_saveTotals (id : Int) (t : ServiceTotals) (k : Key) :
    ⦃fun st => ⌜At k st⌝⦄ onSite (atomically (saveTotals id t)) ⦃Stays k⦄ :=
  onSite_leaves (atomically_leavesRows (saveTotals_keepsRows id t)) k

@[spec] theorem onSite_addLink (fromId toId : Int) (k : Key) :
    ⦃fun st => ⌜At k st⌝⦄ onSite (atomically (addLink fromId toId)) ⦃Stays k⦄ :=
  onSite_leaves (atomically_leavesRows (addLink_keepsRows fromId toId)) k

@[spec] theorem onSite_countCheckpoint (k : Key) :
    ⦃fun st => ⌜At k st⌝⦄
    onSite (modify fun site : Site =>
      { site with scriptedCheckpoints := site.scriptedCheckpoints + 1 })
    ⦃Stays k⦄ :=
  onSite_leaves (LeavesRows.of_store fun _ => rfl) k

-- ---------------------------------------------------------------------------
-- Steps of a pass that keep the key
-- ---------------------------------------------------------------------------

/-- Every step of a loop keeps the key, so the loop does. -/
theorem forM_stays {f : β → PassM PUnit} (hf : ∀ a k, ⦃fun st => ⌜At k st⌝⦄ f a ⦃Stays k⦄)
    (xs : List β) (k : Key) : ⦃fun st => ⌜At k st⌝⦄ xs.forM f ⦃Stays k⦄ := by
  induction xs generalizing k with
  | nil => mvcgen
  | cons a as ih =>
    have ha := hf a
    change ⦃fun st => ⌜At k st⌝⦄ (f a >>= fun _ => as.forM f) ⦃Stays k⦄
    mvcgen [ha, ih]

@[spec] theorem flushStats_frame (k : Key) : ⦃fun st => ⌜At k st⌝⦄ flushStats ⦃Stays k⦄ := by
  mvcgen [flushStats, current] with grind

@[spec] theorem persistCounters_frame (k : Key) :
    ⦃fun st => ⌜At k st⌝⦄ persistCounters ⦃Stays k⦄ := by
  -- the counters are saved in one transaction: one counter, then one per kind of entity
  have hsave : ∀ (g : OaiIds) (c : ElementCounters) k,
      ⦃fun st => ⌜At k st⌝⦄
      onSite (atomically do
        saveCounter g.scope "oai" g.next
        ElementKind.all.forM fun e => saveCounter c.scope e.name (c.next e))
      ⦃Stays k⦄ := fun g c =>
    onSite_leaves (atomically_leavesRows ((saveCounter_keepsRows _ _ _).bind fun _ =>
      KeepsRows.forM fun _ _ => saveCounter_keepsRows _ _ _))
  mvcgen [persistCounters, current, hsave]

@[spec] theorem enqueueRouted_frame (k : Key) :
    ⦃fun st => ⌜At k st⌝⦄ enqueueRouted ⦃Stays k⦄ := by
  mvcgen [enqueueRouted, current, update]


@[spec] theorem observe_frame (k : Key) : ⦃fun st => ⌜At k st⌝⦄ observe ⦃Stays k⦄ := by
  mvcgen [observe, current, update]

@[spec] theorem handleFailure_frame (r : Record) (e : Error) (k : Key) :
    ⦃fun st => ⌜At k st⌝⦄ handleFailure r e ⦃Stays k⦄ := by
  mvcgen [handleFailure, current, update, fail, engineSettings]

@[spec] theorem refreshIndex_frame (k : Key) :
    ⦃fun st => ⌜At k st⌝⦄ refreshIndex ⦃Stays k⦄ := by
  mvcgen [refreshIndex, current]

@[spec] theorem setWorker_frame (w : Worker) (k : Key) :
    ⦃fun st => ⌜At k st⌝⦄ setWorker w ⦃Stays k⦄ := by
  mvcgen [setWorker, update]

@[spec] theorem matchEngine_frame (k : Key) :
    ⦃fun st => ⌜At k st⌝⦄ Service.matchEngine ⦃Stays k⦄ := by
  mvcgen [Service.matchEngine, current, fail]


@[spec] theorem nextOaiId_frame (k : Key) : ⦃fun st => ⌜At k st⌝⦄ nextOaiId ⦃Stays k⦄ := by
  mvcgen [nextOaiId, current, update]

@[spec] theorem nextElement_frame (e : ElementKind) (k : Key) :
    ⦃fun st => ⌜At k st⌝⦄ nextElement e ⦃Stays k⦄ := by
  mvcgen [nextElement, current, update]

@[spec] theorem followScript_frame (script : Script) (n : Nat) (r : Record) (k : Key) :
    ⦃fun st => ⌜At k st⌝⦄ Service.followScript script n r ⦃Stays k⦄ := by
  mvcgen [Service.followScript, update, fail]

@[spec] theorem putMatcher_frame (m : Matching.Matcher) (k : Key) :
    ⦃fun st => ⌜At k st⌝⦄ Service.putMatcher m ⦃Stays k⦄ := by
  mvcgen [Service.putMatcher]

@[spec] theorem unindexFrom_frame (id : Int) (m : Matching.Matcher) (k : Key) :
    ⦃fun st => ⌜At k st⌝⦄ Service.unindexFrom id m ⦃Stays k⦄ := by
  mvcgen [Service.unindexFrom]

@[spec] theorem saveMatcher_frame (force : Bool) (m : Matching.Matcher) (k : Key) :
    ⦃fun st => ⌜At k st⌝⦄ Service.saveMatcher force m ⦃Stays k⦄ := by
  mvcgen [Service.saveMatcher]

@[spec] theorem loadMatcher_frame (m : Matching.Matcher) (k : Key) :
    ⦃fun st => ⌜At k st⌝⦄ Service.loadMatcher m ⦃Stays k⦄ := by
  mvcgen [Service.loadMatcher] with grind

@[spec] theorem unindex_frame (id : Int) (k : Key) :
    ⦃fun st => ⌜At k st⌝⦄ Service.unindex id ⦃Stays k⦄ := by
  have hloop := forM_stays (unindexFrom_frame id)
  mvcgen [Service.unindex, hloop]

@[spec] theorem checkpointHook_frame (k : Key) :
    ⦃fun st => ⌜At k st⌝⦄ checkpointHook ⦃Stays k⦄ := by
  have hloop := forM_stays (saveMatcher_frame false)
  mvcgen [checkpointHook, current, hloop]

@[spec] theorem endPassHook_frame (k : Key) :
    ⦃fun st => ⌜At k st⌝⦄ endPassHook ⦃Stays k⦄ := by
  have hloop := forM_stays (saveMatcher_frame true)
  mvcgen [endPassHook, current, hloop]

@[spec] theorem beginPass_frame (k : Key) :
    ⦃fun st => ⌜At k st⌝⦄ beginPass ⦃Stays k⦄ := by
  have hloop := forM_stays loadMatcher_frame
  mvcgen [beginPass, current, fail, Engine.ofOutcome, hloop]

end Catalog.Engine
