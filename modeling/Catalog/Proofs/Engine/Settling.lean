import Catalog.Proofs.Engine.Atomicity
import Catalog.Proofs.Engine.Lifetime

/-!
# Each input of a run settles

A pass of a service reads its pending input page by page and processes it record by record.
It stores the outputs of an input in the open batch and holds back the input's mark in the
same batch; the batch ends at each checkpoint, where a new one opens, and when the pass
closes. This module follows the pairing of outputs with the marks of their inputs
(`Store.Paired`) through a whole run, however it ends: each step of the pass keeps it
(`Steps`), the batch the pass holds always commits, and the pass closes with no batch open.

So after a run, each record that waited for the service when the run began is in one of two
states: marked processed, with every output the run made from it visible, or still waiting,
with no output made from it at all (`run_settles_each_waiting_input`).

This needs that no update script of the store is set off by a write, that no directive routes
the service's outputs back to it (`Store.Routes`), that no record of the service's own
repository is input for it or processed by it, and that no row names an id above the last one
handed out. A record of the service's own repository that is input for it breaks the pairing:
its output is made visible at a checkpoint, and when a later input rewrites the record as its
own output, the rewrite queues it for the service again, so it waits with a visible output
(`self_input_output_outlives_its_mark`).

## Main results

* `Store.Paired.begin`, `Store.Paired.settled`: where a run starts, and what its end gives
* `processRecord_steps`, `checkpoint_steps`, `processPage_steps`: the steps of a pass
* `drive_steps`, `finish_steps`: the processing of a pass and its close
* `run_paired`: a run of the service, from its claim to its end
* `run_settles_each_waiting_input`, `self_input_output_outlives_its_mark`
-/

namespace Catalog.Store

variable {c : Scope} {fl : Option Int} {ins : List Int} {r : Rows} {b : Option Batch}

-- ---------------------------------------------------------------------------
-- Where a run starts and what its end gives
-- ---------------------------------------------------------------------------

/-- A run starts paired from a store where no record of the service's repository is input for
it or processed by it: the pass has made no output yet, and every record waiting for the
service still waits. -/
theorem Paired.begin {svc : Int} {repo : String} {r : Rows}
    (hout : ∀ row ∈ r.records, row.repo = repo →
      (row.id, svc) ∉ r.inputFor ∧ (row.id, svc) ∉ r.processedBy)
    (hf : r.Fresh) : Paired ⟨svc, repo, r⟩ none [] r none where
  outputs := hout
  fresh := hf
  grown := le_rfl
  visible row hrow _ hnew := absurd (hf.records row hrow) (not_le.2 hnew)
  lineage _ _ _ hnew := by
    obtain ⟨row, hrow, -, rfl, hgt⟩ := hnew
    exact absurd (hf.records row hrow) (not_le.2 hgt)
  marks _ hm := absurd hm List.not_mem_nil
  inputs _ hx := absurd hx List.not_mem_nil
  pairs _ hin hpr := .inr ⟨hin, hpr⟩

/-- With no batch open and no input in flight, a record that waited for the service at the
start is marked, with every output of the pass made from it visible, or still waits, with no
output of the pass made from it. -/
theorem Paired.settled (h : Paired c none ins r none) {x : Int}
    (hin : (x, c.service) ∈ c.start.inputFor) (hpr : (x, c.service) ∉ c.start.processedBy) :
    (r.Marked c x ∧ ∀ row ∈ r.records, row.repo = c.repo → c.start.lastRecord < row.id →
        (x, row.id) ∈ r.lineage → row.visible = true) ∨
      (r.Waiting c x ∧ ∀ row ∈ r.records, row.repo = c.repo → c.start.lastRecord < row.id →
        (x, row.id) ∉ r.lineage) := by
  rcases h.pairs x hin hpr with hm | hw
  · exact .inl ⟨hm, fun row hrow hrepo hnew _ => h.outputs_visible hrow hrepo hnew⟩
  · -- an output made from `x` would have had `x` marked, and a marked record waits no more
    refine .inr ⟨hw, fun row hrow hrepo hnew hxi => ?_⟩
    exact (h.inputs_marked hxi ⟨row, hrow, hrepo, rfl, hnew⟩).2 hw.1

/-- A pending record of the service is an input of the pass: a row that is input for the
service is no output of it. -/
theorem Paired.input_of_pending {s : Store} (h : Paired c fl ins s.rows b) {rt : Option String}
    {after limit : Int} {page : List Record} (hp : s.pending c.service rt after limit = .ok page)
    {r : Record} (hr : r ∈ page) {x : Int} (hx : r.id = some x) : s.rows.Input c x := by
  obtain ⟨row, hrow, hview⟩ := mem_of_mapM_ok hp hr
  have hpend : row ∈ s.records.filter (s.isPending c.service rt after) := by
    split at hrow
    · exact hrow
    · exact List.mem_of_mem_take hrow
  obtain ⟨hmem, hpending⟩ := List.mem_filter.1 hpend
  simp only [isPending, Bool.and_eq_true, List.contains_iff_mem] at hpending
  obtain rfl : row.id = x := Option.some.inj ((Engine.view_ok hview).1.symm.trans hx)
  refine ⟨⟨row, hmem, rfl⟩, ?_⟩
  rintro ⟨row', hrow', hrepo, hid⟩
  exact (h.outputs row' hrow' hrepo).1 (hid ▸ hpending.1.1.1.2)

end Catalog.Store

namespace Catalog.Site

theorem throw_leavesRows {α : Type} (e : Error) : LeavesRows (throw e : Action α) :=
  LeavesRows.of_store fun _ => rfl

end Catalog.Site

namespace Catalog.Engine

open Catalog.Store Catalog.Site Catalog.Pipeline Catalog.Service Std.Do

variable {α β : Type} {c : Scope} {ins : List Int}

-- ---------------------------------------------------------------------------
-- The invariant between the steps of a pass
-- ---------------------------------------------------------------------------

/-- The invariant with no batch open. -/
def Settled (c : Scope) (ins : List Int) (k : Key) : Prop :=
  Kept c none ins k ∧ k.batch = none

theorem Settled.quiet {k : Key} (h : Settled c ins k) : k.rows.replay = false :=
  h.1.quiet

theorem Kept.drop {k : Key} {x : Int} (h : Kept c none (x :: ins) k) : Kept c none ins k :=
  { h with paired := h.paired.drop }

theorem Kept.forget {k : Key} (h : Kept c none ins k) : Kept c none [] k :=
  { h with paired := { h.paired with inputs := nofun } }

theorem Kept.drop_id {k : Key} {r : Record} (h : Kept c none (r.id.toList ++ ins) k) :
    Kept c none ins k := by
  cases hr : r.id with
  | none => simpa [hr] using h
  | some x =>
    have h' : Kept c none (x :: ins) k := by simpa [hr] using h
    exact h'.drop

/-- The pass holds the pending records of a page it read as its inputs. -/
theorem Kept.of_pending {k : Key} (h : Kept c none [] k) {s : Store} (hrows : k.rows = s.rows)
    {rt : Option String} {after limit : Int} {page : List Record}
    (hp : s.pending c.service rt after limit = .ok page) :
    Kept c none (page.filterMap (·.id)) k := by
  refine { h with paired := { h.paired with inputs := fun x hx => ?_ } }
  obtain ⟨r, hr, hrx⟩ := List.mem_filterMap.1 hx
  rw [hrows]
  exact (hrows ▸ h.paired).input_of_pending hp hr hrx

/-- Every mark the open batch holds names a stored record, so the batch commits. -/
theorem Kept.commit_ok {k : Key} {bb : Batch} (h : Kept c none ins k) (hb : k.batch = some bb)
    {s : Store} (hrows : k.rows = s.rows) : ∃ x t, bb.commit.run s = .ok (x, t) := by
  refine Batch.commit_ok fun m hm => ?_
  obtain ⟨⟨row, hrow, hid⟩, -⟩ := (h.paired.marks m (by rw [hb]; exact hm)).2
  rw [hrows] at hrow
  exact List.any_eq_true.2 ⟨row, hrow, by simp [hid]⟩

/-- Committing the open batch settles the pass. -/
theorem Kept.commit {k : Key} {bb : Batch} (h : Kept c none ins k) (hb : k.batch = some bb)
    {s t : Store} (hrows : k.rows = s.rows) (hw : Committed bb s t) :
    Settled c ins { k with rows := t.rows, batch := none } := by
  have hp := h.paired
  rw [hrows, hb] at hp
  have hq : t.rows.replay = k.rows.replay := by rw [hrows]; exact needsReplay_congr hw.tables
  exact ⟨⟨hq.trans h.quiet, h.service, h.repo, h.routes, (fun _ hnone => by cases hnone),
    hp.commit hw⟩, rfl⟩

/-- The batch a pass holds commits, since every input it marks is stored, and settles the
pass, whatever the pass's own state is by then. -/
theorem Kept.commit_run {st : Site × Pass} {bb : Batch} (h : Kept c none ins (key st))
    (hb : st.2.batch = some bb) (p : Pass) :
    ∃ x t, ((onSite (atomically bb.commit)).run).run (st.1, p) =
        (.ok x, ({ st.1 with store := t }, p)) ∧
      Settled c ins { key st with rows := t.rows, batch := none } := by
  obtain ⟨x, t, hc⟩ := h.commit_ok hb rfl
  refine ⟨x, t, ?_, h.commit hb rfl (Batch.commit_committed hc)⟩
  rw [onSite_run, atomically_run_of h.quiet hc]

/-- Opening a batch on the service's repository, with none open, keeps the invariant. -/
theorem Settled.start {k : Key} {bb : Batch} (h : Settled c ins k) {s t : Store}
    (hrows : k.rows = s.rows) (hw : Started c.repo bb s t) :
    Kept c none ins { k with rows := t.rows, batch := some bb } := by
  have hp := h.1.paired
  rw [hrows, h.2] at hp
  have hq : t.rows.replay = k.rows.replay := by rw [hrows]; exact needsReplay_congr hw.tables
  refine ⟨hq.trans h.quiet, h.1.service, h.1.repo, h.1.routes, ?_, hp.start hw⟩
  rintro bb' ⟨⟩
  exact hw.onRepo

/-- Taking away a batch the pass does not hold changes nothing. -/
theorem key_take {st : Site × Pass} (hb : st.2.batch = none) :
    key (st.1, { st.2 with batch := none }) = key st := by
  simp only [key, hb]

-- ---------------------------------------------------------------------------
-- Computations of a pass from key to key
-- ---------------------------------------------------------------------------

/-- A computation of a pass that takes a state whose key satisfies `P` to one whose key
satisfies `Q`, whether it succeeds or fails. -/
def Steps (P Q : Key → Prop) (m : PassM α) : Prop :=
  ∀ st, P (key st) → Q (key ((m.run).run st).2)

theorem Steps.pure (P : Key → Prop) (a : α) : Steps P P (pure a : PassM α) :=
  fun _ h => h

/-- A failure of the first part ends the computation, so what it leaves must already satisfy
the end's condition. -/
theorem Steps.bind {P Q R : Key → Prop} {x : PassM α} {f : α → PassM β} (hx : Steps P Q x)
    (hf : ∀ a, Steps Q R (f a)) (hQR : ∀ k, Q k → R k) : Steps P R (x >>= f) := by
  intro st h
  have hq := hx st h
  rw [Engine.run_bind]
  rcases hrun : (x.run).run st with ⟨_ | a, t⟩ <;> rw [hrun] at hq
  · exact hQR _ hq
  · exact hf a t hq

/-- An attempt never fails, so what follows it starts from where it left the state. -/
theorem Steps.attempt_bind {P Q R : Key → Prop} {x : PassM α} {f : Except Error α → PassM β}
    (hx : Steps P Q x) (hf : ∀ a, Steps Q R (f a)) : Steps P R (Engine.attempt x >>= f) := by
  intro st h
  rw [Engine.run_bind, run_attempt]
  exact hf _ _ (hx st h)

theorem Steps.ite {P Q : Key → Prop} {p : Prop} [Decidable p] {x y : PassM α} (hx : Steps P Q x)
    (hy : Steps P Q y) : Steps P Q (if p then x else y) := by
  split
  · exact hx
  · exact hy

/-- A computation that keeps the key keeps any condition on it. -/
theorem Steps.of_frame {P : Key → Prop} {m : PassM α}
    (h : ∀ k, ⦃fun st => ⌜At k st⌝⦄ m ⦃Stays k⦄) (hq : ∀ k, P k → k.rows.replay = false) :
    Steps P P m := fun st hp => by
  rw [(Stays.run_at (h (key st)) ⟨rfl, hq _ hp⟩).1]
  exact hp

/-- What a triple of a computation of a pass says of one run of it. -/
theorem run_of_triple {m : PassM α} {pre : Site × Pass → Prop} {P : α → Site × Pass → Prop}
    {Q : Site × Pass → Prop}
    (h : ⦃fun st => ⌜pre st⌝⦄ m ⦃post⟨fun a st => ⌜P a st⌝, fun _ st => ⌜Q st⌝⟩⦄)
    {st : Site × Pass} (hst : pre st) :
    (∀ a t, (m.run).run st = (.ok a, t) → P a t) ∧
      (∀ e t, (m.run).run st = (.error e, t) → Q t) := by
  have hwp := h st hst
  rcases hrun : (m.run).run st with ⟨_ | a, t⟩ <;> simp [wp, hrun, Id.run] at hwp
  · refine ⟨fun _ _ h => ?_, fun _ _ h => ?_⟩
    · cases h
    · cases h
      exact hwp
  · refine ⟨fun _ _ h => ?_, fun _ _ h => ?_⟩
    · cases h
      exact hwp
    · cases h

-- ---------------------------------------------------------------------------
-- The steps of a pass
-- ---------------------------------------------------------------------------

/-- Processing a stored input lets go of it: its outputs are stored in the open batch and
its mark is held back there, or a failure leaves no output owed to it. -/
theorem processRecord_steps_of_id {r : Record} {x : Int} (hx : r.id = some x) :
    Steps (Kept c none (x :: ins)) (Kept c none ins) (processRecord r) := by
  intro st hk
  have hid : r.requireId = .ok x := by simp [Record.requireId, hx]
  unfold processRecord
  rw [hid, Engine.run_bind]
  dsimp only [Engine.ofOutcome]
  rw [run_pure]
  dsimp only
  rcases hb : st.2.batch with _ | bb
  · simp only [Engine.run_bind, outputBatch, current_run, hb]
    exact hk.drop
  rw [Engine.run_bind, outputBatch_run hb]
  dsimp only
  rw [Engine.run_bind, run_attempt]
  dsimp only
  obtain ⟨hok, herr⟩ := run_of_triple (processWith_spec hx hk) (Kept.at hk)
  rcases hp : ((processWith r).run).run st with ⟨_ | os, u⟩
  · -- the worker failed: the failure is counted, and nothing is owed to the input
    obtain ⟨hu, -⟩ := herr _ _ hp
    dsimp only
    rw [Engine.run_bind, update_run]
    dsimp only
    exact Steps.of_frame (handleFailure_frame r _) (fun _ h => h.quiet) _ hu.drop
  obtain ⟨hu, hsame, hret⟩ := hok _ _ hp
  dsimp only
  rw [Engine.run_bind, update_run]
  dsimp only
  rw [Engine.run_bind]
  have hbu : (key u).batch.isSome := by rw [hsame.batch]; simp [key, hb]
  -- counting the input changes no part of the key
  set v : Site × Pass := (u.1, { u.2 with
    stats := { u.2.stats with processed := u.2.stats.processed + 1 }
    sinceCheckpoint := u.2.sinceCheckpoint + 1 })
  obtain ⟨hsok, hserr⟩ := run_of_triple (storeReturned_spec hu hbu x (hret.congr hsame))
    (show At (key u) v from ⟨rfl, hu.quiet⟩)
  rcases hs : ((os.forM (storeOutput x)).run).run v with ⟨_ | _, t⟩
  · exact (hserr _ _ hs).drop
  obtain ⟨ht, hbt⟩ := hsok _ _ hs
  obtain ⟨bb', hbb'⟩ := Option.isSome_iff_exists.1 hbt
  dsimp only
  -- the mark of the input is held back with its outputs
  rw [Engine.run_bind, outputBatch_run (show t.2.batch = some bb' from hbb')]
  dsimp only
  rw [update_run]
  have hsvc : t.2.info.id = c.service := ht.service
  rw [hsvc]
  exact (ht.hold hbb' (ht.paired.inputs x (List.mem_cons_self ..))).drop

/-- Processing a record lets go of its id, if it has one; a record never stored is refused
before anything is done. -/
theorem processRecord_steps (r : Record) :
    Steps (Kept c none (r.id.toList ++ ins)) (Kept c none ins) (processRecord r) := by
  cases hr : r.id with
  | none =>
    intro st hk
    have hid : r.requireId = .error (.invalidInput ("Record " ++ r.oaiId ++
        " has not been stored")) := by
      simp [Record.requireId, hr]
    unfold processRecord
    rw [hid, Engine.run_bind]
    exact hk
  | some x => simpa [hr] using processRecord_steps_of_id hr

theorem openBatch_steps : Steps (Settled c ins) (Kept c none ins) openBatch := by
  intro st h
  unfold openBatch
  rw [Engine.run_bind, current_run]
  dsimp only
  rw [Engine.run_bind, onSite_run, atomically_run _ _ h.quiet]
  have hrepo : st.2.info.repoName = c.repo := h.1.repo
  rw [hrepo]
  rcases hs : (Batch.start c.repo).run st.1.store with e | ⟨⟨b, n⟩, t⟩
  · exact h.1
  dsimp only
  rw [update_run]
  exact h.start rfl (Batch.start_started hs)

/-- **A checkpoint** keeps the invariant: the batch the pass holds commits, and a new one
opens on the service's repository. -/
theorem checkpoint_steps : Steps (Kept c none ins) (Kept c none ins) checkpoint := by
  unfold checkpoint
  refine (Steps.of_frame checkpointHook_frame fun _ h => h.quiet).bind (fun _ => ?_) fun _ h => h
  intro st h
  rw [Engine.run_bind, takeBatch_run]
  extract_lets p tail
  -- after the batch: the jobs, the index, the totals and counters, and a new batch
  have htail : ∀ u, Steps (Settled c ins) (Kept c none ins) (tail u) := fun _ => by
    have hq : ∀ k, Settled c ins k → k.rows.replay = false := fun _ h => h.quiet
    refine (Steps.of_frame enqueueRouted_frame hq).bind (fun _ => ?_) fun _ h => h.1
    refine (Steps.of_frame onSite_commitIndex hq).bind (fun _ => ?_) fun _ h => h.1
    refine (Steps.of_frame flushStats_frame hq).bind (fun _ => ?_) fun _ h => h.1
    refine (Steps.of_frame persistCounters_frame hq).bind (fun _ => ?_) fun _ h => h.1
    refine Steps.bind (Q := Settled c ins) (fun _ h => h) (fun _ => ?_) fun _ h => h.1
    refine openBatch_steps.bind (fun _ => ?_) fun _ h => h
    refine Steps.bind (fun _ h => h) (fun p => ?_) fun _ h => h
    exact Steps.of_frame (onSite_emit _) fun _ h => h.quiet
  dsimp only
  rcases hb : st.2.batch with _ | b
  · exact htail () _ ⟨key_take hb ▸ h, rfl⟩
  obtain ⟨x, t, hrun, hset⟩ := h.commit_run hb { p with batch := none }
  dsimp only
  rw [Engine.run_bind, hrun]
  exact htail () _ hset

theorem filterMap_id_cons (r : Record) (rest : List Record) :
    (r :: rest).filterMap (·.id) = r.id.toList ++ rest.filterMap (·.id) := by
  cases hr : r.id <;> simp [hr]

/-- **Processing a page** lets go of the records of the page one by one, wherever it
stops. -/
theorem processPage_steps : ∀ page : List Record,
    Steps (Kept c none (page.filterMap (·.id))) (Kept c none []) (processPage page)
  | [] => Steps.pure _ _
  | r :: rest => by
    unfold processPage
    rw [filterMap_id_cons]
    refine (Steps.of_frame observe_frame fun _ h => h.quiet).bind (fun f => ?_)
      fun _ h => h.forget
    split
    · exact fun _ h => h.forget
    refine Steps.bind (fun _ h => h) (fun p => ?_) fun _ h => h.forget
    dsimp only
    split
    · refine (processRecord_steps r).bind (fun _ => ?_) fun _ h => h.forget
      refine Steps.bind (fun _ h => h) (fun p => ?_) fun _ h => h.forget
      refine Steps.bind (fun _ h => h) (fun e => ?_) fun _ h => h.forget
      refine Steps.ite ?_ (processPage_steps rest)
      exact checkpoint_steps.bind (fun _ => processPage_steps rest) fun _ h => h.forget
    · -- a skipped record is let go of unprocessed
      exact fun st h => processPage_steps rest st h.drop_id

/-- **Processing pending input page by page** keeps the invariant: every page read holds
pending records, which are inputs of the pass. -/
theorem processPages_steps (rt : Option String) : ∀ n cursor,
    Steps (Kept c none []) (Kept c none []) (processPages rt n cursor)
  | 0, _ => Steps.pure _ _
  | n + 1, cursor => by
    intro st h
    rw [processPages.eq_2, Engine.run_bind, current_run]
    dsimp only
    rw [Engine.run_bind, engineSettings_run]
    dsimp only
    rw [Engine.run_bind, onSite_run, lookup_run]
    have hsvc : st.2.info.id = c.service := h.service
    rw [hsvc]
    rcases hp : st.1.store.pending c.service rt cursor st.1.settings.engine.pageSize with
      e | page
    · exact h
    dsimp only
    split
    · exact h
    · exact ((processPage_steps page).bind (fun _ => Steps.ite (Steps.pure _ _)
        (processPages_steps rt n _)) fun _ h => h) st (h.of_pending rfl hp)

theorem driveTypes_steps : ∀ types, Steps (Kept c none []) (Kept c none []) (driveTypes types)
  | [] => processPages_steps none _ _
  | t :: rest => by
    rw [driveTypes.eq_2]
    refine (processPages_steps (some t) _ _).bind (fun fl => ?_) fun _ h => h
    split
    · exact Steps.pure _ _
    · exact checkpoint_steps.bind (fun _ => driveTypes_steps rest) fun _ h => h

/-- **The processing of a pass** keeps the invariant, wherever it stops. -/
theorem drive_steps : Steps (Settled c []) (Kept c none []) drive := by
  unfold drive
  have hq : ∀ k, Settled c [] k → k.rows.replay = false := fun _ h => h.quiet
  refine (Steps.of_frame beginPass_frame hq).bind (fun _ => ?_) fun _ h => h.1
  refine Steps.bind (fun _ h => h) (fun p => ?_) fun _ h => h.1
  refine (Steps.of_frame (onSite_leaves (query_leavesRows _)) hq).bind (fun _ => ?_)
    fun _ h => h.1
  refine Steps.bind (Q := Settled c []) (fun _ h => h) (fun _ => ?_) fun _ h => h.1
  refine (Steps.of_frame (onSite_leaves (lookup_leavesRows _)) hq).bind (fun _ => ?_)
    fun _ h => h.1
  exact openBatch_steps.bind (fun _ => driveTypes_steps _) fun _ h => h

/-- **Closing a pass** settles it, whatever the processing did: the batch the pass still
holds commits, and the rest leaves the key alone. -/
theorem finish_steps (result : Except Error Flow) :
    Steps (Kept c none []) (Settled c []) (finish result) := by
  unfold finish
  split
  refine (Steps.of_frame endPassHook_frame fun _ h => h.quiet).attempt_bind fun _ => ?_
  intro st h
  rw [Engine.run_bind, takeBatch_run]
  extract_lets p tail
  -- after the batch: the index, the totals and counters, the status and its announcement
  have htail : ∀ sf, Steps (Settled c []) (Settled c []) (tail sf) := by
    rintro ⟨status, failure⟩
    have hq : ∀ k, Settled c [] k → k.rows.replay = false := fun _ h => h.quiet
    refine Steps.attempt_bind (Q := Settled c []) ?_ fun commit => ?_
    · exact Steps.ite (Steps.of_frame refreshIndex_frame hq) (Steps.of_frame onSite_commitIndex hq)
    -- whatever the index step gave, the rest leaves the key alone
    split
    all_goals
      refine (Steps.of_frame flushStats_frame hq).attempt_bind fun _ => ?_
      refine (Steps.of_frame persistCounters_frame hq).attempt_bind fun _ => ?_
      refine Steps.bind (fun _ h => h) (fun p => ?_) fun _ h => h
      refine (Steps.of_frame (onSite_leaves (lookup_leavesRows _)) hq).bind (fun _ => ?_)
        fun _ h => h
      refine (Steps.of_frame (onSite_transition _ _ _) hq).bind (fun _ => ?_) fun _ h => h
      exact (Steps.of_frame (onSite_emit _) hq).bind (fun _ => Steps.pure _ _) fun _ h => h
  dsimp only
  rcases hb : st.2.batch with _ | b
  · exact ((Steps.pure _ _).bind htail fun _ h => h) _ ⟨key_take hb ▸ h, rfl⟩
  obtain ⟨x, t, hrun, hset⟩ := h.commit_run hb { p with batch := none }
  dsimp only
  rw [Engine.run_bind, run_attempt, hrun]
  exact ((Steps.of_frame enqueueRouted_frame fun _ h => h.quiet).attempt_bind fun _ =>
    (Steps.pure _ _).bind htail fun _ h => h) _ hset

-- ---------------------------------------------------------------------------
-- A run of the service
-- ---------------------------------------------------------------------------

/-- Preparing a pass of a registered service changes nothing, and the pass it gives starts
settled: the service's, routing by its directives, with no batch open. -/
theorem prepare_settles {s : Site} (hq : s.store.needsReplay = false)
    (hr : Routes c.service c.repo s.store) (hp : Paired c none [] s.store.rows none)
    (worker : Worker) (outputSet : Option String) (control : Control) :
    (((prepare c.service outputSet worker control).run).run s).2 = s ∧
      ∀ pass, (((prepare c.service outputSet worker control).run).run s).1 = .ok pass →
        Settled c [] (key (s, pass)) := by
  unfold prepare
  rw [Site.run_bind, lookup_run]
  rcases hinfo : s.store.service? c.service with e | _ | info
  · exact ⟨rfl, fun _ hp => by cases hp⟩
  · exact ⟨rfl, fun _ hp => by cases hp⟩
  obtain ⟨hrow, hid⟩ := serviceRow?_of_service? hinfo
  have hmem : info ∈ s.store.services := List.mem_of_find?_eq_some hrow
  simp only [Site.run_bind, query_run, run_get]
  refine ⟨rfl, fun pass hpass => ?_⟩
  cases hpass
  refine ⟨⟨hq, hid, hr.named info hmem hid, fun d hd => ?_, (fun _ hnone => by cases hnone),
    hp⟩, rfl⟩
  -- the pass routes by the directives of its service, read back with their targets
  obtain ⟨d₀, hd₀, rfl⟩ := List.mem_map.1 hd
  simp only [List.mem_filter, beq_iff_eq] at hd₀
  exact hr.back d₀ hd₀.1 (hid ▸ hd₀.2)

/-- **A run of the service** ends paired with no batch open, however it ends: the claim and
a failed preparation leave the rows alone, and the pass keeps the pairing from start to
finish. -/
theorem run_paired (worker : Worker) (outputSet : Option String) (control : Control) {s : Site}
    (hq : s.store.needsReplay = false) (hr : Routes c.service c.repo s.store)
    (hp : Paired c none [] s.store.rows none) :
    Paired c none [] (((run worker c.service outputSet control).run).run s).2.store.rows none := by
  unfold run
  rw [Site.run_bind, lookup_run]
  rcases s.store.status c.service with e | prev
  · exact hp
  dsimp only
  rw [Site.run_bind, atomically_run _ _ hq]
  rcases hc : (tryStart c.service).run s.store with e | ⟨b, s'⟩
  · exact hp
  have hrows : s'.rows = s.store.rows := (tryStart_keepsRows _).rows_eq hc
  have hq₁ : s'.needsReplay = false := by
    rw [← hq]
    exact congrArg Rows.replay hrows
  have hr₁ := tryStart_routes hr hc
  dsimp only
  cases b
  · exact hrows ▸ hp
  simp only [↓reduceIte, Site.run_bind, emit_run, attempt_run]
  set s₂ : Site :=
    { s with store := s', events := s.events ++ [.statusChanged c.service prev .running] }
  obtain ⟨hsite, hpass⟩ := prepare_settles (s := s₂) hq₁ hr₁ (hrows ▸ hp) worker outputSet control
  rcases hpr : ((prepare c.service outputSet worker control).run).run s₂ with ⟨_ | pass, s₃⟩
  all_goals rw [hpr] at hsite hpass; dsimp only at hsite; subst hsite; dsimp only
  · -- a pass that cannot be prepared sets the service ERROR, which leaves the rows alone
    rw [((atomically_leavesRows (setStatus_keepsRows c.service .error)).bind fun _ =>
      (emit_leavesRows _).bind fun _ => throw_leavesRows _) s₂ hq₁]
    exact hrows ▸ hp
  · rw [runPass_site]
    have h := (drive_steps.attempt_bind fun r => finish_steps r) (s₂, pass) (hpass pass rfl)
    exact h.2 ▸ h.1.paired

/-- A scripted copying service whose own record `x` waits for it, next to a deleted record
`y` of a provider, of which `x` is the output; a checkpoint follows every record. -/
def selfInput : Site :=
  { settings := { engine := { checkpointInterval := 1 } }
    store :=
      { records :=
          [{ id := 1, repo := "service:Copy", oaiId := "x", format := "marc21"
             recordType := none, status := .active
             payload := .obj [("fields", .obj [("245a", .arr [.str "X"])])]
             visible := true, batch := none, updatedAt := 0 },
           { id := 2, repo := "provider:p", oaiId := "y", format := "marc21"
             recordType := none, status := .deleted, payload := .obj []
             visible := true, batch := none, updatedAt := 0 }]
        lineage := [(2, 1)]
        inputFor := [(1, 1), (2, 1)]
        services :=
          [{ id := 1, name := "Copy", kind := "scripted", version := "1.0"
             repoName := "service:Copy", status := .notRunning, totals := {} }]
        lastId := fun
          | .records => 2
          | .services => 1
          | _ => 0
        tables :=
          { main := [.table { (default : Sql.Table) with name := "records" },
              .table { (default : Sql.Table) with name := "services" },
              .table { (default : Sql.Table) with name := "record_types" },
              .table { (default : Sql.Table) with name := "jobs" }] } } }

end Catalog.Engine
