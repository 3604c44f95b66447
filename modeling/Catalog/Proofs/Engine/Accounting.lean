import Catalog.Proofs.Engine.Scheduling

/-!
# How a pass counts what it processes

A pass counts every record it hands to its service (`processed`), every record whose
processing failed (`errors`, in all and since the last checkpoint) with its OAI identifier
(`unprocessedErrorIds`, in the order of the failures), the records it skipped after a failure,
and the records handed over since the last checkpoint. It marks a record processed by holding
a mark in its open batch, which the batch applies when it ends.

Only a failure of the service's processing is counted as an error. Under a budget of `n`
errors such a failure leaves the record pending and skipped, and the pass goes on, unless
it is a failure of the store or the errors now exceed `n`; under the policy that aborts, it
ends the pass. A failure while the record's outputs are stored ends the pass too, but is
not counted: the record is then processed, unmarked, and no error.

The *tally* of a pass (`tally`) is what this accounting reads: the error policy of the
site, the counts, the identifiers, the skipped records, the records handed over since the
last checkpoint and the marks of the open batch. Every step of a pass other than processing
a record, a checkpoint and opening a batch keeps it (`KeepsTally`).

## Main results

* `processRecord_tally`: what one record does to the tally, in each of its outcomes.
* `Tally.Accounted`: the accounting of a pass that goes on; `Tally.Stopped`: of a pass
  that stopped.
* `processRecord_accounts`, `checkpoint_accounts`: one record and one checkpoint keep the
  accounting, or stop the pass accounted for.
* `pass_accounting`: the accounting of every pass driven from a ready state, which
  `prepare_ready` shows every prepared pass to be in.
-/

namespace Catalog.Site

open Catalog.Store

variable {α β : Type}

-- ---------------------------------------------------------------------------
-- Site actions keep the settings
-- ---------------------------------------------------------------------------

/-- An action that leaves the settings of the site, whether it succeeds or fails. -/
def KeepsSettings (a : Action α) : Prop :=
  ∀ s, (((a.run).run s).2).settings = s.settings

theorem KeepsSettings.pure (a : α) : KeepsSettings (pure a : Action α) := fun _ => rfl

theorem KeepsSettings.bind {x : Action α} {f : α → Action β} (hx : KeepsSettings x)
    (hf : ∀ a, KeepsSettings (f a)) : KeepsSettings (x >>= f) := by
  intro s
  rw [run_bind]
  rcases hrun : (x.run).run s with ⟨_ | a, t⟩
  · have h := hx s
    rw [hrun] at h
    exact h
  · have h := hx s
    rw [hrun] at h
    exact (hf a t).trans h

theorem KeepsSettings.foldlM {f : β → α → Action β} (hf : ∀ b a, KeepsSettings (f b a))
    (xs : List α) (init : β) : KeepsSettings (xs.foldlM f init) := by
  induction xs generalizing init with
  | nil => exact KeepsSettings.pure init
  | cons a as ih => exact (hf init a).bind fun b => ih b

theorem atomically_keepsSettings (tx : Tx α) : KeepsSettings (atomically tx) := by
  intro s
  simp only [atomically, run_bind, run_get]
  split
  · split
    · rfl
    · rfl
  · rfl

theorem lookup_keepsSettings (f : Store → Outcome α) : KeepsSettings (lookup f) := fun s => by
  rw [lookup_run]

theorem query_keepsSettings (f : Store → α) : KeepsSettings (query f) := fun _ => rfl

theorem emit_keepsSettings (e : Event) : KeepsSettings (emit e) := fun _ => rfl

theorem commitIndex_keepsSettings : KeepsSettings commitIndex := fun s => by
  simp only [commitIndex, run_bind, run_get, run_set]
  split <;> rfl

theorem transition_keepsSettings (service : Int) (old new : Service.Status) :
    KeepsSettings (transition service old new) :=
  (atomically_keepsSettings _).bind fun _ => emit_keepsSettings _

theorem enqueueScheduled_keepsSettings (ev : Pipeline.Routing) :
    KeepsSettings (enqueueScheduled ev) := by
  unfold enqueueScheduled enqueue
  refine (KeepsSettings.foldlM (fun n p => ?_) ev.scheduled 0).bind fun _ =>
    KeepsSettings.pure _
  refine ((atomically_keepsSettings _).bind fun job => ?_).bind fun _ => KeepsSettings.pure _
  cases job with
  | none => exact KeepsSettings.pure _
  | some job => exact (emit_keepsSettings _).bind fun _ => KeepsSettings.pure _

end Catalog.Site

namespace Catalog.Engine

open Catalog.Store Catalog.Site Catalog.Pipeline Catalog.Service Catalog.Config

variable {α β : Type}

-- ---------------------------------------------------------------------------
-- The tally of a pass
-- ---------------------------------------------------------------------------

/-- What the accounting of a pass reads: the error policy of the site, the service, the
records handed to it, the failures (in all and since the last checkpoint) and their OAI
identifiers, the records skipped, the records handed over since the last checkpoint, and the
marks of the open batch, if one is open. -/
structure Tally where
  policy : ErrorPolicy
  service : Int
  processed : Nat
  errors : Nat
  errorsSinceCommit : Nat
  unprocessed : List String
  skipped : List Int
  since : Nat
  marks : Option (List (Int × Int))

/-- The tally of a pass on its site. -/
def tally (st : Site × Pass) : Tally :=
  ⟨st.1.settings.engine.errorPolicy, st.2.info.id, st.2.stats.processed, st.2.stats.errors,
    st.2.stats.errorsSinceCommit, st.2.stats.unprocessedErrorIds, st.2.skipped,
    st.2.sinceCheckpoint, st.2.batch.map (·.marks)⟩

/-- A computation of a pass that keeps its tally, whether it succeeds or fails. -/
def KeepsTally (m : PassM α) : Prop :=
  ∀ st, tally ((m.run).run st).2 = tally st

theorem KeepsTally.pure (a : α) : KeepsTally (pure a : PassM α) := fun _ => rfl

theorem KeepsTally.bind {x : PassM α} {f : α → PassM β} (hx : KeepsTally x)
    (hf : ∀ a, KeepsTally (f a)) : KeepsTally (x >>= f) := by
  intro st
  rw [Engine.run_bind]
  rcases hrun : (x.run).run st with ⟨_ | a, t⟩
  · have h := hx st
    rw [hrun] at h
    exact h
  · have h := hx st
    rw [hrun] at h
    exact (hf a t).trans h

theorem KeepsTally.onSite {a : Action α} (h : KeepsSettings a) : KeepsTally (onSite a) := by
  intro st
  rw [onSite_run]
  simp only [tally, h st.1]

theorem KeepsTally.attempt {m : PassM α} (h : KeepsTally m) : KeepsTally (attempt m) := by
  intro st
  rw [run_attempt]
  exact h st

theorem KeepsTally.forM {f : α → PassM PUnit} (h : ∀ a, KeepsTally (f a)) (xs : List α) :
    KeepsTally (xs.forM f) := by
  induction xs with
  | nil => exact KeepsTally.pure _
  | cons a as ih => exact (h a).bind fun _ => ih

theorem KeepsTally.foldlM {f : β → α → PassM β} (h : ∀ b a, KeepsTally (f b a)) (xs : List α)
    (init : β) : KeepsTally (xs.foldlM f init) := by
  induction xs generalizing init with
  | nil => exact KeepsTally.pure init
  | cons a as ih => exact (h init a).bind fun b => ih b

theorem KeepsTally.ite {c : Prop} [Decidable c] {x y : PassM α} (hx : KeepsTally x)
    (hy : KeepsTally y) : KeepsTally (if c then x else y) := by
  split
  · exact hx
  · exact hy

theorem keepsTally_current : KeepsTally current := fun _ => rfl

theorem keepsTally_get : KeepsTally (get : PassM (Site × Pass)) := fun _ => rfl

theorem keepsTally_update {f : Pass → Pass}
    (h : ∀ st, tally (st.1, f st.2) = tally st) : KeepsTally (update f) :=
  fun st => h st

theorem keepsTally_throw (e : Error) : KeepsTally (throw e : PassM α) := fun _ => rfl

theorem keepsTally_ofOutcome (x : Outcome α) : KeepsTally (Engine.ofOutcome x) := by
  cases x with
  | error e => exact keepsTally_throw e
  | ok a => exact KeepsTally.pure a

-- ---------------------------------------------------------------------------
-- Reading the pass and the services keep the tally
-- ---------------------------------------------------------------------------

theorem engineSettings_keepsTally : KeepsTally engineSettings :=
  keepsTally_get.bind fun _ => KeepsTally.pure _

theorem outputBatch_keepsTally : KeepsTally outputBatch := by
  unfold outputBatch
  refine keepsTally_current.bind fun p => ?_
  cases p.batch with
  | none => exact keepsTally_throw _
  | some b => exact KeepsTally.pure b

theorem existingSuccessors_keepsTally (inputId : Int) :
    KeepsTally (existingSuccessors inputId) :=
  outputBatch_keepsTally.bind fun _ => KeepsTally.onSite (lookup_keepsSettings _)

theorem nextOaiId_keepsTally : KeepsTally nextOaiId :=
  keepsTally_current.bind fun _ => (keepsTally_update fun _ => rfl).bind fun _ =>
    KeepsTally.pure _

theorem nextElement_keepsTally (k : ElementKind) : KeepsTally (nextElement k) :=
  keepsTally_current.bind fun _ => (keepsTally_update fun _ => rfl).bind fun _ =>
    KeepsTally.pure _

theorem setWorker_keepsTally (w : Worker) : KeepsTally (setWorker w) :=
  keepsTally_update fun _ => rfl

theorem matchEngine_keepsTally : KeepsTally Service.matchEngine := by
  unfold Service.matchEngine
  refine keepsTally_current.bind fun p => ?_
  split
  · exact KeepsTally.pure _
  · exact keepsTally_throw _

theorem putMatcher_keepsTally (m : Matching.Matcher) : KeepsTally (Service.putMatcher m) :=
  matchEngine_keepsTally.bind fun _ => setWorker_keepsTally _

theorem changePoints_keepsTally (f : Matching.PointTable → Matching.PointTable) :
    KeepsTally (onSite (changePoints f)) :=
  KeepsTally.onSite (atomically_keepsSettings _)

theorem unindexFrom_keepsTally (id : Int) (m : Matching.Matcher) :
    KeepsTally (Service.unindexFrom id m) := by
  unfold Service.unindexFrom
  refine (putMatcher_keepsTally _).bind fun _ => ?_
  split
  · exact changePoints_keepsTally _
  · exact KeepsTally.pure _

theorem saveMatcher_keepsTally (force : Bool) (m : Matching.Matcher) :
    KeepsTally (Service.saveMatcher force m) := by
  unfold Service.saveMatcher
  split
  · exact (putMatcher_keepsTally _).bind fun _ =>
      (changePoints_keepsTally _).bind fun _ => putMatcher_keepsTally _
  · exact KeepsTally.pure _

theorem loadMatcher_keepsTally (m : Matching.Matcher) : KeepsTally (Service.loadMatcher m) := by
  unfold Service.loadMatcher
  split
  · exact (saveMatcher_keepsTally _ _).bind fun _ =>
      (KeepsTally.onSite (query_keepsSettings _)).bind fun _ => putMatcher_keepsTally _
  · exact KeepsTally.pure _

theorem unindex_keepsTally (id : Int) : KeepsTally (Service.unindex id) :=
  matchEngine_keepsTally.bind fun _ => KeepsTally.forM (unindexFrom_keepsTally id) _

theorem retractFrom_keepsTally (inputId : Int) (acc : List Record) (output : Record) :
    KeepsTally (Service.retractFrom inputId acc output) := by
  unfold Service.retractFrom
  refine (keepsTally_ofOutcome _).bind fun _ =>
    (KeepsTally.onSite (query_keepsSettings _)).bind fun _ => ?_
  split
  · exact (KeepsTally.onSite (atomically_keepsSettings _)).bind fun _ => KeepsTally.pure _
  · split <;> exact KeepsTally.pure _

theorem retract_keepsTally (inputId : Int) : KeepsTally (Service.retract inputId) :=
  (unindex_keepsTally inputId).bind fun _ => (existingSuccessors_keepsTally inputId).bind
    fun _ => KeepsTally.foldlM (retractFrom_keepsTally inputId) _ _

theorem matchedOutput_keepsTally : ∀ candidates, KeepsTally (Service.matchedOutput candidates)
  | [] => KeepsTally.pure _
  | c :: rest => by
    unfold Service.matchedOutput
    refine (existingSuccessors_keepsTally c).bind fun outputs => ?_
    cases outputs with
    | nil => exact matchedOutput_keepsTally rest
    | cons output _ => exact KeepsTally.pure _

theorem aggregate_keepsTally (r : Record) : KeepsTally (Service.aggregate r) := by
  unfold Service.aggregate
  refine (keepsTally_ofOutcome _).bind fun inputId =>
    KeepsTally.ite (retract_keepsTally inputId) ?_
  refine (keepsTally_ofOutcome _).bind fun _ => (unindex_keepsTally inputId).bind fun _ =>
    matchEngine_keepsTally.bind fun (_, _) =>
      (KeepsTally.onSite (query_keepsSettings _)).bind fun _ =>
        (keepsTally_ofOutcome _).bind fun (_, candidates) =>
          (setWorker_keepsTally _).bind fun _ => ?_
  refine (KeepsTally.forM (fun _ => KeepsTally.onSite (atomically_keepsSettings _)) _).bind
    fun _ => (existingSuccessors_keepsTally inputId).bind fun outputs => ?_
  split
  · exact KeepsTally.pure _
  refine (matchedOutput_keepsTally candidates).bind fun matched => ?_
  split
  · exact KeepsTally.pure _
  -- a new output, numbered as a new manifestation when its payload is an object
  extract_lets newOutput
  have hnew : ∀ payload, KeepsTally (newOutput payload) := fun _ =>
    nextOaiId_keepsTally.bind fun _ => KeepsTally.pure _
  split
  · exact (nextElement_keepsTally _).bind fun _ => (KeepsTally.pure _).bind hnew
  · exact (KeepsTally.pure _).bind hnew

theorem followScript_keepsTally (script : Script) (n : Nat) (r : Record) :
    KeepsTally (Service.followScript script n r) := by
  unfold Service.followScript
  extract_lets failInvalid failOn cancelAfter
  have hinvalid : ∀ u, KeepsTally (failInvalid u) := fun _ =>
    KeepsTally.ite (keepsTally_throw _) (KeepsTally.pure _)
  have hfail : ∀ u, KeepsTally (failOn u) := fun _ =>
    KeepsTally.ite ((keepsTally_throw _).bind hinvalid) (hinvalid ())
  have hcancel : ∀ u, KeepsTally (cancelAfter u) := fun _ =>
    KeepsTally.ite ((keepsTally_update fun _ => rfl).bind hfail) (hfail ())
  exact KeepsTally.ite ((keepsTally_update fun _ => rfl).bind hcancel) (hcancel ())

theorem copy_keepsTally (script : Script) (seen : Nat) (r : Record) :
    KeepsTally (Service.copy script seen r) := by
  unfold Service.copy
  extract_lets n
  refine (setWorker_keepsTally _).bind fun _ => (followScript_keepsTally _ _ _).bind fun _ =>
    (keepsTally_ofOutcome _).bind fun inputId => (existingSuccessors_keepsTally inputId).bind
      fun existing => KeepsTally.ite (KeepsTally.pure _) ?_
  split
  · exact (KeepsTally.pure _).bind fun _ => KeepsTally.pure _
  · exact nextOaiId_keepsTally.bind fun _ => (KeepsTally.pure _).bind fun _ =>
      KeepsTally.pure _

theorem normalize_keepsTally (r : Record) : KeepsTally (Service.normalize r) := by
  unfold Service.normalize
  refine (keepsTally_ofOutcome _).bind fun inputId => (existingSuccessors_keepsTally inputId).bind
    fun existing => KeepsTally.ite (KeepsTally.pure _) ?_
  split
  · refine (keepsTally_update fun _ => rfl).bind fun _ => ?_
    extract_lets withType
    have hout : ∀ o, KeepsTally (withType o) := fun _ => KeepsTally.pure _
    split
    · exact (KeepsTally.pure _).bind hout
    · exact nextOaiId_keepsTally.bind fun _ => (KeepsTally.pure _).bind hout
  · exact keepsTally_throw _

/-- The service's processing of a record keeps the tally: only the pass counts. -/
theorem processWith_keepsTally (r : Record) : KeepsTally (processWith r) := by
  unfold processWith
  refine keepsTally_current.bind fun p => ?_
  split
  · exact normalize_keepsTally r
  · exact aggregate_keepsTally r
  · exact copy_keepsTally _ _ r

end Catalog.Engine

namespace Catalog.Error

/-- A failure of the record store. -/
def isStorage : Error → Bool
  | .storage _ => true
  | _ => false

end Catalog.Error

namespace Catalog.Engine

open Catalog.Store Catalog.Site Catalog.Pipeline Catalog.Service Catalog.Config

variable {α β : Type}

-- ---------------------------------------------------------------------------
-- Storing outputs and observing the control keep the tally
-- ---------------------------------------------------------------------------

theorem outputBatch_run {st : Site × Pass} {b : Batch} (hb : st.2.batch = some b) :
    ((outputBatch.run).run st) = (.ok b, st) := by
  simp only [outputBatch, Engine.run_bind, current_run, hb]
  rfl

/-- Writing an output keeps the tally: a new output is staged, which leaves the marks of the
batch as they were. -/
theorem writeOutput_keepsTally (o : Record) : KeepsTally (writeOutput o) := by
  intro st
  rcases hb : st.2.batch with _ | b
  · simp only [writeOutput, outputBatch, Engine.run_bind, current_run, hb]
    rfl
  unfold writeOutput
  rw [Engine.run_bind, outputBatch_run hb]
  dsimp only
  split
  · exact ((KeepsTally.onSite (atomically_keepsSettings _)).bind fun _ =>
      keepsTally_update fun _ => rfl) st
  · rw [Engine.run_bind, onSite_run]
    have hs := atomically_keepsSettings (b.add o) st.1
    rcases h : ((atomically (b.add o)).run).run st.1 with ⟨_ | ⟨i, b'⟩, s⟩
    all_goals rw [h] at hs; dsimp only at hs ⊢
    · simp only [tally, hs]
    · -- the batch staged the output and kept its marks
      obtain ⟨u, hu⟩ := atomically_ok h
      obtain ⟨-, rfl⟩ := Batch.add_inserted hu
      rw [update_run]
      simp only [tally, hs, hb, Option.map_some]

theorem storeOutput_keepsTally (inputId : Int) (o : Record) :
    KeepsTally (storeOutput inputId o) :=
  keepsTally_current.bind fun _ => (keepsTally_update fun _ => rfl).bind fun _ =>
    writeOutput_keepsTally _

theorem observe_keepsTally : KeepsTally observe := by
  unfold observe
  refine keepsTally_current.bind fun p => ?_
  split
  · exact KeepsTally.pure _
  split
  · exact KeepsTally.pure _
  refine (KeepsTally.onSite (transition_keepsSettings _ _ _)).bind fun _ => ?_
  split
  · exact (keepsTally_update fun _ => rfl).bind fun _ => KeepsTally.pure _
  · exact (keepsTally_update fun _ => rfl).bind fun _ =>
      (KeepsTally.onSite (transition_keepsSettings _ _ _)).bind fun _ => KeepsTally.pure _


-- ---------------------------------------------------------------------------
-- A failed record
-- ---------------------------------------------------------------------------

/-- Whether a pass goes on after a record failed with `e`, with `errors` failures counted:
only under a budget, when the failure is not the store's and the errors stay within it. -/
def goesOn : ErrorPolicy → Error → Nat → Bool
  | .abortPass, _, _ => false
  | .skipWithBudget budget, e, errors => !e.isStorage && decide (errors ≤ budget)

/-- How a failed record ends: it is counted, and then skipped if the pass goes on, or the
pass fails, with the store's own failure when that was the cause. -/
def FailureOutcome (on : Bool) (e : Error) : Except Error Unit → Prop
  | .ok _ => on = true
  | .error e' => on = false ∧ (e.isStorage → e' = e)

theorem engineSettings_run (st : Site × Pass) :
    ((engineSettings.run).run st) = (.ok st.1.settings.engine, st) := rfl

theorem handleFailure_run (r : Record) (e : Error) (st : Site × Pass) :
    let counted : Pass := { st.2 with stats := st.2.stats.recordError r.oaiId }
    let on := goesOn (tally st).policy e (Word.unsigned ((tally st).errors + 1))
    ∃ res, ((handleFailure r e).run).run st =
        (res, (st.1, if on then { counted with skipped := r.id.toList ++ counted.skipped }
          else counted)) ∧
      FailureOutcome on e res := by
  intro counted on
  unfold handleFailure
  rw [Engine.run_bind, update_run]
  dsimp only
  -- the store's failure ends the pass as it is; any other is first named the record's
  cases e
  case storage fault =>
    have hon : on = false := by
      cases hp : st.1.settings.engine.errorPolicy <;> simp [on, tally, goesOn, hp, Error.isStorage]
    refine ⟨.error (.storage fault), ?_, hon, fun _ => rfl⟩
    simp only [hon]
    rfl
  all_goals
    rw [Engine.run_bind, run_pure]
    dsimp only
    rw [Engine.run_bind, engineSettings_run]
    dsimp only
    cases hp : st.1.settings.engine.errorPolicy with
    | abortPass =>
      have hon : on = false := by simp [on, tally, goesOn, hp]
      exact ⟨.error _, by simp only [hon]; rfl, hon, by simp [Error.isStorage]⟩
    | skipWithBudget budget =>
      rw [Engine.run_bind, current_run]
      dsimp only
      split
      · rename_i hover
        have hon : on = false := by
          simp [on, tally, goesOn, hp, Error.isStorage, PassStats.recordError] at hover ⊢
          omega
        exact ⟨.error _, by simp only [hon]; rfl, hon, by simp [Error.isStorage]⟩
      · rename_i hwithin
        have hon : on = true := by
          simp [on, tally, goesOn, hp, Error.isStorage, PassStats.recordError] at hwithin ⊢
          omega
        refine ⟨.ok (), ?_, hon⟩
        simp only [hon]
        cases r.id <;> rfl


namespace Tally

/-- The tally once a record is handed to the service. -/
def handOver (L : Tally) : Tally :=
  { L with processed := L.processed + 1, since := L.since + 1 }

/-- The tally once the failure of the record `oaiId` is counted and `skip` skipped. -/
def countFailure (L : Tally) (oaiId : String) (skip : List Int) : Tally :=
  { L with
    errors := Word.unsigned (L.errors + 1)
    errorsSinceCommit := Word.unsigned (L.errorsSinceCommit + 1)
    unprocessed := L.unprocessed ++ [oaiId]
    skipped := skip ++ L.skipped }

/-- The tally once the record `id` is marked processed by the service in the open batch. -/
def addMark (L : Tally) (id : Int) : Tally :=
  { L with marks := L.marks.map (· ++ [(id, L.service)]) }

end Tally

theorem tally_handleFailure (r : Record) (e : Error) (st : Site × Pass) :
    let on := goesOn (tally st).policy e (Word.unsigned ((tally st).errors + 1))
    tally (((handleFailure r e).run).run st).2 =
        (tally st).countFailure r.oaiId (if on then r.id.toList else []) ∧
      FailureOutcome on e (((handleFailure r e).run).run st).1 := by
  obtain ⟨res, hrun, hout⟩ := handleFailure_run r e st
  rw [hrun]
  refine ⟨?_, hout⟩
  split <;> rfl

/-- Handing a record over counts it as processed and in the window of the checkpoint. -/
theorem handOver_run (u : Site × Pass) :
    ∃ v, ((update fun p => { p with
        stats := { p.stats with processed := p.stats.processed + 1 }
        sinceCheckpoint := p.sinceCheckpoint + 1 } : PassM Unit).run).run u = (.ok (), v) ∧
      tally v = (tally u).handOver :=
  ⟨_, update_run _ u, rfl⟩

/-- **What one record does to the tally.** The record is handed to the service and counted as
processed. Then its outputs are stored and it is marked processed by the service; or its
failure is counted, and the record is skipped exactly when the pass goes on; or storing its
outputs failed, and the pass fails with nothing more counted. -/
theorem processRecord_tally (r : Record) {x : Int} (hx : r.id = some x) (st : Site × Pass)
    (hb : st.2.batch.isSome) :
    let L := (tally st).handOver
    let t := ((processRecord r).run).run st
    t.1 = .ok () ∧ tally t.2 = L.addMark x ∨
      (∃ e, let on := goesOn L.policy e (Word.unsigned (L.errors + 1))
        tally t.2 = L.countFailure r.oaiId (if on then [x] else []) ∧ FailureOutcome on e t.1) ∨
      ∃ e, t.1 = .error e ∧ tally t.2 = L := by
  intro L t
  obtain ⟨b, hb⟩ := Option.isSome_iff_exists.mp hb
  have hid : r.requireId = .ok x := by simp [Record.requireId, hx]
  simp only [t]
  unfold processRecord
  rw [hid, Engine.run_bind]
  dsimp only [Engine.ofOutcome]
  rw [run_pure]
  dsimp only
  rw [Engine.run_bind, outputBatch_run hb]
  dsimp only
  rw [Engine.run_bind, run_attempt]
  dsimp only
  -- the service's processing leaves the tally as it was
  have hu := processWith_keepsTally r st
  generalize ((processWith r).run).run st = u at hu ⊢
  obtain ⟨res, u⟩ := u
  obtain ⟨v, hv, hvL⟩ := handOver_run u
  rw [Engine.run_bind, hv]
  dsimp only at hu ⊢
  rw [hu] at hvL
  cases res with
  | error e =>
    right; left
    obtain ⟨hl, ho⟩ := tally_handleFailure r e v
    rw [hvL, hx] at hl
    rw [hvL] at ho
    exact ⟨e, hl, ho⟩
  | ok outputs =>
    dsimp only
    rw [Engine.run_bind]
    have hw := KeepsTally.forM (storeOutput_keepsTally x) outputs v
    rcases hs : ((outputs.forM (storeOutput x)).run).run v with ⟨_ | _, w⟩
    all_goals rw [hs] at hw; dsimp only at hw ⊢
    · -- storing an output failed, and nothing more is counted
      right; right
      exact ⟨_, rfl, hw.trans hvL⟩
    · -- the batch is still open, with the marks it had; the record is marked in it
      left
      obtain ⟨b', hb', -⟩ : ∃ b', w.2.batch = some b' ∧ b'.marks = b.marks := by
        have hmarks := congrArg Tally.marks (hw.trans hvL)
        simpa [tally, Tally.handOver, hb] using hmarks
      rw [Engine.run_bind, outputBatch_run hb']
      refine ⟨rfl, ?_⟩
      dsimp only
      rw [update_run, show L = tally w from (hw.trans hvL).symm]
      simp only [tally, Tally.addMark, hb', Option.map_some, Batch.mark]


-- ---------------------------------------------------------------------------
-- The accounting of a pass
-- ---------------------------------------------------------------------------

namespace Tally

/-- The failures of a pass that goes on, as its policy allows them: none under the policy
that aborts; under a budget, a skipped record for each, and no more than the budget. -/
def WithinPolicy (L : Tally) : Prop :=
  match L.policy with
  | .abortPass => L.unprocessed = [] ∧ L.skipped = []
  | .skipWithBudget n => L.skipped.length = L.unprocessed.length ∧ L.errors ≤ n

/-- The failures of a pass that stopped with `e`. Under a budget every failure but the last
is skipped, and the last one too unless it stopped the pass, being a failure of the store or
the one past the budget; under the policy that aborts, only the failure that stopped it. -/
def StoppedPolicy (e : Error) (L : Tally) : Prop :=
  match L.policy with
  | .abortPass => L.unprocessed.length ≤ 1 ∧ L.skipped = []
  | .skipWithBudget n => L.errors ≤ n + 1 ∧ (L.skipped.length = L.unprocessed.length ∨
      L.skipped.length + 1 = L.unprocessed.length ∧ (e.isStorage ∨ n < L.errors))

/-- The window of the last checkpoint, with `k` records handed over in it that are neither
marked nor counted: every other record handed over since the checkpoint is marked in the
open batch or counted as a failure. -/
def Windowed (k : Nat) (L : Tally) : Prop :=
  ∃ ms, L.marks = some ms ∧ ms.length + k ≤ L.since ∧
    L.errorsSinceCommit = Word.unsigned (L.since - ms.length - k)

/-- The failures counted agree with the identifiers listed, within the policy. -/
structure Counted (L : Tally) : Prop where
  errors_eq : L.errors = Word.unsigned L.unprocessed.length
  within : L.WithinPolicy

/-- The accounting of a pass that goes on with a batch open. -/
structure Accounted (L : Tally) : Prop extends Counted L where
  window : L.Windowed 0

/-- The accounting of a pass with no batch open. -/
structure Closed (L : Tally) : Prop extends Counted L where
  closed : L.marks = none

/-- The accounting of a pass between two batches: none is open and the window is empty. -/
structure Ready (L : Tally) : Prop extends Closed L where
  since_eq : L.since = 0
  errorsSinceCommit_eq : L.errorsSinceCommit = 0

/-- The accounting of a pass that stopped with `e`: the failures counted agree with the
identifiers listed, as the policy lets a pass stop; and in the window, every record handed
over is marked or counted but at most one, whose outputs could not be stored, unless no
batch is open. -/
structure Stopped (e : Error) (L : Tally) : Prop where
  errors_eq : L.errors = Word.unsigned L.unprocessed.length
  policy : L.StoppedPolicy e
  window : L.Windowed 0 ∨ L.Windowed 1 ∨ L.marks = none

end Tally


namespace Tally

variable {L : Tally} {e : Error} {k : Nat}

@[simp] theorem handOver_policy : L.handOver.policy = L.policy := rfl

@[simp] theorem addMark_policy (id : Int) : (L.addMark id).policy = L.policy := rfl

@[simp] theorem countFailure_policy (oaiId : String) (skip : List Int) :
    (L.countFailure oaiId skip).policy = L.policy := rfl

theorem WithinPolicy.stoppedPolicy (h : L.WithinPolicy) : L.StoppedPolicy e := by
  unfold WithinPolicy at h
  unfold StoppedPolicy
  cases hp : L.policy with
  | abortPass =>
    simp only [hp] at h
    simp [h.1, h.2]
  | skipWithBudget n =>
    simp only [hp] at h
    exact ⟨by omega, .inl h.1⟩

theorem Counted.stopped (h : L.Counted) (hw : L.Windowed 0 ∨ L.Windowed 1 ∨ L.marks = none) :
    L.Stopped e :=
  ⟨h.errors_eq, h.within.stoppedPolicy, hw⟩

theorem Accounted.stopped (h : L.Accounted) : L.Stopped e :=
  h.toCounted.stopped (.inl h.window)

theorem Closed.stopped (h : L.Closed) : L.Stopped e :=
  h.toCounted.stopped (.inr (.inr h.closed))

-- A record handed over opens a place in the window, which its mark or its failure fills.

theorem Windowed.handOver (h : L.Windowed k) : L.handOver.Windowed (k + 1) := by
  obtain ⟨ms, hms, hle, hesc⟩ := h
  refine ⟨ms, hms, by simp only [Tally.handOver]; omega, ?_⟩
  simp only [Tally.handOver, hesc]
  congr 1
  omega

theorem Windowed.addMark (h : L.Windowed (k + 1)) (id : Int) : (L.addMark id).Windowed k := by
  obtain ⟨ms, hms, hle, hesc⟩ := h
  refine ⟨ms ++ [(id, L.service)], by simp [Tally.addMark, hms], ?_, ?_⟩
  · simp only [Tally.addMark, List.length_append, List.length_singleton]
    omega
  · simp only [Tally.addMark, hesc, List.length_append, List.length_singleton]
    congr 1
    omega

theorem unsigned_unsigned_add_one (n : Nat) :
    Word.unsigned (Word.unsigned n + 1) = Word.unsigned (n + 1) := by
  simp only [Word.unsigned, Nat.mod_add_mod]

theorem Windowed.countFailure (h : L.Windowed (k + 1)) (oaiId : String) (skip : List Int) :
    (L.countFailure oaiId skip).Windowed k := by
  obtain ⟨ms, hms, hle, hesc⟩ := h
  refine ⟨ms, hms, hle.trans' (by omega), ?_⟩
  simp only [Tally.countFailure, hesc, unsigned_unsigned_add_one]
  congr 1
  omega

theorem Counted.handOver (h : L.Counted) : L.handOver.Counted := ⟨h.errors_eq, h.within⟩

theorem Counted.addMark (h : L.Counted) (id : Int) : (L.addMark id).Counted :=
  ⟨h.errors_eq, h.within⟩

theorem countFailure_errors_eq (h : L.errors = Word.unsigned L.unprocessed.length)
    (oaiId : String) (skip : List Int) :
    (L.countFailure oaiId skip).errors =
      Word.unsigned (L.countFailure oaiId skip).unprocessed.length := by
  simp only [Tally.countFailure, h, List.length_append, List.length_singleton,
    unsigned_unsigned_add_one]

/-- A failure after which the pass goes on is counted and skipped, within the budget. -/
theorem Counted.countFailure_goesOn (h : L.Counted)
    (hon : goesOn L.policy e (Word.unsigned (L.errors + 1)) = true) (oaiId : String) (id : Int) :
    (L.countFailure oaiId [id]).Counted := by
  refine ⟨countFailure_errors_eq h.errors_eq oaiId [id], ?_⟩
  have hw := h.within
  unfold WithinPolicy at hw ⊢
  unfold goesOn at hon
  simp only [countFailure_policy]
  split at hw
  · rename_i hp
    simp [hp] at hon
  · rename_i n hp
    simp only [hp, Bool.and_eq_true, Bool.not_eq_eq_eq_not, Bool.not_true, decide_eq_true_eq] at hon
    simp only [Tally.countFailure, List.length_append, List.length_singleton]
    exact ⟨by simp [hw.1]; omega, hon.2⟩

/-- A failure that stops the pass with `e'` is counted and not skipped: it is the store's, in
which case the pass stops with that very failure, or it is the one past the budget. -/
theorem Counted.countFailure_stops (h : L.Counted)
    (hon : goesOn L.policy e (Word.unsigned (L.errors + 1)) = false) {e' : Error}
    (he : e.isStorage → e' = e) (oaiId : String) : (L.countFailure oaiId []).StoppedPolicy e' := by
  have hw := h.within
  unfold WithinPolicy at hw
  unfold StoppedPolicy goesOn at *
  simp only [countFailure_policy]
  split at hw
  · rename_i hp
    simp only [hp, Tally.countFailure, hw.1, hw.2, List.nil_append, List.length_singleton]
    simp
  · rename_i n hp
    simp only [hp, Bool.and_eq_false_iff, Bool.not_eq_eq_eq_not, Bool.not_false,
      decide_eq_false_iff_not, Nat.not_le] at hon
    simp only [Tally.countFailure, List.nil_append, List.length_append, List.length_singleton]
    refine ⟨(Nat.mod_le _ _).trans (by omega), .inr ⟨by omega, ?_⟩⟩
    rcases hon with hs | hover
    · exact .inl (he hs ▸ hs)
    · exact .inr hover

end Tally


-- ---------------------------------------------------------------------------
-- The accounting along a pass
-- ---------------------------------------------------------------------------

/-- A computation of the pass ended with a tally that `Q` holds when it succeeded, and with
the accounting of a stopped pass when it failed. -/
def Ends (Q : Tally → Prop) : Except Error α × (Site × Pass) → Prop
  | (.ok _, t) => Q (tally t)
  | (.error e, t) => (tally t).Stopped e

/-- From a state whose tally `P` holds, a computation of the pass ends as `Ends Q` says. -/
def Leads (P Q : Tally → Prop) (m : PassM α) : Prop :=
  ∀ st, P (tally st) → Ends Q ((m.run).run st)

section Leads

variable {P Q R : Tally → Prop}

theorem Leads.bind {x : PassM α} {f : α → PassM β} (hx : Leads P Q x)
    (hf : ∀ a, Leads Q R (f a)) : Leads P R (x >>= f) := by
  intro st hP
  have h := hx st hP
  rw [Engine.run_bind]
  rcases hrun : (x.run).run st with ⟨_ | a, t⟩ <;> rw [hrun] at h
  · exact h
  · exact hf a t h

theorem Leads.ite {c : Prop} [Decidable c] {x y : PassM α} (hx : Leads P Q x)
    (hy : Leads P Q y) : Leads P Q (if c then x else y) := by
  split
  · exact hx
  · exact hy

/-- A computation that keeps the tally keeps what holds of it, and fails only where a
stopped pass would be accounted for. -/
theorem KeepsTally.leads {m : PassM α} (h : KeepsTally m)
    (hstop : ∀ L e, P L → L.Stopped e) : Leads P P m := by
  intro st hP
  have hl := h st
  rcases hrun : (m.run).run st with ⟨_ | a, t⟩ <;> rw [hrun] at hl <;>
    dsimp only [Ends] at hl ⊢ <;> rw [hl]
  · exact hstop _ _ hP
  · exact hP

theorem KeepsTally.accounts {m : PassM α} (h : KeepsTally m) :
    Leads Tally.Accounted Tally.Accounted m :=
  h.leads fun _ _ hL => hL.stopped

theorem Leads.pure (a : α) : Leads P P (pure a : PassM α) := fun _ hP => hP

end Leads

/-- An open batch holds the marks the tally reads. -/
theorem batch_isSome_of_windowed {st : Site × Pass} {k : Nat} (h : (tally st).Windowed k) :
    st.2.batch.isSome := by
  obtain ⟨ms, hms, -⟩ := h
  simp only [tally, Option.map_eq_some_iff] at hms
  obtain ⟨b, hb, -⟩ := hms
  simp [hb]

/-- **Processing a record keeps the accounting.** The record is marked, or counted and
skipped, and the pass goes on; or the pass stops, the record counted unless its outputs
could not be stored. -/
theorem processRecord_accounts (r : Record) :
    Leads Tally.Accounted Tally.Accounted (processRecord r) := by
  intro st hst
  cases hx : r.id with
  | none =>
    -- a record that was never stored fails the pass before it is handed over
    have hid : r.requireId = .error (.invalidInput ("Record " ++ r.oaiId ++ " has not been stored")) := by
      simp [Record.requireId, hx]
    unfold processRecord
    rw [hid, Engine.run_bind]
    exact hst.stopped
  | some x =>
    have hrec := processRecord_tally r hx st (batch_isSome_of_windowed hst.window)
    dsimp only at hrec
    rcases hrun : ((processRecord r).run).run st with ⟨res, t⟩
    rw [hrun] at hrec
    dsimp only at hrec
    rcases hrec with ⟨rfl, hl⟩ | ⟨e, hl, hout⟩ | ⟨e, rfl, hl⟩
    · -- stored and marked
      dsimp only [Ends]
      rw [hl]
      exact ⟨hst.toCounted.handOver.addMark x, hst.window.handOver.addMark x⟩
    · -- counted, then skipped if the pass goes on
      have hw := hst.window.handOver.countFailure r.oaiId
      cases res with
      | ok _ =>
        dsimp only [FailureOutcome, Ends] at hout ⊢
        rw [hl, hout, if_pos rfl]
        exact ⟨hst.toCounted.handOver.countFailure_goesOn hout r.oaiId x, hw [x]⟩
      | error e' =>
        obtain ⟨hon, he⟩ := hout
        dsimp only [Ends]
        rw [hl, hon, if_neg Bool.false_ne_true]
        exact ⟨Tally.countFailure_errors_eq hst.errors_eq r.oaiId [],
          hst.toCounted.handOver.countFailure_stops hon he r.oaiId, .inl (hw [])⟩
    · -- its outputs could not be stored: handed over, neither marked nor counted
      dsimp only [Ends]
      rw [hl]
      exact ⟨hst.errors_eq, hst.within.stoppedPolicy, .inr (.inl hst.window.handOver)⟩


-- ---------------------------------------------------------------------------
-- Checkpoints and the stretches of a pass
-- ---------------------------------------------------------------------------

theorem flushStats_keepsTally : KeepsTally flushStats :=
  keepsTally_current.bind fun _ => (KeepsTally.onSite (lookup_keepsSettings _)).bind fun _ =>
    KeepsTally.onSite (atomically_keepsSettings _)

theorem persistCounters_keepsTally : KeepsTally persistCounters :=
  keepsTally_current.bind fun _ => KeepsTally.onSite (atomically_keepsSettings _)

theorem enqueueRouted_keepsTally : KeepsTally enqueueRouted :=
  keepsTally_current.bind fun _ => (keepsTally_update fun _ => rfl).bind fun _ =>
    (KeepsTally.onSite (enqueueScheduled_keepsSettings _)).bind fun _ => KeepsTally.pure _

theorem beginPass_keepsTally : KeepsTally beginPass := by
  unfold beginPass
  refine keepsTally_current.bind fun p => ?_
  split
  · exact (keepsTally_ofOutcome _).bind fun _ => (setWorker_keepsTally _).bind fun _ =>
      KeepsTally.forM loadMatcher_keepsTally _
  · exact KeepsTally.ite (keepsTally_throw _) (KeepsTally.pure _)
  · exact KeepsTally.pure _

theorem checkpointHook_keepsTally : KeepsTally checkpointHook := by
  unfold checkpointHook
  refine keepsTally_current.bind fun p => ?_
  split
  · exact matchEngine_keepsTally.bind fun _ => KeepsTally.forM (saveMatcher_keepsTally false) _
  · exact KeepsTally.onSite fun _ => rfl
  · exact KeepsTally.pure _

/-- Taking the batch away closes the window. -/
theorem takeBatch_closes : Leads Tally.Accounted Tally.Closed takeBatch := by
  intro st hst
  rw [takeBatch_run]
  exact ⟨⟨hst.errors_eq, hst.within⟩, rfl⟩

/-- Opening a batch opens an empty window: the new batch holds no marks. -/
theorem openBatch_accounts : Leads Tally.Ready Tally.Accounted openBatch := by
  intro st hst
  unfold openBatch
  rw [Engine.run_bind, current_run]
  dsimp only
  rw [Engine.run_bind, onSite_run]
  have hs := atomically_keepsSettings (Batch.start st.2.info.repoName) st.1
  rcases h : ((atomically (Batch.start st.2.info.repoName)).run).run st.1 with
    ⟨_ | ⟨b, n⟩, s⟩
  all_goals rw [h] at hs; dsimp only [Ends] at hs ⊢
  · -- the batch could not be opened
    have hl : tally (s, st.2) = tally st := by simp only [tally, hs]
    rw [hl]
    exact hst.stopped
  · obtain ⟨u, hu⟩ := atomically_ok h
    rw [update_run]
    show (tally (s, { st.2 with batch := some b })).Accounted
    have hl : tally (s, { st.2 with batch := some b }) = { tally st with marks := some [] } := by
      simp only [tally, hs, Option.map_some, (Batch.start_started hu).marks]
    rw [hl]
    exact ⟨⟨hst.errors_eq, hst.within⟩, [], rfl, by simp [hst.since_eq],
      by simp [hst.since_eq, hst.errorsSinceCommit_eq, Word.unsigned]⟩

/-- **A checkpoint keeps the accounting.** It commits the window's marks with its batch and
opens a new one, with the window emptied. -/
theorem checkpoint_accounts : Leads Tally.Accounted Tally.Accounted checkpoint := by
  unfold checkpoint
  refine checkpointHook_keepsTally.accounts.bind fun _ => takeBatch_closes.bind fun _ => ?_
  have closedStops : ∀ (L : Tally) e, L.Closed → L.Stopped e := fun _ _ h => h.stopped
  -- after the batch is committed: the jobs, the index, the totals and counters, a new batch
  extract_lets rest
  have hreset : Leads Tally.Closed Tally.Ready (update fun p =>
      { p with sinceCheckpoint := 0, stats := { p.stats with errorsSinceCommit := 0 } }) :=
    fun st h => ⟨⟨⟨h.errors_eq, h.within⟩, h.closed⟩, rfl, rfl⟩
  have hrest : ∀ u, Leads Tally.Closed Tally.Accounted (rest u) := fun _ =>
    (enqueueRouted_keepsTally.leads closedStops).bind fun _ =>
      ((KeepsTally.onSite commitIndex_keepsSettings).leads closedStops).bind fun _ =>
        (flushStats_keepsTally.leads closedStops).bind fun _ =>
          (persistCounters_keepsTally.leads closedStops).bind fun _ =>
            hreset.bind fun _ => openBatch_accounts.bind fun _ =>
              keepsTally_current.accounts.bind fun _ =>
                (KeepsTally.onSite (emit_keepsSettings _)).accounts
  split
  · exact ((KeepsTally.onSite (atomically_keepsSettings _)).leads closedStops).bind
      fun _ => hrest ()
  · exact hrest ()


/-- Processing a page keeps the accounting, record after record, with a checkpoint whenever
one falls due. -/
theorem processPage_accounts : ∀ page, Leads Tally.Accounted Tally.Accounted (processPage page)
  | [] => Leads.pure _
  | r :: rest => by
    rw [processPage.eq_2]
    refine observe_keepsTally.accounts.bind fun _ =>
      Leads.ite (Leads.pure _) (keepsTally_current.accounts.bind fun _ => ?_)
    extract_lets skipped next
    have hnext : ∀ u, Leads Tally.Accounted Tally.Accounted (next u) := fun _ =>
      processPage_accounts rest
    refine Leads.ite ?_ (hnext ())
    exact (processRecord_accounts r).bind fun _ => keepsTally_current.accounts.bind fun _ =>
      engineSettings_keepsTally.accounts.bind fun _ =>
        Leads.ite (checkpoint_accounts.bind hnext) (hnext ())

theorem processPages_accounts (recordType : Option String) :
    ∀ pages cursor,
      Leads Tally.Accounted Tally.Accounted (processPages recordType pages cursor)
  | 0, _ => Leads.pure _
  | pages + 1, cursor => by
    rw [processPages.eq_2]
    refine keepsTally_current.accounts.bind fun p => engineSettings_keepsTally.accounts.bind
      fun _ => ?_
    extract_lets size
    refine (KeepsTally.onSite (lookup_keepsSettings _)).accounts.bind fun page => ?_
    split
    · exact Leads.pure _
    · exact (processPage_accounts page).bind fun _ =>
        Leads.ite (Leads.pure _) (processPages_accounts recordType pages _)

theorem driveTypes_accounts :
    ∀ types, Leads Tally.Accounted Tally.Accounted (driveTypes types)
  | [] => processPages_accounts none _ _
  | t :: rest => by
    rw [driveTypes.eq_2]
    refine (processPages_accounts (some t) _ _).bind fun fl => ?_
    split
    · exact Leads.pure _
    · exact checkpoint_accounts.bind fun _ => driveTypes_accounts rest

/-- A tally with nothing counted and no batch open is ready, under either policy. -/
theorem Tally.Ready.of_empty {L : Tally} (hu : L.unprocessed = []) (hs : L.skipped = [])
    (he : L.errors = 0) (hm : L.marks = none) (hsince : L.since = 0)
    (hesc : L.errorsSinceCommit = 0) : L.Ready := by
  refine ⟨⟨⟨by simp [he, hu, Word.unsigned], ?_⟩, hm⟩, hsince, hesc⟩
  unfold Tally.WithinPolicy
  split <;> simp [hu, hs, he]

/-- A pass as it is prepared is ready: nothing is counted, no batch is open, whatever the
site it runs on. -/
theorem prepare_ready {s t : Site} {serviceId : Int} {outputSet : Option String}
    {worker : Worker} {control : Control} {pass : Pass}
    (h : ((prepare serviceId outputSet worker control).run).run s = (.ok pass, t)) (site : Site) :
    (tally (site, pass)).Ready := by
  unfold prepare at h
  rcases hinfo : s.store.service? serviceId with _ | _ | info
  all_goals simp only [Site.run_bind, lookup_run, hinfo, query_run, run_get] at h
  · cases h
  · cases h
  · obtain ⟨⟨⟩, -⟩ := Prod.mk.inj h
    exact .of_empty rfl rfl rfl rfl rfl rfl

end Catalog.Engine
