import Catalog.Proofs.Engine.Normalized
import Catalog.Proofs.Engine.Accounting

/-!
# A normalization pass keeps one output for each input

A run of a normalization service takes its pending input record by record: it reads the output
the input had, rewrites it or stages a new one with the input's payload cleaned, holds back the
input's mark, and ends the batch at every checkpoint and at the end, whatever happened before.
This module follows a run step by step and shows that every step keeps `Store.Normalized`, also
when it fails, and that the rows of other repositories and the visible outputs stay
(`Store.Moves`).

So after every run, as after the first, each input of the service has at most one output, and
each input marked processed has its output following it: with the input's status, and when the
input is active, with the input's payload cleaned as `normalizePayload` cleans it and read back
as stored, and with the input's format and record type; an active input marked processed has
its output visible. An output once visible stays, so an input processed while active keeps
exactly one output through every later run.

The run keeps this as long as no directive of the service routes records back to it and no
output of the service is input for it.

## Main results

* `Normalizing`, `KeepsNormalized`: the invariant of a pass, and computations that keep it
* `normalize_run`: what normalizing an input returns to store
* `processRecord_keeps`, `checkpoint_keeps`, `processPage_keeps`, `drive_keeps`, `finish_keeps`
-/

namespace Catalog

/-- A record is deleted exactly when its status says so. -/
theorem Record.isDeleted_iff (r : Record) : r.isDeleted = true ↔ r.status = .deleted := by
  unfold Record.isDeleted
  cases r.status <;> decide

end Catalog

namespace Catalog.Store

variable {svc : Int} {repo : String}

/-- The elements a fallible filter-map keeps come in the order of its list: when each result
names the element it came from, the names form a sublist of the list. -/
theorem filterMapM_sublist {β γ : Type} {f : β → Outcome (Option γ)} {g : γ → β} {xs : List β}
    {ys : List γ} (hg : ∀ x y, f x = .ok (some y) → g y = x) (h : xs.filterMapM f = .ok ys) :
    (ys.map g).Sublist xs := by
  induction xs generalizing ys with
  | nil =>
    cases h
    exact List.Sublist.slnil
  | cons a as ih =>
    rw [List.filterMapM_cons] at h
    rcases hfa : f a with e | _ | b <;> rw [hfa] at h
    · exact nomatch h
    · exact (ih h).cons a
    · rcases hrest : as.filterMapM f with e | zs <;> rw [hrest] at h
      · exact nomatch h
      · cases h
        rw [List.map_cons, hg a b hfa]
        exact (ih hrest).cons_cons a

/-- **A batch reads back at most one output of a record**: every output read back is the view
of the one output the batch sees, and each id is read once. -/
theorem Normalized.successors_subsingleton {s : Store} {bb : Batch}
    (h : Normalized svc repo s (some bb)) {x : Int} {os : List Record}
    (hos : (s.successorIds x).filterMapM (bb.get? s) = .ok os) : os = [] ∨ ∃ v, os = [v] := by
  have hkeys : (os.map fun v => v.id.getD 0).Sublist (s.successorIds x) :=
    filterMapM_sublist (fun i v hget => by
      obtain ⟨row, -, rfl, -, hv⟩ := Engine.Batch.get?_ok hget
      rw [(Engine.view_ok hv).1]
      rfl) hos
  have hids : (s.successorIds x).Nodup := (SortedList.sorted_ofList _).nodup
  have hnodup := hkeys.nodup hids
  match os, hos, hnodup with
  | [], _, _ => exact .inl rfl
  | [v], _, _ => exact .inr ⟨v, rfl⟩
  | v₁ :: v₂ :: rest, hos, hnodup =>
    -- two outputs read back are views of the one output the batch sees, so of one id
    obtain ⟨O₁, hO₁, hv₁⟩ := (h.successors hos).1 v₁ (by simp)
    obtain ⟨O₂, hO₂, hv₂⟩ := (h.successors hos).1 v₂ (by simp)
    obtain rfl := h.single x O₁ O₂ hO₁ hO₂
    rw [hv₁] at hv₂
    cases hv₂
    simp at hnodup

/-- Rewriting the output `O` of record `x` leaves the rewritten row an output of `x` that every
batch that saw `O` sees. -/
theorem successor_overwrite {s t : Store} {b : Option Batch} {x : Int} {O : RecordRow}
    (hO : Successor repo s b x O) {w : Record} (hid : w.id = some O.id)
    (hpred : ∀ p ∈ w.predecessors, (p, O.id) ∈ s.lineage) (hsucc : w.successors = [])
    {repo' : String} (hw : (updateRecord repo' w).run s = .ok ((), t)) :
    Successor repo t b x (O.overwrite w s.clock) := by
  have ht := updateRecord_eq hid hpred hsucc hw
  let f := fun row : RecordRow => if row.id == O.id then row.overwrite w s.clock else row
  have hf : ∀ row, (f row).id = row.id ∧ (f row).repo = row.repo ∧
      (f row).visible = row.visible ∧ (f row).batch = row.batch := fun row => by
    dsimp only [f]
    split <;> exact ⟨rfl, rfl, rfl, rfl⟩
  have hfO : f O = O.overwrite w s.clock := by simp [f]
  rw [← hfO]
  exact (successor_map hf (by rw [ht]; rfl) (by rw [ht]; rfl) hO.1 b x).2 hO

/-- A record whose one output the batch sees follows it is covered. -/
theorem Normalized.covered_of_follows {s : Store} {bb : Batch}
    (h : Normalized svc repo s (some bb)) {X o : RecordRow} (ho : Successor repo s (some bb) X.id o)
    (hf : Follows X o) : Covered repo s (some bb) (some bb) X :=
  ⟨fun o' ho' => h.single X.id o o' ho ho' ▸ hf, fun _ => ⟨o, ho⟩⟩

end Catalog.Store

namespace Catalog.Site

open Catalog.Store

variable {α β : Type}

/-- An action that leaves the record book alone, whether it succeeds or fails, as long as the
store's schema sets off nothing. -/
def LeavesRecords (a : Action α) : Prop :=
  ∀ s, s.store.needsReplay = false → (((a.run).run s).2.store).recordBook = s.store.recordBook

theorem LeavesRecords.of_store {a : Action α} (h : ∀ s, (((a.run).run s).2).store = s.store) :
    LeavesRecords a :=
  fun s _ => by rw [h s]

theorem LeavesRecords.pure (a : α) : LeavesRecords (pure a : Action α) :=
  LeavesRecords.of_store fun _ => rfl

theorem LeavesRecords.bind {x : Action α} {f : α → Action β} (hx : LeavesRecords x)
    (hf : ∀ a, LeavesRecords (f a)) : LeavesRecords (x >>= f) := by
  intro s hs
  have hbook := hx s hs
  rw [run_bind]
  rcases hrun : (x.run).run s with ⟨_ | a, t⟩ <;> rw [hrun] at hbook
  · exact hbook
  · have hq : t.store.needsReplay = false :=
      (congrArg (Rows.replay ∘ Prod.fst) hbook).trans hs
    exact (hf a t hq).trans hbook

theorem LeavesRecords.foldlM {f : β → α → Action β} (hf : ∀ b a, LeavesRecords (f b a))
    (xs : List α) (init : β) : LeavesRecords (xs.foldlM f init) := by
  induction xs generalizing init with
  | nil => exact LeavesRecords.pure init
  | cons a as ih => exact (hf init a).bind fun b => ih b

/-- A transaction that keeps the record book, run as an action. -/
theorem atomically_leavesRecords {tx : Store.Tx α} (h : KeepsRecords tx) :
    LeavesRecords (atomically tx) := by
  intro s hs
  rw [atomically_run tx s hs]
  rcases hrun : tx.run s.store with e | ⟨a, t⟩
  · rfl
  · exact h.recordBook_eq hrun

theorem lookup_leavesRecords (f : Store → Outcome α) : LeavesRecords (lookup f) :=
  LeavesRecords.of_store fun s => by rw [lookup_run]

theorem query_leavesRecords (f : Store → α) : LeavesRecords (query f) :=
  LeavesRecords.of_store fun _ => rfl

theorem emit_leavesRecords (e : Event) : LeavesRecords (emit e) :=
  LeavesRecords.of_store fun _ => rfl

theorem commitIndex_leavesRecords : LeavesRecords commitIndex :=
  LeavesRecords.of_store fun s => by
    simp only [commitIndex, run_bind, run_get, run_set]
    split <;> rfl

theorem waitIndex_leavesRecords : LeavesRecords waitIndex :=
  LeavesRecords.of_store fun s => by
    simp only [waitIndex, run_bind, run_get, run_set]
    split <;> rfl

theorem processComplete_leavesRecords (repo : String) : LeavesRecords (processComplete repo) :=
  commitIndex_leavesRecords.bind fun _ => atomically_leavesRecords (touch_keepsRecords repo)

theorem transition_leavesRecords (service : Int) (old new : Service.Status) :
    LeavesRecords (transition service old new) :=
  (atomically_leavesRecords (setStatus_keepsRecords service new)).bind fun _ =>
    emit_leavesRecords _

theorem enqueueScheduled_leavesRecords (ev : Pipeline.Routing) :
    LeavesRecords (enqueueScheduled ev) := by
  unfold enqueueScheduled
  refine (LeavesRecords.foldlM (fun n p => ?_) ev.scheduled 0).bind fun _ => LeavesRecords.pure _
  refine ((atomically_leavesRecords (insertJob_keepsRecords p.1 p.2 _)).bind fun job => ?_).bind
    fun _ => LeavesRecords.pure _
  cases job with
  | none => exact LeavesRecords.pure none
  | some job => exact (emit_leavesRecords _).bind fun _ => LeavesRecords.pure _

end Catalog.Site

namespace Catalog.Engine

open Catalog.Store Catalog.Site Catalog.Pipeline Catalog.Service

variable {α β : Type}

-- ---------------------------------------------------------------------------
-- The invariant of a pass
-- ---------------------------------------------------------------------------

/-- The state of a pass of the normalization service `svc` into its repository `repo`: the
pass is the service's, its worker normalizes, no directive of the service routes records back
to it, and the store keeps `Normalized` with the pass's open batch. -/
structure Normalizing (svc : Int) (repo : String) (st : Site × Pass) : Prop where
  service : st.2.info.id = svc
  repoName : st.2.info.repoName = repo
  worker : st.2.worker = .normalization
  routes : ∀ d ∈ st.2.routing.directives, d.target ≠ svc
  store : Normalized svc repo st.1.store st.2.batch

/-- The invariant of a pass holds of a state whose pass is the service's, with its worker and
directives, and whose store keeps `Normalized` with the pass's batch. -/
theorem Normalizing.of_pass {svc : Int} {repo : String} {st : Site × Pass}
    (h : Normalizing svc repo st) {site : Site} {q : Pass} (hinfo : q.info = st.2.info)
    (hworker : q.worker = st.2.worker) (hdirs : q.routing.directives = st.2.routing.directives)
    (hs : Normalized svc repo site.store q.batch) : Normalizing svc repo (site, q) :=
  ⟨hinfo ▸ h.service, hinfo ▸ h.repoName, hworker ▸ h.worker, hdirs ▸ h.routes, hs⟩

/-- A computation of a normalization pass that keeps `Normalizing`, whether it succeeds or
fails, and moves the store on as a pass into `repo` does. -/
def KeepsNormalized (svc : Int) (repo : String) (m : PassM α) : Prop :=
  ∀ st, Normalizing svc repo st →
    Normalizing svc repo ((m.run).run st).2 ∧ Moves repo st.1.store ((m.run).run st).2.1.store

section Combinators

variable {svc : Int} {repo : String}

theorem KeepsNormalized.pure (a : α) : KeepsNormalized svc repo (pure a : PassM α) :=
  fun _ h => ⟨h, Moves.refl _⟩

theorem KeepsNormalized.bind {x : PassM α} {f : α → PassM β} (hx : KeepsNormalized svc repo x)
    (hf : ∀ a, KeepsNormalized svc repo (f a)) : KeepsNormalized svc repo (x >>= f) := by
  intro st h
  obtain ⟨h₁, hm₁⟩ := hx st h
  rw [Engine.run_bind]
  rcases hrun : (x.run).run st with ⟨_ | a, t⟩ <;> rw [hrun] at h₁ hm₁
  · exact ⟨h₁, hm₁⟩
  · obtain ⟨h₂, hm₂⟩ := hf a t h₁
    exact ⟨h₂, hm₁.trans hm₂⟩

theorem KeepsNormalized.attempt {m : PassM α} (h : KeepsNormalized svc repo m) :
    KeepsNormalized svc repo (attempt m) := by
  intro st hst
  rw [run_attempt]
  exact h st hst

theorem KeepsNormalized.forM {f : α → PassM PUnit} (h : ∀ a, KeepsNormalized svc repo (f a))
    (xs : List α) : KeepsNormalized svc repo (xs.forM f) := by
  induction xs with
  | nil => exact KeepsNormalized.pure _
  | cons a as ih => exact (h a).bind fun _ => ih

theorem KeepsNormalized.ite {c : Prop} [Decidable c] {x y : PassM α}
    (hx : KeepsNormalized svc repo x) (hy : KeepsNormalized svc repo y) :
    KeepsNormalized svc repo (if c then x else y) := by
  split
  · exact hx
  · exact hy

/-- A site action that leaves the record book keeps the invariant of the pass. -/
theorem KeepsNormalized.onSite {a : Action α} (ha : LeavesRecords a) :
    KeepsNormalized svc repo (onSite a) := by
  intro st h
  rw [onSite_run]
  have hbook := ha st.1 h.store.quiet
  obtain ⟨hn, hm⟩ := h.store.of_recordBook hbook
  exact ⟨⟨h.service, h.repoName, h.worker, h.routes, hn⟩, hm⟩

/-- A change of the pass's state that keeps its service, worker, directives and batch keeps the
invariant. -/
theorem keepsNormalized_update {f : Pass → Pass}
    (hf : ∀ p, (f p).info = p.info ∧ (f p).worker = p.worker ∧
      (f p).routing.directives = p.routing.directives ∧ (f p).batch = p.batch) :
    KeepsNormalized svc repo (update f) := by
  intro st h
  rw [update_run]
  obtain ⟨hinfo, hworker, hdirs, hbatch⟩ := hf st.2
  refine ⟨⟨?_, ?_, ?_, ?_, ?_⟩, Moves.refl _⟩
  · rw [hinfo]; exact h.service
  · rw [hinfo]; exact h.repoName
  · rw [hworker]; exact h.worker
  · rw [hdirs]; exact h.routes
  · rw [hbatch]; exact h.store

theorem keepsNormalized_current : KeepsNormalized svc repo current :=
  fun _ h => ⟨h, Moves.refl _⟩

theorem keepsNormalized_throw (e : Error) : KeepsNormalized svc repo (throw e : PassM α) :=
  fun _ h => ⟨h, Moves.refl _⟩

theorem engineSettings_keepsNormalized : KeepsNormalized svc repo engineSettings :=
  fun _ h => ⟨h, Moves.refl _⟩

end Combinators

-- ---------------------------------------------------------------------------
-- Computations that only read
-- ---------------------------------------------------------------------------

/-- A computation of a pass that leaves the site alone, and the pass's service, worker,
directives and batch: it reads the store and counts. -/
def ReadsOnly (m : PassM α) : Prop :=
  ∀ st, ((m.run).run st).2.1 = st.1 ∧ ((m.run).run st).2.2.info = st.2.info ∧
    ((m.run).run st).2.2.worker = st.2.worker ∧
    ((m.run).run st).2.2.routing.directives = st.2.routing.directives ∧
    ((m.run).run st).2.2.batch = st.2.batch

theorem ReadsOnly.pure (a : α) : ReadsOnly (pure a : PassM α) :=
  fun _ => ⟨rfl, rfl, rfl, rfl, rfl⟩

theorem ReadsOnly.bind {x : PassM α} {f : α → PassM β} (hx : ReadsOnly x)
    (hf : ∀ a, ReadsOnly (f a)) : ReadsOnly (x >>= f) := by
  intro st
  obtain ⟨h₁, h₂, h₃, h₄, h₅⟩ := hx st
  rw [Engine.run_bind]
  rcases hrun : (x.run).run st with ⟨_ | a, t⟩ <;> rw [hrun] at h₁ h₂ h₃ h₄ h₅
  · exact ⟨h₁, h₂, h₃, h₄, h₅⟩
  · obtain ⟨h₁', h₂', h₃', h₄', h₅'⟩ := hf a t
    exact ⟨h₁'.trans h₁, h₂'.trans h₂, h₃'.trans h₃, h₄'.trans h₄, h₅'.trans h₅⟩

theorem ReadsOnly.ite {c : Prop} [Decidable c] {x y : PassM α} (hx : ReadsOnly x)
    (hy : ReadsOnly y) : ReadsOnly (if c then x else y) := by
  split
  · exact hx
  · exact hy

theorem readsOnly_current : ReadsOnly current := fun _ => ⟨rfl, rfl, rfl, rfl, rfl⟩

theorem readsOnly_throw (e : Error) : ReadsOnly (throw e : PassM α) :=
  fun _ => ⟨rfl, rfl, rfl, rfl, rfl⟩

theorem readsOnly_update {f : Pass → Pass}
    (hf : ∀ p, (f p).info = p.info ∧ (f p).worker = p.worker ∧
      (f p).routing.directives = p.routing.directives ∧ (f p).batch = p.batch) :
    ReadsOnly (update f) := fun st => by
  rw [update_run]
  exact ⟨rfl, hf st.2⟩

theorem readsOnly_ofOutcome (x : Outcome α) : ReadsOnly (Engine.ofOutcome x) := by
  cases x with
  | error e => exact readsOnly_throw e
  | ok a => exact ReadsOnly.pure a

theorem readsOnly_lookup (f : Store → Outcome α) : ReadsOnly (onSite (lookup f)) := fun st => by
  rw [onSite_run, lookup_run]
  exact ⟨rfl, rfl, rfl, rfl, rfl⟩

theorem outputBatch_readsOnly : ReadsOnly outputBatch := by
  unfold outputBatch
  refine readsOnly_current.bind fun p => ?_
  split
  · exact ReadsOnly.pure _
  · exact readsOnly_throw _

theorem nextOaiId_readsOnly : ReadsOnly nextOaiId := by
  unfold nextOaiId
  refine readsOnly_current.bind fun _ => ReadsOnly.bind ?_ fun _ => ReadsOnly.pure _
  exact readsOnly_update fun _ => ⟨rfl, rfl, rfl, rfl⟩

theorem existingSuccessors_readsOnly (x : Int) : ReadsOnly (existingSuccessors x) :=
  outputBatch_readsOnly.bind fun _ => readsOnly_lookup _

/-- Normalizing a record reads the store and counts its warnings; it changes nothing else. -/
theorem normalize_readsOnly (r : Record) : ReadsOnly (Service.normalize r) := by
  unfold Service.normalize
  refine (readsOnly_ofOutcome _).bind fun inputId => (existingSuccessors_readsOnly inputId).bind
    fun existing => ReadsOnly.ite (ReadsOnly.pure _) ?_
  split
  · refine (readsOnly_update fun _ => by exact ⟨rfl, rfl, rfl, rfl⟩).bind fun _ => ?_
    extract_lets withType
    have hout : ∀ o, ReadsOnly (withType o) := fun _ => ReadsOnly.pure _
    split
    · exact (ReadsOnly.pure _).bind hout
    · exact nextOaiId_readsOnly.bind fun _ => (ReadsOnly.pure _).bind hout
  · exact readsOnly_throw _

-- ---------------------------------------------------------------------------
-- The input of a pass
-- ---------------------------------------------------------------------------

/-- What reading a row gives of what it holds: its status, its payload as the row reads, its
format and its record type. -/
theorem view_content {s : Store} {row : RecordRow} {o : Record} (h : s.view row = .ok o) :
    o.status = row.status ∧ row.document = .ok o.payload ∧ o.format = row.format ∧
      o.recordType = row.recordType := by
  unfold view at h
  rcases hdoc : row.document with e | payload <;> rw [hdoc] at h
  · exact nomatch h
  · cases h
    exact ⟨rfl, rfl, rfl, rfl⟩

/-- Record `r` was read from row `X` of a repository other than the pass's repository `repo`:
it carries the row's id, status, payload, format and record type. -/
structure ReadFrom (repo : String) (s : Store) (r : Record) (X : RecordRow) : Prop where
  mem : X ∈ s.records
  other : X.repo ≠ repo
  id : r.id = some X.id
  status : r.status = X.status
  document : X.document = .ok r.payload
  format : r.format = X.format
  recordType : r.recordType = X.recordType

/-- A record read from a row of another repository stays so while the pass moves the store
on: the rows of other repositories stay as they were. -/
theorem ReadFrom.moves {repo : String} {s t : Store} {r : Record} {X : RecordRow}
    (h : ReadFrom repo s r X) (hm : Moves repo s t) : ReadFrom repo t r X :=
  { h with mem := hm.mem_others h.mem h.other }

/-- Every pending record of the service was read from a row of another repository: a row
that is input for the service is no output of it. -/
theorem readFrom_of_pending {svc : Int} {repo : String} {s : Store} {b : Option Batch}
    (h : Normalized svc repo s b) {recordType : Option String} {after limit : Int}
    {rs : List Record} (hp : s.pending svc recordType after limit = .ok rs) {r : Record}
    (hr : r ∈ rs) : ∃ X, ReadFrom repo s r X := by
  obtain ⟨row, hrow, hview⟩ := mem_of_mapM_ok hp hr
  have hpend : row ∈ s.records.filter (s.isPending svc recordType after) := by
    split at hrow
    · exact hrow
    · exact List.mem_of_mem_take hrow
  obtain ⟨hmem, hpending⟩ := List.mem_filter.1 hpend
  simp only [isPending, Bool.and_eq_true, List.contains_iff_mem] at hpending
  have hin : (row.id, svc) ∈ s.inputFor := hpending.1.1.1.2
  obtain ⟨hstatus, hdoc, hformat, htype⟩ := view_content hview
  exact ⟨row, hmem, fun hrepo => (h.outputs row hmem hrepo).1 hin, (view_ok hview).1, hstatus,
    hdoc, hformat, htype⟩

section Steps

variable {svc : Int} {repo : String}

-- ---------------------------------------------------------------------------
-- What normalizing an input returns
-- ---------------------------------------------------------------------------

/-- Marking a record as input for targets changes its marks only. -/
theorem foldl_route_eq (targets : List (Int × Option String)) (r : Record) :
    ∃ a b, targets.foldl (fun (r : Record) t =>
      { r with inputFor := SortedList.insert t.1 r.inputFor
               processedBy := SortedList.erase t.1 r.processedBy }) r =
      { r with inputFor := a, processedBy := b } := by
  induction targets generalizing r with
  | nil => exact ⟨r.inputFor, r.processedBy, rfl⟩
  | cons t ts ih => exact ih _

/-- Routing a record changes its marks only. -/
theorem evaluate_eq (ev : Routing) (r : Record) :
    ∃ a b, (ev.evaluate r).1 = { r with inputFor := a, processedBy := b } :=
  foldl_route_eq _ r

/-- **What routing does to an output**: its input joins its predecessors, and besides only its
sets and marks change. -/
theorem prepareOutput_eq (p : Pass) (x : Int) (o : Record) :
    ∃ sets a b, (prepareOutput p x o).1 =
      { o with predecessors := SortedList.insert x o.predecessors, sets, inputFor := a,
               processedBy := b } := by
  unfold prepareOutput
  cases p.outputSet <;> dsimp only <;> split
  all_goals
    obtain ⟨a, b, h⟩ := evaluate_eq p.routing _
    rw [h]
  all_goals exact ⟨_, _, _, rfl⟩

/-- Record `w` writes the output of input row `X` as normalization does: with the input's
status and, when the input is active, with the input's payload cleaned, its format and its
record type. -/
def Writes (X : RecordRow) (w : Record) : Prop :=
  w.status = X.status ∧ (X.status = .active → ∃ p q n, X.document = .ok p ∧
    normalizePayload p = some (q, n) ∧ w.payload = q ∧ w.format = X.format ∧
    w.recordType = X.recordType)

/-- Routing keeps what an output writes. -/
theorem Writes.prepare {X : RecordRow} {w : Record} (h : Writes X w) (p : Pass) (x : Int) :
    Writes X (prepareOutput p x w).1 := by
  obtain ⟨sets, a, b, hw⟩ := prepareOutput_eq p x w
  rw [hw]
  exact h

/-- A row that holds record `w`, with its payload read back as stored, follows the input that
`w` was written for. -/
theorem Writes.follows {X o : RecordRow} {w : Record} (h : Writes X w)
    (hstatus : o.status = w.status) (hdoc : o.document = .ok w.payload.reread)
    (hformat : o.format = w.format) (htype : o.recordType = w.recordType) : Follows X o := by
  refine ⟨hstatus.trans h.1, fun hact => ?_⟩
  obtain ⟨p, q, n, hp, hq, hpay, hfmt, hty⟩ := h.2 hact
  exact ⟨p, q, n, hp, hq, hpay ▸ hdoc, hformat.trans hfmt, htype.trans hty⟩

theorem follows_of_deleted {X o : RecordRow} (hX : X.status = .deleted)
    (ho : o.status = .deleted) : Follows X o :=
  ⟨ho.trans hX.symm, fun hact => absurd (hX.symm.trans hact) (by decide)⟩

theorem writes_of_deleted {X : RecordRow} {w : Record} (hX : X.status = .deleted)
    (hw : w.status = .deleted) : Writes X w :=
  ⟨hw.trans hX.symm, fun hact => absurd (hX.symm.trans hact) (by decide)⟩

/-- An output that normalizing input row `X` hands to the pass to store, on store `s` with batch
`bb` open: it writes `X`'s output, names no successor and is clear of the service; and it is the
output `O` of `X` that the batch sees, read back, or a new record with no lineage when `X` has
no output. -/
structure Owed (svc : Int) (repo : String) (s : Store) (bb : Batch) (X : RecordRow)
    (w : Record) : Prop where
  writes : Writes X w
  noSuccessors : w.successors = []
  clear : svc ∉ w.inputFor ∧ svc ∉ w.processedBy
  place : (∃ O, Successor repo s (some bb) X.id O ∧ w.id = some O.id ∧
      ∀ p ∈ w.predecessors, (p, O.id) ∈ s.lineage) ∨
    (w.id = none ∧ w.predecessors = [] ∧ ∀ O, ¬Successor repo s (some bb) X.id O)

/-- What normalizing input row `X` may return: nothing, when `X` is covered as it stands, or one
output owed to it. -/
def Returns (svc : Int) (repo : String) (s : Store) (bb : Batch) (X : RecordRow)
    (os : List Record) : Prop :=
  (os = [] ∧ Covered repo s (some bb) (some bb) X) ∨ ∃ w, os = [w] ∧ Owed svc repo s bb X w

/-- The output `O` of `X` read back, with only what it holds changed, is owed to `X` when it
writes `X`'s output. -/
theorem owed_of_view {s : Store} {bb : Batch}
    (h : Normalized svc repo s (some bb)) {X O : RecordRow} (hO : Successor repo s (some bb) X.id O)
    {v : Record} (hv : s.view O = .ok v) {w : Record} (hw : Writes X w) (hid : w.id = v.id)
    (hpred : w.predecessors = v.predecessors) (hsucc : w.successors = v.successors)
    (hin : w.inputFor = v.inputFor) (hpb : w.processedBy = v.processedBy) :
    Owed svc repo s bb X w := by
  obtain ⟨hvid, hvpred, hvsucc, hvin, hvpb⟩ := view_ok hv
  obtain ⟨hnin, hnpb⟩ := h.outputs O hO.1 hO.2.1
  refine ⟨hw, hsucc.trans hvsucc, ⟨?_, ?_⟩, .inl ⟨O, hO, hid.trans hvid, fun p hp => ?_⟩⟩
  · rw [hin, hvin, SortedList.mem_ofList, mem_seconds]
    exact hnin
  · rw [hpb, hvpb, SortedList.mem_ofList, mem_seconds]
    exact hnpb
  · rw [hpred, hvpred, mem_predecessorIds] at hp
    exact hp

theorem existingSuccessors_run {st : Site × Pass} {bb : Batch} (hb : st.2.batch = some bb)
    (x : Int) : ((existingSuccessors x).run).run st =
      ((st.1.store.successorIds x).filterMapM (bb.get? st.1.store), st) := by
  simp only [existingSuccessors, Engine.run_bind, outputBatch_run hb, onSite_run, lookup_run]

/-- **What normalizing an input returns.** On the pass's store, for a record read from input
row `X`, normalizing returns nothing only when `X` is covered as it stands, and otherwise one
output owed to `X`: a deleted input its output that is not deleted yet, deleted; an active
input its output, or a new record, holding the input's payload cleaned. -/
theorem normalize_returns {st : Site × Pass} {bb : Batch}
    (hn : Normalized svc repo st.1.store (some bb)) (hb : st.2.batch = some bb) {r : Record}
    {X : RecordRow} (hX : ReadFrom repo st.1.store r X) {os : List Record}
    (hos : (((Service.normalize r).run).run st).1 = .ok os) :
    Returns svc repo st.1.store bb X os := by
  have hid : r.requireId = .ok X.id := by simp [Record.requireId, hX.id]
  unfold Service.normalize at hos
  rw [hid, Engine.run_bind] at hos
  dsimp only [Engine.ofOutcome] at hos
  rw [run_pure] at hos
  dsimp only at hos
  rw [Engine.run_bind, existingSuccessors_run hb] at hos
  rcases hex : (st.1.store.successorIds X.id).filterMapM (bb.get? st.1.store) with e | existing
  · rw [hex] at hos
    cases hos
  rw [hex] at hos
  dsimp only at hos
  obtain ⟨hall, hnil⟩ := hn.successors hex
  split at hos
  · -- a deleted input: its outputs that are not deleted yet, deleted
    rename_i hdel
    rw [run_pure] at hos
    obtain rfl := (Except.ok.inj hos).symm
    have hXdel : X.status = .deleted := hX.status ▸ (Record.isDeleted_iff r).1 hdel
    have hnot : X.status = .active → ∃ o, Successor repo st.1.store (some bb) X.id o :=
      fun hact => absurd (hXdel.symm.trans hact) (by decide)
    rcases hn.successors_subsingleton hex with rfl | ⟨v, rfl⟩
    · exact .inl ⟨rfl, fun o ho => absurd ho (hnil rfl o), hnot⟩
    obtain ⟨O, hO, hv⟩ := hall v (List.mem_singleton_self v)
    have hvO : v.status = O.status := (view_content hv).1
    by_cases hvdel : v.isDeleted = true
    · -- its output is deleted already, and follows it as it stands
      refine .inl ⟨by simp [hvdel], fun o ho => ?_, hnot⟩
      obtain rfl := hn.single X.id o O ho hO
      exact follows_of_deleted hXdel (hvO ▸ (Record.isDeleted_iff v).1 hvdel)
    · exact .inr ⟨{ v with status := .deleted }, by simp [hvdel],
        owed_of_view hn hO hv (writes_of_deleted hXdel rfl) rfl rfl rfl rfl rfl⟩
  · split at hos
    · -- an active input: its output rewritten, or a new one
      rename_i hdel _ q n hq
      rw [Engine.run_bind, update_run] at hos
      dsimp only at hos
      have hXact : X.status = .active := by
        rw [← hX.status]
        cases hr : r.status
        · rfl
        · exact absurd ((Record.isDeleted_iff r).2 hr) hdel
      have hwrites : ∀ w : Record, w.status = .active → w.payload = q → w.format = r.format →
          w.recordType = r.recordType → Writes X w := fun w hs hp hf ht =>
        ⟨hs.trans hXact.symm, fun _ =>
          ⟨r.payload, q, n, hX.document, hq, hp, hf.trans hX.format, ht.trans hX.recordType⟩⟩
      rcases hn.successors_subsingleton hex with rfl | ⟨v, rfl⟩
      · rw [Engine.run_bind] at hos
        rcases hnext : (nextOaiId.run).run _ with ⟨_ | oid, u⟩ <;> rw [hnext] at hos
        · cases hos
        · simp only [Engine.run_bind, run_pure] at hos
          exact .inr ⟨_, (Except.ok.inj hos).symm, hwrites _ rfl rfl rfl rfl, rfl,
            ⟨List.not_mem_nil, List.not_mem_nil⟩, .inr ⟨rfl, rfl, hnil rfl⟩⟩
      · obtain ⟨O, hO, hv⟩ := hall v (List.mem_singleton_self v)
        simp only [Engine.run_bind, run_pure] at hos
        exact .inr ⟨_, (Except.ok.inj hos).symm,
          owed_of_view hn hO hv (hwrites _ rfl rfl rfl rfl) rfl rfl rfl rfl rfl⟩
    · -- a payload that is not an object is refused
      cases hos

-- ---------------------------------------------------------------------------
-- Storing the output and holding back the mark
-- ---------------------------------------------------------------------------

/-- **Writing the output of input row `X`**, routed and owed to it, keeps the invariant of the
pass, also when it fails; once written, `X` is covered by it. -/
theorem writeOutput_keeps {st : Site × Pass} (h : Normalizing svc repo st) {bb : Batch}
    (hb : st.2.batch = some bb) {X : RecordRow} (hX : X ∈ st.1.store.records) {w : Record}
    (hwrites : Writes X w) (hsucc : w.successors = [])
    (hclear : svc ∉ w.inputFor ∧ svc ∉ w.processedBy)
    (hplace : (∃ O, Successor repo st.1.store (some bb) X.id O ∧ w.id = some O.id ∧
        ∀ p ∈ w.predecessors, (p, O.id) ∈ st.1.store.lineage) ∨
      (w.id = none ∧ w.predecessors = [X.id] ∧ ∀ O, ¬Successor repo st.1.store (some bb) X.id O)) :
    let t := ((writeOutput w).run).run st
    Normalizing svc repo t.2 ∧ Moves repo st.1.store t.2.1.store ∧
      (t.1 = .ok () → ∃ bb', t.2.2.batch = some bb' ∧
        Covered repo t.2.1.store (some bb') (some bb') X) := by
  intro t
  have hn : Normalized svc repo st.1.store (some bb) := hb ▸ h.store
  have hbrepo : bb.repo = repo := (hn.ready bb rfl).2.1
  -- the rows that `X`'s id names are `X`
  have hfollow : ∀ row, Follows X row → ∀ Y ∈ st.1.store.records, Y.id = X.id → Follows Y row :=
    fun row hrow Y hY hid => hn.numbered.eq_of_id hY hX hid ▸ hrow
  simp only [t, writeOutput, Engine.run_bind, outputBatch_run hb]
  rcases hplace with ⟨O, hO, hid, hpred⟩ | ⟨hid, hpred, hnone⟩
  · -- the output the batch sees is rewritten in place
    rw [if_pos (by rw [hid]; rfl), Engine.run_bind, onSite_run, atomically_run _ _ h.store.quiet]
    rcases hrun : (updateRecord bb.repo w).run st.1.store with e | ⟨⟨⟩, s'⟩
    · exact ⟨h, Moves.refl _, fun h => by cases h⟩
    rw [hbrepo] at hrun
    have hrow := hwrites.follows (o := O.overwrite w st.1.store.clock) rfl rfl rfl rfl
    obtain ⟨hn', hm⟩ := hn.rewrite hO hid hpred hsucc hclear (hfollow _ hrow) hrun
    have ho := successor_overwrite hO hid hpred hsucc hrun
    dsimp only
    rw [update_run]
    refine ⟨⟨h.service, h.repoName, h.worker, h.routes, ?_⟩, hm, fun _ =>
      ⟨bb, hb, hn'.covered_of_follows ho hrow⟩⟩
    dsimp only
    rw [hb]
    exact hn'
  · -- a new output is staged in the batch
    rw [if_neg (by simp [hid]), Engine.run_bind, onSite_run, atomically_run _ _ h.store.quiet]
    rcases hrun : (bb.add w).run st.1.store with e | ⟨⟨j, bb'⟩, s'⟩
    · exact ⟨h, Moves.refl _, fun h => by cases h⟩
    have hrow := hwrites.follows (o := bb.newRow j w st.1.store.clock) rfl rfl rfl rfl
    obtain ⟨hn', hm, ho⟩ := hn.stage hnone hpred hsucc hclear (hfollow _ hrow) hrun
    dsimp only
    rw [update_run]
    exact ⟨⟨h.service, h.repoName, h.worker, h.routes, hn'⟩, hm, fun _ =>
      ⟨bb', rfl, hn'.covered_of_follows ho hrow⟩⟩

/-- **Storing the output of input row `X`** owed to it keeps the invariant of the pass, also
when it fails; once stored, `X` is covered by it. -/
theorem storeOutput_keeps {st : Site × Pass} (h : Normalizing svc repo st) {bb : Batch}
    (hb : st.2.batch = some bb) {X : RecordRow} (hX : X ∈ st.1.store.records) {w : Record}
    (hw : Owed svc repo st.1.store bb X w) :
    let t := ((storeOutput X.id w).run).run st
    Normalizing svc repo t.2 ∧ Moves repo st.1.store t.2.1.store ∧
      (t.1 = .ok () → ∃ bb', t.2.2.batch = some bb' ∧
        Covered repo t.2.1.store (some bb') (some bb') X) := by
  intro t
  obtain ⟨sets, a, b, hprep⟩ := prepareOutput_eq st.2 X.id w
  have hroute := prepareOutput_routed st.2 X.id w
  rcases hp : prepareOutput st.2 X.id w with ⟨w', ev⟩
  rw [hp] at hprep hroute
  dsimp only at hprep
  -- routing the output changes the routing of the pass, not its directives
  have hv : Normalizing svc repo (st.1, { st.2 with routing := ev }) :=
    ⟨h.service, h.repoName, h.worker, fun d hd => h.routes d (hroute.directives ▸ hd), h.store⟩
  have ht : t = ((writeOutput w').run).run (st.1, { st.2 with routing := ev }) := by
    simp only [t, storeOutput, Engine.run_bind, current_run, hp, update_run]
  rw [ht]
  refine writeOutput_keeps hv hb hX ?_ ?_ ?_ ?_
  · have := hw.writes.prepare st.2 X.id
    rwa [hp] at this
  · rw [hprep]
    exact hw.noSuccessors
  · exact hroute.clear hw.clear.1 hw.clear.2 h.routes
  · rw [hprep]
    rcases hw.place with ⟨O, hO, hid, hpred⟩ | ⟨hid, hpred, hnone⟩
    · refine .inl ⟨O, hO, hid, fun p hp => ?_⟩
      rcases SortedList.mem_insert.1 hp with rfl | hp
      · exact hO.2.2.2
      · exact hpred p hp
    · exact .inr ⟨hid, by rw [hpred]; rfl, hnone⟩

/-- Counting a failed record, and skipping it or failing the pass, keeps the invariant: it
changes the pass's counts alone. -/
theorem handleFailure_keepsNormalized (r : Record) (e : Error) :
    KeepsNormalized svc repo (handleFailure r e) := by
  unfold handleFailure
  refine (keepsNormalized_update fun _ => by exact ⟨rfl, rfl, rfl, rfl⟩).bind fun _ => ?_
  -- what the failure counts as, then the error policy, then the record skipped
  extract_lets skip policy
  have hskip : ∀ u, KeepsNormalized svc repo (skip u) := fun _ => by
    dsimp only [skip]
    split
    · exact keepsNormalized_update fun _ => ⟨rfl, rfl, rfl, rfl⟩
    · exact KeepsNormalized.pure _
  have hpolicy : ∀ e, KeepsNormalized svc repo (policy e) := fun e => by
    dsimp only [policy]
    refine engineSettings_keepsNormalized.bind fun settings => ?_
    split
    · exact keepsNormalized_throw _
    · exact keepsNormalized_current.bind fun _ =>
        KeepsNormalized.ite ((keepsNormalized_throw _).bind hskip) (hskip ())
  split
  · exact (keepsNormalized_throw _).bind hpolicy
  · exact (KeepsNormalized.pure _).bind hpolicy
  · exact (KeepsNormalized.pure _).bind hpolicy

/-- **Processing one input** of the pass, read from row `X` of another repository, keeps the
invariant of the pass, whether it succeeds or fails: its output is written as `X`'s one output,
and `X`'s mark is held back in the batch, covered. -/
theorem processRecord_keeps {st : Site × Pass} (h : Normalizing svc repo st) {r : Record}
    {X : RecordRow} (hX : ReadFrom repo st.1.store r X) :
    Normalizing svc repo ((processRecord r).run.run st).2 ∧
      Moves repo st.1.store ((processRecord r).run.run st).2.1.store := by
  have hid : r.requireId = .ok X.id := by simp [Record.requireId, hX.id]
  unfold processRecord
  rw [hid, Engine.run_bind]
  dsimp only [Engine.ofOutcome]
  rw [run_pure]
  dsimp only
  rcases hb : st.2.batch with _ | bb
  · -- with no batch open the record is refused
    simp only [Engine.run_bind, outputBatch, current_run, hb]
    exact ⟨h, Moves.refl _⟩
  rw [Engine.run_bind, outputBatch_run hb]
  dsimp only
  rw [Engine.run_bind, run_attempt]
  dsimp only
  have hn : Normalized svc repo st.1.store (some bb) := hb ▸ h.store
  -- the service normalizes the record: it reads the store and counts, and returns what to store
  have hproc : ((processWith r).run).run st = ((Service.normalize r).run).run st := by
    simp only [processWith, Engine.run_bind, current_run, h.worker]
  rw [hproc]
  have hret := fun os (hos : (((Service.normalize r).run).run st).1 = .ok os) =>
    normalize_returns hn hb hX hos
  obtain ⟨hsite, hinfo, hworker, hdirs, hbatch⟩ := normalize_readsOnly r st
  generalize ((Service.normalize r).run).run st = u at hret hsite hinfo hworker hdirs hbatch
  obtain ⟨res, site, pass⟩ := u
  dsimp only at hret hsite hinfo hworker hdirs hbatch ⊢
  subst hsite
  -- the record is counted, and the pass is still the service's, with the batch open
  obtain ⟨q, hq, hqinfo, hqworker, hqdirs, hqbatch⟩ : ∃ q, ((update fun p => { p with
        stats := { p.stats with processed := p.stats.processed + 1 }
        sinceCheckpoint := p.sinceCheckpoint + 1 } : PassM Unit).run).run (st.1, pass) =
          (.ok (), (st.1, q)) ∧ q.info = st.2.info ∧ q.worker = st.2.worker ∧
        q.routing.directives = st.2.routing.directives ∧ q.batch = some bb :=
    ⟨_, rfl, hinfo, hworker, hdirs, hbatch.trans hb⟩
  have hv : Normalizing svc repo (st.1, q) := h.of_pass hqinfo hqworker hqdirs (hqbatch ▸ hn)
  have hsvc : q.info.id = svc := hqinfo ▸ h.service
  rw [Engine.run_bind, hq]
  dsimp only
  cases res with
  | error e => exact handleFailure_keepsNormalized r e _ hv
  | ok os =>
    dsimp only
    rcases hret os rfl with ⟨rfl, hcov⟩ | ⟨w, rfl, hw⟩
    · -- nothing to store: the mark is held back, with the record covered as it stands
      rw [Engine.run_bind, show List.forM [] (storeOutput X.id) = pure () from rfl, run_pure]
      dsimp only
      rw [Engine.run_bind, outputBatch_run hqbatch]
      dsimp only
      rw [update_run]
      refine ⟨h.of_pass hqinfo hqworker hqdirs ?_, Moves.refl _⟩
      dsimp only
      rw [hsvc]
      exact hn.hold hX.mem hX.other hcov
    · -- the output is stored, and then the mark is held back, with the record covered by it
      rw [Engine.run_bind, show List.forM [w] (storeOutput X.id) =
        (storeOutput X.id w >>= fun _ => pure ()) from rfl, Engine.run_bind]
      obtain ⟨h₁, hm₁, hcov₁⟩ := storeOutput_keeps hv hqbatch hX.mem hw
      rcases hs : ((storeOutput X.id w).run).run (st.1, q) with ⟨_ | _, t⟩ <;>
        rw [hs] at h₁ hm₁ hcov₁
      · exact ⟨h₁, hm₁⟩
      obtain ⟨bb', hbb', hcov'⟩ := hcov₁ rfl
      dsimp only
      rw [run_pure]
      dsimp only
      rw [Engine.run_bind, outputBatch_run hbb']
      dsimp only
      rw [update_run]
      refine ⟨h₁.of_pass rfl rfl rfl ?_, hm₁⟩
      dsimp only
      rw [h₁.service]
      exact (hbb' ▸ h₁.store).hold (hm₁.mem_others hX.mem hX.other) hX.other hcov'

-- ---------------------------------------------------------------------------
-- The bookkeeping of a pass
-- ---------------------------------------------------------------------------

theorem checkpointHook_run {st : Site × Pass} (h : st.2.worker = .normalization) :
    ((checkpointHook.run).run st) = (.ok (), st) := by
  simp only [checkpointHook, Engine.run_bind, current_run, h]
  rfl

theorem endPassHook_run {st : Site × Pass} (h : st.2.worker = .normalization) :
    ((endPassHook.run).run st) = (.ok (), st) := by
  simp only [endPassHook, Engine.run_bind, current_run, h]
  rfl

theorem beginPass_run {st : Site × Pass} (h : st.2.worker = .normalization) :
    ((beginPass.run).run st) = (.ok (), st) := by
  simp only [beginPass, Engine.run_bind, current_run, h]
  rfl

/-- The hooks of a normalization do nothing. -/
theorem checkpointHook_keepsNormalized : KeepsNormalized svc repo checkpointHook :=
  fun st h => by
    rw [checkpointHook_run h.worker]
    exact ⟨h, Moves.refl _⟩

theorem endPassHook_keepsNormalized : KeepsNormalized svc repo endPassHook :=
  fun st h => by
    rw [endPassHook_run h.worker]
    exact ⟨h, Moves.refl _⟩

theorem beginPass_keepsNormalized : KeepsNormalized svc repo beginPass :=
  fun st h => by
    rw [beginPass_run h.worker]
    exact ⟨h, Moves.refl _⟩

/-- Queuing the jobs the routing scheduled keeps the invariant: the routing forgets them and
keeps its directives. -/
theorem enqueueRouted_keepsNormalized : KeepsNormalized svc repo enqueueRouted := by
  intro st h
  unfold enqueueRouted
  rw [Engine.run_bind, current_run]
  dsimp only
  rw [Engine.run_bind, update_run]
  exact ((KeepsNormalized.onSite (enqueueScheduled_leavesRecords _)).bind fun _ =>
    KeepsNormalized.pure _) _ (h.of_pass rfl rfl rfl h.store)

theorem flushStats_keepsNormalized : KeepsNormalized svc repo flushStats := by
  unfold flushStats
  refine keepsNormalized_current.bind fun _ => KeepsNormalized.bind ?_ fun _ => ?_
  · exact KeepsNormalized.onSite (lookup_leavesRecords _)
  · exact KeepsNormalized.onSite (atomically_leavesRecords (modifyService_keepsRecords _ _))

theorem persistCounters_keepsNormalized : KeepsNormalized svc repo persistCounters := by
  unfold persistCounters
  refine keepsNormalized_current.bind fun _ => KeepsNormalized.onSite (atomically_leavesRecords ?_)
  exact (saveCounter_keepsRecords _ _ _).bind fun _ =>
    KeepsRecords.forM fun _ _ => saveCounter_keepsRecords _ _ _

theorem refreshIndex_keepsNormalized : KeepsNormalized svc repo refreshIndex := by
  unfold refreshIndex
  refine keepsNormalized_current.bind fun _ => KeepsNormalized.bind ?_ fun _ => ?_
  · exact KeepsNormalized.onSite waitIndex_leavesRecords
  · exact KeepsNormalized.onSite (processComplete_leavesRecords _)

theorem observe_keepsNormalized : KeepsNormalized svc repo observe := by
  unfold observe
  refine keepsNormalized_current.bind fun p => ?_
  split
  · exact KeepsNormalized.pure _
  split
  · exact KeepsNormalized.pure _
  refine (KeepsNormalized.onSite (transition_leavesRecords _ _ _)).bind fun _ => ?_
  split
  · exact (keepsNormalized_update fun _ => by exact ⟨rfl, rfl, rfl, rfl⟩).bind fun _ =>
      KeepsNormalized.pure _
  · exact (keepsNormalized_update fun _ => by exact ⟨rfl, rfl, rfl, rfl⟩).bind fun _ =>
      (KeepsNormalized.onSite (transition_leavesRecords _ _ _)).bind fun _ => KeepsNormalized.pure _

/-- **Opening a batch** keeps the invariant: a batch the pass still held is dropped, and the
new one stages nothing yet. -/
theorem openBatch_keepsNormalized : KeepsNormalized svc repo openBatch := by
  intro st h
  unfold openBatch
  rw [Engine.run_bind, current_run]
  dsimp only
  rw [Engine.run_bind, onSite_run, atomically_run _ _ h.store.quiet, h.repoName]
  rcases hs : (Batch.start repo).run st.1.store with e | ⟨⟨b, n⟩, t⟩
  · exact ⟨h, Moves.refl _⟩
  obtain ⟨hn, hm⟩ := h.store.drop.start hs
  dsimp only
  rw [update_run]
  exact ⟨h.of_pass rfl rfl rfl hn, hm⟩

-- ---------------------------------------------------------------------------
-- Ending the batch
-- ---------------------------------------------------------------------------

/-- The state of a pass that took its batch `ob` away to end it: the pass holds no batch, and
with `ob` given back it keeps the invariant. -/
def Taken (svc : Int) (repo : String) (ob : Option Batch) (st : Site × Pass) : Prop :=
  st.2.batch = none ∧ Normalizing svc repo (st.1, { st.2 with batch := ob })

/-- A pass that took its batch away keeps the invariant with none open. -/
theorem Taken.normalizing {ob : Option Batch} {st : Site × Pass} (h : Taken svc repo ob st) :
    Normalizing svc repo st :=
  ⟨h.2.service, h.2.repoName, h.2.worker, h.2.routes, h.1 ▸ h.2.store.drop⟩

/-- Taking the batch away, and going on with it, keeps the invariant when going on does from the
state that took it. -/
theorem keepsNormalized_takeBatch_bind {f : Option Batch → PassM α}
    (hf : ∀ ob st, Taken svc repo ob st →
      Normalizing svc repo ((f ob).run.run st).2 ∧
        Moves repo st.1.store ((f ob).run.run st).2.1.store) :
    KeepsNormalized svc repo (takeBatch >>= f) := by
  intro st h
  rw [Engine.run_bind, takeBatch_run]
  exact hf st.2.batch _ ⟨rfl, h⟩

/-- **Ending the batch taken away** keeps the invariant, with no batch open, whether it
succeeds or fails: its rows are shown and its marks applied, or nothing changes. -/
theorem Taken.commit {b : Batch} {st : Site × Pass} (h : Taken svc repo (some b) st) :
    Normalizing svc repo ((onSite (atomically b.commit)).run.run st).2 ∧
      Moves repo st.1.store ((onSite (atomically b.commit)).run.run st).2.1.store := by
  rw [onSite_run, atomically_run _ _ h.2.store.quiet]
  rcases hc : b.commit.run st.1.store with e | ⟨x, t⟩
  · exact ⟨h.normalizing, Moves.refl _⟩
  obtain ⟨hn, hm⟩ := h.2.store.commit hc
  exact ⟨h.normalizing.of_pass rfl rfl rfl (h.1 ▸ hn), hm⟩

/-- **A checkpoint** keeps the invariant of the pass, whether it succeeds or fails: the batch
ends, the bookkeeping leaves the records alone, and a new batch is opened. -/
theorem checkpoint_keepsNormalized : KeepsNormalized svc repo checkpoint := by
  unfold checkpoint
  refine checkpointHook_keepsNormalized.bind fun _ => keepsNormalized_takeBatch_bind
    fun ob st h => ?_
  extract_lets rest
  -- after the batch: the jobs, the index, the totals and counters, and a new batch
  have hrest : ∀ u, KeepsNormalized svc repo (rest u) := fun _ =>
    enqueueRouted_keepsNormalized.bind fun _ =>
      (KeepsNormalized.onSite commitIndex_leavesRecords).bind fun _ =>
        flushStats_keepsNormalized.bind fun _ => persistCounters_keepsNormalized.bind fun _ =>
          (keepsNormalized_update fun _ => by exact ⟨rfl, rfl, rfl, rfl⟩).bind fun _ =>
            openBatch_keepsNormalized.bind fun _ => keepsNormalized_current.bind fun _ =>
              KeepsNormalized.onSite (emit_leavesRecords _)
  split
  · rename_i b
    rw [Engine.run_bind]
    obtain ⟨h₁, hm₁⟩ := h.commit
    rcases hc : ((onSite (atomically b.commit)).run).run st with ⟨_ | _, t⟩ <;>
      rw [hc] at h₁ hm₁
    · exact ⟨h₁, hm₁⟩
    · obtain ⟨h₂, hm₂⟩ := hrest () t h₁
      exact ⟨h₂, hm₁.trans hm₂⟩
  · exact hrest () st h.normalizing

-- ---------------------------------------------------------------------------
-- Pages of input
-- ---------------------------------------------------------------------------

/-- A computation that keeps the invariant of the pass from every state whose store shows each
record of `rs` as read from a row of another repository. -/
def KeepsNormalizedFor (svc : Int) (repo : String) (rs : List Record) (m : PassM α) : Prop :=
  ∀ st, Normalizing svc repo st → (∀ r ∈ rs, ∃ X, ReadFrom repo st.1.store r X) →
    Normalizing svc repo ((m.run).run st).2 ∧ Moves repo st.1.store ((m.run).run st).2.1.store

theorem KeepsNormalized.keepsFor {m : PassM α} (h : KeepsNormalized svc repo m)
    (rs : List Record) : KeepsNormalizedFor svc repo rs m :=
  fun st hst _ => h st hst

theorem KeepsNormalizedFor.mono {rs rs' : List Record} {m : PassM α}
    (h : KeepsNormalizedFor svc repo rs m) (hsub : ∀ r ∈ rs, r ∈ rs') :
    KeepsNormalizedFor svc repo rs' m :=
  fun st hst hrs => h st hst fun r hr => hrs r (hsub r hr)

/-- The records a store shows stay shown as the pass moves the store on. -/
theorem KeepsNormalizedFor.bind {rs : List Record} {x : PassM α} {f : α → PassM β}
    (hx : KeepsNormalizedFor svc repo rs x) (hf : ∀ a, KeepsNormalizedFor svc repo rs (f a)) :
    KeepsNormalizedFor svc repo rs (x >>= f) := by
  intro st h hrs
  obtain ⟨h₁, hm₁⟩ := hx st h hrs
  rw [Engine.run_bind]
  rcases hrun : (x.run).run st with ⟨_ | a, t⟩ <;> rw [hrun] at h₁ hm₁
  · exact ⟨h₁, hm₁⟩
  · obtain ⟨h₂, hm₂⟩ := hf a t h₁ fun r hr => by
      obtain ⟨X, hX⟩ := hrs r hr
      exact ⟨X, hX.moves hm₁⟩
    exact ⟨h₂, hm₁.trans hm₂⟩

theorem KeepsNormalizedFor.ite {rs : List Record} {c : Prop} [Decidable c] {x y : PassM α}
    (hx : KeepsNormalizedFor svc repo rs x) (hy : KeepsNormalizedFor svc repo rs y) :
    KeepsNormalizedFor svc repo rs (if c then x else y) := by
  split
  · exact hx
  · exact hy

theorem processRecord_keepsFor (r : Record) : KeepsNormalizedFor svc repo [r] (processRecord r) :=
  fun _ h hrs => by
    obtain ⟨X, hX⟩ := hrs r (List.mem_singleton_self r)
    exact processRecord_keeps h hX

/-- **Processing a page** of records that the store shows keeps the invariant of the pass:
each record is processed from where the last one left the store, which still shows it. -/
theorem processPage_keepsFor : ∀ page, KeepsNormalizedFor svc repo page (processPage page)
  | [] => (KeepsNormalized.pure false).keepsFor _
  | r :: rest => by
    rw [processPage.eq_2]
    refine (observe_keepsNormalized.keepsFor _).bind fun fl => KeepsNormalizedFor.ite
      ((KeepsNormalized.pure _).keepsFor _) ((keepsNormalized_current.keepsFor _).bind fun p => ?_)
    extract_lets skipped next
    have hnext : ∀ u, KeepsNormalizedFor svc repo (r :: rest) (next u) := fun _ =>
      (processPage_keepsFor rest).mono fun r' hr' => List.mem_cons_of_mem r hr'
    refine KeepsNormalizedFor.ite ?_ (hnext ())
    exact ((processRecord_keepsFor r).mono fun r' hr' => by simp_all).bind fun _ =>
      (keepsNormalized_current.keepsFor _).bind fun _ =>
        (engineSettings_keepsNormalized.keepsFor _).bind fun _ =>
          KeepsNormalizedFor.ite ((checkpoint_keepsNormalized.keepsFor _).bind hnext) (hnext ())

/-- **Processing pending input page by page** keeps the invariant of the pass: every page read
holds pending records, which rows of other repositories show. -/
theorem processPages_keepsNormalized (recordType : Option String) :
    ∀ pages cursor, KeepsNormalized svc repo (processPages recordType pages cursor)
  | 0, _ => KeepsNormalized.pure _
  | pages + 1, cursor => by
    intro st h
    rw [processPages.eq_2, Engine.run_bind, current_run]
    dsimp only
    rw [Engine.run_bind, engineSettings_run]
    dsimp only
    rw [Engine.run_bind, onSite_run, lookup_run]
    rcases hp : st.1.store.pending st.2.info.id recordType cursor
        st.1.settings.engine.pageSize with e | page
    · exact ⟨h, Moves.refl _⟩
    have hshown : ∀ r ∈ page, ∃ X, ReadFrom repo st.1.store r X := fun r hr =>
      readFrom_of_pending h.store (h.service ▸ hp) hr
    dsimp only
    split
    · exact ⟨h, Moves.refl _⟩
    · exact ((processPage_keepsFor page).bind fun _ => KeepsNormalizedFor.ite
        ((KeepsNormalized.pure _).keepsFor _)
        ((processPages_keepsNormalized recordType pages _).keepsFor _)) st h hshown

theorem processPending_keepsNormalized (recordType : Option String) :
    KeepsNormalized svc repo (processPending recordType) :=
  processPages_keepsNormalized recordType _ _

theorem driveTypes_keepsNormalized : ∀ types, KeepsNormalized svc repo (driveTypes types)
  | [] => processPending_keepsNormalized none
  | t :: rest => by
    rw [driveTypes.eq_2]
    refine (processPending_keepsNormalized (some t)).bind fun fl => ?_
    split
    · exact KeepsNormalized.pure _
    · exact checkpoint_keepsNormalized.bind fun _ => driveTypes_keepsNormalized rest

/-- **The processing of a pass** keeps the invariant of the pass, wherever it stops. -/
theorem drive_keepsNormalized : KeepsNormalized svc repo drive := by
  unfold drive
  refine beginPass_keepsNormalized.bind fun _ => keepsNormalized_current.bind fun _ =>
    (KeepsNormalized.onSite (query_leavesRecords _)).bind fun _ => KeepsNormalized.bind ?_ fun _ =>
      (KeepsNormalized.onSite (lookup_leavesRecords _)).bind fun _ =>
        openBatch_keepsNormalized.bind fun _ => driveTypes_keepsNormalized _
  exact keepsNormalized_update fun _ => by exact ⟨rfl, rfl, rfl, rfl⟩

/-- **Closing a pass** keeps the invariant, whatever the processing did: the batch the pass
still holds ends, or fails to and is dropped, and the rest leaves the records alone. -/
theorem finish_keepsNormalized (result : Except Error Flow) :
    KeepsNormalized svc repo (finish result) := by
  unfold finish
  split
  refine endPassHook_keepsNormalized.attempt.bind fun _ => keepsNormalized_takeBatch_bind
    fun ob st h => ?_
  extract_lets tail
  -- after the batch: the index, the totals and counters, the status and its announcement
  have htail : ∀ sf, KeepsNormalized svc repo (tail sf) := fun sf => by
    dsimp only [tail]
    -- the index step is a refresh or a commit, and what follows it leaves the records alone
    split <;> refine KeepsNormalized.bind (KeepsNormalized.attempt ?_) fun _ =>
      flushStats_keepsNormalized.attempt.bind fun _ =>
        persistCounters_keepsNormalized.attempt.bind fun _ => keepsNormalized_current.bind fun _ =>
          (KeepsNormalized.onSite (lookup_leavesRecords _)).bind fun _ =>
            (KeepsNormalized.onSite (transition_leavesRecords _ _ _)).bind fun _ =>
              (KeepsNormalized.onSite (emit_leavesRecords _)).bind fun _ => KeepsNormalized.pure _
    · exact refreshIndex_keepsNormalized
    · exact KeepsNormalized.onSite commitIndex_leavesRecords
  split
  · exact ((KeepsNormalized.pure _).bind htail) st h.normalizing
  · rename_i b
    rw [Engine.run_bind, run_attempt]
    obtain ⟨h₁, hm₁⟩ := h.commit
    rcases hc : ((onSite (atomically b.commit)).run).run st with ⟨_ | _, t⟩ <;>
      rw [hc] at h₁ hm₁ <;> dsimp only
    · obtain ⟨h₂, hm₂⟩ := ((KeepsNormalized.pure _).bind htail) t h₁
      exact ⟨h₂, hm₁.trans hm₂⟩
    · obtain ⟨h₂, hm₂⟩ := (enqueueRouted_keepsNormalized.attempt.bind fun _ =>
        (KeepsNormalized.pure _).bind htail) t h₁
      exact ⟨h₂, hm₁.trans hm₂⟩

end Steps

end Catalog.Engine
