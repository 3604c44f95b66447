import Catalog.Proofs.Service.Numbering
import Catalog.Proofs.Store.Queue

/-!
# Deleting a service queues the services that consumed its outputs

Deleting a service withdraws its outputs page by page: each output loses its lineage, is
marked deleted and is sent back to every service that processed it (`Routing.reprocess`), which
is taken off the record's marks and scheduled. Each output is written at once. Only when every
page is withdrawn and the repository is complete are the scheduled services queued; then the
service's own marks, directives, jobs, counters and row go.

So the schedule is held in memory while the withdrawal is already durable. A deletion that fails
part of the way (a page it cannot read, an output it cannot write, the index) leaves the outputs
it withdrew sent back, their consumers' marks gone, and no job for them: the deleted service's
consumers then wait for a job that never comes. A deletion that succeeds queues them all.

## Main results

* `Store.Withdrawal`, with `withdrawOutput_run` and `withdrawPages_withdrawal`: the withdrawal
  schedules every consumer whose mark it takes, and leaves the queue alone.
* `Store.Queued`, with `enqueueScheduled_queued`: queuing the schedule leaves a job under every
  scheduled pair.
* `Site.KeepsOthers`: the last steps of a deletion take no mark and no job of another service.
* `delete_requeues_consumers`: a deletion that succeeds leaves a job waiting for every service,
  other than the deleted one, whose mark it took.
-/

namespace Catalog.Pipeline.Routing

variable {ev : Routing}

theorem mem_schedule {p q : Int × Option String} :
    q ∈ (ev.schedule p).scheduled ↔ q ∈ ev.scheduled ∨ q = p := by
  unfold schedule
  split
  · rename_i hp
    constructor
    · exact .inl
    · rintro (hq | rfl)
      · exact hq
      · exact List.elem_iff.1 hp
  · rw [(List.mergeSort_perm _ _).mem_iff, List.mem_append, List.mem_singleton]

theorem scheduled_subset_foldl_schedule (ps : List (Int × Option String)) :
    ev.scheduled ⊆ (ps.foldl (fun ev p => ev.schedule p) ev).scheduled := by
  induction ps generalizing ev with
  | nil => exact List.Subset.refl _
  | cons p ps ih => exact fun q hq => ih (mem_schedule.2 (.inl hq))

theorem mem_foldl_schedule {ps : List (Int × Option String)} {p : Int × Option String}
    (hp : p ∈ ps) : p ∈ (ps.foldl (fun ev p => ev.schedule p) ev).scheduled := by
  induction ps generalizing ev with
  | nil => cases hp
  | cons q qs ih =>
    rcases List.mem_cons.1 hp with rfl | hp
    · exact scheduled_subset_foldl_schedule qs (mem_schedule.2 (.inr rfl))
    · exact ih hp

@[simp] theorem reprocess_processedBy (r : Record) : (ev.reprocess r).1.processedBy = [] := rfl

/-- Sending a record back keeps what was scheduled and schedules every service that processed
it, with no output set. -/
theorem reprocess_scheduled (r : Record) :
    ev.scheduled ⊆ (ev.reprocess r).2.scheduled ∧
      ∀ c ∈ r.processedBy, (c, none) ∈ (ev.reprocess r).2.scheduled := by
  -- the consumers are scheduled one by one, each with no output set
  have hmap : (ev.reprocess r).2 =
      (r.processedBy.map (·, none)).foldl (fun ev p => ev.schedule p) ev := by
    rw [List.foldl_map]
    rfl
  rw [hmap]
  exact ⟨scheduled_subset_foldl_schedule _,
    fun c hc => mem_foldl_schedule (List.mem_map.2 ⟨c, hc, rfl⟩)⟩

end Catalog.Pipeline.Routing

namespace Catalog.Store

open Catalog.Pipeline Std.Do

variable {α : Type}

-- ---------------------------------------------------------------------------
-- Reading and writing the outputs
-- ---------------------------------------------------------------------------

/-- A record read from the store carries the services that processed it. -/
theorem view_processedBy {s : Store} {row : RecordRow} {r : Record} (h : s.view row = .ok r)
    {c : Int} : c ∈ r.processedBy ↔ (row.id, c) ∈ s.processedBy := by
  simp only [view, bind, Except.bind] at h
  split at h
  · cases h
  · cases h
    simp [seconds]

/-- Every record read from a list of rows is read from one of them. -/
theorem exists_view_of_mapM {s : Store} {rows : List RecordRow} {rs : List Record}
    (h : rows.mapM s.view = .ok rs) {r : Record} (hr : r ∈ rs) : ∃ row, s.view row = .ok r := by
  induction rows generalizing rs with
  | nil =>
    cases h
    cases hr
  | cons row rows ih =>
    rw [List.mapM_cons] at h
    rcases hv : s.view row with e | r' <;> rw [hv] at h
    · cases h
    rcases hrest : rows.mapM s.view with e | rs' <;> rw [hrest] at h
    · cases h
    cases h
    rcases List.mem_cons.1 hr with rfl | hr
    · exact ⟨row, hv⟩
    · exact ih hrest hr

/-- Every record of a page is read from a row of the store. -/
theorem exists_view_of_mem_page {s : Store} {repo : String} {f : Filter} {size : Nat}
    {rs : List Record} (h : s.page repo f size = .ok rs) {r : Record} (hr : r ∈ rs) :
    ∃ row, s.view row = .ok r := by
  simp only [page, bind, Except.bind] at h
  split at h
  · cases h
  · exact exists_view_of_mapM h hr

/-- A record of a page carries every service that processed it, as the store it was read
from has them. -/
theorem mem_page_processedBy {s : Store} {repo : String} {f : Filter} {size : Nat}
    {rs : List Record} (h : s.page repo f size = .ok rs) {r : Record} (hr : r ∈ rs) {x : Int}
    (hid : r.id = some x) {c : Int} : c ∈ r.processedBy ↔ (x, c) ∈ s.processedBy := by
  obtain ⟨row, hv⟩ := exists_view_of_mem_page h hr
  obtain rfl : row.id = x := Option.some.inj ((view_id hv).symm.trans hid)
  exact view_processedBy hv

theorem writeRelations_jobs {i : Int} {r : Record} {s t : Store} {a : Unit}
    (h : (writeRelations i r).run s = .ok (a, t)) : t.jobs = s.jobs := by
  obtain ⟨_, u, hu, hedges⟩ := Tx.bind_eq_ok.1 h
  obtain ⟨_, w, hpred, hsucc⟩ := Tx.bind_eq_ok.1 hedges
  cases hu
  rw [(forM_addEdge_from_grown hsucc).same, (forM_addEdge_grown hpred).same]

theorem writeRelations_jobs_spec (i : Int) (r : Record) (s : Store) :
    ⦃fun u => ⌜u = s⌝⦄ writeRelations i r ⦃⇓? _ t => ⌜t.jobs = s.jobs⌝⦄ :=
  Tx.spec_of_run fun _ _ h => writeRelations_jobs h

/-- Rewriting a record leaves the queue alone. -/
theorem updateRecord_jobs {repo : String} {r : Record} {s t : Store} {a : Unit}
    (h : (updateRecord repo r).run s = .ok (a, t)) : t.jobs = s.jobs := by
  obtain ⟨i, u, hi, hrest⟩ := Tx.bind_eq_ok.1 h
  obtain ⟨-, rfl⟩ := ofOutcome_eq_ok hi
  refine Tx.of_spec (P := (· = u)) (Q := fun _ t => t.jobs = u.jobs) ?_ rfl hrest
  mvcgen [useTable, writeRelations_jobs_spec, touch_spec]
  -- the row is rewritten in place, its relations written, the repository touched
  subst_vars
  rename_i hw _ _
  intro ht
  rw [ht]
  exact hw

-- ---------------------------------------------------------------------------
-- Queuing
-- ---------------------------------------------------------------------------

/-- Asking for a table succeeds on a store that has it, and changes nothing. -/
theorem useTable_eq_ok {name : String} {s t : Store} {a : Unit}
    (h : (useTable name).run s = .ok (a, t)) : s.hasTable name = true ∧ t = s := by
  cases hts : s.hasTable name
  · simp [useTable, hts, fault] at h
    cases h
  · simp [useTable, hts] at h
    cases h
    exact ⟨rfl, rfl⟩

/-- A transaction that begins by asking for a table ran on a store that has it. -/
theorem hasTable_of_useTable {name : String} {β : Type} {k : Unit → Tx β} {s t : Store} {b : β}
    (h : (useTable name >>= k).run s = .ok (b, t)) : s.hasTable name = true := by
  obtain ⟨_, u, huse, -⟩ := Tx.bind_eq_ok.1 h
  exact (useTable_eq_ok huse).1

/-- A change of the store that leaves a job waiting under every key of `ps` and keeps every
job queued before, the marks and the schema. -/
structure Queued (ps : List (Int × Option String)) (s t : Store) : Prop where
  queued : ∀ p ∈ ps, ∃ j ∈ t.jobs, j.key = p
  kept : ∀ j ∈ s.jobs, j ∈ t.jobs
  marks : t.processedBy = s.processedBy
  tables : t.tables = s.tables

theorem Queued.nil (s : Store) : Queued [] s s :=
  ⟨fun _ hp => (List.not_mem_nil hp).elim, fun _ hj => hj, rfl, rfl⟩

/-- The keys queued by one change, then by the next, which keeps the jobs of the first. -/
theorem Queued.append {ps qs : List (Int × Option String)} {s u t : Store} (h₁ : Queued ps s u)
    (h₂ : Queued qs u t) : Queued (ps ++ qs) s t where
  queued p hp := by
    rcases List.mem_append.1 hp with hp | hp
    · obtain ⟨j, hj, hkey⟩ := h₁.queued p hp
      exact ⟨j, h₂.kept j hj, hkey⟩
    · exact h₂.queued p hp
  kept j hj := h₂.kept j (h₁.kept j hj)
  marks := h₂.marks.trans h₁.marks
  tables := h₂.tables.trans h₁.tables

/-- Queuing under a key leaves a job waiting under it and keeps every job queued before; the
marks and the schema stay as they were. -/
theorem insertJob_queued {service : Int} {outputSet : Option String} {kind : JobKind}
    {s t : Store} {a : Option Job} (h : (insertJob service outputSet kind).run s = .ok (a, t)) :
    Queued [(service, outputSet)] s t := by
  have ht : s.hasTable "jobs" = true := hasTable_of_useTable h
  by_cases hw : ∃ j ∈ s.jobs, j.key = (service, outputSet)
  · -- a job waits under the key already: nothing changes
    rw [insertJob_run_waiting kind ht hw] at h
    cases h
    exact ⟨fun _ hp => List.eq_of_mem_singleton hp ▸ hw, fun _ hj => hj, rfl, rfl⟩
  · rw [insertJob_run_free kind ht hw] at h
    cases h
    refine ⟨fun _ hp => ?_, fun _ hj => List.mem_append_left _ hj, rfl, rfl⟩
    refine ⟨_, List.mem_append_right _ (List.mem_singleton_self _), ?_⟩
    rw [List.eq_of_mem_singleton hp]
    simp [freshJob, Job.key]

-- ---------------------------------------------------------------------------
-- What the deletion spares and what it requeues
-- ---------------------------------------------------------------------------

/-- A change of the store that takes no mark and no waiting job of a service other than `id`,
and keeps the schema. -/
structure Spares (id : Int) (s t : Store) : Prop where
  marks : ∀ p ∈ s.processedBy, p.2 ≠ id → p ∈ t.processedBy
  jobs : ∀ j ∈ s.jobs, j.serviceId ≠ id → j ∈ t.jobs
  tables : t.tables = s.tables

theorem Spares.refl (id : Int) (s : Store) : Spares id s s :=
  ⟨fun _ hp _ => hp, fun _ hj _ => hj, rfl⟩

theorem Spares.of_same {id : Int} {s t : Store} (hp : t.processedBy = s.processedBy)
    (hj : t.jobs = s.jobs) (ht : t.tables = s.tables) : Spares id s t :=
  ⟨fun _ h _ => hp ▸ h, fun _ h _ => hj ▸ h, ht⟩

theorem Spares.trans {id : Int} {s u t : Store} (h₁ : Spares id s u) (h₂ : Spares id u t) :
    Spares id s t :=
  ⟨fun p hp hne => h₂.marks p (h₁.marks p hp hne) hne,
    fun j hj hne => h₂.jobs j (h₁.jobs j hj hne) hne, h₂.tables.trans h₁.tables⟩

/-- A transaction that, when it succeeds, spares what belongs to services other than `id`. -/
def KeepsOthers (id : Int) (tx : Tx α) : Prop :=
  ∀ s a t, tx.run s = .ok (a, t) → Spares id s t

theorem keepsOthers_modify {id : Int} {g : Store → Store} (h : ∀ s, Spares id s (g s)) :
    KeepsOthers id (modify g) := by
  rintro s _ t ⟨⟩
  exact h s

/-- Clearing the marks of a service takes only its own. -/
theorem clearMarks_keepsOthers (id : Int) : KeepsOthers id (clearMarks id) :=
  keepsOthers_modify fun _ =>
    ⟨fun _ hp hne => List.mem_filter.2 ⟨hp, by simpa using hne⟩, fun _ hj _ => hj, rfl⟩

theorem deleteCounters_keepsOthers (id : Int) (scope : String) :
    KeepsOthers id (deleteCounters scope) :=
  keepsOthers_modify fun _ => .of_same rfl rfl rfl

theorem modifyPoints_keepsOthers (id : Int) (f : Matching.PointTable → Matching.PointTable) :
    KeepsOthers id (modify fun s : Store => { s with points := f s.points }) :=
  keepsOthers_modify fun _ => .of_same rfl rfl rfl

theorem deleteDirectivesFor_keepsOthers (id service : Int) :
    KeepsOthers id (deleteDirectivesFor service) := by
  rintro s _ t ⟨⟩
  exact .of_same rfl rfl rfl

/-- Removing the jobs of a service takes only its own. -/
theorem removeJobsFor_keepsOthers (id : Int) : KeepsOthers id (removeJobsFor id) := by
  intro s a t h
  obtain ⟨_, u, huse, hrest⟩ := Tx.bind_eq_ok.1 h
  obtain ⟨-, rfl⟩ := useTable_eq_ok huse
  cases hrest
  exact ⟨fun _ hp _ => hp, fun _ hj hne => List.mem_filter.2 ⟨hj, by simpa using hne⟩, rfl⟩

theorem deleteService_keepsOthers (id service : Int) : KeepsOthers id (deleteService service) := by
  intro s a t h
  obtain ⟨_, u, huse, hrest⟩ := Tx.bind_eq_ok.1 h
  obtain ⟨-, rfl⟩ := useTable_eq_ok huse
  cases hrest
  exact .of_same rfl rfl rfl

/-- Every mark of the first store that the second lacks, of a service other than `id`, has a
job waiting for that service with no output set. -/
def Requeued (id : Int) (s₀ s : Store) : Prop :=
  ∀ x c, c ≠ id → (x, c) ∈ s₀.processedBy → (x, c) ∉ s.processedBy →
    ∃ j ∈ s.jobs, j.key = (c, none)

/-- What a change sparing the other services keeps requeued stays requeued. -/
theorem Requeued.spares {id : Int} {s₀ s t : Store} (h : Requeued id s₀ s) (hs : Spares id s t) :
    Requeued id s₀ t := by
  intro x c hc h₀ ht
  have hs' : (x, c) ∉ s.processedBy := fun hin => ht (hs.marks _ hin hc)
  obtain ⟨j, hj, hkey⟩ := h x c hc h₀ hs'
  have hid : j.serviceId = c := congrArg Prod.fst hkey
  exact ⟨j, hs.jobs j hj (hid ▸ hc), hkey⟩

/-- Every mark of the first store that the second lacks names a service that the routing has
scheduled, with no output set. -/
def Withdrawn (s₀ s : Store) (ev : Routing) : Prop :=
  ∀ x c, (x, c) ∈ s₀.processedBy → (x, c) ∉ s.processedBy → (c, none) ∈ ev.scheduled

/-- Every mark that a withdrawal took and that is then queued is requeued. -/
theorem Requeued.of_withdrawn {id : Int} {s₀ s t : Store} {ev : Routing} (hw : Withdrawn s₀ s ev)
    (hq : Queued ev.scheduled s t) : Requeued id s₀ t := by
  intro x c _ h₀ ht
  exact hq.queued _ (hw x c h₀ (hq.marks ▸ ht))

/-- A change of the store by a withdrawal that scheduled `ev'` on top of `ev`: it keeps the
schema and the queue, adds no mark, and every mark it took names a service scheduled in
`ev'`. -/
structure Withdrawal (s t : Store) (ev ev' : Routing) : Prop where
  tables : t.tables = s.tables
  jobs : t.jobs = s.jobs
  scheduled : ev.scheduled ⊆ ev'.scheduled
  marks : ∀ p ∈ t.processedBy, p ∈ s.processedBy
  withdrawn : Withdrawn s t ev'

/-- A change that keeps the marks is a withdrawal that schedules nothing. -/
theorem Withdrawal.of_same {s t : Store} {ev : Routing} (hp : t.processedBy = s.processedBy)
    (hj : t.jobs = s.jobs) (ht : t.tables = s.tables) : Withdrawal s t ev ev :=
  ⟨ht, hj, List.Subset.refl _, fun _ h => hp ▸ h, fun _ _ h₀ hs => absurd (hp ▸ h₀) hs⟩

theorem Withdrawal.trans {s u t : Store} {ev ev₁ ev₂ : Routing} (h₁ : Withdrawal s u ev ev₁)
    (h₂ : Withdrawal u t ev₁ ev₂) : Withdrawal s t ev ev₂ where
  tables := h₂.tables.trans h₁.tables
  jobs := h₂.jobs.trans h₁.jobs
  scheduled := List.Subset.trans h₁.scheduled h₂.scheduled
  marks p hp := h₁.marks p (h₂.marks p hp)
  withdrawn x c h₀ ht := by
    -- the mark was taken by the second withdrawal, or by the first and is still scheduled
    by_cases hu : (x, c) ∈ u.processedBy
    · exact h₂.withdrawn x c hu ht
    · exact h₂.scheduled (h₁.withdrawn x c h₀ hu)

end Catalog.Store

namespace Catalog.Site

open Catalog.Store Catalog.Pipeline

variable {α β : Type}

-- ---------------------------------------------------------------------------
-- The withdrawal
-- ---------------------------------------------------------------------------

/-- Cutting the lineage of a record changes the lineage alone. -/
theorem forM_removeLineage_eq {x : Int} :
    ∀ {ps : List Int} {s t : Site} {a : PUnit}, s.store.needsReplay = false →
      ((ps.forM fun p => atomically (removeLineage p x)).run).run s = (.ok a, t) →
      t = { s with store := { s.store with lineage := t.store.lineage } }
  | [], s, t, a, _, h => by
    cases h
    rfl
  | p :: ps, s, t, a, hq, h => by
    change ((atomically (removeLineage p x) >>= fun _ =>
      ps.forM fun p => atomically (removeLineage p x)).run).run s = (.ok a, t) at h
    obtain ⟨_, u, hu, hrest⟩ := run_bind_eq_ok h
    obtain ⟨htx, hsite⟩ := atomically_eq_ok hq hu
    have hstore := removeLineage_eq htx
    have htables : u.store.tables = s.store.tables := by rw [hstore]
    rw [forM_removeLineage_eq ((needsReplay_congr htables).trans hq) hrest, hsite, hstore]

/-- **Withdrawing one output.** The output is sent back: every service that processed it is
scheduled, on top of what was, and its marks are gone from the store, all others kept. The
queue and the schema stay as they were. -/
theorem withdrawOutput_run {repo : String} {ev ev' : Routing} {o : Record} {s t : Site}
    (hq : s.store.needsReplay = false)
    (h : ((Service.withdrawOutput repo ev o).run).run s = (.ok ev', t)) :
    t.store.tables = s.store.tables ∧ t.store.jobs = s.store.jobs ∧ ev.scheduled ⊆ ev'.scheduled ∧
      (∀ c ∈ o.processedBy, (c, none) ∈ ev'.scheduled) ∧
      ∃ x, o.id = some x ∧ ∀ p, p ∈ t.store.processedBy ↔ p ∈ s.store.processedBy ∧ p.1 ≠ x := by
  unfold Service.withdrawOutput at h
  obtain ⟨x, s₁, hid, h₁⟩ := run_bind_eq_ok h
  -- the output was stored: it has an id, read without changing the site
  obtain ⟨hox, hs₁⟩ : o.id = some x ∧ s₁ = s := by
    cases hreq : o.requireId with
    | error e =>
      rw [hreq] at hid
      cases hid
    | ok y =>
      rw [hreq] at hid
      cases hid
      refine ⟨?_, rfl⟩
      unfold Record.requireId at hreq
      split at hreq <;> simp_all
  subst hs₁
  obtain ⟨preds, s₂, hpreds, h₂⟩ := run_bind_eq_ok h₁
  rw [query_run] at hpreds
  cases hpreds
  -- its lineage is cut, which changes the lineage alone
  obtain ⟨_, s₃, hcut, h₃⟩ := run_bind_eq_ok h₂
  have hs₃ := forM_removeLineage_eq hq hcut
  dsimp only at h₃
  have htables : s₃.store.tables = s₁.store.tables := by rw [hs₃]
  have hq₃ : s₃.store.needsReplay = false := (needsReplay_congr htables).trans hq
  -- then it is rewritten deleted, with no marks, and sent back to the services that had them
  obtain ⟨_, s₄, hupd, h₄⟩ := run_bind_eq_ok h₃
  cases h₄
  obtain ⟨htx, -⟩ := atomically_eq_ok hq₃ hupd
  obtain ⟨i, hi, hw⟩ := updateRecord_rewrote htx
  have hix : i = x := Option.some.inj (hi.symm.trans hox)
  have hsched := @Routing.reprocess_scheduled ev { o with predecessors := [], status := .deleted }
  refine ⟨?_, ?_, hsched.1, hsched.2, x, hox, fun p => ?_⟩
  · exact hw.tables.trans htables
  · rw [updateRecord_jobs htx, hs₃]
  · rw [hw.processedBy, hs₃, hix]
    simp

/-- Withdrawing an output that carries every service that processed it, as the store has
them, is a withdrawal. -/
theorem withdrawOutput_withdrawal {repo : String} {ev ev' : Routing} {o : Record} {s t : Site}
    (hq : s.store.needsReplay = false)
    (ho : ∀ x, o.id = some x → ∀ c, (x, c) ∈ s.store.processedBy → c ∈ o.processedBy)
    (h : ((Service.withdrawOutput repo ev o).run).run s = (.ok ev', t)) :
    Withdrawal s.store t.store ev ev' := by
  obtain ⟨htables, hjobs, hsched, hcons, x, hox, hmarks⟩ := withdrawOutput_run hq h
  refine ⟨htables, hjobs, hsched, fun p hp => ((hmarks p).1 hp).1, fun y c h₀ ht => ?_⟩
  -- the marks taken are those of the output
  have hy : y = x := by
    by_contra hne
    exact ht ((hmarks _).2 ⟨h₀, hne⟩)
  subst hy
  exact hcons c (ho y hox c h₀)

/-- **Withdrawing a page** read from the store `sp` is a withdrawal, on a store that holds no
mark `sp` lacks: each output carries the marks it had in `sp`. -/
theorem foldlM_withdrawOutput {repo : String} {sp : Store} :
    ∀ {page : List Record} {ev ev' : Routing} {s t : Site},
      (∀ o ∈ page, ∀ x, o.id = some x → ∀ c, (x, c) ∈ sp.processedBy → c ∈ o.processedBy) →
      s.store.needsReplay = false → (∀ p ∈ s.store.processedBy, p ∈ sp.processedBy) →
      ((page.foldlM (Service.withdrawOutput repo) ev).run).run s = (.ok ev', t) →
      Withdrawal s.store t.store ev ev'
  | [], _, _, _, _, _, _, _, h => by
    cases h
    exact .of_same rfl rfl rfl
  | o :: page, ev, ev', s, t, hpage, hq, hsub, h => by
    rw [List.foldlM_cons] at h
    obtain ⟨ev₁, u, hu, hrest⟩ := run_bind_eq_ok h
    have h₁ := withdrawOutput_withdrawal hq
      (fun x hx c hc => hpage o List.mem_cons_self x hx c (hsub _ hc)) hu
    -- the rest of the page runs on a store with fewer marks still
    exact h₁.trans (foldlM_withdrawOutput (fun o' ho' => hpage o' (List.mem_cons_of_mem o ho'))
      ((needsReplay_congr h₁.tables).trans hq) (fun p hp => hsub p (h₁.marks p hp)) hrest)

/-- **Withdrawing a repository page by page** is a withdrawal: every mark it takes names a
service it scheduled. -/
theorem withdrawPages_withdrawal {repo : String} {size : Nat} :
    ∀ {pages : Nat} {cursor : Int} {ev ev' : Routing} {s t : Site},
      s.store.needsReplay = false →
      ((Service.withdrawPages repo size pages cursor ev).run).run s = (.ok ev', t) →
      Withdrawal s.store t.store ev ev'
  | 0, _, _, _, _, _, _, h => by
    cases h
    exact .of_same rfl rfl rfl
  | pages + 1, cursor, ev, ev', s, t, hq, h => by
    rw [Service.withdrawPages] at h
    obtain ⟨page, u, hread, h₁⟩ := run_bind_eq_ok h
    rw [lookup_run] at hread
    -- the page is read from the store as it stands
    rcases hpg : s.store.page repo { after := cursor } size with e | rs <;> rw [hpg] at hread
    · cases hread
    cases hread
    split at h₁
    · cases h₁
      exact .of_same rfl rfl rfl
    · obtain ⟨ev₁, v, hv, hrest⟩ := run_bind_eq_ok h₁
      have h₂ := foldlM_withdrawOutput (fun o ho x hx c => (mem_page_processedBy hpg ho hx).2)
        hq (fun _ hp => hp) hv
      exact h₂.trans (withdrawPages_withdrawal ((needsReplay_congr h₂.tables).trans hq) hrest)

/-- Completing the repository commits the index and touches the repository: a withdrawal that
takes nothing. -/
theorem processComplete_withdrawal {repo : String} {ev : Routing} {s t : Site} {a : Unit}
    (hq : s.store.needsReplay = false) (h : ((processComplete repo).run).run s = (.ok a, t)) :
    Withdrawal s.store t.store ev ev := by
  obtain ⟨_, u, hcommit, htouch⟩ := run_bind_eq_ok h
  have hu : u.store = s.store := by
    simp only [commitIndex, run_bind, run_get, run_set] at hcommit
    split at hcommit <;> cases hcommit
    rfl
  rw [← hu] at hq ⊢
  have ht := touch_eq (atomically_eq_ok hq htouch).1
  exact .of_same (by rw [ht]) (by rw [ht]) (by rw [ht])

-- ---------------------------------------------------------------------------
-- Queuing the schedule
-- ---------------------------------------------------------------------------

/-- Queuing a job leaves one waiting under its key. -/
theorem enqueue_queued {service : Int} {outputSet : Option String} {kind : JobKind} {s t : Site}
    {a : Option Job} (hq : s.store.needsReplay = false)
    (h : ((enqueue service outputSet kind).run).run s = (.ok a, t)) :
    Queued [(service, outputSet)] s.store t.store := by
  unfold enqueue at h
  obtain ⟨job?, u, hins, hrest⟩ := run_bind_eq_ok h
  obtain ⟨htx, -⟩ := atomically_eq_ok hq hins
  -- announcing the job changes the events alone
  have ht : t.store = u.store := by
    cases job? <;> cases hrest <;> rfl
  rw [ht]
  exact insertJob_queued htx

/-- A fold whose every step queues its pair queues them all. -/
theorem foldlM_queued {f : β → Int × Option String → Action β}
    (hf : ∀ b p s c t, s.store.needsReplay = false → ((f b p).run).run s = (.ok c, t) →
      Queued [p] s.store t.store) :
    ∀ {ps : List (Int × Option String)} {b c : β} {s t : Site}, s.store.needsReplay = false →
      ((ps.foldlM f b).run).run s = (.ok c, t) → Queued ps s.store t.store
  | [], _, _, _, _, _, h => by
    cases h
    exact .nil _
  | p :: ps, b, c, s, t, hq, h => by
    rw [List.foldlM_cons] at h
    obtain ⟨b₁, u, hu, hrest⟩ := run_bind_eq_ok h
    have h₁ := hf b p s b₁ u hq hu
    exact h₁.append (foldlM_queued hf ((needsReplay_congr h₁.tables).trans hq) hrest)

/-- **Queuing the schedule** leaves a job waiting under every scheduled pair. -/
theorem enqueueScheduled_queued {ev : Routing} {s t : Site} {r : Nat × Routing}
    (hq : s.store.needsReplay = false) (h : ((enqueueScheduled ev).run).run s = (.ok r, t)) :
    Queued ev.scheduled s.store t.store := by
  unfold enqueueScheduled at h
  obtain ⟨n, u, hfold, hrest⟩ := run_bind_eq_ok h
  cases hrest
  refine foldlM_queued (fun n p s m t hq hrun => ?_) hq hfold
  obtain ⟨job?, u, henq, hrest⟩ := run_bind_eq_ok hrun
  cases hrest
  exact enqueue_queued hq henq

-- ---------------------------------------------------------------------------
-- The deletion
-- ---------------------------------------------------------------------------

/-- A site action that, when it succeeds on a store whose schema sets off nothing, takes no
mark and no waiting job of a service other than `id`, and keeps the schema. -/
def KeepsOthers (id : Int) (a : Action α) : Prop :=
  ∀ s x t, s.store.needsReplay = false → (a.run).run s = (.ok x, t) → Spares id s.store t.store

/-- An action that leaves the store as it found it. -/
theorem KeepsOthers.of_store {id : Int} {a : Action α}
    (h : ∀ s, ((a.run).run s).2.store = s.store) : KeepsOthers id a := by
  intro s x t _ hrun
  have hs := h s
  rw [hrun] at hs
  dsimp only at hs
  rw [hs]
  exact .refl id s.store

theorem KeepsOthers.pure (id : Int) (x : α) : KeepsOthers id (pure x : Action α) :=
  .of_store fun _ => rfl

theorem KeepsOthers.bind {id : Int} {x : Action α} {k : α → Action β} (hx : KeepsOthers id x)
    (hk : ∀ a, KeepsOthers id (k a)) : KeepsOthers id (x >>= k) := by
  intro s b t hq h
  obtain ⟨a, u, hu, hrest⟩ := run_bind_eq_ok h
  have h₁ := hx s a u hq hu
  exact h₁.trans (hk a u b t ((needsReplay_congr h₁.tables).trans hq) hrest)

/-- A transaction, run as an action on a store whose schema sets off nothing. -/
theorem atomically_keepsOthers {id : Int} {tx : Tx α} (h : Store.KeepsOthers id tx) :
    KeepsOthers id (atomically tx) :=
  fun _ _ _ hq hrun => h _ _ _ (atomically_eq_ok hq hrun).1

/-- Uninstalling a service clears its match points, or nothing. -/
theorem uninstall_keepsOthers (id : Int) (info : ServiceRow) (w : Service.Worker) :
    KeepsOthers id (Engine.uninstall info w) := by
  cases w with
  | aggregation _ _ =>
    simp only [Engine.uninstall, Engine.changePoints]
    exact atomically_keepsOthers (modifyPoints_keepsOthers id _)
  | scripted script _ =>
    simp only [Engine.uninstall]
    split
    · intro _ _ _ _ h
      cases h
    · exact KeepsOthers.pure id ()
  | normalization => exact KeepsOthers.pure id ()

/-- Looking a service up leaves the site as it was. -/
theorem requireService_site {id : Int} {info : ServiceRow} {s t : Site}
    (h : ((Service.requireService id).run).run s = (.ok info, t)) : t = s := by
  obtain ⟨o, u, hl, hrest⟩ := run_bind_eq_ok h
  rw [lookup_run] at hl
  obtain rfl : s = u := (Prod.mk.inj hl).2
  split at hrest <;> cases hrest
  rfl

end Catalog.Site
