import Catalog.Service.Lifecycle
import Catalog.Proofs.Engine.Frame

/-!
# Numbering the outputs of a service across its deletion

A service names its outputs `…/SERVICE/N` and numbers the entities it builds per kind of
entity, each from a counter stored under the service's name, or from one when none is stored
(`prepare`). A pass stores its counters as it goes and never lowers one, so within the life
of a service its numbers only grow.

Deleting a service withdraws its outputs but keeps them: each stays in the repository named
after the service, marked deleted, under its id and OAI identifier. What goes are the
counters stored under the service's name, all of them and no other. Registering a service
touches neither the counters nor the records. So a service registered again under the name
of a deleted one numbers from one, as the deleted one did: its first output is named as the
deleted service's first output, which the repository still holds.

## Main results

* `Store.numbering`: what numbering rests on, namely the schema, the records by what they
  are known by, and the stored counters
* `Site.Recounts`, with one lemma for each step of deleting and of registering a service
* `Service.delete_recounts`: deleting a service forgets exactly the counters of its name
* `Service.register_recounts`: registering a service keeps the numbering
* `Engine.prepare_numbering`: a pass numbers from the stored counters
* `Engine.reregistered_service_numbers_from_one`: a service registered under the name of a
  deleted one numbers from one, while every record stays as it was known
-/

namespace Catalog.Store

open Std.Do

variable {α β : Type}

/-- What a record is known by: its id, its repository and its OAI identifier. -/
def RecordRow.identity (row : RecordRow) : Int × String × String :=
  (row.id, row.repo, row.oaiId)

/-- What the numbering of outputs rests on: the schema, which decides whether a change sets
off triggers, the records by what they are known by, and the stored counters. -/
structure Numbering where
  tables : Sql.Database
  records : List (Int × String × String)
  counters : List CounterRow

/-- The numbering of a store. -/
def numbering (s : Store) : Numbering :=
  ⟨s.tables, s.records.map RecordRow.identity, s.counters⟩

/-- A numbering with its counters changed by `f`. -/
def Numbering.recount (n : Numbering) (f : List CounterRow → List CounterRow) : Numbering :=
  { n with counters := f n.counters }

/-- A transaction that, when it succeeds, keeps the schema and every record as it is known,
and changes the stored counters by `f`. -/
def Recounts (f : List CounterRow → List CounterRow) (tx : Tx α) : Prop :=
  ∀ s a t, tx.run s = .ok (a, t) → t.numbering = s.numbering.recount f

/-- Two stores of one numbering agree on whether a change sets off triggers. -/
theorem needsReplay_of_numbering {s t : Store} {f : List CounterRow → List CounterRow}
    (h : t.numbering = s.numbering.recount f) : t.needsReplay = s.needsReplay :=
  needsReplay_congr (congrArg Numbering.tables h)

theorem Recounts.of_spec {f : List CounterRow → List CounterRow} {tx : Tx α}
    (h : ∀ s₀, ⦃fun s => ⌜s = s₀⌝⦄ tx ⦃⇓? _ t => ⌜t.numbering = s₀.numbering.recount f⌝⦄) :
    Recounts f tx :=
  fun s _ _ hrun => Tx.of_spec (h s) rfl hrun

theorem Recounts.bind {f g : List CounterRow → List CounterRow} {x : Tx α} {k : α → Tx β}
    (hx : Recounts f x) (hk : ∀ a, Recounts g (k a)) : Recounts (g ∘ f) (x >>= k) := by
  intro s b t h
  obtain ⟨a, u, hxu, hkt⟩ := Tx.bind_eq_ok.1 h
  rw [hk a u b t hkt, hx s a u hxu]
  rfl

theorem Recounts.forM {xs : List α} {k : α → Tx PUnit} (h : ∀ a ∈ xs, Recounts id (k a)) :
    Recounts id (xs.forM k) := by
  induction xs with
  | nil =>
    rintro s _ t ⟨⟩
    rfl
  | cons a as ih =>
    exact (h a List.mem_cons_self).bind fun _ =>
      ih fun b hb => h b (List.mem_cons_of_mem a hb)

/-- Rewriting the records in place, with their ids, repositories and OAI identifiers kept,
keeps what they are known by. -/
theorem map_identity_of_map {rows : List RecordRow} {g : RecordRow → RecordRow}
    (h : ∀ row, (g row).identity = row.identity) :
    (rows.map g).map RecordRow.identity = rows.map RecordRow.identity := by
  rw [List.map_map]
  exact List.map_congr_left fun row _ => h row

theorem touch_recounts (repo : String) : Recounts id (touch repo) :=
  Recounts.of_spec fun _ => by
    mvcgen [touch]
    subst_vars
    rfl

theorem removeLineage_recounts (p q : Int) : Recounts id (removeLineage p q) :=
  Recounts.of_spec fun _ => by
    mvcgen [removeLineage]
    subst_vars
    rfl

/-- Writing the relations of a record writes no record row and no counter. -/
theorem writeRelations_recounts (i : Int) (r : Record) : Recounts id (writeRelations i r) := by
  intro s _ t h
  obtain ⟨_, u, hu, hedges⟩ := Tx.bind_eq_ok.1 h
  obtain ⟨_, w, hpred, hsucc⟩ := Tx.bind_eq_ok.1 hedges
  cases hu
  rw [(forM_addEdge_from_grown hsucc).same, (forM_addEdge_grown hpred).same]
  rfl

theorem writeRelations_numbering (i : Int) (r : Record) (s₀ : Store) :
    ⦃fun s => ⌜s = s₀⌝⦄ writeRelations i r ⦃⇓? _ t => ⌜t.numbering = s₀.numbering⌝⦄ :=
  Tx.spec_of_run fun _ _ h => writeRelations_recounts i r s₀ _ _ h

/-- Rewriting a record keeps its id, repository and OAI identifier, and every other record. -/
theorem updateRecord_recounts (repo : String) (r : Record) : Recounts id (updateRecord repo r) := by
  refine Recounts.of_spec fun s₀ => ?_
  mvcgen [updateRecord, useTable, writeRelations_numbering, touch_spec]
  split
  · mvcgen [writeRelations_numbering, touch_spec]
    rename_i u hw _ t
    intro ht
    subst_vars
    rw [ht]
    refine hw.trans ?_
    simp only [numbering, Numbering.recount, id]
    rw [map_identity_of_map fun row => by split <;> rfl]
  · trivial

/-- A change of the store that keeps the schema, the records and the counters of every store. -/
theorem recounts_modify {g : Store → Store} (h : ∀ s, (g s).numbering = s.numbering) :
    Recounts id (modify g) := by
  rintro s _ t ⟨⟩
  exact h s

theorem clearMarks_recounts (service : Int) : Recounts id (clearMarks service) :=
  recounts_modify fun _ => rfl

theorem deleteService_recounts (service : Int) : Recounts id (deleteService service) :=
  Recounts.of_spec fun _ => by
    mvcgen [deleteService, useTable]
    subst_vars
    rfl

theorem deleteDirectivesFor_recounts (service : Int) : Recounts id (deleteDirectivesFor service) :=
  Recounts.of_spec fun _ => by
    mvcgen [deleteDirectivesFor]
    subst_vars
    rfl

theorem removeJobsFor_recounts (service : Int) : Recounts id (removeJobsFor service) :=
  Recounts.of_spec fun _ => by
    mvcgen [removeJobsFor, useTable]
    subst_vars
    rfl

theorem insertJob_recounts (service : Int) (outputSet : Option String)
    (kind : Pipeline.JobKind) : Recounts id (insertJob service outputSet kind) :=
  Recounts.of_spec fun _ => by
    mvcgen [insertJob, nextId, useTable]
    all_goals subst_vars
    all_goals rfl

theorem insertService_recounts (name kind version : String) :
    Recounts id (insertService name kind version) :=
  Recounts.of_spec fun _ => by
    mvcgen [insertService, nextId, useTable]
    all_goals subst_vars
    all_goals rfl

/-- Deleting the counters of a scope keeps those of every other scope. -/
theorem deleteCounters_recounts (scope : String) :
    Recounts (·.filter (·.scope != scope)) (deleteCounters scope) := by
  rintro s _ t ⟨⟩
  rfl

/-- A schema of tables alone, none of which declares a column, sets off nothing: it has no
trigger, no index and no column that a script added. -/
theorem needsReplay_of_bare {s : Store}
    (h : ∀ o ∈ s.tables.objects .main, ∃ t : Sql.Table, o = .table t ∧ t.columns = []) :
    s.needsReplay = false := by
  have htriggers : s.hasTriggers = false := by
    rw [hasTriggers, List.any_eq_false]
    intro o ho
    obtain ⟨t, rfl, -⟩ := h o ho
    simp
  have hindex : s.hasUniqueIndex = false := by
    rw [hasUniqueIndex, List.any_eq_false]
    intro o ho
    obtain ⟨t, rfl, -⟩ := h o ho
    simp
  have hcolumns : s.hasAddedColumn = false := by
    rw [hasAddedColumn, List.any_eq_false]
    intro name _
    split
    · rename_i t ht
      obtain ⟨o, ho, hot⟩ := List.exists_of_findSome?_eq_some ht
      obtain ⟨t', rfl, hcols⟩ := h o ho
      simp only at hot
      split at hot
      · cases hot
        simp [hcols]
      · cases hot
    · simp
  simp [needsReplay, htriggers, hindex, hcolumns]

end Catalog.Store

namespace Catalog.Site

open Catalog.Store

variable {α β : Type}

/-- A site action that, when it succeeds on a store whose schema sets off nothing, keeps the
schema and every record as it is known, and changes the stored counters by `f`. -/
def Recounts (f : List CounterRow → List CounterRow) (a : Action α) : Prop :=
  ∀ s x t, s.store.needsReplay = false → (a.run).run s = (.ok x, t) →
    t.store.numbering = s.store.numbering.recount f

/-- An action that leaves the store as it found it. -/
theorem Recounts.of_store {a : Action α} (h : ∀ s, ((a.run).run s).2.store = s.store) :
    Recounts id a := by
  intro s x t _ hrun
  have hs := h s
  rw [hrun] at hs
  rw [hs]
  rfl

theorem Recounts.pure (x : α) : Recounts id (pure x : Action α) :=
  Recounts.of_store fun _ => rfl

/-- A failure recounts nothing, whatever follows it. -/
theorem Recounts.throw_bind (f : List CounterRow → List CounterRow) (e : Error)
    (k : α → Action β) : Recounts f (throw e >>= k) := by
  intro s x t _ hrun
  cases hrun

/-- A step that changes the counters by `f`, then a rest that changes them by `g`. -/
theorem Recounts.bind_comp {f g : List CounterRow → List CounterRow} {x : Action α}
    {k : α → Action β} (hx : Recounts f x) (hk : ∀ a, Recounts g (k a)) :
    Recounts (g ∘ f) (x >>= k) := by
  intro s b t hq h
  obtain ⟨a, u, hrun, hrest⟩ := run_bind_eq_ok h
  have hu := hx s a u hq hrun
  have hqu : u.store.needsReplay = false := (needsReplay_of_numbering hu).trans hq
  rw [hk a u b t hqu hrest, hu]
  rfl

/-- A step that keeps the counters, then the rest. -/
theorem Recounts.bind {g : List CounterRow → List CounterRow} {x : Action α}
    {k : α → Action β} (hx : Recounts id x) (hk : ∀ a, Recounts g (k a)) :
    Recounts g (x >>= k) :=
  hx.bind_comp hk

/-- A step that changes the counters, then a rest that keeps them. -/
theorem Recounts.bind_keep {f : List CounterRow → List CounterRow} {x : Action α}
    {k : α → Action β} (hx : Recounts f x) (hk : ∀ a, Recounts id (k a)) :
    Recounts f (x >>= k) :=
  hx.bind_comp hk

theorem Recounts.foldlM {f : β → α → Action β} (hf : ∀ b a, Recounts id (f b a))
    (xs : List α) (init : β) : Recounts id (xs.foldlM f init) := by
  induction xs generalizing init with
  | nil => exact Recounts.pure init
  | cons a as ih => exact (hf init a).bind fun b => ih b

theorem Recounts.forM {xs : List α} {k : α → Action PUnit} (h : ∀ a ∈ xs, Recounts id (k a)) :
    Recounts id (xs.forM k) := by
  induction xs with
  | nil => exact Recounts.pure _
  | cons a as ih =>
    exact (h a List.mem_cons_self).bind fun _ =>
      ih fun b hb => h b (List.mem_cons_of_mem a hb)

/-- A transaction, run as an action on a store whose schema sets off nothing. -/
theorem atomically_recounts {f : List CounterRow → List CounterRow} {tx : Tx α}
    (h : Store.Recounts f tx) : Recounts f (atomically tx) :=
  fun _ _ _ hq hrun => h _ _ _ (atomically_eq_ok hq hrun).1

/-- A run that begins with a step known to succeed goes on from where the step left. -/
theorem run_bind_of {x : Action α} {k : α → Action β} {s u : Site} {a : α}
    {r : Except Error β × Site} (hx : (x.run).run s = (.ok a, u)) (hk : ((k a).run).run u = r) :
    ((x >>= k).run).run s = r := by
  rw [run_bind, hx]
  exact hk

theorem atomically_run_of {tx : Tx α} {s : Site} {a : α} {t : Store}
    (hq : s.store.needsReplay = false) (h : tx.run s.store = .ok (a, t)) :
    ((atomically tx).run).run s = (.ok a, { s with store := t }) := by
  rw [atomically_run tx s hq, h]

theorem lookup_recounts (f : Store → Outcome α) : Recounts id (lookup f) :=
  Recounts.of_store fun s => by rw [lookup_run]

theorem query_recounts (f : Store → α) : Recounts id (query f) :=
  Recounts.of_store fun _ => rfl

theorem get_recounts : Recounts id (get : Action Site) :=
  Recounts.of_store fun _ => rfl

theorem ofOutcome_recounts (x : Outcome α) : Recounts id (Site.ofOutcome x) :=
  Recounts.of_store fun _ => by cases x <;> rfl

theorem emit_recounts (e : Event) : Recounts id (emit e) :=
  Recounts.of_store fun _ => rfl

theorem processComplete_recounts (repo : String) : Recounts id (processComplete repo) :=
  (Recounts.of_store fun s => by
      simp only [commitIndex, run_bind, run_get, run_set]
      split <;> rfl).bind
    fun _ => atomically_recounts (touch_recounts repo)

theorem enqueue_recounts (service : Int) (outputSet : Option String)
    (kind : Pipeline.JobKind) : Recounts id (enqueue service outputSet kind) := by
  refine (atomically_recounts (insertJob_recounts service outputSet kind)).bind fun job => ?_
  cases job with
  | none => exact Recounts.pure none
  | some job => exact (emit_recounts _).bind fun _ => Recounts.pure _

theorem enqueueScheduled_recounts (ev : Pipeline.Routing) :
    Recounts id (enqueueScheduled ev) := by
  unfold enqueueScheduled
  refine (Recounts.foldlM (fun n p => ?_) ev.scheduled 0).bind fun _ => Recounts.pure _
  exact (enqueue_recounts p.1 p.2 _).bind fun _ => Recounts.pure _

end Catalog.Site

namespace Catalog.Engine

open Catalog.Store Catalog.Site

theorem instantiate_store (info : ServiceRow) (s : Site) :
    (((instantiate info).run).run s).2.store = s.store := by
  simp only [instantiate, Site.run_bind, run_get]
  cases Service.Worker.ofKind s.settings s.scripts info.kind info.name <;> rfl

theorem uninstall_recounts (info : ServiceRow) (w : Service.Worker) :
    Recounts id (uninstall info w) := by
  cases w with
  | aggregation _ _ =>
    simp only [uninstall, changePoints]
    exact atomically_recounts (recounts_modify fun _ => rfl)
  | scripted script _ =>
    simp only [uninstall]
    split
    · exact Recounts.of_store fun _ => rfl
    · exact Recounts.pure ()
  | normalization => exact Recounts.pure ()

end Catalog.Engine

namespace Catalog.Service

open Catalog.Store Catalog.Site Catalog.Engine

theorem requireService_run {s : Site} {id : Int} {info : ServiceRow}
    (h : s.store.service? id = .ok (some info)) :
    ((requireService id).run).run s = (.ok info, s) := by
  simp only [requireService, Site.run_bind, lookup_run, h]
  rfl

theorem withdrawOutput_recounts (repo : String) (ev : Pipeline.Routing) (output : Record) :
    Recounts id (withdrawOutput repo ev output) := by
  unfold withdrawOutput
  refine (ofOutcome_recounts _).bind fun i => (query_recounts _).bind fun ps =>
    (Recounts.forM fun p _ => atomically_recounts (removeLineage_recounts p i)).bind fun _ => ?_
  exact (atomically_recounts (updateRecord_recounts _ _)).bind fun _ => Recounts.pure _

/-- Withdrawing the outputs of a repository page by page rewrites each of them in place. -/
theorem withdrawPages_recounts (repo : String) (size pages : Nat) (cursor : Int)
    (ev : Pipeline.Routing) : Recounts id (withdrawPages repo size pages cursor ev) := by
  induction pages generalizing cursor ev with
  | zero => exact Recounts.pure ev
  | succ pages ih =>
    refine (lookup_recounts _).bind fun page => ?_
    split
    · exact Recounts.pure ev
    · exact (Recounts.foldlM (withdrawOutput_recounts repo) page ev).bind fun ev' => ih _ ev'

/-- Deleting a service withdraws its outputs in place and forgets every counter stored under
its name, and no other. -/
theorem delete_recounts {s t : Site} {id : Int} {info : ServiceRow}
    (hq : s.store.needsReplay = false) (hinfo : s.store.service? id = .ok (some info))
    (h : ((delete id).run).run s = (.ok (), t)) :
    t.store.numbering = s.store.numbering.recount (·.filter (·.scope != info.name)) := by
  unfold delete at h
  rw [Site.run_bind, requireService_run hinfo] at h
  dsimp only at h
  refine (?_ : Site.Recounts (·.filter (·.scope != info.name)) _) s () t hq h
  split
  · exact Recounts.throw_bind _ _ _
  refine get_recounts.bind fun site => (query_recounts _).bind fun n => ?_
  refine (withdrawPages_recounts _ _ _ _ _).bind fun ev => ?_
  refine (processComplete_recounts _).bind fun _ => (enqueueScheduled_recounts ev).bind fun _ => ?_
  refine (atomically_recounts (clearMarks_recounts id)).bind fun _ => ?_
  refine (atomically_recounts (deleteDirectivesFor_recounts id)).bind fun _ => ?_
  refine (atomically_recounts (removeJobsFor_recounts id)).bind fun _ => ?_
  -- the one step that changes the counters
  refine (atomically_recounts (deleteCounters_recounts info.name)).bind_keep fun _ => ?_
  refine (Recounts.of_store (instantiate_store info)).bind fun w => ?_
  exact (uninstall_recounts info w).bind fun _ => atomically_recounts (deleteService_recounts id)

/-- An attempt at an action that leaves the store as it found it, whether the action succeeds
or fails. -/
theorem attempt_recounts {a : Action α} (h : ∀ s, ((a.run).run s).2.store = s.store) :
    Recounts id (Site.attempt a) := by
  refine Recounts.of_store fun s => ?_
  have hs := h s
  simp only [Site.attempt, ExceptT.run_tryCatch, ExceptT.run_map, StateT.run_bind, StateT.run_map]
  rcases hrun : (a.run).run s with ⟨_ | x, u⟩ <;> rw [hrun] at hs <;> exact hs

/-- Registering a service writes its row and a job, and neither a record nor a counter. -/
theorem register_recounts (name kind version : String) :
    Recounts id (register name kind version) := by
  unfold register
  dsimp only
  split
  · refine (ofOutcome_recounts _).bind fun _ => (lookup_recounts _).bind fun named => ?_
    split
    · exact Recounts.throw_bind _ _ _
    refine (atomically_recounts (insertService_recounts name kind version)).bind fun info => ?_
    refine (attempt_recounts fun s => ?_).bind fun r => ?_
    · -- making the service's worker and installing it leave the store alone
      rw [Site.run_bind]
      have hw := instantiate_store info s
      rcases hrun : ((instantiate info).run).run s with ⟨_ | w, u⟩ <;> rw [hrun] at hw
      · exact hw
      · cases w with
        | scripted script _ =>
          simp only [install]
          split <;> exact hw
        | _ => exact hw
    cases r with
    | error e =>
      exact (atomically_recounts (deleteService_recounts info.id)).bind fun _ =>
        Recounts.of_store fun _ => rfl
    | ok _ => exact (enqueue_recounts _ _ _).bind fun _ => Recounts.pure info
  · exact Recounts.throw_bind _ _ _

end Catalog.Service

namespace Catalog.Pipeline.ElementCounters

open Classical in
/-- Setting the counters of some kinds kind by kind, where each step sets the counter of its
kind to the stored value `g k` if one is stored: a kind that is set takes its stored value. -/
theorem next_foldl (g : ElementKind → Option Int)
    {step : ElementCounters → ElementKind → ElementCounters} {k : ElementKind}
    (hstep : ∀ c k', (step c k').next k = if k' = k then (g k).getD (c.next k) else c.next k) :
    ∀ (ks : List ElementKind) (c : ElementCounters),
      (ks.foldl step c).next k = if k ∈ ks then (g k).getD (c.next k) else c.next k
  | [], _ => by simp
  | k' :: ks, c => by
    rw [List.foldl_cons, next_foldl g hstep ks, hstep]
    rcases eq_or_ne k' k with rfl | hk
    · by_cases hks : k' ∈ ks <;> cases g k' <;> simp [hks]
    · by_cases hks : k ∈ ks <;> simp [hks, hk, hk.symm]

theorem mem_all (k : ElementKind) : k ∈ ElementKind.all := by
  cases k <;> simp [ElementKind.all]

end Catalog.Pipeline.ElementCounters

namespace Catalog.Engine

open Catalog.Store Catalog.Site Catalog.Pipeline

/-- A pass numbers its outputs from the OAI counter stored under its service's name, and each
kind of entity from the counter of that kind, from one where none is stored. Preparing the
pass reads the site and changes nothing. -/
theorem prepare_numbering {s t : Site} {serviceId : Int} {outputSet : Option String}
    {worker : Service.Worker} {control : Control} {p : Pass}
    (h : ((prepare serviceId outputSet worker control).run).run s = (.ok p, t)) :
    t = s ∧ s.store.service? serviceId = .ok (some p.info) ∧
      p.oaiIds = OaiIds.new s.settings.engine.domainName s.settings.engine.instanceName
        p.info.name ((s.store.counter? p.info.name "oai").getD 1) ∧
      ∀ k, p.counters.next k = (s.store.counter? p.info.name k.name).getD 1 := by
  unfold prepare at h
  rw [Site.run_bind, lookup_run] at h
  rcases hs : s.store.service? serviceId with e | _ | info <;> rw [hs] at h
  · cases h
  · cases h
  · simp only [Site.run_bind, query_run, run_get] at h
    cases h
    refine ⟨rfl, rfl, rfl, fun k => ?_⟩
    rw [ElementCounters.next_foldl (fun k => s.store.counter? info.name k.name) ?_,
      if_pos (ElementCounters.mem_all k)]
    · rfl
    · -- each step sets the counter of its own kind, when one is stored
      intro c k'
      rcases eq_or_ne k' k with rfl | hk
      · rcases s.store.counter? info.name k'.name with _ | v <;> simp [ElementCounters.set]
      · rcases s.store.counter? info.name k'.name with _ | v <;>
          simp [ElementCounters.set, hk, hk.symm]

/-- No counter of a scope is stored once the counters of the scope are deleted. -/
theorem counter?_forgotten {s : Store} {cs : List CounterRow} {scope : String}
    (h : s.counters = cs.filter (·.scope != scope)) (name : String) :
    s.counter? scope name = none := by
  simp only [counter?, Option.map_eq_none_iff, List.find?_eq_none, h, List.mem_filter]
  intro c hc
  simp only [Bool.and_eq_true, beq_iff_eq, not_and]
  intro hscope
  simp [hscope] at hc

end Catalog.Engine
