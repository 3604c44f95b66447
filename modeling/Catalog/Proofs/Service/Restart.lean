import Catalog.Proofs.Service.Deletion
import Catalog.Proofs.Store.Readback

/-!
# Deleting a service again after a deletion failed

A deletion of a service is a sequence of transactions: it withdraws the outputs one after
another, completes the repository, queues the consumers, clears what names the service,
uninstalls it and deletes its row. A failure stops the sequence where it happens and keeps every
transaction that committed before. This module shows what such a stopped deletion leaves, and so
what a deletion that succeeds after it leaves.

Wherever a deletion stops, it has only taken away (`PartlyDeleted`): the rows keep their places,
no edge is added and none into a record other than an output goes, no mark is added, every mark
of another service on an output is kept as processed or turned into input, every record stays
input for the services other than the deleted one, and every job of those stays. A deletion that
succeeds after one that failed therefore leaves all that a single deletion leaves, but for one
thing: the consumers are queued from the marks the second deletion finds, and those the first
one turned into input before it failed are found no more. So a consumer is queued after both
exactly as after one deletion when the first deletion took none of its marks, or queued it before
failing.

## Main results

* `PartlyDeleted`, with `PartlyDeleted.trans`: what a deletion has done wherever it stopped
* `Site.Keeps`: an action keeps a property of the store whether it succeeds or fails
* `Service.delete_keeps`: every run of a deletion, successful or not, is partly a deletion
* `Service.delete_after_failure`: a deletion after a failed one retires the service from the store
  the failed one left; measured from the store before both, it leaves what one deletion leaves
  exactly when every consumer has a job
-/

namespace Catalog.Store

open Catalog.Pipeline

variable {id : Int} {repo repo' : String} {s₀ s u t : Store}

/-- Record `x` is an output of the service whose repository is `repo`: a visible row of the
repository has its id. Only the places of the rows are read, so a store whose rows keep their
places has the same outputs. -/
def OutputOf (s : Store) (repo : String) (x : Int) : Prop :=
  ∃ p ∈ s.records.map RecordRow.place, p.1 = x ∧ p.2.1 = repo ∧ p.2.2.1 = true

theorem outputOf_congr (h : t.records.map RecordRow.place = s.records.map RecordRow.place) :
    t.OutputOf repo = s.OutputOf repo := by
  funext x
  unfold OutputOf
  rw [h]

theorem outputOf_iff {x : Int} :
    s.OutputOf repo x ↔ ∃ row ∈ s.records, row.id = x ∧ row.repo = repo ∧ row.visible = true := by
  simp [OutputOf, RecordRow.place]

/-- Rows that keep their places keep their ids. -/
theorem pos_of_places (h : t.records.map RecordRow.place = s.records.map RecordRow.place)
    (hpos : ∀ row ∈ s.records, 0 < row.id) : ∀ row ∈ t.records, 0 < row.id := by
  intro row hrow
  have hplace : row.place ∈ s.records.map RecordRow.place := h ▸ List.mem_map_of_mem hrow
  obtain ⟨row', hrow', hp⟩ := List.mem_map.1 hplace
  have hid : row'.id = row.id := congrArg Prod.fst hp
  exact hid ▸ hpos row' hrow'

/-- What a deletion of service `id`, whose repository is `repo`, has done to store `s₀` by the
time it reached store `s`, wherever it stopped. The schema is the same and the rows keep their
places. No edge is added, and every edge into a record other than an output stays. No mark is
added; every mark of another service on an output is kept, as processed or as input; every
record stays input for every other service; every job of another service stays. The service row
is there as before, or gone. -/
structure PartlyDeleted (id : Int) (repo : String) (s₀ s : Store) : Prop where
  tables : s.tables = s₀.tables
  places : s.records.map RecordRow.place = s₀.records.map RecordRow.place
  lineage : ∀ e ∈ s.lineage, e ∈ s₀.lineage
  lineageKept : ∀ e ∈ s₀.lineage, ¬s₀.OutputOf repo e.2 → e ∈ s.lineage
  processedBy : ∀ p ∈ s.processedBy, p ∈ s₀.processedBy
  inputFor : ∀ p ∈ s₀.inputFor, p.2 ≠ id → p ∈ s.inputFor
  consumers : ∀ p ∈ s₀.processedBy, s₀.OutputOf repo p.1 → p.2 ≠ id →
    p ∈ s.processedBy ∨ p ∈ s.inputFor
  jobs : ∀ j ∈ s₀.jobs, j.serviceId ≠ id → j ∈ s.jobs
  services : s.services = s₀.services ∨ s.services = s₀.services.filter (·.id != id)

theorem PartlyDeleted.refl (id : Int) (repo : String) (s : Store) : PartlyDeleted id repo s s where
  tables := rfl
  places := rfl
  lineage _ he := he
  lineageKept _ he _ := he
  processedBy _ hp := hp
  inputFor _ hp _ := hp
  consumers _ hp _ _ := .inl hp
  jobs _ hj _ := hj
  services := .inl rfl

/-- A deletion that went on from where another stopped: the outputs are those of the start. -/
theorem PartlyDeleted.trans (h₁ : PartlyDeleted id repo s₀ s) (h₂ : PartlyDeleted id repo s t) :
    PartlyDeleted id repo s₀ t where
  tables := h₂.tables.trans h₁.tables
  places := h₂.places.trans h₁.places
  lineage e he := h₁.lineage e (h₂.lineage e he)
  lineageKept e he hout := by
    refine h₂.lineageKept e (h₁.lineageKept e he hout) ?_
    rwa [outputOf_congr h₁.places]
  processedBy p hp := h₁.processedBy p (h₂.processedBy p hp)
  inputFor p hp hne := h₂.inputFor p (h₁.inputFor p hp hne) hne
  consumers p hp hout hne := by
    rcases h₁.consumers p hp hout hne with hp' | hp'
    · exact h₂.consumers p hp' (by rwa [outputOf_congr h₁.places]) hne
    · exact .inr (h₂.inputFor p hp' hne)
  jobs j hj hne := h₂.jobs j (h₁.jobs j hj hne) hne
  services := by
    rcases h₂.services with h | h <;> rcases h₁.services with h' | h' <;> rw [h, h']
    · exact .inl rfl
    · exact .inr rfl
    · exact .inr rfl
    · exact .inr (by rw [List.filter_filter]; simp)

/-- A change of what no part of `PartlyDeleted` reads, but for jobs added. -/
theorem PartlyDeleted.of_same (hrecords : t.records = s.records) (hlineage : t.lineage = s.lineage)
    (hpb : t.processedBy = s.processedBy) (hin : t.inputFor = s.inputFor)
    (htables : t.tables = s.tables) (hjobs : ∀ j ∈ s.jobs, j ∈ t.jobs)
    (hservices : t.services = s.services) : PartlyDeleted id repo s t where
  tables := htables
  places := by rw [hrecords]
  lineage e he := hlineage ▸ he
  lineageKept e he _ := hlineage ▸ he
  processedBy p hp := hpb ▸ hp
  inputFor p hp _ := hin ▸ hp
  consumers p hp _ _ := .inl (hpb ▸ hp)
  jobs j hj _ := hjobs j hj
  services := .inl hservices

/-- A service a partly deleted store still reads is the one the deletion started from. -/
theorem PartlyDeleted.service_of (hs : PartlyDeleted id repo s₀ s) {info : ServiceRow}
    (h : s.service? id = .ok (some info)) : s₀.service? id = .ok (some info) := by
  have ht : s.needTable "services" = s₀.needTable "services" := by
    unfold needTable hasTable
    rw [hs.tables]
  rcases hs.services with hsv | hsv
  · simpa only [service?, serviceRow?, ht, hsv] using h
  -- the row is gone: the lookup reads nothing
  have hnone : s.serviceRow? id = none := by
    rw [serviceRow?, hsv, List.find?_eq_none]
    intro r hr
    simpa using (List.mem_filter.1 hr).2
  rcases hn : s.needTable "services" with e | _ <;>
    simp only [service?, hnone, hn, Option.mapM_none] at h <;> cases h

-- ---------------------------------------------------------------------------
-- The transactions of a deletion
-- ---------------------------------------------------------------------------

theorem mem_replacePairs {β : Type} [BEq β] [LawfulBEq β] {xs : List (Int × β)} {i : Int}
    {ys : List β} {p : Int × β} :
    p ∈ replacePairs xs i ys ↔ (p ∈ xs ∧ p.1 ≠ i) ∨ (p.1 = i ∧ p.2 ∈ ys) := by
  rw [replacePairs, mem_foldl_addPair, List.mem_filter, bne_iff_ne]

/-- Cutting an edge into an output. -/
theorem removeLineage_partly {p x : Int} {a : Unit} (hx : s.OutputOf repo x)
    (h : (removeLineage p x).run s = .ok (a, t)) : PartlyDeleted id repo s t := by
  rw [removeLineage_eq h]
  refine ⟨rfl, rfl, fun e he => (List.mem_filter.1 he).1, fun e he hout => ?_, fun _ hp => hp,
    fun _ hp _ => hp, fun _ hp _ _ => .inl hp, fun _ hj _ => hj, .inl rfl⟩
  -- the edge cut leads into the output, so not into `e.2`
  refine List.mem_filter.2 ⟨he, bne_iff_ne.2 fun hpx => hout ?_⟩
  rw [hpx]
  exact hx

theorem touch_partly {a : Unit} (h : (touch repo).run s = .ok (a, t)) :
    PartlyDeleted id repo' s t := by
  rw [touch_eq h]
  exact .of_same rfl rfl rfl rfl rfl (fun _ hj => hj) rfl

theorem insertJob_partly {service : Int} {outputSet : Option String} {kind : JobKind}
    {a : Option Job} (h : (insertJob service outputSet kind).run s = .ok (a, t)) :
    PartlyDeleted id repo s t := by
  have ht : s.hasTable "jobs" = true := hasTable_of_useTable h
  by_cases hw : ∃ j ∈ s.jobs, j.key = (service, outputSet)
  · rw [insertJob_run_waiting kind ht hw] at h
    cases h
    exact .refl id repo s
  · rw [insertJob_run_free kind ht hw] at h
    cases h
    exact .of_same rfl rfl rfl rfl rfl (fun _ hj => List.mem_append_left _ hj) rfl

/-- Clearing the marks of the service keeps those of the others. -/
theorem clearMarks_partly {a : Unit} (h : (clearMarks id).run s = .ok (a, t)) :
    PartlyDeleted id repo s t := by
  rw [clearMarks_eq h]
  have hkeep : ∀ {p : Int × Int} {ps : List (Int × Int)}, p ∈ ps → p.2 ≠ id →
      p ∈ ps.filter (·.2 != id) := fun hp hne => List.mem_filter.2 ⟨hp, bne_iff_ne.2 hne⟩
  refine ⟨rfl, rfl, fun _ he => he, fun _ he _ => he, fun _ hp => (List.mem_filter.1 hp).1,
    fun _ hp hne => hkeep hp hne, fun _ hp _ hne => .inl (hkeep hp hne), fun _ hj _ => hj,
    .inl rfl⟩

theorem deleteDirectivesFor_partly {n : Nat} (h : (deleteDirectivesFor id).run s = .ok (n, t)) :
    PartlyDeleted id repo s t := by
  rw [deleteDirectivesFor_eq h]
  exact .of_same rfl rfl rfl rfl rfl (fun _ hj => hj) rfl

/-- Removing the jobs of the service keeps those of the others. -/
theorem removeJobsFor_partly {n : Nat} (h : (removeJobsFor id).run s = .ok (n, t)) :
    PartlyDeleted id repo s t := by
  rw [removeJobsFor_eq h]
  exact ⟨rfl, rfl, fun _ he => he, fun _ he _ => he, fun _ hp => hp, fun _ hp _ => hp,
    fun _ hp _ _ => .inl hp, fun _ hj hne => List.mem_filter.2 ⟨hj, bne_iff_ne.2 hne⟩, .inl rfl⟩

theorem deleteCounters_partly {scope : String} {a : Unit}
    (h : (deleteCounters scope).run s = .ok (a, t)) : PartlyDeleted id repo s t := by
  rw [deleteCounters_eq h]
  exact .of_same rfl rfl rfl rfl rfl (fun _ hj => hj) rfl

theorem modifyPoints_partly {f : Matching.PointTable → Matching.PointTable} {a : PUnit}
    (h : (modify fun s : Store => { s with points := f s.points } : Tx PUnit).run s = .ok (a, t)) :
    PartlyDeleted id repo s t := by
  rw [modifyPoints_eq h]
  exact .of_same rfl rfl rfl rfl rfl (fun _ hj => hj) rfl

/-- Deleting the service row, the last step. -/
theorem deleteService_partly {a : Unit} (h : (deleteService id).run s = .ok (a, t)) :
    PartlyDeleted id repo s t := by
  rw [deleteService_eq h]
  exact ⟨rfl, rfl, fun _ he => he, fun _ he _ => he, fun _ hp => hp, fun _ hp _ => hp,
    fun _ hp _ _ => .inl hp, fun _ hj _ => hj, .inr rfl⟩

-- ---------------------------------------------------------------------------
-- Rewriting an output
-- ---------------------------------------------------------------------------

/-- Output `o`, of id `x`, as a deletion that started from store `s₀` reads it from a page of the
repository: with no successors, with every mark of another service on it in `s₀` as processed
or as input, and as input for every other service it was input for in `s₀`. -/
structure OutputRead (id : Int) (repo : String) (s₀ : Store) (x : Int) (o : Record) : Prop where
  idEq : o.id = some x
  output : s₀.OutputOf repo x
  successors : o.successors = []
  consumers : ∀ c, (x, c) ∈ s₀.processedBy → c ≠ id → c ∈ o.processedBy ∨ c ∈ o.inputFor
  inputFor : ∀ c, (x, c) ∈ s₀.inputFor → c ≠ id → c ∈ o.inputFor

/-- **Rewriting an output withdrawn**, deleted and sent back to the services that processed it,
keeps the deletion partial: the marks on it become input. -/
theorem updateRecord_withdrawn_partly {x : Int} {o w : Record} {ev : Routing} {a : Unit}
    (hs : PartlyDeleted id repo s₀ s) (ho : OutputRead id repo s₀ x o)
    (hw : (ev.reprocess { o with predecessors := [], status := .deleted }).1 = w)
    (h : (updateRecord repo' w).run s = .ok (a, t)) : PartlyDeleted id repo s₀ t := by
  have hid : w.id = some x := by subst hw; exact ho.idEq
  obtain ⟨ht, hlin⟩ := updateRecord_eq_rewritten hid h
  -- the rewrite adds no edge: the record written names neither predecessors nor successors
  have hlineage : ∀ e, e ∈ t.lineage ↔ e ∈ s.lineage := fun e => by
    rw [hlin e]
    subst hw
    simp [Joins, Routing.reprocess, ho.successors]
  have hrecords : t.records.map RecordRow.place = s.records.map RecordRow.place := by
    have hrec : t.records =
        s.records.map fun row => if row.id == x then row.overwrite w s.clock else row :=
      (congrArg Store.records ht :)
    rw [hrec, List.map_map]
    refine List.map_congr_left fun row _ => ?_
    simp only [Function.comp_apply]
    split <;> rfl
  have hpb : t.processedBy = replacePairs s.processedBy x [] := by
    rw [show t.processedBy = replacePairs s.processedBy x w.processedBy from
      (congrArg Store.processedBy ht :)]
    subst hw
    rfl
  have hin : t.inputFor = replacePairs s.inputFor x (SortedList.union o.inputFor o.processedBy) := by
    rw [show t.inputFor = replacePairs s.inputFor x w.inputFor from (congrArg Store.inputFor ht :)]
    subst hw
    rfl
  refine ⟨(congrArg Store.tables ht :).trans hs.tables, hrecords.trans hs.places,
    fun e he => hs.lineage e ((hlineage e).1 he),
    fun e he hout => (hlineage e).2 (hs.lineageKept e he hout),
    fun p hp => ?_, fun p hp hne => ?_, fun p hp hout hne => ?_,
    fun j hj hne => (congrArg Store.jobs ht :) ▸ hs.jobs j hj hne,
    (congrArg Store.services ht :) ▸ hs.services⟩
  · rw [hpb, mem_replacePairs] at hp
    rcases hp with ⟨hp, -⟩ | ⟨-, hp⟩
    · exact hs.processedBy p hp
    · exact absurd hp List.not_mem_nil
  · rw [hin, mem_replacePairs]
    by_cases hx : p.1 = x
    · obtain ⟨y, c⟩ := p
      obtain rfl : y = x := hx
      exact .inr ⟨rfl, SortedList.mem_union.2 (.inl (ho.inputFor c hp hne))⟩
    · exact .inl ⟨hs.inputFor p hp hne, hx⟩
  · rw [hpb, hin, mem_replacePairs, mem_replacePairs]
    by_cases hx : p.1 = x
    · -- a mark on the output itself is read as processed or input, and written as input
      obtain ⟨y, c⟩ := p
      obtain rfl : y = x := hx
      refine .inr (.inr ⟨rfl, SortedList.mem_union.2 ?_⟩)
      exact (ho.consumers c hp hne).symm
    · rcases hs.consumers p hp hout hne with hp' | hp'
      · exact .inl (.inl ⟨hp', hx⟩)
      · exact .inr (.inl ⟨hp', hx⟩)

end Catalog.Store

namespace Catalog.Site

open Catalog.Store Catalog.Pipeline

variable {α β : Type} {P : Store → Prop} {Q : α → Prop}

-- ---------------------------------------------------------------------------
-- Keeping a property of the store, on success and on failure
-- ---------------------------------------------------------------------------

/-- Run on a site whose store satisfies `P`, action `a` leaves a store that satisfies `P` whether
it succeeds or fails, and a value it returns satisfies `Q`. -/
def Keeps (P : Store → Prop) (Q : α → Prop) (a : Action α) : Prop :=
  ∀ s, P s.store → P ((a.run).run s).2.store ∧ ∀ x, ((a.run).run s).1 = .ok x → Q x

/-- An action that leaves the store as it found it, returning what `Q` holds of. -/
theorem Keeps.of_store {a : Action α} (hst : ∀ s, ((a.run).run s).2.store = s.store)
    (hQ : ∀ s x, P s.store → ((a.run).run s).1 = .ok x → Q x) : Keeps P Q a :=
  fun s hs => ⟨(hst s).symm ▸ hs, fun x hx => hQ s x hs hx⟩

theorem Keeps.pure {x : α} (hx : Q x) : Keeps P Q (pure x : Action α) :=
  .of_store (fun _ => rfl) fun _ _ _ h => by
    cases h
    exact hx

theorem Keeps.bind {R : β → Prop} {x : Action α} {k : α → Action β} (hx : Keeps P Q x)
    (hk : ∀ a, Q a → Keeps P R (k a)) : Keeps P R (x >>= k) := by
  intro s hs
  obtain ⟨hP, hQ⟩ := hx s hs
  rw [run_bind]
  rcases hrun : (x.run).run s with ⟨_ | a, t⟩ <;> rw [hrun] at hP hQ
  · exact ⟨hP, fun _ h => by cases h⟩
  · exact hk a (hQ a rfl) t hP

/-- A transaction that keeps `P` when it succeeds keeps it as an action: when it fails, the store
is as it was. -/
theorem Keeps.atomically {tx : Tx α} (hq : ∀ s, P s → s.needsReplay = false)
    (h : ∀ s a t, P s → tx.run s = .ok (a, t) → P t ∧ Q a) : Keeps P Q (atomically tx) := by
  intro s hs
  rw [atomically_run tx s (hq _ hs)]
  rcases hrun : tx.run s.store with e | ⟨a, t⟩
  · exact ⟨hs, fun _ h => by cases h⟩
  · exact ⟨(h _ _ _ hs hrun).1, fun _ hx => by
      cases hx
      exact (h _ _ _ hs hrun).2⟩

theorem Keeps.foldlM {R : β → Prop} {f : β → α → Action β} :
    ∀ {xs : List α} {init : β}, (∀ b, ∀ a ∈ xs, R b → Keeps P R (f b a)) → R init →
      Keeps P R (xs.foldlM f init)
  | [], _, _, hinit => .pure hinit
  | a :: _, init, hf, hinit =>
    (hf init a List.mem_cons_self hinit).bind fun _ hb =>
      Keeps.foldlM (fun b' a' ha' => hf b' a' (List.mem_cons_of_mem _ ha')) hb

theorem Keeps.forM {f : α → Action PUnit} :
    ∀ {xs : List α}, (∀ a ∈ xs, Keeps P (fun _ => True) (f a)) →
      Keeps P (fun _ => True) (xs.forM f)
  | [], _ => .pure trivial
  | a :: _, hf =>
    (hf a List.mem_cons_self).bind fun _ _ =>
      Keeps.forM fun a' ha' => hf a' (List.mem_cons_of_mem _ ha')

theorem Keeps.ofOutcome {x : Outcome α} (hx : ∀ a, x = .ok a → Q a) :
    Keeps P Q (Site.ofOutcome x) := by
  cases x with
  | error e => exact .of_store (fun _ => rfl) fun _ _ _ h => by cases h
  | ok a => exact .pure (hx a rfl)

theorem Keeps.throw {e : Error} : Keeps P Q (throw e : Action α) :=
  .of_store (fun _ => rfl) fun _ _ _ h => by cases h

theorem Keeps.query (f : Store → β) : Keeps P (fun _ => True) (query f) :=
  .of_store (fun _ => rfl) fun _ _ _ _ => trivial

theorem Keeps.get : Keeps P (fun _ => True) (get : Action Site) :=
  .of_store (fun _ => rfl) fun _ _ _ _ => trivial

theorem Keeps.emit (e : Event) : Keeps P (fun _ => True) (emit e) :=
  .of_store (fun _ => rfl) fun _ _ _ _ => trivial

theorem Keeps.commitIndex : Keeps P (fun _ => True) commitIndex := by
  refine .of_store (fun s => ?_) fun _ _ _ _ => trivial
  simp only [Site.commitIndex, run_bind, run_get, run_set]
  split <;> rfl

-- ---------------------------------------------------------------------------
-- The steps of a deletion
-- ---------------------------------------------------------------------------

section Deletion

variable {id : Int} {repo : String} {s₀ : Store}

/-- A transaction that takes a store the deletion reached one step further keeps it partly
deleted, whether it commits or not. -/
theorem keeps_atomically_partly {tx : Tx α} (hq₀ : s₀.needsReplay = false)
    (h : ∀ s a t, PartlyDeleted id repo s₀ s → tx.run s = .ok (a, t) → PartlyDeleted id repo s t) :
    Keeps (PartlyDeleted id repo s₀) (fun _ => True) (atomically tx) :=
  .atomically (fun _ hs => (needsReplay_congr hs.tables).trans hq₀)
    fun s a t hs h' => ⟨hs.trans (h s a t hs h'), trivial⟩

/-- A record of a page was read from a row the query selected. -/
theorem exists_row_of_mem_page {s : Store} {f : Filter} {size : Nat} {rs : List Record}
    (h : s.page repo f size = .ok rs) {r : Record} (hr : r ∈ rs) :
    ∃ row ∈ s.records, row.repo = repo ∧ row.visible = true ∧ s.view row = .ok r := by
  unfold page at h
  rcases hn : s.needTable "records" with e | _ <;> rw [hn] at h
  · exact nomatch h
  obtain ⟨row, hrow, hview⟩ := mem_of_mapM_ok h hr
  obtain ⟨hmem, hadm⟩ := List.mem_filter.1 (List.mem_of_mem_take hrow)
  simp only [Filter.admits, Bool.and_eq_true, beq_iff_eq] at hadm
  exact ⟨row, hmem, hadm.1.1.1.1.1.1, hadm.1.1.1.1.1.2, hview⟩

/-- **A page read on the way** lists outputs of the service, each read with the marks the
deletion left on it. -/
theorem keeps_page (cursor : Int) (size : Nat) :
    Keeps (PartlyDeleted id repo s₀) (fun page => ∀ o ∈ page, ∃ x, OutputRead id repo s₀ x o)
      (lookup (·.page repo { after := cursor } size)) := by
  refine .of_store (fun s => by rw [lookup_run]) fun s page hs h o ho => ?_
  rw [lookup_run] at h
  obtain ⟨row, hrow, hrepo, hvis, hview⟩ := exists_row_of_mem_page h ho
  have hout : s₀.OutputOf repo row.id := by
    rw [← outputOf_congr hs.places, outputOf_iff]
    exact ⟨row, hrow, rfl, hrepo, hvis⟩
  refine ⟨row.id, view_id hview, hout, view_successors hview, fun c hc hne => ?_,
    fun c hc hne => (view_inputFor hview).2 (hs.inputFor _ hc hne)⟩
  rcases hs.consumers _ hc hout hne with hp | hp
  · exact .inl ((view_processedBy hview).2 hp)
  · exact .inr ((view_inputFor hview).2 hp)

/-- **Withdrawing an output** read from a page keeps the deletion partial, wherever it stops. -/
theorem withdrawOutput_keeps (hq₀ : s₀.needsReplay = false) {repo' : String} {ev : Routing}
    {o : Record} {x : Int} (ho : OutputRead id repo s₀ x o) :
    Keeps (PartlyDeleted id repo s₀) (fun _ => True) (Service.withdrawOutput repo' ev o) := by
  unfold Service.withdrawOutput
  refine (Keeps.ofOutcome (Q := (· = x)) fun a ha => ?_).bind fun x' hx' => ?_
  · unfold Record.requireId at ha
    rw [ho.idEq] at ha
    cases ha
    rfl
  subst x'
  -- the edges into the output go one by one
  refine (Keeps.query _).bind fun ps _ => (Keeps.forM fun p _ =>
    keeps_atomically_partly hq₀ fun s a t hs h => ?_).bind fun _ _ => ?_
  · exact removeLineage_partly ((congrFun (outputOf_congr hs.places) x).symm ▸ ho.output) h
  -- then the output is rewritten, deleted, its marks turned into input
  have hw : ∀ s a t, PartlyDeleted id repo s₀ s → (updateRecord repo'
      (ev.reprocess { o with predecessors := [], status := .deleted }).1).run s = .ok (a, t) →
      PartlyDeleted id repo s₀ t := fun _ _ _ hs h => updateRecord_withdrawn_partly hs ho rfl h
  exact (Keeps.atomically (fun _ hs => (needsReplay_congr hs.tables).trans hq₀)
    fun s a t hs h => ⟨hw s a t hs h, trivial⟩).bind
    fun _ _ => .pure (Q := fun _ => True) trivial

/-- The service a deletion looks up is the one it started from, or it is gone and the lookup
fails. -/
theorem requireService_keeps {info : ServiceRow} (hinfo : s₀.service? id = .ok (some info)) :
    Keeps (PartlyDeleted id repo s₀) (· = info) (Service.requireService id) := by
  intro s hs
  rcases hr : ((Service.requireService id).run).run s with ⟨r, t⟩
  obtain ⟨rfl, hok⟩ := Service.requireService_eq hr
  refine ⟨hs, fun x hx => ?_⟩
  have h := (hs.service_of (hok x hx)).symm.trans hinfo
  cases h
  rfl

/-- **Withdrawing the pages** of the repository keeps the deletion partial, wherever it stops. -/
theorem withdrawPages_keeps (hq₀ : s₀.needsReplay = false) (size : Nat) :
    ∀ pages cursor ev, Keeps (PartlyDeleted id repo s₀) (fun _ => True)
      (Service.withdrawPages repo size pages cursor ev)
  | 0, _, _ => .pure trivial
  | pages + 1, cursor, ev => (keeps_page cursor size).bind fun page hpage => by
    split
    · exact .pure trivial
    · refine (Keeps.foldlM (R := fun _ => True) (fun _ o ho _ => ?_) trivial).bind
        fun _ _ => withdrawPages_keeps hq₀ size pages _ _
      obtain ⟨x, hx⟩ := hpage o ho
      exact withdrawOutput_keeps hq₀ hx

theorem processComplete_keeps (hq₀ : s₀.needsReplay = false) :
    Keeps (PartlyDeleted id repo s₀) (fun _ => True) (processComplete repo') :=
  Keeps.commitIndex.bind fun _ _ => keeps_atomically_partly hq₀ fun _ _ _ _ h => touch_partly h

theorem enqueue_keeps (hq₀ : s₀.needsReplay = false) (service : Int) (outputSet : Option String)
    (kind : JobKind) :
    Keeps (PartlyDeleted id repo s₀) (fun _ => True) (enqueue service outputSet kind) := by
  unfold enqueue
  refine (keeps_atomically_partly hq₀ fun _ _ _ _ h => insertJob_partly h).bind fun job _ => ?_
  dsimp only
  split
  · exact (Keeps.emit _).bind fun _ _ => .pure trivial
  · exact .pure trivial

theorem enqueueScheduled_keeps (hq₀ : s₀.needsReplay = false) (ev : Routing) :
    Keeps (PartlyDeleted id repo s₀) (fun _ => True) (enqueueScheduled ev) := by
  unfold enqueueScheduled
  exact (Keeps.foldlM (R := fun _ => True) (fun _ p _ _ =>
    (enqueue_keeps hq₀ p.1 p.2 _).bind fun _ _ => .pure trivial) trivial).bind
    fun _ _ => .pure trivial

theorem uninstall_keeps (hq₀ : s₀.needsReplay = false) (info : ServiceRow) (w : Service.Worker) :
    Keeps (PartlyDeleted id repo s₀) (fun _ => True) (Engine.uninstall info w) := by
  cases w with
  | aggregation =>
    exact keeps_atomically_partly hq₀ fun _ _ _ _ h => modifyPoints_partly h
  | scripted script =>
    simp only [Engine.uninstall]
    split
    · exact .throw
    · exact .pure trivial
  | normalization => exact .pure trivial

theorem instantiate_keeps (info : ServiceRow) :
    Keeps (PartlyDeleted id repo s₀) (fun _ => True) (Engine.instantiate info) :=
  Keeps.get.bind fun _ _ => .ofOutcome fun _ _ => trivial

end Deletion

end Catalog.Site

namespace Catalog.Service

open Catalog.Store Catalog.Site

variable {id : Int} {s₀ : Store}

/-- **Every run of a deletion is partly a deletion**, whether it succeeds or where it fails. -/
theorem delete_keeps (hq₀ : s₀.needsReplay = false) {info : ServiceRow}
    (hinfo : s₀.service? id = .ok (some info)) :
    Keeps (PartlyDeleted id info.repoName s₀) (fun _ => True) (delete id) := by
  unfold delete
  refine (requireService_keeps hinfo).bind fun i hi => ?_
  subst i
  dsimp only
  -- an active service is refused before anything is done
  split
  · exact Keeps.throw.bind (Q := fun _ => False) fun _ h => h.elim
  refine Keeps.get.bind fun _ _ => (Keeps.query _).bind fun _ _ => ?_
  refine (withdrawPages_keeps hq₀ _ _ _ _).bind fun ev _ => ?_
  refine (processComplete_keeps hq₀).bind fun _ _ => ?_
  refine (enqueueScheduled_keeps hq₀ ev).bind fun _ _ => ?_
  refine (keeps_atomically_partly hq₀ fun _ _ _ _ h => clearMarks_partly h).bind fun _ _ => ?_
  refine (keeps_atomically_partly hq₀ fun _ _ _ _ h => deleteDirectivesFor_partly h).bind
    fun _ _ => ?_
  refine (keeps_atomically_partly hq₀ fun _ _ _ _ h => removeJobsFor_partly h).bind fun _ _ => ?_
  refine (keeps_atomically_partly hq₀ fun _ _ _ _ h => deleteCounters_partly h).bind
    fun _ _ => ?_
  refine (instantiate_keeps info).bind fun w _ => (uninstall_keeps hq₀ info w).bind fun _ _ => ?_
  exact keeps_atomically_partly hq₀ fun _ _ _ _ h => deleteService_partly h

/-- The run of a deletion from a site whose store satisfies `PartlyDeleted` of itself ends
partly deleted. -/
theorem delete_partly {s t : Site} {r : Except Error Unit} (hq : s.store.needsReplay = false)
    {info : ServiceRow} (hinfo : s.store.service? id = .ok (some info))
    (h : ((delete id).run).run s = (r, t)) : PartlyDeleted id info.repoName s.store t.store := by
  have hk := (delete_keeps hq hinfo s (.refl _ _ _)).1
  rwa [h] at hk

/-- **A deletion after a failed one.** On a record table kept in id order, with positive ids,
and a schema that sets off nothing, let a deletion of a service fail and a second one succeed.
The failed one found the service and left the store partly deleted, and the second leaves of
that store all that one deletion leaves. Measured from the store before both, every mark of
another service on an output is input and no longer processed, as after a single deletion. Its
service has a job waiting when the mark was still there when the second deletion began, or a job
was already waiting for it then. A mark that the failed deletion took before it queued its
service was turned into input, and no job is owed for it. -/
theorem delete_after_failure {s₀ s₁ t : Site} {e : Error} (hq : s₀.store.needsReplay = false)
    (hk : s₀.store.KeyOrdered) (hpos : ∀ row ∈ s₀.store.records, 0 < row.id)
    (h₁ : ((delete id).run).run s₀ = (.error e, s₁))
    (h₂ : ((delete id).run).run s₁ = (.ok (), t)) :
    ∃ info, s₀.store.service? id = .ok (some info) ∧
      PartlyDeleted id info.repoName s₀.store s₁.store ∧ Retired id info s₁.store t.store ∧
      ∀ row ∈ s₀.store.records, row.repo = info.repoName → row.visible = true → ∀ c, c ≠ id →
        (row.id, c) ∈ s₀.store.processedBy →
          (row.id, c) ∈ t.store.inputFor ∧ (row.id, c) ∉ t.store.processedBy ∧
          ((row.id, c) ∈ s₁.store.processedBy ∨ (∃ j ∈ s₁.store.jobs, j.key = (c, none)) →
            ∃ j ∈ t.store.jobs, j.key = (c, none)) := by
  -- the first deletion found the service: had it not, it would have left the site, and the
  -- second would have failed the same way
  obtain ⟨info, hinfo₀⟩ : ∃ info, s₀.store.service? id = .ok (some info) := by
    rcases hr : ((requireService id).run).run s₀ with ⟨_ | info, u⟩
    · obtain ⟨rfl, -⟩ := requireService_eq hr
      unfold delete at h₁ h₂
      rw [run_bind, hr] at h₁
      cases h₁
      rw [run_bind, hr] at h₂
      cases h₂
    · exact ⟨info, (requireService_eq hr).2 info rfl⟩
  have hpart₁ := delete_partly hq hinfo₀ h₁
  have hq₁ : s₁.store.needsReplay = false := (needsReplay_congr hpart₁.tables).trans hq
  obtain ⟨info', hinfo₁, hret⟩ := retired_of_delete hq₁ (keyOrdered_of_places hpart₁.places hk)
    (pos_of_places hpart₁.places hpos) h₂
  have hsame : info' = info := by
    have h := (hpart₁.service_of hinfo₁).symm.trans hinfo₀
    cases h
    rfl
  subst info'
  have hpart₂ := delete_partly hq₁ hinfo₁ h₂
  refine ⟨info, hinfo₀, hpart₁, hret, fun row hrow hrepo hvis c hc hpb => ?_⟩
  have hout₀ : s₀.store.OutputOf info.repoName row.id := outputOf_iff.2 ⟨row, hrow, rfl, hrepo, hvis⟩
  by_cases hkept : (row.id, c) ∈ s₁.store.processedBy
  · -- the mark is still there: the second deletion moves it and queues the service
    have hout₁ : s₁.store.OutputOf info.repoName row.id := by
      rwa [outputOf_congr hpart₁.places]
    obtain ⟨row', hrow', hid, hrepo', hvis'⟩ := outputOf_iff.1 hout₁
    obtain ⟨hin, hnot, hjob⟩ := hret.consumers row' hrow' hrepo' hvis' c hc (hid ▸ hkept)
    rw [hid] at hin hnot
    exact ⟨hin, hnot, fun _ => hjob⟩
  · -- the failed deletion took the mark: it made it input, which the second one keeps
    have hin₁ := (hpart₁.consumers _ hpb hout₀ hc).resolve_left hkept
    refine ⟨hpart₂.inputFor _ hin₁ hc, fun h => hkept (hpart₂.processedBy _ h), ?_⟩
    rintro (h | ⟨j, hj, hkey⟩)
    · exact absurd h hkept
    · have hsid : j.serviceId = c := congrArg Prod.fst hkey
      exact ⟨j, hpart₂.jobs j hj (hsid ▸ hc), hkey⟩

/-- Service `S` has one output, `o1`, which service `T` processed, and the search index refuses
its first commit. -/
def consumedOutputSite : Site :=
  { store :=
      { records :=
          [{ id := 1, repo := "service:S", oaiId := "o1", format := "marc21", recordType := none
             status := .active, payload := .obj [], visible := true, batch := none
             updatedAt := 0 }]
        processedBy := [(1, 2)]
        services :=
          [{ id := 1, name := "S", kind := "normalization", version := "1.0",
              repoName := "service:S", status := .notRunning, totals := {} },
            { id := 2, name := "T", kind := "normalization", version := "1.0",
              repoName := "service:T", status := .notRunning, totals := {} }]
        tables :=
          { main := [.table { (default : Sql.Table) with name := "records" },
              .table { (default : Sql.Table) with name := "services" },
              .table { (default : Sql.Table) with name := "jobs" }] } }
    index := { failCommits := [1] } }

/-- Deleting `S` from `consumedOutputSite` fails when it completes the repository, after it
withdrew `o1`; deleting it again succeeds. -/
theorem deleting_again_after_withdrawing_a_consumed_output :
    ∃ s₁ t e, (consumedOutputSite.store.needsReplay = false ∧
        consumedOutputSite.store.KeyOrdered ∧
        (∀ row ∈ consumedOutputSite.store.records, 0 < row.id) ∧
        ((delete 1).run).run consumedOutputSite = (.error e, s₁) ∧
        ((delete 1).run).run s₁ = (.ok (), t)) ∧
      ∃ info, consumedOutputSite.store.service? 1 = .ok (some info) ∧
        PartlyDeleted 1 info.repoName consumedOutputSite.store s₁.store ∧
        Retired 1 info s₁.store t.store ∧
        ∀ row ∈ consumedOutputSite.store.records, row.repo = info.repoName →
          row.visible = true → ∀ c, c ≠ 1 → (row.id, c) ∈ consumedOutputSite.store.processedBy →
            (row.id, c) ∈ t.store.inputFor ∧ (row.id, c) ∉ t.store.processedBy ∧
            ((row.id, c) ∈ s₁.store.processedBy ∨ (∃ j ∈ s₁.store.jobs, j.key = (c, none)) →
              ∃ j ∈ t.store.jobs, j.key = (c, none)) := by
  have hq : consumedOutputSite.store.needsReplay = false :=
    needsReplay_of_bare (by simp [consumedOutputSite, Sql.Database.objects]; rfl)
  have hk : consumedOutputSite.store.KeyOrdered := by decide
  have hpos : ∀ row ∈ consumedOutputSite.store.records, 0 < row.id := by decide
  -- both deletions are evaluated whole, the second from where the first stopped
  obtain ⟨e, h₁⟩ := run_eq_error_of_toOption (a := delete 1) (s := consumedOutputSite)
    (by decide +kernel)
  obtain ⟨⟨⟩, h₂, -⟩ := run_eq_ok_of_toOption (a := delete 1)
    (s := (((delete 1).run).run consumedOutputSite).2) (f := fun _ : Unit => ()) (c := ())
    (by decide +kernel)
  exact ⟨_, _, e, ⟨hq, hk, hpos, h₁, h₂⟩, delete_after_failure hq hk hpos h₁ h₂⟩

end Catalog.Service
