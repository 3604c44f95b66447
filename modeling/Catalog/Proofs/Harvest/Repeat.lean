import Catalog.Proofs.Harvest.Storing
import Catalog.Proofs.Store.Readback

/-!
# Harvesting the same records twice

A successful harvest step asks its feed for records, opens a batch on the provider's repository,
stores the records one after another, ends the batch, and then only keeps its books: it completes
the repository, queues the services the records were routed to, notes when it ran and announces
it. This module follows such a step from start to end (`StepStored`): every OAI identifier reads
as the records sent under it leave it (`StoresAll`), the store stays in order for the next step,
and nothing but the records changes.

Two steps that are sent the same records therefore leave every record as the first left it, with
one exception: a record that keeps its payload because every record sent under its identifier is
a deletion writes that payload and reads it back once more for each of them, and a payload read
back from its JSON text need not be the payload written.

## Main results

* `StoredOne`, `stage_cons`, `Staged`, `stage_staged`: storing the sent records
* `Bookkeeping`: what a step does once its batch has ended
* `runStep_stored`: a whole successful step
* `harvest_twice_rereads_deleted_payloads`: two steps sent the same records
-/

namespace Catalog.Store

-- ---------------------------------------------------------------------------
-- Bookkeeping
-- ---------------------------------------------------------------------------

/-- The store without its bookkeeping: its jobs, its harvest steps, the repositories' times of
change and the ids handed out to anything but records. -/
def unbooked (s : Store) : Store :=
  { s with
    jobs := [], steps := [], modified := []
    lastId := fun q => if q = .records then s.lastId .records else 0 }

theorem shown_unbooked (s : Store) : s.unbooked.shown = s.shown := rfl

theorem touch_unbooked {repo : String} {s t : Store} {a : Unit}
    (h : (touch repo).run s = .ok (a, t)) : t.unbooked = s.unbooked := by
  rw [touch_eq h]
  rfl

theorem insertJob_unbooked {service : Int} {outputSet : Option String} {kind : Pipeline.JobKind}
    {s t : Store} {a : Option Pipeline.Job} (h : (insertJob service outputSet kind).run s = .ok (a, t)) :
    t.unbooked = s.unbooked := by
  have ht : s.hasTable "jobs" = true := hasTable_of_useTable h
  by_cases hw : ∃ j ∈ s.jobs, j.key = (service, outputSet)
  · rw [insertJob_run_waiting kind ht hw] at h
    cases h
    rfl
  · rw [insertJob_run_free kind ht hw] at h
    cases h
    simp [unbooked, withJob]

theorem setLastRan_unbooked {stepId time : Int} {s t : Store} {a : Unit}
    (h : (setLastRan stepId time).run s = .ok (a, t)) : t.unbooked = s.unbooked := by
  cases h
  rfl

/-- Bookkeeping keeps the bookkeeping of the records in order. -/
theorem Numbered.of_unbooked {s t : Store} (h : t.unbooked = s.unbooked) (hn : s.Numbered) :
    t.Numbered := by
  have hrecords : t.records = s.records := (congrArg Store.records h :)
  have hlast : t.lastId .records = s.lastId .records := by
    simpa [unbooked] using congrFun (congrArg Store.lastId h) .records
  have hbatch : t.lastBatch = s.lastBatch := (congrArg Store.lastBatch h :)
  have hsets : t.recordSets = s.recordSets := (congrArg Store.recordSets h :)
  have hpb : t.processedBy = s.processedBy := (congrArg Store.processedBy h :)
  have hin : t.inputFor = s.inputFor := (congrArg Store.inputFor h :)
  have hlin : t.lineage = s.lineage := (congrArg Store.lineage h :)
  have hord : t.KeyOrdered := by
    unfold KeyOrdered
    rw [hrecords]
    exact hn.ordered
  refine ⟨hord, ⟨?_, ?_⟩, ?_, ?_, ?_, ?_⟩ <;>
    simp only [hrecords, hlast, hbatch, hsets, hpb, hin, hlin]
  · exact hn.issued.records
  · exact hn.issued.batches
  · exact hn.sets
  · exact hn.processedBy
  · exact hn.inputFor
  · exact hn.lineage

theorem HeldOpen.of_unbooked {repo : String} {s t : Store} (h : t.unbooked = s.unbooked)
    (hheld : HeldOpen repo s) : HeldOpen repo t := by
  have hrecords : t.records = s.records := (congrArg Store.records h :)
  have hopen : t.openBatches = s.openBatches := (congrArg Store.openBatches h :)
  intro row hrow
  rw [hrecords] at hrow
  simpa only [purges, hopen] using hheld row hrow

end Catalog.Store

namespace Catalog.Harvest

open Catalog.Store Catalog.Site Catalog.Pipeline

/-- What storing one sent record did, from batch `b` on site `s` to batch `b'` on site `s'`: the
site changed in its store alone, and the store in its records alone; the batch is the same batch
and the store stays ready for it; the sent identifier reads as `Harvested.Stores` says and every
other as it did; and a record was added only where the identifier read as none and the sent
record is no deletion. -/
structure StoredOne (ds : List Directive) (format : String) (h : Harvested) (b : Batch) (s : Site)
    (b' : Batch) (s' : Site) : Prop where
  ready : Ready b' s'.store
  site : s' = { s with store := s'.store }
  beside : s'.store.beside = s.store.beside
  batch : b'.repo = b.repo ∧ b'.id = b.id ∧ b'.marks = b.marks
  others : ∀ y, y ≠ h.oaiId → b'.getOai? s'.store y = b.getOai? s.store y
  stores : h.Stores ds format (b.getOai? s.store h.oaiId) (b'.getOai? s'.store h.oaiId)
  ids : s'.store.records.map (·.id) = s.store.records.map (·.id) ∨
    b.getOai? s.store h.oaiId = .ok none ∧ h.deleted = false

/-- The record a step writes for a sent record that is no deletion: routed by the directives. -/
theorem Harvested.written_of_active {h : Harvested} (hd : h.deleted = false) (ev : Routing)
    (format : String) (r : Record) :
    (ev.evaluate (h.applyTo format r)).1 = h.written ev.directives format r := by
  unfold Harvested.written
  rw [if_neg (by rw [Harvested.applyTo_isDeleted, hd]; decide)]
  rfl

/-- The record a step writes for a deletion: sent back to the services that processed it. -/
theorem Harvested.written_of_deleted {h : Harvested} (hd : h.deleted = true) (ev : Routing)
    (format : String) (r : Record) :
    (ev.reprocess (h.applyTo format r)).1 = h.written ev.directives format r := by
  unfold Harvested.written
  rw [if_pos (by rw [Harvested.applyTo_isDeleted, hd])]
  rfl

/-- Storing a sent record over the record its identifier read as rewrites that record. -/
theorem stage_update {ds : List Directive} {format : String} {h : Harvested}
    {rest : List Harvested} {b : Batch} {ev : Routing} {sum : Summary} {s t : Site}
    {res : Batch × Routing × Summary} (hq : s.store.needsReplay = false) (hr : Ready b s.store)
    {r₀ : Record} (hget : b.getOai? s.store h.oaiId = .ok (some r₀)) {w : Record}
    (hw : w = h.written ds format r₀)
    (hrun : ((atomically (updateRecord b.repo w) >>= fun _ =>
      stage format rest b ev sum).run).run s = (.ok res, t)) :
    ∃ s₁, StoredOne ds format h b s b s₁ ∧ ((stage format rest b ev sum).run).run s₁ = (.ok res, t) := by
  obtain ⟨row, hfind, -, hview⟩ := Batch.getOai?_eq_some.1 hget
  obtain ⟨hid, hpred, hsucc, -, -⟩ := Engine.view_ok hview
  have hrow := (findOaiRow?_some hfind).1
  -- the record written keeps the id, identifier and lineage of the record read
  have hwid : w.id = r₀.id := hw ▸ rewrite_id h r₀
  have hwoai : w.oaiId = r₀.oaiId := hw ▸ rewrite_oaiId h r₀
  have hwpred : w.predecessors = r₀.predecessors := hw ▸ rewrite_predecessors h r₀
  have hwsucc : w.successors = r₀.successors := hw ▸ rewrite_successors h r₀
  have hedges : ∀ p ∈ w.predecessors, (p, row.id) ∈ s.store.lineage := fun p hp => by
    rw [hwpred, hpred, predecessorIds, SortedList.mem_ofList] at hp
    exact Engine.mem_firsts.1 hp
  rw [Site.run_bind] at hrun
  rcases hupd : ((atomically (updateRecord b.repo w)).run).run s with ⟨_ | ⟨⟩, s₁⟩ <;>
    rw [hupd] at hrun
  · cases hrun
  obtain ⟨htx, hs₁⟩ := atomically_eq_ok hq hupd
  have hstore := updateRecord_eq (hwid.trans hid) hedges (hwsucc.trans hsucc) htx
  have hread := Batch.getOai?_rewritten hr.numbered hget hid hwid hwoai hwpred hwsucc
    s₁.store.modified
  rw [← hstore] at hread
  refine ⟨s₁, ⟨?_, hs₁, by rw [hstore]; rfl, ⟨rfl, rfl, rfl⟩, fun y hy => ?_, ?_, .inl ?_⟩, hrun⟩
  · rw [hstore]
    exact hr.rewritten hrow w _
  · rw [hread, if_neg hy]
  · -- the identifier reads as the record written, stored
    rw [hget, hread, if_pos rfl, hw]
    rfl
  · rw [hstore]
    simp only [rewritten, List.map_map]
    refine List.map_congr_left fun row' _ => ?_
    simp only [Function.comp_apply]
    split <;> rfl

/-- Storing a sent record that is no deletion under an identifier that read as none stages it
under the next id. -/
theorem stage_add {ds : List Directive} {format : String} {h : Harvested} {rest : List Harvested}
    {b : Batch} {ev : Routing} {sum : Summary} {s t : Site} {res : Batch × Routing × Summary}
    (hq : s.store.needsReplay = false) (hr : Ready b s.store)
    (hget : b.getOai? s.store h.oaiId = .ok none) (hd : h.deleted = false) {w : Record}
    (hw : w = h.written ds format (Record.new h.oaiId format))
    (hrun : ((atomically (b.add w) >>= fun x => stage format rest x.2 ev sum).run).run s =
      (.ok res, t)) :
    ∃ b₁ s₁, StoredOne ds format h b s b₁ s₁ ∧
      ((stage format rest b₁ ev sum).run).run s₁ = (.ok res, t) := by
  -- the record written has no lineage and the sent identifier
  have hpre : w.predecessors = [] := hw ▸ rewrite_predecessors h (Record.new h.oaiId format)
  have hsuc : w.successors = [] := hw ▸ rewrite_successors h (Record.new h.oaiId format)
  have hoai : w.oaiId = h.oaiId := hw ▸ rewrite_oaiId h (Record.new h.oaiId format)
  rw [Site.run_bind] at hrun
  rcases hadd : ((atomically (b.add w)).run).run s with ⟨_ | ⟨j, b₁⟩, s₁⟩ <;> rw [hadd] at hrun
  · cases hrun
  obtain ⟨htx, hs₁⟩ := atomically_eq_ok hq hadd
  obtain ⟨rfl, rfl, hfree, hstore⟩ := Batch.add_eq hpre hsuc htx
  have hread := Batch.getOai?_staging hr.numbered hfree hpre hsuc s₁.store.modified
  rw [← hstore] at hread
  refine ⟨{ b with staged := SortedList.insert (s.store.lastId .records + 1) b.staged }, s₁,
    ⟨?_, hs₁, by rw [hstore]; rfl, ⟨rfl, rfl, rfl⟩, fun y hy => ?_, ?_, .inr ⟨hget, hd⟩⟩, hrun⟩
  · rw [hstore]
    exact hr.staging _ _
  · rw [hread, if_neg (fun he => hy (he.trans hoai))]
  · -- the identifier reads as the record staged, under the id handed out
    rw [hget]
    dsimp only [Harvested.Stores]
    rw [if_neg (by rw [hd]; decide)]
    refine ⟨s.store.lastId .records + 1, ?_⟩
    rw [hread, if_pos hoai.symm, rewrite_withId, hw]
    rfl

/-- **Storing one sent record.** A storing of `h :: rest` that succeeds stores `h` as
`StoredOne` says, under the directives it was given, and then stores `rest`. -/
theorem stage_cons {format : String} {h : Harvested} {rest : List Harvested} {b : Batch}
    {ev : Routing} {sum : Summary} {s t : Site} {res : Batch × Routing × Summary}
    (hq : s.store.needsReplay = false) (hr : Ready b s.store)
    (hrun : ((stage format (h :: rest) b ev sum).run).run s = (.ok res, t)) :
    ∃ b₁ ev₁ sum₁ s₁, StoredOne ev.directives format h b s b₁ s₁ ∧
      ev₁.directives = ev.directives ∧ ((stage format rest b₁ ev₁ sum₁).run).run s₁ = (.ok res, t) := by
  rw [stage, Site.run_bind, lookup_run] at hrun
  rcases hget : b.getOai? s.store h.oaiId with e | _ | r₀ <;> rw [hget] at hrun
  · cases hrun
  · dsimp only at hrun
    cases hd : h.deleted
    · -- a record never stored is staged
      rw [if_neg (by rw [hd]; decide)] at hrun
      obtain ⟨b₁, s₁, hone, hrest⟩ := stage_add hq hr hget hd
        (Harvested.written_of_active hd ev format (Record.new h.oaiId format)) hrun
      exact ⟨b₁, _, _, s₁, hone, (Engine.evaluate_routed ev _).directives, hrest⟩
    · -- a deletion of a record never stored is ignored
      rw [if_pos hd] at hrun
      refine ⟨b, ev, _, s, ⟨hr, rfl, rfl, ⟨rfl, rfl, rfl⟩, fun _ _ => rfl, ?_, .inl rfl⟩, rfl, hrun⟩
      rw [hget]
      dsimp only [Harvested.Stores]
      rw [if_pos hd]
  · -- the record read is rewritten
    dsimp only at hrun
    by_cases hdel : (h.applyTo format r₀).isDeleted = true
    · rw [if_pos hdel] at hrun
      rw [Harvested.applyTo_isDeleted] at hdel
      obtain ⟨s₁, hone, hrest⟩ := stage_update hq hr hget
        (Harvested.written_of_deleted hdel ev format r₀) hrun
      refine ⟨b, _, _, s₁, hone, ?_, hrest⟩
      exact Engine.foldl_directives (fun _ _ => Engine.schedule_directives ..) _ _
    · rw [if_neg hdel] at hrun
      rw [Harvested.applyTo_isDeleted, Bool.not_eq_true] at hdel
      obtain ⟨s₁, hone, hrest⟩ := stage_update hq hr hget
        (Harvested.written_of_active hdel ev format r₀) hrun
      exact ⟨b, _, _, s₁, hone, (Engine.evaluate_routed ev _).directives, hrest⟩

/-- What storing the sent records `hs` did, from batch `b` on site `s` to batch `b'` on site `t`:
the site changed in its store alone, and the store in its records alone; the batch is the same
batch and the store stays ready for it; every identifier reads as the records sent under it,
stored one after another, leave it (`StoresAll`); and no record was added where every record
that is no deletion is sent under an identifier that read as a record. -/
structure Staged (ds : List Directive) (format : String) (hs : List Harvested) (b : Batch)
    (s : Site) (b' : Batch) (t : Site) : Prop where
  ready : Ready b' t.store
  site : t = { s with store := t.store }
  beside : t.store.beside = s.store.beside
  batch : b'.repo = b.repo ∧ b'.id = b.id ∧ b'.marks = b.marks
  stores : ∀ x, StoresAll ds format (hs.filter (·.oaiId == x)) (b.getOai? s.store x)
    (b'.getOai? t.store x)
  ids : (∀ h ∈ hs, h.deleted = false → ∃ r, b.getOai? s.store h.oaiId = .ok (some r)) →
    t.store.records.map (·.id) = s.store.records.map (·.id)

section Staged

variable {ds : List Directive} {format : String} {b b₁ b' : Batch} {s s₁ t : Site}

theorem Staged.nil (hr : Ready b s.store) : Staged ds format [] b s b s :=
  ⟨hr, rfl, rfl, ⟨rfl, rfl, rfl⟩, fun _ => rfl, fun _ => rfl⟩

/-- Storing one record and then the rest. -/
theorem Staged.cons {h : Harvested} {rest : List Harvested} (h₁ : StoredOne ds format h b s b₁ s₁)
    (h₂ : Staged ds format rest b₁ s₁ b' t) : Staged ds format (h :: rest) b s b' t := by
  refine ⟨h₂.ready, ?_, h₂.beside.trans h₁.beside, ?_, fun x => ?_, fun hfound => ?_⟩
  · calc t = { s₁ with store := t.store } := h₂.site
      _ = { s with store := t.store } := by rw [h₁.site]
  · obtain ⟨hr₁, hi₁, hm₁⟩ := h₁.batch
    obtain ⟨hr₂, hi₂, hm₂⟩ := h₂.batch
    exact ⟨hr₂.trans hr₁, hi₂.trans hi₁, hm₂.trans hm₁⟩
  · -- the first record counts for its own identifier alone
    by_cases hx : h.oaiId = x
    · subst hx
      rw [List.filter_cons_of_pos (by simp)]
      exact ⟨_, h₁.stores, h₂.stores h.oaiId⟩
    · rw [List.filter_cons_of_neg (by simpa using hx), ← h₁.others x (Ne.symm hx)]
      exact h₂.stores x
  · -- the first record finds a record, and every later one still does
    have hkept : s₁.store.records.map (·.id) = s.store.records.map (·.id) := by
      rcases h₁.ids with hids | ⟨hnone, hd⟩
      · exact hids
      · obtain ⟨r, hr⟩ := hfound h List.mem_cons_self hd
        rw [hr] at hnone
        cases hnone
    refine (h₂.ids fun h' hh' hd' => ?_).trans hkept
    obtain ⟨r, hr⟩ := hfound h' (List.mem_cons_of_mem _ hh') hd'
    by_cases hx : h'.oaiId = h.oaiId
    · have hst := h₁.stores
      rw [← hx, hr] at hst
      exact ⟨_, hst⟩
    · exact ⟨r, (h₁.others _ hx).trans hr⟩

end Staged

/-- **Storing the sent records.** A storing that succeeds, on a store whose schema sets off
nothing and that is ready for the batch, stores them as `Staged` says, under the directives it
was given. -/
theorem stage_staged {format : String} {hs : List Harvested} {b : Batch} {ev : Routing}
    {sum : Summary} {s t : Site} {b' : Batch} {ev' : Routing} {sum' : Summary}
    (hq : s.store.needsReplay = false) (hr : Ready b s.store)
    (hrun : ((stage format hs b ev sum).run).run s = (.ok (b', ev', sum'), t)) :
    Staged ev.directives format hs b s b' t := by
  induction hs generalizing b ev sum s with
  | nil =>
    cases hrun
    exact .nil hr
  | cons h rest ih =>
    obtain ⟨b₁, ev₁, sum₁, s₁, hone, hdir, hrest⟩ := stage_cons hq hr hrun
    have htables : s₁.store.tables = s.store.tables := (congrArg Store.tables hone.beside :)
    have hq₁ : s₁.store.needsReplay = false := (needsReplay_congr htables).trans hq
    exact Staged.cons hone (hdir ▸ ih hq₁ hone.ready hrest)

-- ---------------------------------------------------------------------------
-- What a step does once its batch has ended
-- ---------------------------------------------------------------------------

section Bookkeeping

variable {α β : Type}

/-- An action that changes the store in its bookkeeping alone and leaves the feed as it was, run
on a store whose schema sets off nothing: what a step does once its batch has ended. -/
def Bookkeeping (a : Action α) : Prop :=
  ∀ s, s.store.needsReplay = false →
    ((a.run).run s).2.store.unbooked = s.store.unbooked ∧ ((a.run).run s).2.feed = s.feed

theorem Bookkeeping.of_site {a : Action α}
    (h : ∀ s, ((a.run).run s).2.store = s.store ∧ ((a.run).run s).2.feed = s.feed) :
    Bookkeeping a :=
  fun s _ => ⟨congrArg Store.unbooked (h s).1, (h s).2⟩

theorem Bookkeeping.pure (x : α) : Bookkeeping (pure x : Action α) :=
  .of_site fun _ => ⟨rfl, rfl⟩

theorem Bookkeeping.bind {x : Action α} {f : α → Action β} (hx : Bookkeeping x)
    (hf : ∀ a, Bookkeeping (f a)) : Bookkeeping (x >>= f) := by
  intro s hs
  have h₁ := hx s hs
  rw [Site.run_bind]
  rcases hrun : (x.run).run s with ⟨_ | a, u⟩ <;> rw [hrun] at h₁
  · exact h₁
  · have htables : u.store.tables = s.store.tables := (congrArg Store.tables h₁.1 :)
    obtain ⟨h₂, h₃⟩ := hf a u ((needsReplay_congr htables).trans hs)
    exact ⟨h₂.trans h₁.1, h₃.trans h₁.2⟩

theorem Bookkeeping.foldlM {f : β → α → Action β} (hf : ∀ b a, Bookkeeping (f b a))
    (xs : List α) (init : β) : Bookkeeping (xs.foldlM f init) := by
  induction xs generalizing init with
  | nil => exact .pure init
  | cons a as ih => exact (hf init a).bind fun b => ih b

theorem Bookkeeping.atomically {tx : Tx α}
    (h : ∀ u x t, tx.run u = .ok (x, t) → t.unbooked = u.unbooked) :
    Bookkeeping (atomically tx) := by
  intro s hs
  rw [atomically_run tx s hs]
  rcases hrun : tx.run s.store with e | ⟨x, t⟩
  · exact ⟨rfl, rfl⟩
  · exact ⟨h _ _ _ hrun, rfl⟩

theorem emit_bookkeeping (e : Event) : Bookkeeping (emit e) :=
  .of_site fun _ => ⟨rfl, rfl⟩

theorem commitIndex_bookkeeping : Bookkeeping commitIndex :=
  .of_site fun s => by
    simp only [commitIndex, Site.run_bind, run_get, run_set]
    split <;> exact ⟨rfl, rfl⟩

theorem processComplete_bookkeeping (repo : String) : Bookkeeping (processComplete repo) :=
  commitIndex_bookkeeping.bind fun _ => .atomically fun _ _ _ h => touch_unbooked h

theorem enqueueScheduled_bookkeeping (ev : Routing) : Bookkeeping (enqueueScheduled ev) := by
  unfold enqueueScheduled enqueue
  refine (Bookkeeping.foldlM (fun n p => ?_) _ _).bind fun _ => .pure _
  refine ((Bookkeeping.atomically fun _ _ _ h => insertJob_unbooked h).bind fun job? => ?_).bind
    fun _ => .pure _
  cases job? with
  | none => exact .pure _
  | some job => exact (emit_bookkeeping _).bind fun _ => .pure _

/-- What a bookkeeping action that ran left. -/
theorem Bookkeeping.run_eq {a : Action α} (ha : Bookkeeping a) {s t : Site} {r : Except Error α}
    (hs : s.store.needsReplay = false) (h : (a.run).run s = (r, t)) :
    t.store.unbooked = s.store.unbooked ∧ t.feed = s.feed := by
  have := ha s hs
  rw [h] at this
  exact this

end Bookkeeping

/-- A feed that answers moves on to its next list of records. -/
theorem Feed.answer_responses {f : Feed} {r : Request} {x : List Harvested × String}
    (h : (f.answer r).2 = .ok x) : (f.answer r).1.responses = f.responses.tail := by
  unfold Feed.answer at h ⊢
  dsimp only at h ⊢
  by_cases hdelay : f.delayMs > r.timeoutMs
  · rw [if_pos hdelay] at h
    cases h
  rw [if_neg hdelay] at h ⊢
  cases hfail : f.failure with
  | some message =>
    rw [hfail] at h
    cases h
  | none => cases f.responses <;> rfl

-- ---------------------------------------------------------------------------
-- A whole step
-- ---------------------------------------------------------------------------

/-- What a successful harvest step did, from site `s` to site `t`, storing the sent records `hs`
in repository `repo` under directives `ds` and format `format`: every identifier reads as the
records sent under it leave it; the store stays in order, with the same schema, directives and
lineage; no record was added where every record that is no deletion was found; and the feed
moved on to its next list. -/
structure StepStored (ds : List Directive) (format : String) (hs : List Harvested) (repo : String)
    (s t : Site) : Prop where
  shows : ∀ x, StoresAll ds format (hs.filter (·.oaiId == x)) (s.store.shown repo x)
    (t.store.shown repo x)
  numbered : t.store.Numbered
  held : HeldOpen repo t.store
  tables : t.store.tables = s.store.tables
  directives : t.store.directives = s.store.directives
  lineage : t.store.lineage = s.store.lineage
  ids : (∀ h ∈ hs, h.deleted = false → ∃ r, s.store.shown repo h.oaiId = .ok (some r)) →
    t.store.records.map (·.id) = s.store.records.map (·.id)
  feed : t.feed.responses = s.feed.responses.tail

/-- **A successful harvest step**, on a store whose bookkeeping is in order, whose schema sets off
nothing and whose provider's repository has no hidden row but those of open batches, stores the
records the feed sends as `StepStored` says, under the provider's directives. -/
theorem runStep_stored {provider : ProviderRow} {step : StepRow} {s t : Site} {sum : Summary}
    (hq : s.store.needsReplay = false) (hn : s.store.Numbered)
    (hheld : HeldOpen provider.repoName s.store)
    (h : ((runStep provider step).run).run s = (.ok sum, t)) :
    StepStored (s.store.directivesFor (.provider provider.id)) step.format
      (s.feed.responses.headD []) provider.repoName s t := by
  unfold runStep at h
  rw [run_bind, run_get] at h
  dsimp only at h
  -- the feed answers with its next list of records
  obtain ⟨⟨records, reported⟩, s₁, hask, h₁⟩ := run_bind_eq_ok h
  rw [ask_run] at hask
  obtain ⟨hans, hs₁⟩ := Prod.mk.inj hask
  have hrecords := Feed.answer_records hans
  have hstore₁ : s₁.store = s.store := by rw [← hs₁]
  rw [run_bind, query_run] at h₁
  -- the batch opens and purges nothing
  obtain ⟨⟨b, n⟩, s₂, hstart, h₂⟩ := run_bind_eq_ok h₁
  obtain ⟨hstartTx, hs₂⟩ := atomically_eq_ok (hstore₁ ▸ hq) hstart
  rw [hstore₁] at hstartTx
  have hready := Batch.start_ready hn hstartTx
  obtain ⟨rfl, hopened⟩ := Batch.start_of_held hheld hstartTx
  rw [run_bind, attempt_run] at h₂
  dsimp only at h₂
  have hq₂ : s₂.store.needsReplay = false := (needsReplay_congr (by rw [hopened])).trans hq
  generalize hst : ((stage step.format records { repo := provider.repoName, id := s.store.lastBatch + 1 }
    { directives := s₁.store.directivesFor (.provider provider.id) }
    { stepId := step.id, request := reported }).run).run s₂ = p at h₂
  obtain ⟨_ | ⟨b', ev, sum'⟩, s₃⟩ := p
  · -- a storing that fails fails the step
    rw [run_bind, attempt_run] at h₂
    cases h₂
  -- the records are stored, and the batch ends, showing them
  have hstaged := stage_staged hq₂ hready hst
  obtain ⟨_, s₄, hc, h₄⟩ := run_bind_eq_ok h₂
  have hq₃ : s₃.store.needsReplay = false :=
    (needsReplay_congr (congrArg Store.tables hstaged.beside :)).trans hq₂
  obtain ⟨hcommit, hs₄⟩ := atomically_eq_ok hq₃ hc
  have hmarks : b'.marks = [] := hstaged.batch.2.2
  have hshown₄ := Batch.getOai?_commit hstaged.ready.staged hmarks hcommit
  obtain ⟨hn₄, hheld₄⟩ := Batch.commit_held hstaged.ready hmarks hcommit
  have hstore₄ := Batch.commit_eq hmarks hcommit
  have hq₄ : s₄.store.needsReplay = false := (needsReplay_congr (by rw [hstore₄])).trans hq₃
  -- what follows is bookkeeping
  have hbook := Bookkeeping.run_eq ((processComplete_bookkeeping _).bind fun _ =>
    (enqueueScheduled_bookkeeping ev).bind fun _ =>
      (Bookkeeping.atomically fun _ _ _ h => setLastRan_unbooked h).bind fun _ =>
        (emit_bookkeeping _).bind fun _ => .pure sum') hq₄ h₄
  have hrepo' : b'.repo = provider.repoName := hstaged.batch.1
  have hfrom : ∀ x, Batch.getOai? { repo := provider.repoName, id := s.store.lastBatch + 1 }
      s₂.store x = s.store.shown provider.repoName x := fun x => by
    rw [Batch.getOai?_of_staged_nil rfl, hopened]
    rfl
  refine ⟨fun x => ?_, Numbered.of_unbooked hbook.1 hn₄,
    by rw [← hrepo']; exact HeldOpen.of_unbooked hbook.1 hheld₄, ?_, ?_, ?_, fun hfound => ?_, ?_⟩
  · -- every identifier reads as the records sent under it leave it
    have hto : t.store.shown provider.repoName x = b'.getOai? s₃.store x := by
      rw [← shown_unbooked, hbook.1, shown_unbooked, ← hshown₄ x, hrepo']
    rw [hto, ← hfrom, ← hrecords, ← hstore₁]
    exact hstaged.stores x
  -- the schema, the directives and the lineage are kept by each part of the step
  · calc t.store.tables = s₄.store.tables := (congrArg Store.tables hbook.1 :)
      _ = s₃.store.tables := by rw [hstore₄]
      _ = s₂.store.tables := (congrArg Store.tables hstaged.beside :)
      _ = s.store.tables := by rw [hopened]
  · calc t.store.directives = s₄.store.directives := (congrArg Store.directives hbook.1 :)
      _ = s₃.store.directives := by rw [hstore₄]
      _ = s₂.store.directives := (congrArg Store.directives hstaged.beside :)
      _ = s.store.directives := by rw [hopened]
  · calc t.store.lineage = s₄.store.lineage := (congrArg Store.lineage hbook.1 :)
      _ = s₃.store.lineage := by rw [hstore₄]
      _ = s₂.store.lineage := (congrArg Store.lineage hstaged.beside :)
      _ = s.store.lineage := by rw [hopened]
  · -- every record that is no deletion was found, so none was added
    have hids₃ := hstaged.ids fun h hh hd => by
      rw [hfrom]
      exact hfound h (hrecords ▸ hh) hd
    calc t.store.records.map (·.id) = s₄.store.records.map (·.id) :=
          congrArg (List.map (·.id)) (congrArg Store.records hbook.1 :)
      _ = s₃.store.records.map (·.id) := by
          rw [hstore₄, List.map_map]
          exact List.map_congr_left fun row _ => (b'.publish_seat row).1
      _ = s₂.store.records.map (·.id) := hids₃
      _ = s.store.records.map (·.id) := by rw [hopened]
  · -- the feed moved on
    calc t.feed.responses = s₄.feed.responses := by rw [hbook.2]
      _ = s₃.feed.responses := by rw [hs₄]
      _ = s₂.feed.responses := by rw [hstaged.site]
      _ = s₁.feed.responses := by rw [hs₂]
      _ = s.feed.responses.tail := by rw [← hs₁]; exact Feed.answer_responses hans

/-- **Harvesting the same records twice.** Let a feed send the same records `hs` to two
successive successful steps of a provider, in the same format, on a store whose bookkeeping is
in order, whose schema sets off nothing and whose provider's repository has no hidden row but
those of open batches. After the second step every OAI identifier reads as after the first, but
for the payload of a record that every record sent under it deletes: that payload reads back
once more for each of them. The second step adds no record, and no step changes the lineage. -/
theorem harvest_twice_rereads_deleted_payloads {provider : ProviderRow} {step step' : StepRow}
    {s t₁ t₂ : Site} {sum₁ sum₂ : Summary} {hs : List Harvested}
    {more : List (List Harvested)} (hq : s.store.needsReplay = false) (hn : s.store.Numbered)
    (hheld : HeldOpen provider.repoName s.store) (hfeed : s.feed.responses = hs :: hs :: more)
    (hformat : step'.format = step.format)
    (h₁ : ((runStep provider step).run).run s = (.ok sum₁, t₁))
    (h₂ : ((runStep provider step').run).run t₁ = (.ok sum₂, t₂)) :
    (∀ x, t₂.store.shown provider.repoName x =
      (t₁.store.shown provider.repoName x).map (Option.map fun r =>
        { r with payload := Json.reread^[rereads (hs.filter (·.oaiId == x))] r.payload })) ∧
    t₂.store.records.map (·.id) = t₁.store.records.map (·.id) ∧
    t₂.store.lineage = t₁.store.lineage := by
  have o₁ := runStep_stored hq hn hheld h₁
  have o₂ := runStep_stored ((needsReplay_congr o₁.tables).trans hq) o₁.numbered o₁.held h₂
  -- both steps store `hs` under the same directives and format
  have hds : t₁.store.directivesFor (.provider provider.id) =
      s.store.directivesFor (.provider provider.id) := by
    unfold directivesFor
    rw [o₁.directives]
  have hsent₁ : s.feed.responses.headD [] = hs := by rw [hfeed]; rfl
  have hsent₂ : t₁.feed.responses.headD [] = hs := by rw [o₁.feed, hfeed]; rfl
  have hstores₁ := fun x => hsent₁ ▸ o₁.shows x
  have hstores₂ : ∀ x, StoresAll (s.store.directivesFor (.provider provider.id)) step.format
      (hs.filter (·.oaiId == x)) (t₁.store.shown provider.repoName x)
      (t₂.store.shown provider.repoName x) := fun x => by
    have h := o₂.shows x
    rwa [hds, hformat, hsent₂] at h
  refine ⟨fun x => (hstores₁ x).twice (hstores₂ x), o₂.ids fun h hh hd => ?_, o₂.lineage⟩
  -- the first step stored every record that is no deletion
  rw [hsent₂] at hh
  exact (hstores₁ h.oaiId).found ⟨h, List.mem_filter.2 ⟨hh, by simp⟩, hd⟩

/-- A provider's repository holds record `a`, and the feed sends, twice, the deletion of `a`, a
new record `b`, and `b` again in a set: two successive steps of one format succeed. -/
theorem harvesting_a_deletion_and_a_new_record_twice :
    let row : RecordRow :=
      { id := 1, repo := "provider:p", oaiId := "a", format := "marc21", recordType := none,
        status := .active, payload := .null, visible := true, batch := none, updatedAt := 0 }
    let sent : List Harvested :=
      [⟨"a", [], true, .null⟩, ⟨"b", [], false, .null⟩, ⟨"b", ["s"], false, .null⟩]
    let s₀ : Site :=
      { store :=
          { records := [row], lastId := fun q => if q = .records then 1 else 0
            tables := { main := [.table { (default : Sql.Table) with name := "records" }] } }
        feed := { responses := [sent, sent] } }
    let provider : ProviderRow :=
      { id := 1, name := "p", baseUrl := "http://p", repoName := "provider:p" }
    let step : StepRow :=
      { id := 1, scheduleId := 1, order := 1, format := "marc21", setSpec := none,
        lastRan := none }
    ∃ t₁ t₂ sum₁ sum₂, (s₀.store.needsReplay = false ∧ s₀.store.Numbered ∧
        HeldOpen provider.repoName s₀.store ∧ s₀.feed.responses = sent :: sent :: [] ∧
        step.format = step.format ∧ ((runStep provider step).run).run s₀ = (.ok sum₁, t₁) ∧
        ((runStep provider step).run).run t₁ = (.ok sum₂, t₂)) ∧
      (∀ x, t₂.store.shown provider.repoName x =
        (t₁.store.shown provider.repoName x).map (Option.map fun r =>
          { r with payload := Json.reread^[rereads (sent.filter (·.oaiId == x))] r.payload })) ∧
      t₂.store.records.map (·.id) = t₁.store.records.map (·.id) ∧
      t₂.store.lineage = t₁.store.lineage := by
  intro row sent s₀ provider step
  have hq : s₀.store.needsReplay = false :=
    needsReplay_of_bare (by simp [s₀, Sql.Database.objects]; rfl)
  have hn : s₀.store.Numbered :=
    ⟨by decide, ⟨by simp [s₀, row], by simp [s₀, row]⟩, by simp [s₀], by simp [s₀], by simp [s₀],
      by simp [s₀]⟩
  have hheld : HeldOpen provider.repoName s₀.store := by
    unfold HeldOpen
    decide
  -- both runs are evaluated whole, the second from where the first left the site
  obtain ⟨sum₁, h₁, -⟩ := run_eq_ok_of_toOption (a := runStep provider step) (s := s₀)
    (f := fun _ : Summary => ()) (c := ()) (by decide +kernel)
  obtain ⟨sum₂, h₂, -⟩ := run_eq_ok_of_toOption (a := runStep provider step)
    (s := (((runStep provider step).run).run s₀).2) (f := fun _ : Summary => ()) (c := ())
    (by decide +kernel)
  exact ⟨_, _, sum₁, sum₂, ⟨hq, hn, hheld, rfl, rfl, h₁, h₂⟩,
    harvest_twice_rereads_deleted_payloads hq hn hheld rfl rfl h₁ h₂⟩

end Catalog.Harvest
