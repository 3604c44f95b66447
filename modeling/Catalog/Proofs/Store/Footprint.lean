import Mathlib
import Catalog.Store.Batch
import Catalog.Store.Lineage
import Catalog.Store.Services
import Catalog.Store.Routing
import Catalog.Store.Jobs
import Catalog.Store.Triggers
import Catalog.Proofs.SortedList

/-!
# What a store transaction writes

A pass of a service writes its outputs, and its marks of the inputs it processed, into
the record table and three relations beside it: lineage, the services that processed a
record, and the services a record is input for. This module says, for every transaction a
pass runs, what it does to these tables (`Rows`): most leave them alone; writing a record
rewrites or adds one row and the relations of its id; a batch makes its rows visible and
applies its marks when it ends, and purges abandoned rows of its repository when it opens.

Each effect is stated as what holds of the store a successful run leaves, so that a caller
holding the run can use it without opening the transaction.

## Main results

* `KeepsRows`, with the transactions that keep the rows: a service's row, a counter, a job,
  a link, the match points, a repository's time of change
* `writeRelations_wrote`, `insertRecord_inserted`, `updateRecord_rewrote`: writing a record
* `Batch.add_inserted`, `Batch.commit_committed`, `Batch.commit_ok`, `Batch.start_started`:
  the life of a batch
* `removeLineage_eq`: dropping an edge
-/

namespace Catalog.Store

open Std.Do

variable {α β : Type}

-- ---------------------------------------------------------------------------
-- Running transactions
-- ---------------------------------------------------------------------------

@[spec] theorem fault_spec (f : StoreFault) (Q : PostCond α (.arg Store (.except Error .pure))) :
    ⦃fun _ => Q.2.1 (.storage f)⦄ (fault f : Tx α) ⦃Q⦄ := by
  simp [Triple.iff, fault]

@[spec] theorem failWith_spec (e : Error) (Q : PostCond α (.arg Store (.except Error .pure))) :
    ⦃fun _ => Q.2.1 e⦄ (failWith e : Tx α) ⦃Q⦄ := by
  simp [Triple.iff, failWith]

/-- What a transaction promises when it succeeds holds of the store a successful run
leaves. -/
theorem Tx.of_spec {tx : Tx α} {P : Store → Prop} {Q : α → Store → Prop}
    (h : ⦃fun s => ⌜P s⌝⦄ tx ⦃⇓? a s => ⌜Q a s⌝⦄) {s t : Store} {a : α} (hs : P s)
    (hrun : tx.run s = .ok (a, t)) : Q a t := by
  have hwp := h s hs
  simp [wp, hrun] at hwp
  exact hwp

/-- A bind succeeds when its first part succeeds and the rest succeeds from there. -/
theorem Tx.bind_eq_ok {x : Tx α} {f : α → Tx β} {s t : Store} {b : β} :
    (x >>= f).run s = .ok (b, t) ↔ ∃ a u, x.run s = .ok (a, u) ∧ (f a).run u = .ok (b, t) := by
  rw [StateT.run_bind]
  rcases x.run s with e | ⟨a, u⟩
  · exact ⟨fun h => (nomatch h), fun ⟨_, _, h, _⟩ => (nomatch h)⟩
  · exact ⟨fun h => ⟨a, u, rfl, h⟩, fun ⟨_, _, h, h'⟩ => by cases h; exact h'⟩

/-- A fact about every successful run from a store is what the transaction promises from
it. -/
theorem Tx.spec_of_run {tx : Tx α} {s : Store} {Q : α → Store → Prop}
    (h : ∀ a t, tx.run s = .ok (a, t) → Q a t) : ⦃fun u => ⌜u = s⌝⦄ tx ⦃⇓? a t => ⌜Q a t⌝⦄ := by
  intro u hu
  cases hu
  rcases hrun : tx.run s with e | ⟨a, t⟩
  · simp [wp, hrun]
    exact trivial
  · simp [wp, hrun]
    exact h a t hrun

-- ---------------------------------------------------------------------------
-- The rows of records
-- ---------------------------------------------------------------------------

/-- The part of the store that a pass's outputs and marks live in: the record rows, the
lineage edges, the services that processed each record and those each record is input for,
the last record id handed out, and whether the schema makes operations be replayed. -/
structure Rows where
  records : List RecordRow
  lineage : List (Int × Int)
  processedBy : List (Int × Int)
  inputFor : List (Int × Int)
  lastRecord : Int
  replay : Bool

/-- The rows of a store. -/
def rows (s : Store) : Rows :=
  ⟨s.records, s.lineage, s.processedBy, s.inputFor, s.lastId .records, s.needsReplay⟩

/-- Whether a replay is needed depends on the schema alone. -/
theorem needsReplay_congr {s t : Store} (h : t.tables = s.tables) :
    t.needsReplay = s.needsReplay := by
  simp only [needsReplay, hasTriggers, hasUniqueIndex, hasAddedColumn, h]

/-- A transaction that leaves the rows alone whenever it succeeds. -/
def KeepsRows (tx : Tx α) : Prop :=
  ∀ r, ⦃fun s => ⌜s.rows = r⌝⦄ tx ⦃⇓? _ s => ⌜s.rows = r⌝⦄

theorem KeepsRows.rows_eq {tx : Tx α} (h : KeepsRows tx) {s t : Store} {a : α}
    (hrun : tx.run s = .ok (a, t)) : t.rows = s.rows :=
  Tx.of_spec (h s.rows) rfl hrun

theorem KeepsRows.of_run {tx : Tx α}
    (h : ∀ s a t, tx.run s = .ok (a, t) → t.rows = s.rows) : KeepsRows tx := by
  intro r s hs
  exact Tx.spec_of_run (fun a t ht => (h s a t ht).trans hs) s rfl

theorem KeepsRows.pure (a : α) : KeepsRows (pure a : Tx α) := by
  intro r
  mvcgen

theorem KeepsRows.bind {x : Tx α} {f : α → Tx β} (hx : KeepsRows x) (hf : ∀ a, KeepsRows (f a)) :
    KeepsRows (x >>= f) := by
  refine KeepsRows.of_run fun s b t h => ?_
  obtain ⟨a, u, hxu, hft⟩ := Tx.bind_eq_ok.1 h
  exact ((hf a).rows_eq hft).trans (hx.rows_eq hxu)

theorem KeepsRows.forM {xs : List α} {f : α → Tx PUnit} (h : ∀ a ∈ xs, KeepsRows (f a)) :
    KeepsRows (xs.forM f) := by
  induction xs with
  | nil => exact KeepsRows.pure _
  | cons a as ih =>
    exact (h a (List.mem_cons_self ..)).bind fun _ =>
      ih fun b hb => h b (List.mem_cons_of_mem a hb)

/-- A change of the store that keeps the rows of every store. -/
theorem keepsRows_modify {f : Store → Store} (h : ∀ s, (f s).rows = s.rows) :
    KeepsRows (modify f) := by
  intro r
  mvcgen
  rename_i s hs t
  exact (h s).trans hs

theorem touch_keepsRows (repo : String) : KeepsRows (touch repo) := by
  intro r
  mvcgen [touch]

theorem modifyService_keepsRows (id : Int) (f : ServiceRow → ServiceRow) :
    KeepsRows (modifyService id f) := by
  intro r
  mvcgen [modifyService, useTable]

theorem tryStart_keepsRows (id : Int) : KeepsRows (tryStart id) := by
  intro r
  mvcgen [tryStart, modifyService, useTable]

theorem setStatus_keepsRows (id : Int) (status : Service.Status) :
    KeepsRows (setStatus id status) := by
  intro r
  mvcgen [setStatus, modifyService, useTable]

theorem saveTotals_keepsRows (id : Int) (totals : Pipeline.ServiceTotals) :
    KeepsRows (saveTotals id totals) :=
  modifyService_keepsRows id _

theorem saveCounter_keepsRows (scope name : String) (next : Int) :
    KeepsRows (saveCounter scope name next) :=
  keepsRows_modify fun s => by split <;> rfl

theorem insertJob_keepsRows (service : Int) (outputSet : Option String) (kind : Pipeline.JobKind) :
    KeepsRows (insertJob service outputSet kind) := by
  intro r
  mvcgen [insertJob, nextId, useTable]

theorem addLink_keepsRows (fromId toId : Int) : KeepsRows (addLink fromId toId) := by
  intro r
  mvcgen [addLink]

theorem modifyPoints_keepsRows (f : Matching.PointTable → Matching.PointTable) :
    KeepsRows (modify fun s : Store => { s with points := f s.points }) :=
  keepsRows_modify fun _ => rfl

-- ---------------------------------------------------------------------------
-- Lineage edges
-- ---------------------------------------------------------------------------

/-- What a run of edge additions leaves: the store with only its lineage changed, every
new edge of the given kind and between records that exist. -/
structure LineageGrown (new : Int × Int → Prop) (s t : Store) : Prop where
  same : t = { s with lineage := t.lineage }
  lineage : ∀ e ∈ t.lineage, e ∈ s.lineage ∨ (new e ∧ s.hasRecord e.1 ∧ s.hasRecord e.2)

theorem LineageGrown.refl (new : Int × Int → Prop) (s : Store) : LineageGrown new s s :=
  ⟨rfl, fun _ he => .inl he⟩

theorem LineageGrown.trans {new new' : Int × Int → Prop} {s u t : Store}
    (h : LineageGrown new s u) (h' : LineageGrown new' u t) :
    LineageGrown (fun e => new e ∨ new' e) s t := by
  have hrec : u.hasRecord = s.hasRecord := by rw [h.same]; rfl
  refine ⟨by rw [h'.same, h.same], fun e he => ?_⟩
  rcases h'.lineage e he with hu | ⟨hnew, h1, h2⟩
  · rcases h.lineage e hu with hs | ⟨hnew, h1, h2⟩
    · exact .inl hs
    · exact .inr ⟨.inl hnew, h1, h2⟩
  · rw [hrec] at h1 h2
    exact .inr ⟨.inr hnew, h1, h2⟩

theorem LineageGrown.mono {new new' : Int × Int → Prop} {s t : Store}
    (h : LineageGrown new s t) (hn : ∀ e, new e → new' e) : LineageGrown new' s t :=
  ⟨h.same, fun e he => (h.lineage e he).imp_right fun ⟨hnew, h1, h2⟩ => ⟨hn e hnew, h1, h2⟩⟩

theorem addEdge_grown {p q : Int} {s t : Store} {a : Unit} (h : (addEdge p q).run s = .ok (a, t)) :
    LineageGrown (· = (p, q)) s t := by
  refine Tx.of_spec (P := (· = s)) (Q := fun _ t => LineageGrown (· = (p, q)) s t) ?_ rfl h
  mvcgen [addEdge]
  all_goals subst_vars
  · exact LineageGrown.refl _ _
  · rename_i hnew
    simp only [Bool.and_eq_true] at hnew
    refine ⟨rfl, fun e he => ?_⟩
    rcases List.mem_append.1 he with hs | hpq
    · exact .inl hs
    · obtain rfl := List.mem_singleton.1 hpq
      exact .inr ⟨rfl, hnew⟩

theorem forM_addEdge_grown {ps : List Int} {q : Int} {s t : Store} {a : Unit}
    (h : (ps.forM fun p => addEdge p q).run s = .ok (a, t)) :
    LineageGrown (fun e => e.1 ∈ ps ∧ e.2 = q) s t := by
  induction ps generalizing s with
  | nil =>
    cases h
    exact LineageGrown.refl _ _
  | cons p ps ih =>
    obtain ⟨_, u, hp, hrest⟩ := Tx.bind_eq_ok.1 h
    refine ((addEdge_grown hp).trans (ih hrest)).mono fun e he => ?_
    rcases he with rfl | ⟨hin, hq⟩
    · exact ⟨List.mem_cons_self .., rfl⟩
    · exact ⟨List.mem_cons_of_mem _ hin, hq⟩

theorem forM_addEdge_from_grown {qs : List Int} {p : Int} {s t : Store} {a : Unit}
    (h : (qs.forM fun q => addEdge p q).run s = .ok (a, t)) :
    LineageGrown (fun e => e.1 = p ∧ e.2 ∈ qs) s t := by
  induction qs generalizing s with
  | nil =>
    cases h
    exact LineageGrown.refl _ _
  | cons q qs ih =>
    obtain ⟨_, u, hq, hrest⟩ := Tx.bind_eq_ok.1 h
    refine ((addEdge_grown hq).trans (ih hrest)).mono fun e he => ?_
    rcases he with rfl | ⟨hp, hin⟩
    · exact ⟨rfl, List.mem_cons_self ..⟩
    · exact ⟨hp, List.mem_cons_of_mem _ hin⟩

-- ---------------------------------------------------------------------------
-- Writing a record
-- ---------------------------------------------------------------------------

@[simp] theorem mem_addPair [BEq α] [LawfulBEq α] [BEq β] [LawfulBEq β] {xs : List (α × β)}
    {p q : α × β} : q ∈ addPair xs p ↔ q ∈ xs ∨ q = p := by
  unfold addPair
  split
  · rename_i hp
    exact ⟨.inl, fun h => h.elim id fun hq => hq ▸ List.contains_iff_mem.1 hp⟩
  · simp

theorem mem_foldl_addPair [BEq α] [LawfulBEq α] [BEq β] [LawfulBEq β] {xs : List (α × β)}
    {a : α} {ys : List β} {q : α × β} :
    q ∈ ys.foldl (fun acc y => addPair acc (a, y)) xs ↔ q ∈ xs ∨ (q.1 = a ∧ q.2 ∈ ys) := by
  induction ys generalizing xs with
  | nil => simp
  | cons y ys ih =>
    rw [List.foldl_cons, ih, mem_addPair]
    rcases q with ⟨q1, q2⟩
    simp only [Prod.mk.injEq, List.mem_cons]
    tauto

/-- A lineage edge that writing record `i` as `r` adds: from one of its predecessors, or
to one of its successors. -/
def Joins (r : Record) (i : Int) (e : Int × Int) : Prop :=
  (e.1 ∈ r.predecessors ∧ e.2 = i) ∨ (e.1 = i ∧ e.2 ∈ r.successors)

/-- What writing the relations of record `i` as `r` does: it adds the record's services
and the edges to and from it between records that exist, and nothing else. -/
structure WroteRelations (i : Int) (r : Record) (s t : Store) : Prop where
  records : t.records = s.records
  lastId : t.lastId = s.lastId
  tables : t.tables = s.tables
  processedBy : ∀ p, p ∈ t.processedBy ↔ p ∈ s.processedBy ∨ (p.1 = i ∧ p.2 ∈ r.processedBy)
  inputFor : ∀ p, p ∈ t.inputFor ↔ p ∈ s.inputFor ∨ (p.1 = i ∧ p.2 ∈ r.inputFor)
  lineage : ∀ e ∈ t.lineage, e ∈ s.lineage ∨ (Joins r i e ∧ s.hasRecord e.1 ∧ s.hasRecord e.2)

theorem writeRelations_wrote {i : Int} {r : Record} {s t : Store} {a : Unit}
    (h : (writeRelations i r).run s = .ok (a, t)) : WroteRelations i r s t := by
  obtain ⟨_, u, hu, hedges⟩ := Tx.bind_eq_ok.1 h
  obtain ⟨_, w, hpred, hsucc⟩ := Tx.bind_eq_ok.1 hedges
  cases hu
  have hp := forM_addEdge_grown hpred
  have hs := forM_addEdge_from_grown hsucc
  have hg := hp.trans hs
  rw [hg.same]
  refine ⟨rfl, rfl, rfl, fun _ => mem_foldl_addPair, fun _ => mem_foldl_addPair, fun e he => ?_⟩
  rcases hg.lineage e he with hold | ⟨hnew, h1, h2⟩
  · exact .inl hold
  · exact .inr ⟨hnew, h1, h2⟩

/-- A record row's place: its id, repository, visibility and staging batch. -/
def RecordRow.place (row : RecordRow) : Int × String × Bool × Option Nat :=
  (row.id, row.repo, row.visible, row.batch)

theorem writeRelations_spec (i : Int) (r : Record) (s : Store) :
    ⦃fun u => ⌜u = s⌝⦄ writeRelations i r ⦃⇓? _ t => ⌜WroteRelations i r s t⌝⦄ :=
  Tx.spec_of_run fun _ _ h => writeRelations_wrote h

/-- What inserting record `r` into a repository under the next id `i` does: the row is
added in its place, its relations are written, and nothing else changes. -/
structure Inserted (repo : String) (r : Record) (batch : Option Nat) (i : Int) (s t : Store) :
    Prop where
  id : i = s.lastId .records + 1
  lastRecord : t.lastId .records = i
  places : t.records.map RecordRow.place = s.records.map RecordRow.place ++ [(i, repo, batch.isNone, batch)]
  processedBy : ∀ p, p ∈ t.processedBy ↔ p ∈ s.processedBy ∨ (p.1 = i ∧ p.2 ∈ r.processedBy)
  inputFor : ∀ p, p ∈ t.inputFor ↔ p ∈ s.inputFor ∨ (p.1 = i ∧ p.2 ∈ r.inputFor)
  lineage : ∀ e ∈ t.lineage, e ∈ s.lineage ∨
    (Joins r i e ∧ (e.1 = i ∨ s.hasRecord e.1) ∧ (e.2 = i ∨ s.hasRecord e.2))
  tables : t.tables = s.tables

theorem hasRecord_iff {s : Store} {x : Int} : s.hasRecord x = true ↔ ∃ row ∈ s.records, row.id = x := by
  simp [hasRecord]

theorem hasRecord_iff_places {s : Store} {x : Int} :
    s.hasRecord x = true ↔ ∃ p ∈ s.records.map RecordRow.place, p.1 = x := by
  simp [hasRecord_iff, RecordRow.place]

/-- Writing the relations of a row just added under the next id inserts the record. -/
theorem Inserted.of_wrote {repo : String} {r : Record} {batch : Option Nat} {i : Int}
    {s u t : Store} (hw : WroteRelations i r u t) (hi : i = s.lastId .records + 1)
    (hu : u.records.map RecordRow.place =
      s.records.map RecordRow.place ++ [(i, repo, batch.isNone, batch)])
    (hlast : u.lastId .records = i) (hlin : u.lineage = s.lineage)
    (hpb : u.processedBy = s.processedBy) (hin : u.inputFor = s.inputFor)
    (htab : u.tables = s.tables) : Inserted repo r batch i s t := by
  -- the ids of the middle store are those before and the new one
  have hrec : ∀ x, u.hasRecord x = true → x = i ∨ s.hasRecord x = true := by
    intro x hx
    rw [hasRecord_iff_places, hu] at hx
    obtain ⟨p, hp, rfl⟩ := hx
    rcases List.mem_append.1 hp with hs | hnew
    · exact .inr (hasRecord_iff_places.2 ⟨p, hs, rfl⟩)
    · exact .inl (by rw [List.mem_singleton.1 hnew])
  refine ⟨hi, by rw [hw.lastId, hlast], by rw [hw.records, hu], fun p => ?_, fun p => ?_,
    fun e he => ?_, by rw [hw.tables, htab]⟩
  · rw [hw.processedBy, hpb]
  · rw [hw.inputFor, hin]
  · rcases hw.lineage e he with hold | ⟨hj, h1, h2⟩
    · exact .inl (hlin ▸ hold)
    · exact .inr ⟨hj, hrec _ h1, hrec _ h2⟩

theorem insertRecord_inserted {repo : String} {r : Record} {batch : Option Nat} {s t : Store}
    {i : Int} (h : (insertRecord repo r batch).run s = .ok (i, t)) : Inserted repo r batch i s t := by
  refine Tx.of_spec (P := (· = s)) (Q := fun i t => Inserted repo r batch i s t) ?_ rfl h
  mvcgen [insertRecord, useTable, nextId, writeRelations_spec]
  all_goals subst_vars
  rename_i _ hw
  exact Inserted.of_wrote hw rfl List.map_append rfl rfl rfl rfl rfl

@[spec] theorem ofOutcome_spec (x : Outcome α) (Q : PostCond α (.arg Store (.except Error .pure))) :
    ⦃fun s => match x with | .ok a => Q.1 a s | .error e => Q.2.1 e⦄ (ofOutcome x) ⦃Q⦄ := by
  cases x <;> simp [Triple.iff, ofOutcome]

theorem touch_spec (repo : String) (s : Store) :
    ⦃fun u => ⌜u = s⌝⦄ touch repo ⦃⇓? _ t => ⌜t = { s with modified := t.modified }⌝⦄ := by
  mvcgen [touch]
  subst_vars
  rfl

/-- What rewriting record `i` of a repository as `r` does: the row keeps its place, the
services of its id are replaced by the record's, edges to and from it are added, and
nothing else changes. -/
structure Rewrote (repo : String) (i : Int) (r : Record) (s t : Store) : Prop where
  found : ∃ row ∈ s.records, row.id = i ∧ row.repo = repo
  places : t.records.map RecordRow.place = s.records.map RecordRow.place
  processedBy : ∀ p, p ∈ t.processedBy ↔ (p ∈ s.processedBy ∧ p.1 ≠ i) ∨ (p.1 = i ∧ p.2 ∈ r.processedBy)
  inputFor : ∀ p, p ∈ t.inputFor ↔ (p ∈ s.inputFor ∧ p.1 ≠ i) ∨ (p.1 = i ∧ p.2 ∈ r.inputFor)
  lineage : ∀ e ∈ t.lineage, e ∈ s.lineage ∨ (Joins r i e ∧ s.hasRecord e.1 ∧ s.hasRecord e.2)
  lastRecord : t.lastId .records = s.lastId .records
  tables : t.tables = s.tables

theorem ofOutcome_eq_ok {x : Outcome α} {s t : Store} {a : α} (h : (ofOutcome x).run s = .ok (a, t)) :
    x = .ok a ∧ t = s := by
  cases x with
  | error e => exact nomatch h
  | ok b =>
    cases h
    exact ⟨rfl, rfl⟩

theorem findRow?_isSome {s : Store} {repo : String} {i : Int} (h : (s.findRow? repo i).isSome) :
    ∃ row ∈ s.records, row.id = i ∧ row.repo = repo := by
  obtain ⟨row, hrow, hp⟩ := List.find?_isSome.1 h
  exact ⟨row, hrow, by simpa using hp⟩

/-- Writing the relations of a row whose own relations were dropped, then touching the
repository, rewrites the record. -/
theorem Rewrote.of_wrote {repo : String} {i : Int} {r : Record} {s u w t : Store}
    (hw : WroteRelations i r u w) (ht : t = { w with modified := t.modified })
    (hfound : (s.findRow? repo i).isSome)
    (hplaces : u.records.map RecordRow.place = s.records.map RecordRow.place)
    (hpb : u.processedBy = s.processedBy.filter (·.1 != i))
    (hin : u.inputFor = s.inputFor.filter (·.1 != i)) (hlin : u.lineage = s.lineage)
    (hlast : u.lastId = s.lastId) (htab : u.tables = s.tables) : Rewrote repo i r s t := by
  have hrec : u.hasRecord = s.hasRecord := by
    funext x
    rw [Bool.eq_iff_iff, hasRecord_iff_places, hasRecord_iff_places, hplaces]
  rw [ht]
  refine ⟨findRow?_isSome hfound, by rw [← hplaces, ← hw.records], fun p => ?_, fun p => ?_,
    fun e he => ?_, by rw [hw.lastId, hlast], by rw [hw.tables, htab]⟩
  · rw [hw.processedBy, hpb, List.mem_filter, bne_iff_ne, ne_eq]
  · rw [hw.inputFor, hin, List.mem_filter, bne_iff_ne, ne_eq]
  · rcases hw.lineage e he with hold | ⟨hj, h1, h2⟩
    · exact .inl (hlin ▸ hold)
    · rw [hrec] at h1 h2
      exact .inr ⟨hj, h1, h2⟩

theorem updateRecord_rewrote {repo : String} {r : Record} {s t : Store} {a : Unit}
    (h : (updateRecord repo r).run s = .ok (a, t)) : ∃ i, r.id = some i ∧ Rewrote repo i r s t := by
  obtain ⟨i, u, hi, hrest⟩ := Tx.bind_eq_ok.1 h
  obtain ⟨hid, rfl⟩ := ofOutcome_eq_ok hi
  refine ⟨i, ?_, ?_⟩
  · unfold Record.requireId at hid
    split at hid <;> simp_all
  refine Tx.of_spec (P := (· = u)) (Q := fun _ t => Rewrote repo i r u t) ?_ rfl hrest
  mvcgen [useTable, writeRelations_spec, touch_spec]
  subst_vars
  rename_i hfound _ _ hw _ _
  intro ht
  refine Rewrote.of_wrote hw ht hfound ?_ rfl rfl rfl rfl rfl
  rw [List.map_map]
  exact List.map_congr_left fun row _ => by
    simp only [Function.comp_apply]
    split <;> rfl

theorem touch_eq {repo : String} {s t : Store} {a : Unit} (h : (touch repo).run s = .ok (a, t)) :
    t = { s with modified := t.modified } :=
  Tx.of_spec (P := (· = s)) (Q := fun _ t => t = { s with modified := t.modified })
    (touch_spec repo s) rfl h

theorem Inserted.touch {repo : String} {r : Record} {batch : Option Nat} {i : Int} {s t t' : Store}
    (h : Inserted repo r batch i s t) (ht : t' = { t with modified := t'.modified }) :
    Inserted repo r batch i s t' := by
  rw [ht]
  exact ⟨h.id, h.lastRecord, h.places, h.processedBy, h.inputFor, h.lineage, h.tables⟩

-- ---------------------------------------------------------------------------
-- Batches
-- ---------------------------------------------------------------------------

/-- Staging a record in a batch inserts it, invisible and under the batch's id. -/
theorem Batch.add_inserted {b b' : Batch} {r : Record} {s t : Store} {i : Int}
    (h : (b.add r).run s = .ok ((i, b'), t)) :
    Inserted b.repo r (some b.id) i s t ∧ b' = { b with staged := SortedList.insert i b.staged } := by
  obtain ⟨j, u, hins, hrest⟩ := Tx.bind_eq_ok.1 h
  obtain ⟨_, w, htouch, hpure⟩ := Tx.bind_eq_ok.1 hrest
  cases hpure
  exact ⟨(insertRecord_inserted hins).touch (touch_eq htouch), rfl⟩

/-- What applying marks does: the marked pairs join the processed pairs and leave the input
pairs, and nothing else changes. -/
structure MarksApplied (ms : List (Int × Int)) (s t : Store) : Prop where
  same : t = { s with processedBy := t.processedBy, inputFor := t.inputFor }
  processedBy : ∀ p, p ∈ t.processedBy ↔ p ∈ s.processedBy ∨ p ∈ ms
  inputFor : ∀ p, p ∈ t.inputFor ↔ p ∈ s.inputFor ∧ p ∉ ms

theorem Batch.applyMark_applied {m : Int × Int} {s t : Store} {a : Unit}
    (h : (Batch.applyMark m).run s = .ok (a, t)) : MarksApplied [m] s t := by
  refine Tx.of_spec (P := (· = s)) (Q := fun _ t => MarksApplied [m] s t) ?_ rfl h
  mvcgen [Batch.applyMark]
  subst_vars
  refine ⟨rfl, fun p => ?_, fun p => ?_⟩
  · simp only [mem_addPair, List.mem_singleton]
  · simp only [List.mem_filter, bne_iff_ne, ne_eq, List.mem_singleton]

theorem MarksApplied.trans {ms ms' : List (Int × Int)} {s u t : Store} (h : MarksApplied ms s u)
    (h' : MarksApplied ms' u t) : MarksApplied (ms ++ ms') s t := by
  refine ⟨by rw [h'.same, h.same], fun p => ?_, fun p => ?_⟩
  · rw [h'.processedBy, h.processedBy, List.mem_append, or_assoc]
  · rw [h'.inputFor, h.inputFor, List.mem_append, not_or, and_assoc]

theorem forM_applyMark_applied {ms : List (Int × Int)} {s t : Store} {a : Unit}
    (h : (ms.forM Batch.applyMark).run s = .ok (a, t)) : MarksApplied ms s t := by
  induction ms generalizing s with
  | nil =>
    cases h
    exact ⟨rfl, fun p => by simp, fun p => by simp⟩
  | cons m ms ih =>
    obtain ⟨_, u, hm, hrest⟩ := Tx.bind_eq_ok.1 h
    exact (Batch.applyMark_applied hm).trans (ih hrest)

/-- Marks of existing records apply. -/
theorem forM_applyMark_ok {ms : List (Int × Int)} {s : Store}
    (h : ∀ m ∈ ms, s.hasRecord m.1 = true) : ∃ t, (ms.forM Batch.applyMark).run s = .ok ((), t) := by
  induction ms generalizing s with
  | nil => exact ⟨s, rfl⟩
  | cons m ms ih =>
    have hm : s.hasRecord m.1 = true := h m (List.mem_cons_self ..)
    let u : Store := { s with
      processedBy := addPair s.processedBy m, inputFor := s.inputFor.filter (· != m) }
    have hrun : (Batch.applyMark m).run s = .ok ((), u) := by
      simp [Batch.applyMark, hm, u]
      rfl
    obtain ⟨t, ht⟩ := ih (s := u) fun m' hm' => h m' (List.mem_cons_of_mem _ hm')
    exact ⟨t, Tx.bind_eq_ok.2 ⟨(), u, hrun, ht⟩⟩

/-- The rows of a batch, made visible when it ends. -/
def Batch.publish (b : Batch) (row : RecordRow) : RecordRow :=
  if row.batch == some b.id then { row with visible := true, batch := none } else row

/-- What ending a batch does: its rows become visible, its marks are applied, and the
other rows and relations stay as they were. -/
structure Committed (b : Batch) (s t : Store) : Prop where
  records : t.records = s.records.map b.publish
  processedBy : ∀ p, p ∈ t.processedBy ↔ p ∈ s.processedBy ∨ p ∈ b.marks
  inputFor : ∀ p, p ∈ t.inputFor ↔ p ∈ s.inputFor ∧ p ∉ b.marks
  lineage : t.lineage = s.lineage
  lastRecord : t.lastId .records = s.lastId .records
  tables : t.tables = s.tables

theorem Batch.commit_committed {b : Batch} {s t : Store} {x : Nat × Nat}
    (h : b.commit.run s = .ok (x, t)) : Committed b s t := by
  obtain ⟨_, u, hget, h⟩ := Tx.bind_eq_ok.1 h
  cases hget
  obtain ⟨_, u, hset, h⟩ := Tx.bind_eq_ok.1 h
  cases hset
  obtain ⟨_, u, hmarks, h⟩ := Tx.bind_eq_ok.1 h
  obtain ⟨_, w, hmod, hpure⟩ := Tx.bind_eq_ok.1 h
  cases hmod
  cases hpure
  have hm := forM_applyMark_applied hmarks
  rw [hm.same]
  exact ⟨rfl, hm.processedBy, hm.inputFor, rfl, rfl, rfl⟩

theorem hasRecord_map_publish {b : Batch} {s : Store} {x : Int} :
    ({ s with records := s.records.map b.publish } : Store).hasRecord x = s.hasRecord x := by
  simp only [hasRecord, List.any_map]
  congr 1
  funext row
  simp only [Function.comp_apply, Batch.publish]
  split <;> rfl

/-- A batch whose marks name existing records ends. -/
theorem Batch.commit_ok {b : Batch} {s : Store} (h : ∀ m ∈ b.marks, s.hasRecord m.1 = true) :
    ∃ x t, b.commit.run s = .ok (x, t) := by
  let u : Store := { s with records := s.records.map b.publish }
  obtain ⟨w, hw⟩ := forM_applyMark_ok (s := u) fun m hm => by
    rw [hasRecord_map_publish]
    exact h m hm
  refine ⟨_, _, Tx.bind_eq_ok.2 ⟨s, s, rfl, Tx.bind_eq_ok.2 ⟨(), u, rfl,
    Tx.bind_eq_ok.2 ⟨(), w, hw, rfl⟩⟩⟩⟩

/-- What deleting the rows a test picks does: they go, with every relation row naming one of
their ids. -/
structure Purged (p : RecordRow → Bool) (s t : Store) : Prop where
  records : t.records = s.records.filter fun row => !p row
  lineage : ∀ e ∈ t.lineage, e ∈ s.lineage
  processedBy : ∀ q, q ∈ t.processedBy ↔ q ∈ s.processedBy ∧ ∀ row ∈ s.records, p row → row.id ≠ q.1
  inputFor : ∀ q, q ∈ t.inputFor ↔ q ∈ s.inputFor ∧ ∀ row ∈ s.records, p row → row.id ≠ q.1
  lastId : t.lastId = s.lastId
  tables : t.tables = s.tables

theorem deleteRecords_purged {p : RecordRow → Bool} {s t : Store} {n : Nat}
    (h : (deleteRecords p).run s = .ok (n, t)) : Purged p s t := by
  obtain ⟨_, u, hget, h⟩ := Tx.bind_eq_ok.1 h
  cases hget
  obtain ⟨_, u, hset, hpure⟩ := Tx.bind_eq_ok.1 h
  cases hset
  cases hpure
  -- an id is kept when no deleted row has it
  have hkeep : ∀ x : Int, (!((s.records.filter p).map (·.id)).contains x) = true ↔
      ∀ row ∈ s.records, p row = true → row.id ≠ x := by
    intro x
    simp
  refine ⟨rfl, fun e he => (List.mem_filter.1 he).1, fun q => ?_, fun q => ?_, rfl, rfl⟩
  · rw [List.mem_filter, hkeep]
  · rw [List.mem_filter, hkeep]

/-- What opening a batch on a repository does: it purges rows of the repository that are
staged by no open batch, and hands out a batch with nothing staged and no marks. -/
structure Started (repo : String) (b : Batch) (s t : Store) : Prop where
  onRepo : b.repo = repo
  marks : b.marks = []
  records : ∀ row ∈ t.records, row ∈ s.records
  kept : ∀ row ∈ s.records, (row.repo ≠ repo ∨ row.visible = true) → row ∈ t.records
  lineage : ∀ e ∈ t.lineage, e ∈ s.lineage
  processedBy : ∀ q ∈ t.processedBy, q ∈ s.processedBy
  keptProcessed : ∀ q ∈ s.processedBy, (∀ row ∈ s.records, row.repo = repo → row.id ≠ q.1) →
    q ∈ t.processedBy
  inputFor : ∀ q ∈ t.inputFor, q ∈ s.inputFor
  keptInput : ∀ q ∈ s.inputFor, (∀ row ∈ s.records, row.repo = repo → row.id ≠ q.1) →
    q ∈ t.inputFor
  lastRecord : t.lastId .records = s.lastId .records
  tables : t.tables = s.tables

theorem Batch.start_started {repo : String} {b : Batch} {n : Nat} {s t : Store}
    (h : (Batch.start repo).run s = .ok ((b, n), t)) : Started repo b s t := by
  obtain ⟨_, u, hget, h⟩ := Tx.bind_eq_ok.1 h
  cases hget
  obtain ⟨_, u, hdel, h⟩ := Tx.bind_eq_ok.1 h
  obtain ⟨_, w, hnext, h⟩ := Tx.bind_eq_ok.1 h
  cases hnext
  obtain ⟨_, w, hmod, hpure⟩ := Tx.bind_eq_ok.1 h
  cases hmod
  cases hpure
  have hp := deleteRecords_purged hdel
  -- a purged row is a staged row of the repository
  have hrepo : ∀ row : RecordRow, (row.repo == repo && !row.visible &&
      row.batch.all (fun b => !(s.openBatches.map (·.1)).contains b)) = true →
      row.repo = repo ∧ row.visible = false := by
    intro row hrow
    simp only [Bool.and_eq_true, beq_iff_eq, Bool.not_eq_eq_eq_not, Bool.not_true] at hrow
    exact ⟨hrow.1.1, hrow.1.2⟩
  refine ⟨rfl, rfl, fun row hrow => ?_, fun row hrow hkeep => ?_, hp.lineage,
    fun q hq => ((hp.processedBy q).1 hq).1, fun q hq hnot => (hp.processedBy q).2 ⟨hq, ?_⟩,
    fun q hq => ((hp.inputFor q).1 hq).1, fun q hq hnot => (hp.inputFor q).2 ⟨hq, ?_⟩,
    by rw [hp.lastId], hp.tables⟩
  · rw [hp.records] at hrow
    exact (List.mem_filter.1 hrow).1
  · rw [hp.records, List.mem_filter]
    refine ⟨hrow, ?_⟩
    cases hdrop : (row.repo == repo && !row.visible &&
      row.batch.all (fun b => !(s.openBatches.map (·.1)).contains b))
    · rfl
    · obtain ⟨h1, h2⟩ := hrepo row hdrop
      rcases hkeep with hk | hk
      · exact absurd h1 hk
      · rw [h2] at hk
        exact absurd hk Bool.false_ne_true
  · exact fun row hrow hdrop => hnot row hrow (hrepo row hdrop).1
  · exact fun row hrow hdrop => hnot row hrow (hrepo row hdrop).1

theorem removeLineage_eq {p q : Int} {s t : Store} {a : Unit}
    (h : (removeLineage p q).run s = .ok (a, t)) :
    t = { s with lineage := s.lineage.filter (· != (p, q)) } := by
  cases h
  rfl

end Catalog.Store
