import Catalog.Proofs.Engine.Outputs
import Catalog.Proofs.Outcome
import Catalog.Proofs.Store.Paging

/-!
# Write batches in isolation

Any number of write batches may be open on one store at once, each staging records in a
repository, beside writes made directly through the repositories and beside readers. Every
call is one transaction of the store: it happens whole or not at all. This module follows
every interleaving of such calls from a store whose ids its own sequences handed out
(`Issued`): opening a batch, staging a record in it, rewriting a record through it, holding
back a mark, ending it, aborting it or letting it go without either, and direct writes.

One invariant carries the argument, `Staging.Coherent`: every batch of the run that has not
ended *holds* its rows (`Holds`). The rows it staged are hidden and carry its id, every row
carrying its id is one it staged, its ids were handed out before, and it is registered as
open, so that the purge that opens another batch passes its rows by. From it:

* readers never return a record staged by a batch that has not ended;
* ending a batch makes visible exactly the rows it staged that are still there and applies
  exactly its held-back marks, in one transaction, which fails exactly when a mark names a
  record that is gone;
* aborting a batch deletes exactly the rows it staged and applies none of its marks;
* no call deletes, shows or moves a row staged by a batch that is open before and after it.

## Main results

* `Batch.commit_ok_iff`, `Batch.commit_ended`, `Batch.abort_aborted`: ending and aborting a
  batch that holds its rows
* `Staging.Coherent.step`, `Staging.Reachable.coherent`: the invariant along every run
* `Staging.Coherent.untouched`: a call leaves the staged rows of the other open batches
* `Staging.Reachable.isolated`: batches are isolated along every run
* `Staging.keyOrdered_of_steps`: every run of calls keeps the record table in id order, which
  paging and the deletion of a service read
-/

namespace Catalog.Store

open Std.Do

variable {α β : Type}

-- ---------------------------------------------------------------------------
-- Ids handed out and batches registered
-- ---------------------------------------------------------------------------

/-- The ids of a store were handed out by its sequences: no record has an id above the last
record id handed out, and no row is staged under a batch id above the last one. -/
structure Issued (s : Store) : Prop where
  records : ∀ row ∈ s.records, row.id ≤ s.lastId .records
  batches : ∀ row ∈ s.records, ∀ k ∈ row.batch, k ≤ s.lastBatch

/-- Where a store keeps track of its batches: the last batch id handed out and the batches
registered as open. -/
def ledger (s : Store) : Nat × List (Nat × String) :=
  (s.lastBatch, s.openBatches)

/-- A transaction that leaves the batches' ledger alone whenever it succeeds. -/
def KeepsLedger (tx : Tx α) : Prop :=
  ∀ l, ⦃fun s => ⌜s.ledger = l⌝⦄ tx ⦃⇓? _ s => ⌜s.ledger = l⌝⦄

theorem KeepsLedger.ledger_eq {tx : Tx α} (h : KeepsLedger tx) {s t : Store} {a : α}
    (hrun : tx.run s = .ok (a, t)) : t.ledger = s.ledger :=
  Tx.of_spec (h s.ledger) rfl hrun

theorem KeepsLedger.of_run {tx : Tx α}
    (h : ∀ s a t, tx.run s = .ok (a, t) → t.ledger = s.ledger) : KeepsLedger tx := by
  intro l s hs
  exact Tx.spec_of_run (fun a t ht => (h s a t ht).trans hs) s rfl

theorem KeepsLedger.bind {x : Tx α} {f : α → Tx β} (hx : KeepsLedger x)
    (hf : ∀ a, KeepsLedger (f a)) : KeepsLedger (x >>= f) := by
  refine KeepsLedger.of_run fun s b t h => ?_
  obtain ⟨a, u, hxu, hft⟩ := Tx.bind_eq_ok.1 h
  exact ((hf a).ledger_eq hft).trans (hx.ledger_eq hxu)

theorem KeepsLedger.forM {xs : List β} {f : β → Tx PUnit} (h : ∀ a ∈ xs, KeepsLedger (f a)) :
    KeepsLedger (xs.forM f) := by
  induction xs with
  | nil => exact fun l => by mvcgen
  | cons a as ih =>
    exact (h a (List.mem_cons_self ..)).bind fun _ =>
      ih fun b hb => h b (List.mem_cons_of_mem a hb)

theorem KeepsLedger.mapM {xs : List β} {f : β → Tx α} (h : ∀ a ∈ xs, KeepsLedger (f a)) :
    KeepsLedger (xs.mapM f) := by
  induction xs with
  | nil => exact fun l => by mvcgen
  | cons a as ih =>
    rw [List.mapM_cons]
    exact (h a (List.mem_cons_self ..)).bind fun _ =>
      (ih fun b hb => h b (List.mem_cons_of_mem a hb)).bind fun _ l => by mvcgen

theorem addEdge_keepsLedger (p q : Int) : KeepsLedger (addEdge p q) := by
  intro l
  mvcgen [addEdge]

theorem writeRelations_keepsLedger (i : Int) (r : Record) : KeepsLedger (writeRelations i r) := by
  have hp : KeepsLedger (r.predecessors.forM fun p => addEdge p i) :=
    KeepsLedger.forM fun p _ => addEdge_keepsLedger p i
  have hs : KeepsLedger (r.successors.forM fun q => addEdge i q) :=
    KeepsLedger.forM fun q _ => addEdge_keepsLedger i q
  intro l
  have hpl := hp l
  have hsl := hs l
  mvcgen [writeRelations, hpl, hsl]

theorem insertRecord_keepsLedger (repo : String) (r : Record) (batch : Option Nat) :
    KeepsLedger (insertRecord repo r batch) := by
  intro l
  have hw := fun i => writeRelations_keepsLedger i r l
  mvcgen [insertRecord, useTable, nextId, hw]

theorem touch_keepsLedger (repo : String) : KeepsLedger (touch repo) := by
  intro l
  mvcgen [touch]

theorem updateRecord_keepsLedger (repo : String) (r : Record) :
    KeepsLedger (updateRecord repo r) := by
  refine KeepsLedger.of_run fun s a t h => ?_
  obtain ⟨i, u, hi, hrest⟩ := Tx.bind_eq_ok.1 h
  obtain ⟨-, rfl⟩ := ofOutcome_eq_ok hi
  refine Tx.of_spec (P := fun v => v.ledger = u.ledger) (Q := fun _ t => t.ledger = u.ledger)
    ?_ rfl hrest
  have hw := fun i => writeRelations_keepsLedger i r u.ledger
  have ht := touch_keepsLedger repo u.ledger
  mvcgen [useTable, hw, ht]

theorem Batch.add_keepsLedger (b : Batch) (r : Record) : KeepsLedger (b.add r) := by
  intro l
  have hi := insertRecord_keepsLedger b.repo r (some b.id) l
  have ht := touch_keepsLedger b.repo l
  mvcgen [Batch.add, hi, ht]

-- ---------------------------------------------------------------------------
-- Direct writes
-- ---------------------------------------------------------------------------

/-- A row whose place is among the places of some rows agrees with one of them on its id,
visibility and batch. -/
theorem exists_of_place_mem {xs : List RecordRow} {row : RecordRow}
    (h : row.place ∈ xs.map RecordRow.place) :
    ∃ row' ∈ xs, row'.id = row.id ∧ row'.visible = row.visible ∧ row'.batch = row.batch := by
  obtain ⟨row', hrow', heq⟩ := List.mem_map.1 h
  simp only [RecordRow.place, Prod.mk.injEq] at heq
  exact ⟨row', hrow', heq.1, heq.2.2.1, heq.2.2.2⟩

/-- A row of a store whose places are another's followed by some new ones is in an old place
or a new one. -/
theorem place_mem_of_places_eq {s t : Store} {new : List (Int × String × Bool × Option Nat)}
    (h : t.records.map RecordRow.place = s.records.map RecordRow.place ++ new) {row : RecordRow}
    (hrow : row ∈ t.records) : row.place ∈ s.records.map RecordRow.place ∨ row.place ∈ new := by
  have hmem := List.mem_map_of_mem (f := RecordRow.place) hrow
  rwa [h, List.mem_append] at hmem

/-- What a direct write does to the rows: it keeps every row in its place and the ledger as it
was, and every row it leaves is an old row in its place or a new visible one under a fresh
id. -/
structure Appends (s t : Store) : Prop where
  ledger : t.ledger = s.ledger
  grown : s.lastId .records ≤ t.lastId .records
  kept : ∀ row ∈ s.records, row.place ∈ t.records.map RecordRow.place
  rows : ∀ row ∈ t.records, row.place ∈ s.records.map RecordRow.place ∨
    (row.visible = true ∧ row.batch = none ∧ s.lastId .records < row.id ∧
      row.id ≤ t.lastId .records)

theorem Appends.of_places {s t : Store}
    (hp : t.records.map RecordRow.place = s.records.map RecordRow.place)
    (hlast : t.lastId .records = s.lastId .records) (hl : t.ledger = s.ledger) : Appends s t :=
  ⟨hl, hlast.ge, fun _ hrow => hp ▸ List.mem_map_of_mem hrow,
    fun _ hrow => .inl (hp ▸ List.mem_map_of_mem hrow)⟩

theorem Appends.refl (s : Store) : Appends s s :=
  .of_places rfl rfl rfl

theorem Appends.trans {s u t : Store} (h : Appends s u) (h' : Appends u t) : Appends s t := by
  refine ⟨h'.ledger.trans h.ledger, h.grown.trans h'.grown, fun row hrow => ?_, fun row hrow => ?_⟩
  · obtain ⟨row', hrow', heq⟩ := List.mem_map.1 (h.kept row hrow)
    exact heq ▸ h'.kept row' hrow'
  · rcases h'.rows row hrow with hp | ⟨hvis, hb, hlt, hle⟩
    · obtain ⟨row', hrow', heq⟩ := List.mem_map.1 hp
      rcases h.rows row' hrow' with hp' | ⟨hvis', hb', hlt', hle'⟩
      · exact .inl (heq ▸ hp')
      · simp only [RecordRow.place, Prod.mk.injEq] at heq
        obtain ⟨hid, -, hv, hbat⟩ := heq
        rw [hid] at hlt' hle'
        exact .inr ⟨hv ▸ hvis', hbat ▸ hb', hlt', hle'.trans h'.grown⟩
    · exact .inr ⟨hvis, hb, h.grown.trans_lt hlt, hle⟩

/-- Adding a visible record under the next id appends its row. -/
theorem Appends.of_inserted {repo : String} {r : Record} {i : Int} {s t : Store}
    (h : Inserted repo r none i s t) (hl : t.ledger = s.ledger) : Appends s t := by
  refine ⟨hl, by rw [h.lastRecord, h.id]; omega, fun row hrow => ?_, fun row hrow => ?_⟩
  · rw [h.places]
    exact List.mem_append_left _ (List.mem_map_of_mem hrow)
  · rcases place_mem_of_places_eq h.places hrow with hp | hnew
    · exact .inl hp
    · simp only [RecordRow.place, List.mem_singleton, Prod.mk.injEq, Option.isNone_none] at hnew
      obtain ⟨hid, -, hvis, hbat⟩ := hnew
      refine .inr ⟨hvis, hbat, ?_, ?_⟩
      · rw [hid, h.id]; omega
      · rw [hid, h.lastRecord]

theorem addRecord_appends {repo : String} {r : Record} {s t : Store} {i : Int}
    (h : (addRecord repo r).run s = .ok (i, t)) : Appends s t := by
  have hl : KeepsLedger (addRecord repo r) :=
    (insertRecord_keepsLedger repo r none).bind fun _ =>
      (touch_keepsLedger repo).bind fun _ l => by mvcgen
  obtain ⟨j, u, hins, hrest⟩ := Tx.bind_eq_ok.1 h
  obtain ⟨_, w, htouch, hpure⟩ := Tx.bind_eq_ok.1 hrest
  cases hpure
  exact .of_inserted ((insertRecord_inserted hins).touch (touch_eq htouch)) (hl.ledger_eq h)

theorem mapM_insertRecord_appends {repo : String} {rs : List Record} {s t : Store}
    {ids : List Int} (h : (rs.mapM fun r => insertRecord repo r none).run s = .ok (ids, t)) :
    Appends s t := by
  induction rs generalizing s ids with
  | nil =>
    cases h
    exact .refl _
  | cons r rs ih =>
    rw [List.mapM_cons] at h
    obtain ⟨i, u, hins, hrest⟩ := Tx.bind_eq_ok.1 h
    obtain ⟨is, w, hmap, hpure⟩ := Tx.bind_eq_ok.1 hrest
    cases hpure
    have hu : Appends s u :=
      .of_inserted (insertRecord_inserted hins) ((insertRecord_keepsLedger repo r none).ledger_eq hins)
    exact hu.trans (ih hmap)

theorem addRecords_appends {repo : String} {rs : List Record} {s t : Store} {ids : List Int}
    (h : (addRecords repo rs).run s = .ok (ids, t)) : Appends s t := by
  obtain ⟨is, u, hmap, hrest⟩ := Tx.bind_eq_ok.1 h
  obtain ⟨_, w, htouch, hpure⟩ := Tx.bind_eq_ok.1 hrest
  cases hpure
  refine (mapM_insertRecord_appends hmap).trans ?_
  rw [touch_eq htouch]
  exact .of_places rfl rfl rfl

theorem updateRecord_appends {repo : String} {r : Record} {s t : Store} {a : Unit}
    (h : (updateRecord repo r).run s = .ok (a, t)) : Appends s t := by
  obtain ⟨i, -, hw⟩ := updateRecord_rewrote h
  exact .of_places hw.places hw.lastRecord ((updateRecord_keepsLedger repo r).ledger_eq h)

theorem markDeleted_places {repo : String} {id : Int} {s t : Store} {a : Unit}
    (h : (markDeleted repo id).run s = .ok (a, t)) :
    t.records.map RecordRow.place = s.records.map RecordRow.place ∧
      t.lastId = s.lastId ∧ t.ledger = s.ledger := by
  refine Tx.of_spec (P := (· = s)) (Q := fun _ t => t.records.map RecordRow.place =
    s.records.map RecordRow.place ∧ t.lastId = s.lastId ∧ t.ledger = s.ledger) ?_ rfl h
  mvcgen [markDeleted, useTable, touch]
  subst_vars
  refine ⟨?_, rfl, rfl⟩
  rw [List.map_map]
  exact List.map_congr_left fun row _ => by
    simp only [Function.comp_apply]
    split <;> rfl

theorem addLink_eq {p q : Int} {s t : Store} {a : Unit} (h : (addLink p q).run s = .ok (a, t)) :
    t = { s with links := t.links } := by
  refine Tx.of_spec (P := (· = s)) (Q := fun _ t => t = { s with links := t.links }) ?_ rfl h
  mvcgen [addLink]
  all_goals subst_vars
  all_goals rfl

/-- A write made directly through a repository or through the lineage, not through a
batch. -/
inductive Write where
  | add (repo : String) (r : Record)
  | addMany (repo : String) (rs : List Record)
  | update (repo : String) (r : Record)
  | markDeleted (repo : String) (id : Int)
  | addLineage (predecessor successor : Int)
  | removeLineage (predecessor successor : Int)
  | addLink (fromId toId : Int)
  | touch (repo : String)

/-- The transaction of a direct write. -/
def Write.tx : Write → Tx Unit
  | .add repo r => do
    let _ ← addRecord repo r
  | .addMany repo rs => do
    let _ ← addRecords repo rs
  | .update repo r => updateRecord repo r
  | .markDeleted repo id => Store.markDeleted repo id
  | .addLineage p q => Store.addLineage p q
  | .removeLineage p q => Store.removeLineage p q
  | .addLink p q => Store.addLink p q
  | .touch repo => Store.touch repo

/-- A direct write only appends visible rows. -/
theorem Write.tx_appends (w : Write) {s t : Store} {a : Unit} (h : w.tx.run s = .ok (a, t)) :
    Appends s t := by
  cases w with
  | add repo r =>
    obtain ⟨i, u, hadd, hpure⟩ := Tx.bind_eq_ok.1 h
    cases hpure
    exact addRecord_appends hadd
  | addMany repo rs =>
    obtain ⟨ids, u, hadd, hpure⟩ := Tx.bind_eq_ok.1 h
    cases hpure
    exact addRecords_appends hadd
  | update repo r => exact updateRecord_appends h
  | markDeleted repo id =>
    obtain ⟨hp, hlast, hl⟩ := markDeleted_places h
    exact .of_places hp (by rw [hlast]) hl
  | addLineage p q =>
    rw [(addEdge_grown h).same]
    exact .of_places rfl rfl rfl
  | removeLineage p q =>
    rw [removeLineage_eq h]
    exact .of_places rfl rfl rfl
  | addLink p q =>
    rw [addLink_eq h]
    exact .of_places rfl rfl rfl
  | touch repo =>
    rw [touch_eq h]
    exact .of_places rfl rfl rfl

theorem deleteRecords_keepsLedger (p : RecordRow → Bool) : KeepsLedger (deleteRecords p) := by
  intro l
  mvcgen [deleteRecords]

theorem deleteRecords_count {p : RecordRow → Bool} {s t : Store} {n : Nat}
    (h : (deleteRecords p).run s = .ok (n, t)) : n = (s.records.filter p).length := by
  obtain ⟨_, u, hget, h⟩ := Tx.bind_eq_ok.1 h
  cases hget
  obtain ⟨_, u, hset, hpure⟩ := Tx.bind_eq_ok.1 h
  cases hset
  cases hpure
  exact List.length_map ..

-- ---------------------------------------------------------------------------
-- What a batch holds
-- ---------------------------------------------------------------------------

/-- A batch holds its rows in a store: the rows it staged are hidden and carry its id, every
row carrying its id is one it staged, the ids it staged were handed out, and it is registered
as open. -/
structure Holds (s : Store) (b : Batch) : Prop where
  hidden : ∀ row ∈ s.records, row.id ∈ b.staged → row.visible = false ∧ row.batch = some b.id
  owned : ∀ row ∈ s.records, row.batch = some b.id → row.id ∈ b.staged
  handedOut : ∀ i ∈ b.staged, i ≤ s.lastId .records
  registered : b.id ∈ s.openBatches.map (·.1)

section Holds

variable {s t : Store} {b c : Batch} {row : RecordRow}

@[simp] theorem Batch.isStaged_iff {i : Int} : b.isStaged i = true ↔ i ∈ b.staged := by
  simp [Batch.isStaged]

/-- On the rows of a store a batch holds, its id marks exactly the rows it staged. -/
theorem Holds.batch_iff (h : s.Holds b) (hrow : row ∈ s.records) :
    row.batch = some b.id ↔ row.id ∈ b.staged :=
  ⟨h.owned row hrow, fun hin => (h.hidden row hrow hin).2⟩

/-- A batch keeps holding its rows across a change that leaves each row in its old place or
makes it neither one the batch staged nor one carrying its id, hands out no smaller record
id, and keeps the batch registered. -/
theorem Holds.mono (h : s.Holds c)
    (hrows : ∀ row ∈ t.records, row.place ∈ s.records.map RecordRow.place ∨
      (row.id ∉ c.staged ∧ row.batch ≠ some c.id))
    (hlast : s.lastId .records ≤ t.lastId .records)
    (hreg : c.id ∈ t.openBatches.map (·.1)) : t.Holds c := by
  refine ⟨fun row hrow hin => ?_, fun row hrow hb => ?_,
    fun i hi => (h.handedOut i hi).trans hlast, hreg⟩
  · rcases hrows row hrow with hp | ⟨hout, -⟩
    · obtain ⟨row', hrow', hid, hvis, hbat⟩ := exists_of_place_mem hp
      rw [← hvis, ← hbat]
      exact h.hidden row' hrow' (hid ▸ hin)
    · exact absurd hin hout
  · rcases hrows row hrow with hp | ⟨-, hout⟩
    · obtain ⟨row', hrow', hid, -, hbat⟩ := exists_of_place_mem hp
      rw [← hid]
      exact h.owned row' hrow' (hbat ▸ hb)
    · exact absurd hb hout

/-- Holding back a mark changes none of the rows a batch holds. -/
theorem Holds.mark (h : s.Holds b) (x y : Int) : s.Holds (b.mark x y) :=
  ⟨h.hidden, h.owned, h.handedOut, h.registered⟩

/-- Two batches that hold their rows and stage one row of the store have one id: the row
carries it. -/
theorem Holds.id_eq (hc : s.Holds c) (hb : s.Holds b) (hrow : row ∈ s.records)
    (hinc : row.id ∈ c.staged) (hinb : row.id ∈ b.staged) : c.id = b.id :=
  Option.some.inj ((hc.hidden row hrow hinc).2.symm.trans (hb.hidden row hrow hinb).2)

/-- A batch does not stage a row that another batch holds. -/
theorem Holds.not_isStaged (hc : s.Holds c) (hb : s.Holds b) (hne : c.id ≠ b.id)
    (hrow : row ∈ s.records) (hin : row.id ∈ c.staged) : b.isStaged row.id = false := by
  rw [Bool.eq_false_iff, ne_eq, Batch.isStaged_iff]
  exact fun hinb => hne (hc.id_eq hb hrow hin hinb)

/-- A change that keeps the last batch id and the open batches keeps a batch registered. -/
theorem Holds.registered_of_ledger (h : s.Holds c) (hl : t.ledger = s.ledger) :
    c.id ∈ t.openBatches.map (·.1) := by
  simp only [ledger, Prod.mk.injEq] at hl
  rw [hl.2]
  exact h.registered

/-- Closing another batch keeps a batch registered. -/
theorem Holds.registered_filter (h : s.Holds c) (hne : c.id ≠ b.id) :
    c.id ∈ (s.openBatches.filter (·.1 != b.id)).map (·.1) := by
  obtain ⟨p, hp, hpid⟩ := List.mem_map.1 h.registered
  exact List.mem_map.2 ⟨p, List.mem_filter.2 ⟨hp, by rw [hpid]; exact bne_iff_ne.2 hne⟩, hpid⟩

end Holds

-- ---------------------------------------------------------------------------
-- Opening, ending and aborting a batch
-- ---------------------------------------------------------------------------

/-- Whether opening a batch on a repository purges a row: an invisible row of the repository
staged by no batch registered as open. -/
def purges (s : Store) (repo : String) (row : RecordRow) : Bool :=
  row.repo == repo && !row.visible && row.batch.all (fun k => !(s.openBatches.map (·.1)).contains k)

/-- Opening a batch purges, then registers and hands out a batch under the next batch id. -/
theorem Batch.start_run (repo : String) (s : Store) :
    (Batch.start repo).run s = ((deleteRecords (purges s repo)).run s).map fun (n, u) =>
      ((({ repo, id := s.lastBatch + 1 } : Batch), n),
        { u with lastBatch := s.lastBatch + 1
                 openBatches := s.openBatches ++ [(s.lastBatch + 1, repo)] }) :=
  rfl

/-- What opening a batch on a repository did. -/
structure Opened (repo : String) (s : Store) (b : Batch) (t : Store) : Prop where
  batch : b = { repo, id := s.lastBatch + 1 }
  records : t.records = s.records.filter fun row => !purges s repo row
  lastRecord : t.lastId .records = s.lastId .records
  lastBatch : t.lastBatch = s.lastBatch + 1
  openBatches : t.openBatches = s.openBatches ++ [(s.lastBatch + 1, repo)]

theorem Batch.start_opened {repo : String} {s t : Store} {b : Batch} {n : Nat}
    (h : (Batch.start repo).run s = .ok ((b, n), t)) : Opened repo s b t := by
  rw [Batch.start_run] at h
  rcases hdel : (deleteRecords (purges s repo)).run s with e | ⟨n', u⟩ <;>
    rw [hdel] at h
  · exact nomatch h
  simp only [Except.map, Except.ok.injEq, Prod.mk.injEq] at h
  obtain ⟨⟨rfl, -⟩, rfl⟩ := h
  have hp := deleteRecords_purged hdel
  exact ⟨rfl, hp.records, by rw [hp.lastId], rfl, rfl⟩

/-- A batch ends by publishing its rows, applying its marks and forgetting it. -/
theorem Batch.commit_run {b : Batch} {s t : Store} {x : Nat × Nat}
    (h : b.commit.run s = .ok (x, t)) :
    ∃ u, (b.marks.forM Batch.applyMark).run { s with records := s.records.map b.publish } =
        .ok ((), u) ∧
      x = ((s.records.filter (·.batch == some b.id)).length, b.marks.length) ∧
      t = { u with openBatches := u.openBatches.filter (·.1 != b.id) } := by
  obtain ⟨_, u, hget, h⟩ := Tx.bind_eq_ok.1 h
  cases hget
  obtain ⟨_, u, hset, h⟩ := Tx.bind_eq_ok.1 h
  cases hset
  obtain ⟨_, u, hmarks, h⟩ := Tx.bind_eq_ok.1 h
  obtain ⟨_, w, hmod, hpure⟩ := Tx.bind_eq_ok.1 h
  cases hmod
  cases hpure
  exact ⟨u, hmarks, rfl, rfl⟩

/-- A mark applies when its pair is processed already or its record exists. -/
theorem Batch.applyMark_run (m : Int × Int) (s : Store) :
    (Batch.applyMark m).run s =
      if m ∈ s.processedBy ∨ s.hasRecord m.1 = true then
        .ok ((), { s with processedBy := addPair s.processedBy m
                          inputFor := s.inputFor.filter (· != m) })
      else .error (.storage .foreignKey) := by
  by_cases hm : m ∈ s.processedBy ∨ s.hasRecord m.1 = true
  · simp [Batch.applyMark, if_pos hm]
    rfl
  · simp [Batch.applyMark, if_neg hm]
    rfl

/-- Marks apply, one after another, exactly when each is processed already or names a record
that exists: a mark made twice passes the second time because the first applied. -/
theorem forM_applyMark_ok_iff {ms : List (Int × Int)} {s : Store} :
    (∃ t, (ms.forM Batch.applyMark).run s = .ok ((), t)) ↔
      ∀ m ∈ ms, m ∈ s.processedBy ∨ s.hasRecord m.1 = true := by
  induction ms generalizing s with
  | nil => exact ⟨fun _ m hm => absurd hm List.not_mem_nil, fun _ => ⟨s, rfl⟩⟩
  | cons m ms ih =>
    let u : Store := { s with processedBy := addPair s.processedBy m
                              inputFor := s.inputFor.filter (· != m) }
    have hu : ∀ m', m' ∈ u.processedBy ∨ u.hasRecord m'.1 = true ↔
        m' = m ∨ m' ∈ s.processedBy ∨ s.hasRecord m'.1 = true := by
      intro m'
      simp only [u, mem_addPair, hasRecord]
      tauto
    constructor
    · rintro ⟨t, h⟩
      obtain ⟨_, u', hm, hrest⟩ := Tx.bind_eq_ok.1 h
      rw [Batch.applyMark_run] at hm
      split at hm
      · rename_i hhead
        simp only [Except.ok.injEq, Prod.mk.injEq] at hm
        obtain ⟨-, rfl⟩ := hm
        have htail := ih.1 ⟨t, hrest⟩
        intro m' hm'
        rcases List.mem_cons.1 hm' with rfl | hm'
        · exact hhead
        · rcases (hu m').1 (htail m' hm') with rfl | h'
          · exact hhead
          · exact h'
      · exact nomatch hm
    · intro h
      have hhead := h m (List.mem_cons_self ..)
      obtain ⟨t, ht⟩ := (ih (s := u)).2 fun m' hm' =>
        (hu m').2 (.inr (h m' (List.mem_cons_of_mem m hm')))
      refine ⟨t, Tx.bind_eq_ok.2 ⟨(), u, ?_, ht⟩⟩
      rw [Batch.applyMark_run, if_pos hhead]

/-- Ending a batch succeeds exactly when each of its marks is processed already or names a
record that exists; otherwise it fails as a whole. -/
theorem Batch.commit_ok_iff {b : Batch} {s : Store} :
    (∃ x t, b.commit.run s = .ok (x, t)) ↔
      ∀ m ∈ b.marks, m ∈ s.processedBy ∨ s.hasRecord m.1 = true := by
  constructor
  · rintro ⟨x, t, h⟩
    obtain ⟨u, hmarks, -, -⟩ := Batch.commit_run h
    intro m hm
    rcases forM_applyMark_ok_iff.1 ⟨u, hmarks⟩ m hm with hp | hr
    · exact .inl hp
    · exact .inr (by rwa [hasRecord_map_publish] at hr)
  · intro h
    obtain ⟨w, hw⟩ := (forM_applyMark_ok_iff (s := { s with records := s.records.map b.publish })).2
      fun m hm => (h m hm).imp (fun hp => hp) fun hr => by rwa [hasRecord_map_publish]
    exact ⟨_, _, Tx.bind_eq_ok.2 ⟨s, s, rfl, Tx.bind_eq_ok.2 ⟨(), _, rfl,
      Tx.bind_eq_ok.2 ⟨(), w, hw, rfl⟩⟩⟩⟩

/-- What ending a batch did: it made visible exactly the rows it staged that are still there,
applied exactly its marks (the pairs join those processed and leave those waiting), forgot
the batch, and changed nothing else; it counted the rows it made visible and the marks. -/
structure Ended (b : Batch) (s : Store) (x : Nat × Nat) (t : Store) : Prop where
  records : t.records = s.records.map fun row =>
    if b.isStaged row.id then { row with visible := true, batch := none } else row
  processedBy : ∀ p, p ∈ t.processedBy ↔ p ∈ s.processedBy ∨ p ∈ b.marks
  inputFor : ∀ p, p ∈ t.inputFor ↔ p ∈ s.inputFor ∧ p ∉ b.marks
  openBatches : t.openBatches = s.openBatches.filter (·.1 != b.id)
  same : t = { s with records := t.records, processedBy := t.processedBy
                      inputFor := t.inputFor, openBatches := t.openBatches }
  counts : x = ((s.records.filter (b.isStaged ·.id)).length, b.marks.length)

theorem Batch.commit_ended {b : Batch} {s t : Store} {x : Nat × Nat} (hb : s.Holds b)
    (h : b.commit.run s = .ok (x, t)) : Ended b s x t := by
  obtain ⟨u, hmarks, hx, rfl⟩ := Batch.commit_run h
  have hm := forM_applyMark_applied hmarks
  -- on the rows of the store, the batch's id marks exactly the rows it staged
  have hpub : ∀ row ∈ s.records, (row.batch == some b.id) = b.isStaged row.id := by
    intro row hrow
    rw [Bool.eq_iff_iff, beq_iff_eq, Batch.isStaged_iff]
    exact hb.batch_iff hrow
  refine ⟨?_, hm.processedBy, hm.inputFor, ?_, ?_, ?_⟩
  · rw [hm.same]
    exact List.map_congr_left fun row hrow => by simp only [Batch.publish, hpub row hrow]
  · rw [hm.same]
  · rw [hm.same]
  · rw [hx, List.filter_congr hpub]

/-- Aborting a batch deletes the invisible rows under its id and forgets it. -/
theorem Batch.abort_run (b : Batch) (s : Store) :
    b.abort.run s = ((deleteRecords fun row => row.batch == some b.id && !row.visible).run s).map
      fun (n, u) => (n, { u with openBatches := u.openBatches.filter (·.1 != b.id) }) :=
  rfl

/-- What aborting a batch did: it deleted exactly the rows the batch staged, with the
relation rows naming them, applied none of its marks, forgot the batch, and counted the rows
it deleted. -/
structure Aborted (b : Batch) (s : Store) (n : Nat) (t : Store) : Prop where
  records : t.records = s.records.filter fun row => !b.isStaged row.id
  processedBy : ∀ q, q ∈ t.processedBy ↔
    q ∈ s.processedBy ∧ ∀ row ∈ s.records, b.isStaged row.id = true → row.id ≠ q.1
  inputFor : ∀ q, q ∈ t.inputFor ↔
    q ∈ s.inputFor ∧ ∀ row ∈ s.records, b.isStaged row.id = true → row.id ≠ q.1
  openBatches : t.openBatches = s.openBatches.filter (·.1 != b.id)
  lastRecord : t.lastId .records = s.lastId .records
  lastBatch : t.lastBatch = s.lastBatch
  count : n = (s.records.filter (b.isStaged ·.id)).length

/-- Aborting a batch that holds its rows always succeeds, and deletes exactly its rows. -/
theorem Batch.abort_aborted {b : Batch} {s : Store} (hb : s.Holds b) :
    ∃ n t, b.abort.run s = .ok (n, t) ∧ Aborted b s n t := by
  rcases hdel : (deleteRecords fun row => row.batch == some b.id && !row.visible).run s with
    e | ⟨n, u⟩
  · exact nomatch hdel
  refine ⟨n, _, by rw [Batch.abort_run, hdel]; rfl, ?_⟩
  have hp := deleteRecords_purged hdel
  have hl := (deleteRecords_keepsLedger _).ledger_eq hdel
  -- on the rows of the store, the abort deletes exactly the rows the batch staged
  have hdrop : ∀ row ∈ s.records, (row.batch == some b.id && !row.visible) = b.isStaged row.id := by
    intro row hrow
    rw [Bool.eq_iff_iff, Batch.isStaged_iff, Bool.and_eq_true, beq_iff_eq, Bool.not_eq_true']
    exact ⟨fun ⟨hbat, _⟩ => hb.owned row hrow hbat,
      fun hin => ⟨(hb.hidden row hrow hin).2, (hb.hidden row hrow hin).1⟩⟩
  have hsame : ∀ q : Int × Int, (∀ row ∈ s.records,
      (row.batch == some b.id && !row.visible) = true → row.id ≠ q.1) ↔
      ∀ row ∈ s.records, b.isStaged row.id = true → row.id ≠ q.1 :=
    fun q => forall₂_congr fun row hrow => by rw [hdrop row hrow]
  simp only [ledger, Prod.mk.injEq] at hl
  refine ⟨?_, fun q => ?_, fun q => ?_, ?_, hp.lastId ▸ rfl, hl.1, ?_⟩
  · show u.records = _
    rw [hp.records]
    exact List.filter_congr fun row hrow => by rw [hdrop row hrow]
  · show q ∈ u.processedBy ↔ _
    rw [hp.processedBy, hsame]
  · show q ∈ u.inputFor ↔ _
    rw [hp.inputFor, hsame]
  · show u.openBatches.filter _ = _
    rw [hl.2]
  · rw [deleteRecords_count hdel, List.filter_congr hdrop]

/-- What an abort that ran did, for a batch that holds its rows. -/
theorem Batch.aborted_of_run {b : Batch} {s t : Store} {n : Nat} (hb : s.Holds b)
    (h : b.abort.run s = .ok (n, t)) : Aborted b s n t := by
  obtain ⟨n', t', h', ha⟩ := Batch.abort_aborted hb
  rw [h] at h'
  simp only [Except.ok.injEq, Prod.mk.injEq] at h'
  obtain ⟨rfl, rfl⟩ := h'
  exact ha

/-- What staging a record did: it appended one hidden row under the batch's id and the next
record id, and left the other rows in their places and the ledger as it was. -/
structure Appended (b : Batch) (i : Int) (s t : Store) : Prop where
  id : i = s.lastId .records + 1
  lastRecord : t.lastId .records = i
  ledger : t.ledger = s.ledger
  kept : ∀ row ∈ s.records, row.place ∈ t.records.map RecordRow.place
  rows : ∀ row ∈ t.records, row.place ∈ s.records.map RecordRow.place ∨
    (row.id = i ∧ row.visible = false ∧ row.batch = some b.id)

theorem Batch.add_appended {b b' : Batch} {r : Record} {s t : Store} {i : Int}
    (h : (b.add r).run s = .ok ((i, b'), t)) :
    Appended b i s t ∧ b' = { b with staged := SortedList.insert i b.staged } := by
  obtain ⟨hins, rfl⟩ := Batch.add_inserted h
  refine ⟨⟨hins.id, hins.lastRecord, (Batch.add_keepsLedger b r).ledger_eq h,
    fun row hrow => ?_, fun row hrow => ?_⟩, rfl⟩
  · rw [hins.places]
    exact List.mem_append_left _ (List.mem_map_of_mem hrow)
  · rcases place_mem_of_places_eq hins.places hrow with hp | hnew
    · exact .inl hp
    · simp only [RecordRow.place, List.mem_singleton, Prod.mk.injEq, Option.isNone_some] at hnew
      exact .inr ⟨hnew.1, hnew.2.2.1, hnew.2.2.2⟩

-- ---------------------------------------------------------------------------
-- Keeping what a batch holds
-- ---------------------------------------------------------------------------

section Keeping

variable {s t : Store} {b b' c : Batch} {i : Int}

/-- A store keeps its ids handed out across a change that leaves each row in its old place or
gives it ids handed out, and hands out no smaller ids. -/
theorem Issued.mono (h : s.Issued)
    (hrows : ∀ row ∈ t.records, row.place ∈ s.records.map RecordRow.place ∨
      (row.id ≤ t.lastId .records ∧ ∀ k ∈ row.batch, k ≤ t.lastBatch))
    (hlast : s.lastId .records ≤ t.lastId .records) (hbatch : s.lastBatch ≤ t.lastBatch) :
    t.Issued := by
  constructor
  · intro row hrow
    rcases hrows row hrow with hp | ⟨hid, -⟩
    · obtain ⟨row', hrow', hid, -, -⟩ := exists_of_place_mem hp
      rw [← hid]
      exact (h.records row' hrow').trans hlast
    · exact hid
  · intro row hrow k hk
    rcases hrows row hrow with hp | ⟨-, hb⟩
    · obtain ⟨row', hrow', -, -, hbat⟩ := exists_of_place_mem hp
      exact (h.batches row' hrow' k (hbat ▸ hk)).trans hbatch
    · exact hb k hk

/-- The batch that stages a record holds the new row as well as its old ones. -/
theorem Holds.add (hs : s.Issued) (h : s.Holds b) (ha : Appended b i s t) :
    t.Holds { b with staged := SortedList.insert i b.staged } := by
  -- an old row has an id handed out already, so it is not the new one
  have hold : ∀ row ∈ s.records, row.id ≠ i := fun row hrow => by
    have := hs.records row hrow
    rw [ha.id]
    omega
  refine ⟨fun row hrow hin => ?_, fun row hrow hb => ?_, fun j hj => ?_,
    h.registered_of_ledger ha.ledger⟩
  · rcases ha.rows row hrow with hp | ⟨-, hvis, hbat⟩
    · obtain ⟨row', hrow', hid, hv, hbat⟩ := exists_of_place_mem hp
      rw [SortedList.mem_insert] at hin
      rw [← hv, ← hbat]
      exact h.hidden row' hrow' (hid ▸ hin.resolve_left (hid ▸ hold row' hrow'))
    · exact ⟨hvis, hbat⟩
  · show row.id ∈ SortedList.insert i b.staged
    rw [SortedList.mem_insert]
    rcases ha.rows row hrow with hp | ⟨hid, -, -⟩
    · obtain ⟨row', hrow', hid, -, hbat⟩ := exists_of_place_mem hp
      exact .inr (hid ▸ h.owned row' hrow' (hbat ▸ hb))
    · exact .inl hid
  · rw [ha.lastRecord]
    rcases SortedList.mem_insert.1 hj with rfl | hj
    · exact le_refl _
    · have := h.handedOut j hj
      rw [ha.id]
      omega

/-- A batch other than the one that stages a record keeps holding its rows: the new row has
an id it never staged, and another batch's id. -/
theorem Holds.add_other (h : s.Holds c) (hne : c.id ≠ b.id) (ha : Appended b i s t) :
    t.Holds c := by
  refine h.mono (fun row hrow => ?_) (by rw [ha.lastRecord, ha.id]; omega)
    (h.registered_of_ledger ha.ledger)
  rcases ha.rows row hrow with hp | ⟨hid, -, hbat⟩
  · exact .inl hp
  · refine .inr ⟨fun hin => ?_, fun hc => hne (Option.some.inj (hc.symm.trans hbat))⟩
    have := h.handedOut _ hin
    rw [hid, ha.id] at this
    omega

/-- A direct write leaves every batch its rows: what it adds is visible, under ids no batch
staged. -/
theorem Holds.append (h : s.Holds c) (ha : Appends s t) : t.Holds c := by
  refine h.mono (fun row hrow => ?_) ha.grown (h.registered_of_ledger ha.ledger)
  rcases ha.rows row hrow with hp | ⟨-, hbat, hlt, -⟩
  · exact .inl hp
  · refine .inr ⟨fun hin => ?_, by rw [hbat]; simp⟩
    have := h.handedOut _ hin
    omega

/-- Ending one batch leaves another its rows: the rows it publishes are its own. -/
theorem Holds.ended_other (h : s.Holds c) (hb : s.Holds b) (hne : c.id ≠ b.id) {x : Nat × Nat}
    (he : Ended b s x t) : t.Holds c := by
  have hsame : t.lastId = s.lastId := by rw [he.same]
  refine h.mono (fun row hrow => ?_) (by rw [hsame]) (he.openBatches ▸ h.registered_filter hne)
  rw [he.records] at hrow
  obtain ⟨row0, hrow0, rfl⟩ := List.mem_map.1 hrow
  by_cases hst : b.isStaged row0.id = true
  · rw [if_pos hst]
    refine .inr ⟨fun hin => ?_, by simp⟩
    exact hne (h.id_eq hb hrow0 hin (Batch.isStaged_iff.1 hst))
  · rw [if_neg hst]
    exact .inl (List.mem_map_of_mem hrow0)

/-- Aborting one batch leaves another its rows. -/
theorem Holds.aborted_other (h : s.Holds c) (hne : c.id ≠ b.id) {n : Nat}
    (ha : Aborted b s n t) : t.Holds c := by
  refine h.mono (fun row hrow => ?_) ha.lastRecord.ge (ha.openBatches ▸ h.registered_filter hne)
  rw [ha.records] at hrow
  exact .inl (List.mem_map_of_mem (List.mem_filter.1 hrow).1)

/-- A row a batch holds is not purged when another batch opens: its batch is registered. -/
theorem Holds.not_purged (h : s.Holds c) {row : RecordRow} (hrow : row ∈ s.records)
    (hin : row.id ∈ c.staged) (repo : String) : purges s repo row = false := by
  have hbat := (h.hidden row hrow hin).2
  have hreg : (s.openBatches.map (·.1)).contains c.id = true := List.contains_iff_mem.2 h.registered
  simp only [purges, hbat, Option.all_some, hreg, Bool.not_true, Bool.and_false]

end Keeping

-- ---------------------------------------------------------------------------
-- What readers return
-- ---------------------------------------------------------------------------

section Readers

variable {ε : Type} {s : Store} {repo : String} {f : Filter}

/-- Reading the row a lookup found, if it is visible, gives the record of a visible row. -/
theorem view_of_filter_ok {o : Option RecordRow} {r : Record}
    (h : (o.filter (·.visible)).mapM s.view = .ok (some r)) :
    ∃ row, o = some row ∧ row.visible = true ∧ r.id = some row.id := by
  rcases ho : o.filter (·.visible) with _ | row <;> rw [ho] at h
  · exact nomatch h
  obtain ⟨hsome, hvis⟩ := Option.filter_eq_some_iff.1 ho
  rcases hview : s.view row with e | r' <;> simp [hview] at h
  exact ⟨row, hsome, hvis, h ▸ (Engine.view_ok hview).1⟩

/-- A lookup of one record by a key reads a row of the store, and returns it only if it is
visible. -/
theorem lookup_visible {o : Option RecordRow} (ho : ∀ row, o = some row → row ∈ s.records)
    {r : Record} (h : (s.needTable "records" >>= fun _ => (o.filter (·.visible)).mapM s.view) =
      .ok (some r)) :
    ∃ row ∈ s.records, row.visible = true ∧ r.id = some row.id := by
  rcases hn : s.needTable "records" with e | _ <;> rw [hn] at h
  · exact nomatch h
  obtain ⟨row, hfind, hvis, hid⟩ := view_of_filter_ok h
  exact ⟨row, ho row hfind, hvis, hid⟩

theorem getRecord?_visible {id : Int} {r : Record} (h : s.getRecord? repo id = .ok (some r)) :
    ∃ row ∈ s.records, row.visible = true ∧ r.id = some row.id :=
  lookup_visible (fun _ => List.mem_of_find?_eq_some) h

theorem getOaiRecord?_visible {oaiId : String} {r : Record}
    (h : s.getOaiRecord? repo oaiId = .ok (some r)) :
    ∃ row ∈ s.records, row.visible = true ∧ r.id = some row.id :=
  lookup_visible (fun _ => List.mem_of_find?_eq_some) h

/-- A query selects visible rows of the store. -/
theorem mem_selectRows {row : RecordRow} (h : row ∈ s.selectRows repo f) :
    row ∈ s.records ∧ row.visible = true := by
  obtain ⟨hrow, hadm⟩ := List.mem_filter.1 h
  simp only [Filter.admits, Bool.and_eq_true] at hadm
  exact ⟨hrow, hadm.1.1.1.1.1.2⟩

theorem page_visible {size : Nat} {rs : List Record} (h : s.page repo f size = .ok rs)
    {r : Record} (hr : r ∈ rs) : ∃ row ∈ s.records, row.visible = true ∧ r.id = some row.id := by
  unfold page at h
  rcases hn : s.needTable "records" with e | _ <;> rw [hn] at h
  · exact nomatch h
  obtain ⟨row, hrow, hview⟩ := mem_of_mapM_ok h hr
  obtain ⟨hmem, hvis⟩ := mem_selectRows (List.mem_of_mem_take hrow)
  exact ⟨row, hmem, hvis, (Engine.view_ok hview).1⟩

theorem count_eq {n : Nat} (h : s.count repo f = .ok n) : n = (s.selectRows repo f).length := by
  unfold count at h
  rcases hn : s.needTable "records" with e | _ <;> rw [hn] at h
  · exact nomatch h
  cases h
  rfl

theorem headers_visible {size : Nat} {hs : List Header} (h : s.headers repo f size = .ok hs)
    {x : Header} (hx : x ∈ hs) : ∃ row ∈ s.records, row.visible = true ∧ x.id = row.id := by
  unfold headers at h
  rcases hn : s.needTable "records" with e | _ <;> rw [hn] at h
  · exact nomatch h
  cases h
  obtain ⟨row, hrow, rfl⟩ := List.mem_map.1 hx
  obtain ⟨hmem, hvis⟩ := mem_selectRows (List.mem_of_mem_take hrow)
  exact ⟨row, hmem, hvis, rfl⟩

theorem pending_visible {service : Int} {recordType : Option String} {after limit : Int}
    {rs : List Record} (h : s.pending service recordType after limit = .ok rs) {r : Record}
    (hr : r ∈ rs) : ∃ row ∈ s.records, row.visible = true ∧ r.id = some row.id := by
  obtain ⟨row, hrow, hview⟩ := mem_of_mapM_ok h hr
  -- the rows read are pending rows, cut to the limit or not
  have hpend : row ∈ s.records.filter (s.isPending service recordType after) := by
    split at hrow
    · exact hrow
    · exact List.mem_of_mem_take hrow
  obtain ⟨hmem, hp⟩ := List.mem_filter.1 hpend
  simp only [isPending, Bool.and_eq_true] at hp
  exact ⟨row, hmem, hp.1.1.1.1, (Engine.view_ok hview).1⟩

end Readers

-- ---------------------------------------------------------------------------
-- The record table in id order
-- ---------------------------------------------------------------------------

section IdOrder

variable {s t : Store}

/-- The id order of the record table, read off the rows' places. -/
theorem keyOrdered_iff_places :
    s.KeyOrdered ↔ (s.records.map RecordRow.place).Pairwise fun a b => a.1 < b.1 := by
  rw [List.pairwise_map]
  rfl

theorem keyOrdered_of_places (hp : t.records.map RecordRow.place = s.records.map RecordRow.place)
    (hk : s.KeyOrdered) : t.KeyOrdered := by
  rw [keyOrdered_iff_places] at hk ⊢
  rwa [hp]

/-- Deleting rows keeps the rest in id order. -/
theorem keyOrdered_of_filter {p : RecordRow → Bool} (hr : t.records = s.records.filter p)
    (hk : s.KeyOrdered) : t.KeyOrdered := by
  unfold KeyOrdered
  rw [hr]
  exact hk.filter p

/-- Rewriting rows in place, each under its own id, keeps them in id order. -/
theorem keyOrdered_of_map {f : RecordRow → RecordRow} (hr : t.records = s.records.map f)
    (hf : ∀ row, (f row).id = row.id) (hk : s.KeyOrdered) : t.KeyOrdered := by
  unfold KeyOrdered
  rw [hr, List.pairwise_map]
  exact hk.imp fun {a b} hab => by rwa [hf a, hf b]

/-- A row inserted under the next id goes after every row whose id was handed out. -/
theorem Inserted.keyOrdered {repo : String} {r : Record} {batch : Option Nat} {i : Int}
    (h : Inserted repo r batch i s t) (hk : s.KeyOrdered)
    (hle : ∀ row ∈ s.records, row.id ≤ s.lastId .records) : t.KeyOrdered := by
  rw [keyOrdered_iff_places, h.places, List.pairwise_append]
  refine ⟨keyOrdered_iff_places.1 hk, List.pairwise_singleton _ _, fun a ha b hb => ?_⟩
  obtain ⟨row, hrow, rfl⟩ := List.mem_map.1 ha
  rw [List.mem_singleton.1 hb]
  show row.id < i
  have := hle row hrow
  have := h.id
  omega

/-- After an insertion too, every id is one handed out. -/
theorem Inserted.ids_le {repo : String} {r : Record} {batch : Option Nat} {i : Int}
    (h : Inserted repo r batch i s t) (hle : ∀ row ∈ s.records, row.id ≤ s.lastId .records) :
    ∀ row ∈ t.records, row.id ≤ t.lastId .records := by
  intro row hrow
  rw [h.lastRecord]
  have hi := h.id
  rcases place_mem_of_places_eq h.places hrow with hp | hnew
  · obtain ⟨row', hrow', hid, -⟩ := exists_of_place_mem hp
    have := hle row' hrow'
    omega
  · have hid : row.id = i := congrArg Prod.fst (List.mem_singleton.1 hnew)
    omega

theorem mapM_insertRecord_keyOrdered {repo : String} {rs : List Record} {ids : List Int}
    (h : (rs.mapM fun r => insertRecord repo r none).run s = .ok (ids, t)) (hk : s.KeyOrdered)
    (hle : ∀ row ∈ s.records, row.id ≤ s.lastId .records) : t.KeyOrdered := by
  -- each insertion keeps both the order and the bound by the last id handed out
  induction rs generalizing s ids with
  | nil =>
    cases h
    exact hk
  | cons r rs ih =>
    rw [List.mapM_cons] at h
    obtain ⟨i, u, hins, hrest⟩ := Tx.bind_eq_ok.1 h
    obtain ⟨is, w, hmap, hpure⟩ := Tx.bind_eq_ok.1 hrest
    cases hpure
    have hu := insertRecord_inserted hins
    exact ih hmap (hu.keyOrdered hk hle) (hu.ids_le hle)

/-- A direct write keeps the record table in id order, on a store whose ids were handed out. -/
theorem Write.tx_keyOrdered (w : Write) {a : Unit} (h : w.tx.run s = .ok (a, t))
    (hs : s.Issued) (hk : s.KeyOrdered) : t.KeyOrdered := by
  cases w with
  | add repo r =>
    obtain ⟨i, u, hadd, hpure⟩ := Tx.bind_eq_ok.1 h
    cases hpure
    obtain ⟨j, u, hins, hrest⟩ := Tx.bind_eq_ok.1 hadd
    obtain ⟨_, w, htouch, hpure⟩ := Tx.bind_eq_ok.1 hrest
    cases hpure
    exact ((insertRecord_inserted hins).touch (touch_eq htouch)).keyOrdered hk hs.records
  | addMany repo rs =>
    obtain ⟨ids, u, hadd, hpure⟩ := Tx.bind_eq_ok.1 h
    cases hpure
    obtain ⟨is, u, hmap, hrest⟩ := Tx.bind_eq_ok.1 hadd
    obtain ⟨_, w, htouch, hpure⟩ := Tx.bind_eq_ok.1 hrest
    cases hpure
    have hu := mapM_insertRecord_keyOrdered hmap hk hs.records
    rw [touch_eq htouch]
    exact hu
  | update repo r =>
    obtain ⟨i, -, hw⟩ := updateRecord_rewrote h
    exact keyOrdered_of_places hw.places hk
  | markDeleted repo id => exact keyOrdered_of_places (markDeleted_places h).1 hk
  | addLineage p q =>
    rw [(addEdge_grown h).same]
    exact hk
  | removeLineage p q =>
    rw [removeLineage_eq h]
    exact hk
  | addLink p q =>
    rw [addLink_eq h]
    exact hk
  | touch repo =>
    rw [touch_eq h]
    exact hk

end IdOrder

-- ---------------------------------------------------------------------------
-- Runs of calls
-- ---------------------------------------------------------------------------

/-- A store with the write batches a run of calls opened on it and did not end or abort, by
id, each with whether its handle is still held. A batch let go of without ending stays open
in the store. -/
structure Staging where
  store : Store
  batches : Nat → Option (Batch × Bool)

namespace Staging

/-- A batch of the run that has not ended or been aborted. -/
def Unended (w : Staging) (b : Batch) : Prop :=
  ∃ held, w.batches b.id = some (b, held)

/-- A record id staged by a batch of the run that has not ended. -/
def Staged (w : Staging) (i : Int) : Prop :=
  ∃ b, w.Unended b ∧ i ∈ b.staged

/-- The calls of a run, each one transaction of the store. A call whose transaction fails
changes nothing and is left out, except that a batch whose end fails is let go of all the
same. -/
inductive Step : Staging → Staging → Prop
  /-- Open a batch on a repository. -/
  | begin {s t : Store} {m : Nat → Option (Batch × Bool)} {repo : String} {b : Batch} {n : Nat}
      (h : (Batch.start repo).run s = .ok ((b, n), t)) :
      Step ⟨s, m⟩ ⟨t, Function.update m b.id (some (b, true))⟩
  /-- Stage a record in a held batch. -/
  | add {s t : Store} {m : Nat → Option (Batch × Bool)} {b b' : Batch} {r : Record} {i : Int}
      (hb : m b.id = some (b, true)) (h : (b.add r).run s = .ok ((i, b'), t)) :
      Step ⟨s, m⟩ ⟨t, Function.update m b.id (some (b', true))⟩
  /-- Rewrite a record of a held batch's repository through the batch. -/
  | update {s t : Store} {m : Nat → Option (Batch × Bool)} {b : Batch} {r : Record}
      (hb : m b.id = some (b, true)) (h : (updateRecord b.repo r).run s = .ok ((), t)) :
      Step ⟨s, m⟩ ⟨t, m⟩
  /-- Hold back a mark in a held batch. -/
  | mark {s : Store} {m : Nat → Option (Batch × Bool)} {b : Batch}
      (hb : m b.id = some (b, true)) (x y : Int) :
      Step ⟨s, m⟩ ⟨s, Function.update m b.id (some (b.mark x y, true))⟩
  /-- End a held batch. -/
  | finish {s t : Store} {m : Nat → Option (Batch × Bool)} {b : Batch} {x : Nat × Nat}
      (hb : m b.id = some (b, true)) (h : b.commit.run s = .ok (x, t)) :
      Step ⟨s, m⟩ ⟨t, Function.update m b.id none⟩
  /-- End a held batch and fail: the handle is gone and the batch stays open. -/
  | finishFails {s : Store} {m : Nat → Option (Batch × Bool)} {b : Batch} {e : Error}
      (hb : m b.id = some (b, true)) (h : b.commit.run s = .error e) :
      Step ⟨s, m⟩ ⟨s, Function.update m b.id (some (b, false))⟩
  /-- Abort a held batch. -/
  | abort {s t : Store} {m : Nat → Option (Batch × Bool)} {b : Batch} {n : Nat}
      (hb : m b.id = some (b, true)) (h : b.abort.run s = .ok (n, t)) :
      Step ⟨s, m⟩ ⟨t, Function.update m b.id none⟩
  /-- Let a held batch go without ending it. -/
  | drop {s : Store} {m : Nat → Option (Batch × Bool)} {b : Batch}
      (hb : m b.id = some (b, true)) :
      Step ⟨s, m⟩ ⟨s, Function.update m b.id (some (b, false))⟩
  /-- Write directly. -/
  | write {s t : Store} {m : Nat → Option (Batch × Bool)} (wr : Write)
      (h : wr.tx.run s = .ok ((), t)) : Step ⟨s, m⟩ ⟨t, m⟩

/-- The states a run reaches from a store whose ids were handed out, with no batch open. -/
inductive Reachable : Staging → Prop
  | start {s : Store} (h : s.Issued) : Reachable ⟨s, fun _ => none⟩
  | step {w w' : Staging} : Reachable w → Step w w' → Reachable w'

/-- The invariant of a run: the store's ids were handed out, no batch id above the last one
handed out is in use, and every batch that has not ended holds its rows. -/
structure Coherent (w : Staging) : Prop where
  issued : w.store.Issued
  unused : ∀ k, w.store.lastBatch < k → w.batches k = none
  holds : ∀ b, w.Unended b → w.store.Holds b

theorem update_eq_some {m : Nat → Option (Batch × Bool)} {k : Nat} {v : Option (Batch × Bool)}
    {c : Batch} {held : Bool} :
    Function.update m k v c.id = some (c, held) ↔
      (c.id = k ∧ v = some (c, held)) ∨ (c.id ≠ k ∧ m c.id = some (c, held)) := by
  by_cases h : c.id = k
  · subst h
    simp
  · simp [h]

/-- A batch still open after an id is closed has another id. -/
theorem ne_of_update_none {m : Nat → Option (Batch × Bool)} {k : Nat} {c : Batch}
    {v : Batch × Bool} (h : Function.update m k none c.id = some v) : c.id ≠ k := fun heq => by
  rw [heq] at h
  simp at h

namespace Coherent

variable {s t : Store} {m : Nat → Option (Batch × Bool)} {b : Batch}

/-- A batch of the run has an id handed out. -/
theorem id_le (hw : Coherent ⟨s, m⟩) {held : Bool} (hb : m b.id = some (b, held)) :
    b.id ≤ s.lastBatch := by
  by_contra hlt
  have hnone : m b.id = none := hw.unused b.id (Nat.lt_of_not_le hlt)
  rw [hnone] at hb
  exact nomatch hb

/-- Keys other than a batch's own stay unused when the last batch id stays. -/
theorem unused_update (hw : Coherent ⟨s, m⟩) {held : Bool} (hb : m b.id = some (b, held))
    (hlast : t.lastBatch = s.lastBatch) (v : Option (Batch × Bool)) :
    ∀ k, t.lastBatch < k → Function.update m b.id v k = none := by
  intro k hk
  rw [hlast] at hk
  have hne : k ≠ b.id := by
    have := hw.id_le hb
    omega
  rw [Function.update_of_ne hne]
  exact hw.unused k hk

/-- Opening a batch keeps the invariant: the new batch staged nothing, and its fresh id is on no
row; the purge spares the rows of the batches registered as open. -/
theorem begin (hw : Coherent ⟨s, m⟩) {repo : String} {n : Nat}
    (h : (Batch.start repo).run s = .ok ((b, n), t)) :
    Coherent ⟨t, Function.update m b.id (some (b, true))⟩ := by
  have ho := Batch.start_opened h
  have hsub : ∀ row ∈ t.records, row ∈ s.records := fun row hrow => by
    rw [ho.records] at hrow
    exact (List.mem_filter.1 hrow).1
  have hid : b.id = s.lastBatch + 1 := by rw [ho.batch]
  refine ⟨hw.issued.mono (fun row hrow => .inl (List.mem_map_of_mem (hsub row hrow)))
    ho.lastRecord.ge (show s.lastBatch ≤ t.lastBatch by rw [ho.lastBatch]; omega),
    fun k hk => ?_, fun c ⟨held, hc⟩ => ?_⟩
  · rw [ho.lastBatch] at hk
    show Function.update m b.id _ k = none
    rw [Function.update_of_ne (by omega)]
    exact hw.unused k (show s.lastBatch < k by omega)
  rcases update_eq_some.1 hc with ⟨-, hcb⟩ | ⟨-, hc⟩
  · obtain ⟨rfl, -⟩ := Prod.mk.inj (Option.some.inj hcb)
    refine ⟨fun row _ hin => ?_, fun row hrow hbat => ?_, fun i hi => ?_, ?_⟩
    · rw [ho.batch] at hin
      exact absurd hin List.not_mem_nil
    · have : b.id ≤ s.lastBatch := hw.issued.batches row (hsub row hrow) b.id (Option.mem_def.2 hbat)
      omega
    · rw [ho.batch] at hi
      exact absurd hi List.not_mem_nil
    · rw [ho.openBatches, hid]
      simp
  · have hch := hw.holds c ⟨held, hc⟩
    refine hch.mono (fun row hrow => .inl (List.mem_map_of_mem (hsub row hrow)))
      ho.lastRecord.ge ?_
    rw [ho.openBatches, List.map_append]
    exact List.mem_append_left _ hch.registered

/-- Staging a record keeps the invariant. -/
theorem add (hw : Coherent ⟨s, m⟩) {b' : Batch} {r : Record} {i : Int}
    (hb : m b.id = some (b, true)) (h : (b.add r).run s = .ok ((i, b'), t)) :
    Coherent ⟨t, Function.update m b.id (some (b', true))⟩ := by
  obtain ⟨ha, rfl⟩ := Batch.add_appended h
  have hl := ha.ledger
  simp only [ledger, Prod.mk.injEq] at hl
  refine ⟨hw.issued.mono (fun row hrow => ?_)
    (show s.lastId .records ≤ t.lastId .records by rw [ha.lastRecord, ha.id]; omega) hl.1.ge,
    hw.unused_update hb hl.1 _, fun c ⟨held, hc⟩ => ?_⟩
  · rcases ha.rows row hrow with hp | ⟨hid, -, hbat⟩
    · exact .inl hp
    · refine .inr ⟨by rw [hid, ha.lastRecord], fun k hk => ?_⟩
      rw [hbat] at hk
      obtain rfl := Option.mem_some_iff.1 hk
      rw [hl.1]
      exact hw.id_le hb
  rcases update_eq_some.1 hc with ⟨-, hcb⟩ | ⟨hne, hc⟩
  · obtain ⟨rfl, -⟩ := Prod.mk.inj (Option.some.inj hcb)
    exact (hw.holds b ⟨true, hb⟩).add hw.issued ha
  · exact (hw.holds c ⟨held, hc⟩).add_other hne ha

/-- A direct write, or a rewrite through a batch, keeps the invariant. -/
theorem append (hw : Coherent ⟨s, m⟩) (ha : Appends s t) : Coherent ⟨t, m⟩ := by
  have hl := ha.ledger
  simp only [ledger, Prod.mk.injEq] at hl
  refine ⟨hw.issued.mono (fun row hrow => ?_) ha.grown hl.1.ge, fun k hk => ?_,
    fun c hc => (hw.holds c hc).append ha⟩
  · rcases ha.rows row hrow with hp | ⟨-, hbat, -, hle⟩
    · exact .inl hp
    · exact .inr ⟨hle, fun k hk => by rw [hbat] at hk; exact absurd hk (Option.not_mem_none k)⟩
  · rw [hl.1] at hk
    exact hw.unused k hk

/-- A call that leaves the store alone and puts under a batch's id a batch that holds its
rows keeps the invariant. -/
theorem retag (hw : Coherent ⟨s, m⟩) (hb : m b.id = some (b, true)) {b' : Batch}
    (hh : s.Holds b') (held : Bool) :
    Coherent ⟨s, Function.update m b.id (some (b', held))⟩ := by
  refine ⟨hw.issued, hw.unused_update hb rfl _, fun c ⟨held', hc⟩ => ?_⟩
  rcases update_eq_some.1 hc with ⟨-, hcb⟩ | ⟨-, hc⟩
  · obtain ⟨rfl, -⟩ := Prod.mk.inj (Option.some.inj hcb)
    exact hh
  · exact hw.holds c ⟨held', hc⟩

/-- Holding back a mark keeps the invariant. -/
theorem mark (hw : Coherent ⟨s, m⟩) (hb : m b.id = some (b, true)) (x y : Int) :
    Coherent ⟨s, Function.update m b.id (some (b.mark x y, true))⟩ :=
  hw.retag hb ((hw.holds b ⟨true, hb⟩).mark x y) true

/-- Letting a batch go without ending it keeps the invariant: it stays open. -/
theorem release (hw : Coherent ⟨s, m⟩) (hb : m b.id = some (b, true)) :
    Coherent ⟨s, Function.update m b.id (some (b, false))⟩ :=
  hw.retag hb (hw.holds b ⟨true, hb⟩) false

/-- Ending a batch keeps the invariant for the batches left open. -/
theorem finish (hw : Coherent ⟨s, m⟩) (hb : m b.id = some (b, true)) {x : Nat × Nat}
    (h : b.commit.run s = .ok (x, t)) : Coherent ⟨t, Function.update m b.id none⟩ := by
  have hbh := hw.holds b ⟨true, hb⟩
  have he := Batch.commit_ended hbh h
  have hsame : t.lastId = s.lastId ∧ t.lastBatch = s.lastBatch := by
    rw [he.same]
    exact ⟨rfl, rfl⟩
  refine ⟨hw.issued.mono (fun row hrow => ?_) (by rw [hsame.1]) hsame.2.ge,
    hw.unused_update hb hsame.2 _, fun c ⟨held, hc⟩ => ?_⟩
  · rw [he.records] at hrow
    obtain ⟨row0, hrow0, rfl⟩ := List.mem_map.1 hrow
    split
    · exact .inr ⟨by rw [hsame.1]; exact hw.issued.records row0 hrow0,
        fun k hk => absurd hk (Option.not_mem_none k)⟩
    · exact .inl (List.mem_map_of_mem hrow0)
  rcases update_eq_some.1 hc with ⟨-, hcb⟩ | ⟨hne, hc⟩
  · exact nomatch hcb
  · exact (hw.holds c ⟨held, hc⟩).ended_other hbh hne he

/-- Aborting a batch keeps the invariant for the batches left open. -/
theorem abort (hw : Coherent ⟨s, m⟩) (hb : m b.id = some (b, true)) {n : Nat}
    (h : b.abort.run s = .ok (n, t)) : Coherent ⟨t, Function.update m b.id none⟩ := by
  have ha := Batch.aborted_of_run (hw.holds b ⟨true, hb⟩) h
  have hsub : ∀ row ∈ t.records, row ∈ s.records := fun row hrow => by
    rw [ha.records] at hrow
    exact (List.mem_filter.1 hrow).1
  refine ⟨hw.issued.mono (fun row hrow => .inl (List.mem_map_of_mem (hsub row hrow)))
    ha.lastRecord.ge ha.lastBatch.ge, hw.unused_update hb ha.lastBatch _, fun c ⟨held, hc⟩ => ?_⟩
  rcases update_eq_some.1 hc with ⟨-, hcb⟩ | ⟨hne, hc⟩
  · exact nomatch hcb
  · exact (hw.holds c ⟨held, hc⟩).aborted_other hne ha

/-- Every call keeps the invariant. -/
theorem step {w w' : Staging} (hw : w.Coherent) (hs : Step w w') : w'.Coherent := by
  cases hs with
  | begin h => exact hw.begin h
  | add hb h => exact hw.add hb h
  | update hb h => exact hw.append (updateRecord_appends h)
  | mark hb x y => exact hw.mark hb x y
  | finish hb h => exact hw.finish hb h
  | finishFails hb _ => exact hw.release hb
  | abort hb h => exact hw.abort hb h
  | drop hb => exact hw.release hb
  | write wr h => exact hw.append (wr.tx_appends h)

/-- No call deletes, shows or moves a row staged by a batch that is open before it and after
it, whichever batch the call is on. -/
theorem untouched {w w' : Staging} (hw : w.Coherent) (hs : Step w w') {c : Batch}
    (hc : w.Unended c) (hc' : ∃ c' held, w'.batches c.id = some (c', held)) {row : RecordRow}
    (hrow : row ∈ w.store.records) (hin : row.id ∈ c.staged) :
    row.place ∈ w'.store.records.map RecordRow.place := by
  have hch := hw.holds c hc
  cases hs with
  | begin h =>
    rw [(Batch.start_opened h).records]
    exact List.mem_map_of_mem (List.mem_filter.2 ⟨hrow, by rw [hch.not_purged hrow hin]; rfl⟩)
  | add hb h => exact (Batch.add_appended h).1.kept row hrow
  | update hb h => exact (updateRecord_appends h).kept row hrow
  | mark hb x y => exact List.mem_map_of_mem hrow
  | @finish s t m b x hb h =>
    obtain ⟨c', held, hc'⟩ := hc'
    -- the row carries the other batch's id, so ending this one leaves it
    have hst := hch.not_isStaged (hw.holds b ⟨true, hb⟩) (ne_of_update_none hc') hrow hin
    rw [(Batch.commit_ended (hw.holds b ⟨true, hb⟩) h).records]
    exact List.mem_map_of_mem (List.mem_map.2 ⟨row, hrow, by rw [if_neg (by rw [hst]; simp)]⟩)
  | finishFails hb _ => exact List.mem_map_of_mem hrow
  | @abort s t m b n hb h =>
    obtain ⟨c', held, hc'⟩ := hc'
    have hst := hch.not_isStaged (hw.holds b ⟨true, hb⟩) (ne_of_update_none hc') hrow hin
    rw [(Batch.aborted_of_run (hw.holds b ⟨true, hb⟩) h).records]
    exact List.mem_map_of_mem (List.mem_filter.2 ⟨hrow, by rw [hst]; rfl⟩)
  | drop hb => exact List.mem_map_of_mem hrow
  | write wr h => exact (wr.tx_appends h).kept row hrow

/-- A visible row is staged by no batch of the run that has not ended. -/
theorem not_staged {w : Staging} (hw : w.Coherent) {row : RecordRow}
    (hrow : row ∈ w.store.records) (hvis : row.visible = true) : ¬w.Staged row.id := by
  rintro ⟨b, hb, hin⟩
  have := ((hw.holds b hb).hidden row hrow hin).1
  rw [hvis] at this
  exact Bool.false_ne_true this.symm

end Coherent

/-- Every state a run reaches is coherent. -/
theorem Reachable.coherent {w : Staging} (h : Reachable w) : w.Coherent := by
  induction h with
  | start hs => exact ⟨hs, fun _ _ => rfl, fun b ⟨held, hb⟩ => nomatch hb⟩
  | step _ hstep ih => exact ih.step hstep

/-- What isolation of write batches means in a state of a run.

* No reader returns a record staged by a batch that has not ended: the record lookups, the
  pages and headers of a query, its count, and the pending input of a service.
* Ending a held batch succeeds exactly when each of its marks names a record that is in the
  store or was marked already; it then shows exactly the rows the batch staged and applies
  exactly its marks, in one transaction.
* Aborting a batch deletes exactly the rows it staged and applies none of its marks.
* No call of the run deletes, shows or hides a row staged by a batch the call does not end or
  abort. -/
structure Isolated (w : Staging) : Prop where
  getRecord : ∀ repo id r i, w.store.getRecord? repo id = .ok (some r) → r.id = some i →
    ¬w.Staged i
  getOaiRecord : ∀ repo oaiId r i, w.store.getOaiRecord? repo oaiId = .ok (some r) →
    r.id = some i → ¬w.Staged i
  page : ∀ repo f size rs, w.store.page repo f size = .ok rs → ∀ r ∈ rs, ∀ i, r.id = some i →
    ¬w.Staged i
  count : ∀ repo f n, w.store.count repo f = .ok n →
    n = (w.store.selectRows repo f).length ∧ ∀ row ∈ w.store.selectRows repo f, ¬w.Staged row.id
  headers : ∀ repo f size hs, w.store.headers repo f size = .ok hs → ∀ x ∈ hs, ¬w.Staged x.id
  pending : ∀ service recordType after limit rs,
    w.store.pending service recordType after limit = .ok rs → ∀ r ∈ rs, ∀ i, r.id = some i →
      ¬w.Staged i
  commitOk : ∀ b, w.batches b.id = some (b, true) →
    ((∃ x t, b.commit.run w.store = .ok (x, t)) ↔
      ∀ m ∈ b.marks, m ∈ w.store.processedBy ∨ w.store.hasRecord m.1 = true)
  ended : ∀ b x t, w.Unended b → b.commit.run w.store = .ok (x, t) → Ended b w.store x t
  aborted : ∀ b, w.Unended b → ∃ n t, b.abort.run w.store = .ok (n, t) ∧ Aborted b w.store n t
  untouched : ∀ w', Step w w' → ∀ c, w.Unended c → (∃ c' held, w'.batches c.id = some (c', held)) →
    ∀ row ∈ w.store.records, row.id ∈ c.staged →
      row.place ∈ w'.store.records.map RecordRow.place

/-- A record a reader returns for a visible row is staged by no batch that has not ended. -/
theorem Coherent.not_staged_of_visible {w : Staging} (hw : w.Coherent) {r : Record} {i : Int}
    (h : ∃ row ∈ w.store.records, row.visible = true ∧ r.id = some row.id) (hi : r.id = some i) :
    ¬w.Staged i := by
  obtain ⟨row, hrow, hvis, hid⟩ := h
  obtain rfl : i = row.id := Option.some.inj (hi.symm.trans hid)
  exact hw.not_staged hrow hvis

/-- Write batches are isolated in every state a run of calls reaches. -/
theorem Reachable.isolated {w : Staging} (h : Reachable w) : w.Isolated := by
  have hw := h.coherent
  refine ⟨?getRecord, ?getOaiRecord, ?page, ?count, ?headers, ?pending, ?commitOk, ?ended,
    ?aborted, ?untouched⟩
  case getRecord =>
    intro repo id r i hr hi
    exact hw.not_staged_of_visible (getRecord?_visible hr) hi
  case getOaiRecord =>
    intro repo oaiId r i hr hi
    exact hw.not_staged_of_visible (getOaiRecord?_visible hr) hi
  case page =>
    intro repo f size rs hrs r hr i hi
    exact hw.not_staged_of_visible (page_visible hrs hr) hi
  case count =>
    intro repo f n hn
    refine ⟨count_eq hn, fun row hrow => ?_⟩
    obtain ⟨hmem, hvis⟩ := mem_selectRows hrow
    exact hw.not_staged hmem hvis
  case headers =>
    intro repo f size hs hhs x hx
    obtain ⟨row, hrow, hvis, hid⟩ := headers_visible hhs hx
    rw [hid]
    exact hw.not_staged hrow hvis
  case pending =>
    intro service recordType after limit rs hrs r hr i hi
    exact hw.not_staged_of_visible (pending_visible hrs hr) hi
  case commitOk => exact fun b _ => Batch.commit_ok_iff
  case ended => exact fun b x t hb hc => Batch.commit_ended (hw.holds b hb) hc
  case aborted => exact fun b hb => Batch.abort_aborted (hw.holds b hb)
  case untouched => exact fun w' hs c hc hc' row hrow hin => hw.untouched hs hc hc' hrow hin

/-- Every call of a run keeps the record table in id order. -/
theorem Step.keyOrdered {w w' : Staging} (hw : w.Coherent) (hk : w.store.KeyOrdered)
    (hs : Step w w') : w'.store.KeyOrdered := by
  cases hs with
  | begin h => exact keyOrdered_of_filter (Batch.start_opened h).records hk
  | add hb h => exact (Batch.add_inserted h).1.keyOrdered hk hw.issued.records
  | update hb h => exact Write.tx_keyOrdered (.update _ _) h hw.issued hk
  | mark hb x y => exact hk
  | finish hb h =>
    refine keyOrdered_of_map (Batch.commit_ended (hw.holds _ ⟨true, hb⟩) h).records
      (fun row => ?_) hk
    split <;> rfl
  | finishFails hb h => exact hk
  | abort hb h =>
    exact keyOrdered_of_filter (Batch.aborted_of_run (hw.holds _ ⟨true, hb⟩) h).records hk
  | drop hb => exact hk
  | write wr h => exact wr.tx_keyOrdered h hw.issued hk

/-- **The record table stays in id order** through every run of calls from a state of a run
whose table is in id order: batches opened, staged into, ended, aborted or let go, and direct
writes. -/
theorem keyOrdered_of_steps {w w' : Staging} (hsteps : Relation.ReflTransGen Step w w')
    (hw : w.Coherent) (hk : w.store.KeyOrdered) : w'.store.KeyOrdered ∧ w'.Coherent := by
  induction hsteps with
  | refl => exact ⟨hk, hw⟩
  | tail _ hs ih => exact ⟨Step.keyOrdered ih.2 ih.1 hs, ih.2.step hs⟩

/-- A repository holding one visible record, with the records table in place. -/
def oneRecordStore : Store :=
  { records :=
      [{ id := 1, repo := "r", oaiId := "v", format := "f", recordType := none, status := .active
         payload := .obj [], visible := true, batch := none, updatedAt := 0 }]
    lastId := fun q => if q = .records then 1 else 0
    tables := { main := [.table { (default : Sql.Table) with name := "records" }] } }

/-- Isolation holds while a batch holds a record it staged beside a visible one: a batch opened
on the repository stages record `x`, which takes id 2. -/
theorem isolated_with_staged_record :
    ∃ w, Reachable w ∧ w.Staged 2 ∧ w.Isolated := by
  have hiss : oneRecordStore.Issued := ⟨by simp [oneRecordStore], by simp [oneRecordStore]⟩
  have hopen := (Reachable.start hiss).step (.begin
    (rfl : (Batch.start "r").run oneRecordStore = .ok ((({ repo := "r", id := 1 } : Batch), 0), _)))
  have hstaged := hopen.step (.add (Function.update_self ..)
    (rfl : (Batch.add { repo := "r", id := 1 } { oaiId := "x", format := "f" }).run _ =
      .ok ((2, _), _)))
  refine ⟨_, hstaged, ⟨{ repo := "r", id := 1, staged := [2] }, ⟨true, ?_⟩, by decide⟩,
    Reachable.isolated hstaged⟩
  rfl

end Staging

end Catalog.Store
