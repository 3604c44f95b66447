import Catalog.Proofs.Harvest.Untouched
import Catalog.Proofs.Harvest.Rewrite
import Catalog.Proofs.Store.Paging
import Catalog.Proofs.Engine.Outputs

/-!
# What a harvest step stores

A harvest step stores the records a provider sent, one after another, in the provider's
repository: a record the repository shows under the sent OAI identifier is rewritten at once,
any other record is staged in the step's write batch, and the batch ends when all are stored.
This module follows the transactions of a step one by one and shows what every OAI identifier
reads as after each: the record it read as before, stored over by the record sent under it. The
whole step is put together from them in `Catalog.Proofs.Harvest.Repeat`.

This holds of a store whose bookkeeping is in order (`Store.Numbered`): ids ascend along the
record table and every relation row names an id handed out, so a new record reads back with
no sets, marks or edges it was not given.

## Main results

* `updateRecord_eq`, `Batch.add_eq`: the store the two writes of a step leave
* `Batch.getOai?_rewritten`, `Batch.getOai?_staging`: what the identifiers read as after each
  write
* `Ready`, `Batch.start_ready`, `Batch.getOai?_commit`, `Batch.commit_held`: the batch a step
  stores into, from its opening to its end
-/

namespace Catalog.Store

open Catalog.Harvest

variable {β : Type}

-- ---------------------------------------------------------------------------
-- Bookkeeping
-- ---------------------------------------------------------------------------

/-- The bookkeeping that lets a harvest read back what it stored: ids ascend along the record
table, every row and every relation row names an id handed out, every edge leads into one, and
every staging batch was handed out. -/
structure Numbered (s : Store) : Prop where
  ordered : s.KeyOrdered
  issued : s.Issued
  sets : ∀ e ∈ s.recordSets, e.1 ≤ s.lastId .records
  processedBy : ∀ e ∈ s.processedBy, e.1 ≤ s.lastId .records
  inputFor : ∀ e ∈ s.inputFor, e.1 ≤ s.lastId .records
  lineage : ∀ e ∈ s.lineage, e.2 ≤ s.lastId .records

/-- Two rows of one id are one row. -/
theorem Numbered.eq_of_id {s : Store} (hn : s.Numbered) {row row' : RecordRow}
    (hrow : row ∈ s.records) (hrow' : row' ∈ s.records) (hid : row.id = row'.id) : row = row' :=
  List.inj_on_of_nodup_map (List.pairwise_map.2 hn.ordered).nodup hrow hrow' hid

-- ---------------------------------------------------------------------------
-- Relation rows
-- ---------------------------------------------------------------------------

theorem mem_seconds_iff [BEq β] [LawfulBEq β] {xs : List (Int × β)} {a : Int} {c : β} :
    c ∈ seconds xs a ↔ (a, c) ∈ xs := by
  simp [seconds]

theorem mem_seconds_foldl_addPair [BEq β] [LawfulBEq β] {xs : List (Int × β)} {i a : Int}
    {ys : List β} {c : β} :
    c ∈ seconds (ys.foldl (fun acc y => addPair acc (i, y)) xs) a ↔
      c ∈ seconds xs a ∨ (a = i ∧ c ∈ ys) := by
  rw [mem_seconds_iff, mem_foldl_addPair, mem_seconds_iff]

/-- The relation rows an update writes: those of id `i` replaced by `i` paired with each of
`ys`. -/
def replacePairs [BEq β] (xs : List (Int × β)) (i : Int) (ys : List β) : List (Int × β) :=
  ys.foldl (fun acc y => addPair acc (i, y)) (xs.filter (·.1 != i))

theorem mem_seconds_replacePairs [BEq β] [LawfulBEq β] {xs : List (Int × β)} {i : Int}
    {ys : List β} {c : β} : c ∈ seconds (replacePairs xs i ys) i ↔ c ∈ ys := by
  rw [replacePairs, mem_seconds_foldl_addPair, mem_seconds_iff, List.mem_filter]
  simp

theorem seconds_replacePairs_of_ne [BEq β] [LawfulBEq β] {xs : List (Int × β)} {i a : Int}
    {ys : List β} (h : i ≠ a) : seconds (replacePairs xs i ys) a = seconds xs a := by
  rw [replacePairs, seconds_foldl_addPair_of_ne _ h]
  exact seconds_filter_of fun e he => by simp [he, Ne.symm h]

/-- The sets of a record read back alike from names with the same elements. -/
theorem readSets_congr {xs ys : List String} (h : ∀ a, a ∈ xs ↔ a ∈ ys) :
    readSets xs = readSets ys :=
  SortedList.ofList_eq_of_mem_iff fun a => by simp only [List.mem_flatMap, h]

-- ---------------------------------------------------------------------------
-- Rewriting a record
-- ---------------------------------------------------------------------------

/-- A row as an update rewrites it to hold record `w`, at time `clock`. -/
def RecordRow.overwrite (row : RecordRow) (w : Record) (clock : Int) : RecordRow :=
  { row with
    format := w.format, recordType := w.recordType, status := w.status
    payload := w.payload.reread, rawPayload := none, updatedAt := clock }

/-- The store an update of record `i` to `w` leaves, but for the repositories' times of change:
the rows of id `i` are rewritten and the sets and marks of `i` replaced. -/
def rewritten (s : Store) (i : Int) (w : Record) : Store :=
  { s with
    records := s.records.map fun row => if row.id == i then row.overwrite w s.clock else row
    recordSets := replacePairs s.recordSets i w.sets
    processedBy := replacePairs s.processedBy i w.processedBy
    inputFor := replacePairs s.inputFor i w.inputFor }

/-- Adding the edges from predecessors that are there already changes nothing. -/
theorem forM_addEdge_of_mem {ps : List Int} {q : Int} {s : Store}
    (h : ∀ p ∈ ps, (p, q) ∈ s.lineage) : (ps.forM fun p => addEdge p q).run s = .ok ((), s) := by
  induction ps with
  | nil => rfl
  | cons p ps ih =>
    have hp : (addEdge p q).run s = .ok ((), s) := by
      simp [addEdge, h p List.mem_cons_self]
      rfl
    exact Tx.bind_eq_ok.2 ⟨(), s, hp, ih fun p' hp' => h p' (List.mem_cons_of_mem _ hp')⟩

/-- Writing the relations of a record whose edges from predecessors are there already and
that has no successors adds no edge. -/
theorem writeRelations_lineage_of_mem {i : Int} {r : Record} {s t : Store} {a : Unit}
    (h : (writeRelations i r).run s = .ok (a, t)) (hp : ∀ p ∈ r.predecessors, (p, i) ∈ s.lineage)
    (hs : r.successors = []) : t.lineage = s.lineage := by
  obtain ⟨_, u, hu, hedges⟩ := Tx.bind_eq_ok.1 h
  have hlu : u.lineage = s.lineage := by
    cases hu
    rfl
  obtain ⟨_, w, hpred, hsucc⟩ := Tx.bind_eq_ok.1 hedges
  have hpu : ∀ p ∈ r.predecessors, (p, i) ∈ u.lineage := fun p hp' => hlu ▸ hp p hp'
  rw [forM_addEdge_of_mem hpu] at hpred
  cases hpred
  rw [hs] at hsucc
  cases hsucc
  exact hlu

/-- **Rewriting a record** of id `i` whose edges from predecessors are there already and that
has no successors: the store is rewritten as `rewritten` says. -/
theorem updateRecord_eq {repo : String} {w : Record} {i : Int} {s t : Store}
    (hid : w.id = some i) (hpred : ∀ p ∈ w.predecessors, (p, i) ∈ s.lineage)
    (hsucc : w.successors = []) (h : (updateRecord repo w).run s = .ok ((), t)) :
    t = { s.rewritten i w with modified := t.modified } := by
  obtain ⟨i', u₁, hi, h₁⟩ := Tx.bind_eq_ok.1 h
  obtain ⟨hreq, rfl⟩ := ofOutcome_eq_ok hi
  obtain rfl : i' = i := by
    unfold Record.requireId at hreq
    rw [hid] at hreq
    cases hreq
    rfl
  obtain ⟨_, u₂, huse, h₂⟩ := Tx.bind_eq_ok.1 h₁
  obtain ⟨-, rfl⟩ := useTable_eq_ok huse
  obtain ⟨_, u₃, hget, h₃⟩ := Tx.bind_eq_ok.1 h₂
  cases hget
  dsimp only at h₃
  split at h₃
  · obtain ⟨_, u₄, hset, h₄⟩ := Tx.bind_eq_ok.1 h₃
    cases hset
    obtain ⟨_, u₅, hw, htouch⟩ := Tx.bind_eq_ok.1 h₄
    have hlin := writeRelations_lineage_of_mem hw hpred hsucc
    rw [touch_eq htouch, writeRelations_eq hw, hlin]
    rfl
  · -- a record the repository does not hold is refused
    obtain ⟨_, _, hfail, -⟩ := Tx.bind_eq_ok.1 h₃
    cases hfail

-- ---------------------------------------------------------------------------
-- Staging a record
-- ---------------------------------------------------------------------------

/-- The row staging record `w` under id `j` in batch `b`, at time `clock`. -/
def Batch.newRow (b : Batch) (j : Int) (w : Record) (clock : Int) : RecordRow :=
  { id := j, repo := b.repo, oaiId := w.oaiId, format := w.format, recordType := w.recordType
    status := w.status, payload := w.payload.reread, visible := false, batch := some b.id
    updatedAt := clock }

/-- The store that staging record `w` in batch `b` leaves, but for the repositories' times of
change: the row is appended under the next id, with the record's sets and marks. -/
def Batch.staging (b : Batch) (s : Store) (w : Record) : Store :=
  let j := s.lastId .records + 1
  { s with
    records := s.records ++ [b.newRow j w s.clock]
    recordSets := w.sets.foldl (fun acc spec => addPair acc (j, spec)) s.recordSets
    processedBy := w.processedBy.foldl (fun acc sv => addPair acc (j, sv)) s.processedBy
    inputFor := w.inputFor.foldl (fun acc sv => addPair acc (j, sv)) s.inputFor
    lastId := fun q => if q = .records then j else s.lastId q }

/-- **Staging a record** with no lineage: it takes the next id, no row of the repository had its
OAI identifier, and the store is changed as `Batch.staging` says. -/
theorem Batch.add_eq {b b' : Batch} {w : Record} {s t : Store} {j : Int}
    (hpred : w.predecessors = []) (hsucc : w.successors = [])
    (h : (b.add w).run s = .ok ((j, b'), t)) :
    j = s.lastId .records + 1 ∧ b' = { b with staged := SortedList.insert j b.staged } ∧
      (∀ row ∈ s.records, ¬(row.repo = b.repo ∧ row.oaiId = w.oaiId)) ∧
      t = { b.staging s w with modified := t.modified } := by
  obtain ⟨j', u, hins, hrest⟩ := Tx.bind_eq_ok.1 h
  obtain ⟨_, v, htouch, hpure⟩ := Tx.bind_eq_ok.1 hrest
  cases hpure
  obtain ⟨_, u₁, huse, h₁⟩ := Tx.bind_eq_ok.1 hins
  obtain ⟨-, rfl⟩ := useTable_eq_ok huse
  obtain ⟨_, u₂, hget, h₂⟩ := Tx.bind_eq_ok.1 h₁
  cases hget
  dsimp only at h₂
  split at h₂
  · -- a row of the repository under the identifier is refused
    obtain ⟨_, _, hfail, -⟩ := Tx.bind_eq_ok.1 h₂
    cases hfail
  rename_i hfree
  obtain ⟨j, u₃, hnext, h₃⟩ := Tx.bind_eq_ok.1 h₂
  cases hnext
  obtain ⟨_, u₄, hmod, h₄⟩ := Tx.bind_eq_ok.1 h₃
  cases hmod
  obtain ⟨_, u₅, hw, hpure⟩ := Tx.bind_eq_ok.1 h₄
  cases hpure
  have hlin := writeRelations_lineage_of_mem hw (fun p hp => absurd hp (hpred ▸ List.not_mem_nil))
    hsucc
  refine ⟨rfl, rfl, fun row hrow ⟨hrepo, hoai⟩ => hfree ?_, ?_⟩
  · exact List.any_eq_true.2 ⟨row, hrow, by simp [hrepo, hoai]⟩
  · rw [touch_eq htouch, writeRelations_eq hw, hlin]
    rfl

-- ---------------------------------------------------------------------------
-- Reading back
-- ---------------------------------------------------------------------------

/-- The record a repository shows under an OAI identifier: the row found, if visible, read back.
Reading a record by identifier gives it once the record table is there. -/
def shown (s : Store) (repo x : String) : Outcome (Option Record) :=
  ((s.findOaiRow? repo x).filter (·.visible)).mapM s.view

/-- A batch that staged nothing reads what its repository shows. -/
theorem Batch.getOai?_of_staged_nil {b : Batch} (hb : b.staged = []) (s : Store) (x : String) :
    b.getOai? s x = s.shown b.repo x := by
  unfold Batch.getOai? shown
  congr 2
  funext row
  simp [Batch.isStaged, hb]

theorem view_oaiId {s : Store} {row : RecordRow} {o : Record} (h : s.view row = .ok o) :
    o.oaiId = row.oaiId := by
  unfold view at h
  rcases hdoc : row.document with e | payload <;> rw [hdoc] at h
  · cases h
  · cases h
    rfl

/-- A rewritten row reads back as the record written, stored. -/
theorem view_overwrite {s : Store} {row : RecordRow} {w : Record} (hid : w.id = some row.id)
    (hoai : w.oaiId = row.oaiId) (hpred : w.predecessors = s.predecessorIds row.id)
    (hsucc : w.successors = []) (m : List (String × Int)) :
    { s.rewritten row.id w with modified := m }.view (row.overwrite w s.clock) = .ok w.stored := by
  have hsets : readSets (seconds (replacePairs s.recordSets row.id w.sets) row.id) =
      readSets w.sets :=
    readSets_congr fun _ => mem_seconds_replacePairs
  have hpb : SortedList.ofList (seconds (replacePairs s.processedBy row.id w.processedBy) row.id) =
      SortedList.ofList w.processedBy :=
    SortedList.ofList_eq_of_mem_iff fun _ => mem_seconds_replacePairs
  have hin : SortedList.ofList (seconds (replacePairs s.inputFor row.id w.inputFor) row.id) =
      SortedList.ofList w.inputFor :=
    SortedList.ofList_eq_of_mem_iff fun _ => mem_seconds_replacePairs
  simp only [view, RecordRow.document, RecordRow.overwrite, rewritten, hsets, hpb, hin]
  refine congrArg Except.ok ?_
  ext1 <;> simp [Record.stored, hid, hoai, hpred, hsucc, predecessorIds]

/-- Rewriting a record leaves every other row reading back as it did. -/
theorem view_rewritten_of_ne {s : Store} {i : Int} {w : Record} {row : RecordRow} (h : row.id ≠ i)
    (m : List (String × Int)) : { s.rewritten i w with modified := m }.view row = s.view row := by
  simp only [view, rewritten, predecessorIds, seconds_replacePairs_of_ne (Ne.symm h)]

/-- Rows rewritten in place, keeping their identifiers and repositories, are found where they
were. -/
theorem findOaiRow?_map {s t : Store} {f : RecordRow → RecordRow}
    (ht : t.records = s.records.map f) (hf : ∀ row, (f row).oaiId = row.oaiId ∧ (f row).repo = row.repo)
    (repo x : String) : t.findOaiRow? repo x = (s.findOaiRow? repo x).map f := by
  unfold findOaiRow?
  rw [ht, List.find?_map]
  congr 2
  funext row
  simp only [Function.comp_apply, (hf row).1, (hf row).2]

/-- What a batch reads under an identifier: the row it finds, if visible or staged by the batch,
read back. -/
theorem Batch.getOai?_eq_some {b : Batch} {s : Store} {x : String} {o : Record} :
    b.getOai? s x = .ok (some o) ↔ ∃ row, s.findOaiRow? b.repo x = some row ∧
      (row.visible || b.isStaged row.id) = true ∧ s.view row = .ok o := by
  unfold Batch.getOai?
  rcases hfind : s.findOaiRow? b.repo x with _ | row
  · constructor
    · intro h
      cases h
    · rintro ⟨_, hnone, -⟩
      cases hnone
  · rw [Option.filter_some]
    by_cases hp : (row.visible || b.isStaged row.id) = true
    · rw [if_pos hp, Option.mapM_some]
      constructor
      · intro h
        rcases hview : s.view row with e | r <;> rw [hview] at h
        · cases h
        · cases h
          exact ⟨row, rfl, hp, hview⟩
      · rintro ⟨_, ⟨⟩, -, hview⟩
        rw [hview]
        rfl
    · -- a row the batch may not show reads as no record
      rw [if_neg hp]
      constructor
      · intro h
        cases h
      · rintro ⟨_, ⟨⟩, h, -⟩
        exact absurd h hp

/-- What a batch reads after rows are rewritten in place, keeping what finds and shows them. -/
theorem Batch.getOai?_map {b : Batch} {s t : Store} {f : RecordRow → RecordRow}
    (ht : t.records = s.records.map f)
    (hf : ∀ row, (f row).oaiId = row.oaiId ∧ (f row).repo = row.repo ∧
      (f row).visible = row.visible ∧ (f row).id = row.id) (y : String) :
    b.getOai? t y = ((s.findOaiRow? b.repo y).filter fun row => row.visible || b.isStaged row.id).mapM
      fun row => t.view (f row) := by
  unfold Batch.getOai?
  rw [findOaiRow?_map ht (fun row => ⟨(hf row).1, (hf row).2.1⟩)]
  rcases s.findOaiRow? b.repo y with _ | row
  · rfl
  · simp only [Option.map_some, Option.filter_some, (hf row).2.2.1, (hf row).2.2.2]
    split <;> rfl

theorem findOaiRow?_some {s : Store} {repo x : String} {row : RecordRow}
    (h : s.findOaiRow? repo x = some row) : row ∈ s.records ∧ row.oaiId = x ∧ row.repo = repo := by
  have hp := List.find?_some h
  simp only [Bool.and_eq_true, beq_iff_eq] at hp
  exact ⟨List.mem_of_find?_eq_some h, hp⟩

/-- **Reading after a rewrite.** Once the record a batch reads under `x` is rewritten to `w`,
`x` reads as `w` stored, and every other identifier reads as it did. -/
theorem Batch.getOai?_rewritten {b : Batch} {s : Store} (hn : s.Numbered) {x : String}
    {r w : Record} (hget : b.getOai? s x = .ok (some r)) {i : Int} (hi : r.id = some i)
    (hid : w.id = r.id) (hoai : w.oaiId = r.oaiId) (hpred : w.predecessors = r.predecessors)
    (hsucc : w.successors = r.successors) (m : List (String × Int)) (y : String) :
    b.getOai? { s.rewritten i w with modified := m } y =
      if y = x then .ok (some w.stored) else b.getOai? s y := by
  obtain ⟨row, hfind, hshown, hview⟩ := Batch.getOai?_eq_some.1 hget
  obtain ⟨hrid, hrpred, hrsucc, -, -⟩ := Engine.view_ok hview
  obtain rfl : i = row.id := Option.some.inj (hi.symm.trans hrid)
  obtain ⟨hrow, hx, -⟩ := findOaiRow?_some hfind
  have hf : ∀ row' : RecordRow,
      let f := if row'.id == row.id then row'.overwrite w s.clock else row'
      f.oaiId = row'.oaiId ∧ f.repo = row'.repo ∧ f.visible = row'.visible ∧ f.id = row'.id := by
    intro row'
    dsimp only
    split <;> exact ⟨rfl, rfl, rfl, rfl⟩
  rw [Batch.getOai?_map rfl hf]
  by_cases hy : y = x
  · -- the identifier rewritten finds the row rewritten
    subst hy
    rw [if_pos rfl, hfind, Option.filter_some, if_pos hshown, Option.mapM_some]
    simp only [beq_self_eq_true, ↓reduceIte]
    rw [view_overwrite (hid.trans hrid) (hoai.trans (view_oaiId hview))
      (hpred.trans hrpred) (hsucc.trans hrsucc)]
    rfl
  · -- any other identifier finds another row, if any
    rw [if_neg hy]
    unfold Batch.getOai?
    rcases hfind' : s.findOaiRow? b.repo y with _ | row'
    · rfl
    obtain ⟨hrow', hy', -⟩ := findOaiRow?_some hfind'
    have hne : row'.id ≠ row.id := fun he => hy (hy'.symm.trans (by rw [hn.eq_of_id hrow' hrow he, hx]))
    simp only [Option.filter_some]
    split
    · simp only [Option.mapM_some, beq_iff_eq, hne, ↓reduceIte, view_rewritten_of_ne hne]
    · rfl

/-- Relation rows added under an id above every id handed out are all the rows of that id. -/
theorem mem_seconds_foldl_addPair_fresh [BEq β] [LawfulBEq β] {xs : List (Int × β)} {n : Int}
    (hxs : ∀ e ∈ xs, e.1 ≤ n) (ys : List β) (c : β) :
    c ∈ seconds (ys.foldl (fun acc y => addPair acc (n + 1, y)) xs) (n + 1) ↔ c ∈ ys := by
  rw [mem_seconds_foldl_addPair, mem_seconds_iff]
  constructor
  · rintro (he | ⟨-, hc⟩)
    · have := hxs _ he
      simp only at this
      omega
    · exact hc
  · exact fun hc => .inr ⟨rfl, hc⟩

/-- A staged row reads back as the record staged, under its new id: the store held no sets,
marks or edges of that id. -/
theorem view_newRow {b : Batch} {s : Store} (hn : s.Numbered) {w : Record}
    (hpred : w.predecessors = []) (hsucc : w.successors = []) (m : List (String × Int)) :
    { b.staging s w with modified := m }.view (b.newRow (s.lastId .records + 1) w s.clock) =
      .ok { w with id := some (s.lastId .records + 1) }.stored := by
  have hsets := readSets_congr (mem_seconds_foldl_addPair_fresh hn.sets w.sets)
  have hpb := SortedList.ofList_eq_of_mem_iff
    (mem_seconds_foldl_addPair_fresh hn.processedBy w.processedBy)
  have hin := SortedList.ofList_eq_of_mem_iff
    (mem_seconds_foldl_addPair_fresh hn.inputFor w.inputFor)
  -- no edge leads into the new id
  have hnone : SortedList.ofList (firsts s.lineage (s.lastId .records + 1)) = [] := by
    have hno : ∀ p, p ∈ firsts s.lineage (s.lastId .records + 1) ↔ p ∈ ([] : List Int) := by
      intro p
      rw [Engine.mem_firsts]
      refine ⟨fun he => ?_, fun he => absurd he List.not_mem_nil⟩
      have := hn.lineage _ he
      simp only at this
      omega
    exact SortedList.ofList_eq_of_mem_iff hno
  simp only [view, RecordRow.document, Batch.newRow, Batch.staging, hsets, hpb, hin]
  refine congrArg Except.ok ?_
  ext1 <;> simp [Record.stored, hpred, hsucc, predecessorIds, hnone]

/-- Staging a record leaves every other row reading back as it did. -/
theorem view_staging_of_ne {b : Batch} {s : Store} {w : Record} {row : RecordRow}
    (h : row.id ≠ s.lastId .records + 1) (m : List (String × Int)) :
    { b.staging s w with modified := m }.view row = s.view row := by
  simp only [view, Batch.staging, predecessorIds, seconds_foldl_addPair_of_ne _ (Ne.symm h)]

/-- **Reading after staging.** Once a record is staged under the next id, its identifier reads as
the record stored under that id, and every other identifier reads as it did. -/
theorem Batch.getOai?_staging {b : Batch} {s : Store} (hn : s.Numbered) {w : Record}
    (hfree : ∀ row ∈ s.records, ¬(row.repo = b.repo ∧ row.oaiId = w.oaiId))
    (hpred : w.predecessors = []) (hsucc : w.successors = []) (m : List (String × Int))
    (y : String) :
    ({ b with staged := SortedList.insert (s.lastId .records + 1) b.staged } : Batch).getOai?
        { b.staging s w with modified := m } y =
      if y = w.oaiId then .ok (some { w with id := some (s.lastId .records + 1) }.stored)
      else b.getOai? s y := by
  have hold : ∀ row ∈ s.records, row.id ≠ s.lastId .records + 1 := fun row hrow => by
    have := hn.issued.records row hrow
    omega
  -- the new row comes last, so it is found only where no old row is
  have hfind : { b.staging s w with modified := m }.findOaiRow? b.repo y =
      (s.findOaiRow? b.repo y).or
        (if (b.newRow (s.lastId .records + 1) w s.clock).oaiId == y &&
            (b.newRow (s.lastId .records + 1) w s.clock).repo == b.repo
          then some (b.newRow (s.lastId .records + 1) w s.clock) else none) := by
    unfold findOaiRow?
    rw [show ({ b.staging s w with modified := m } : Store).records =
      s.records ++ [b.newRow (s.lastId .records + 1) w s.clock] from rfl, List.find?_append,
      List.find?_singleton]
  have hread : ({ b with staged := SortedList.insert (s.lastId .records + 1) b.staged } : Batch).getOai?
      { b.staging s w with modified := m } y =
      (({ b.staging s w with modified := m } : Store).findOaiRow? b.repo y |>.filter
        fun row : RecordRow => row.visible || (SortedList.insert (s.lastId .records + 1) b.staged).contains row.id).mapM
        { b.staging s w with modified := m }.view := rfl
  rw [hread, hfind]
  by_cases hy : y = w.oaiId
  · -- the new row is the first of the repository under its identifier
    subst hy
    have hnone : s.findOaiRow? b.repo w.oaiId = none :=
      List.find?_eq_none.2 fun row hrow hp => hfree row hrow (by simpa [and_comm] using hp)
    have hnew : ((b.newRow (s.lastId .records + 1) w s.clock).oaiId == w.oaiId &&
        (b.newRow (s.lastId .records + 1) w s.clock).repo == b.repo) = true := by
      simp [Batch.newRow]
    have hshown : ((b.newRow (s.lastId .records + 1) w s.clock).visible ||
        (SortedList.insert (s.lastId .records + 1) b.staged).contains
          (b.newRow (s.lastId .records + 1) w s.clock).id) = true := by
      simp [Batch.newRow]
    rw [hnone, Option.none_or, if_pos hnew, Option.filter_some, if_pos hshown, Option.mapM_some,
      view_newRow hn hpred hsucc, if_pos rfl]
    rfl
  · -- any other identifier finds an old row, if any, which the batch shows as it did
    have hnew : ((b.newRow (s.lastId .records + 1) w s.clock).oaiId == y &&
        (b.newRow (s.lastId .records + 1) w s.clock).repo == b.repo) = false := by
      simp [Batch.newRow, Ne.symm hy]
    rw [if_neg (by rw [hnew]; decide), Option.or_none, if_neg hy]
    unfold Batch.getOai?
    rcases hfound : s.findOaiRow? b.repo y with _ | row
    · rfl
    have hid := hold row (findOaiRow?_some hfound).1
    have hstaged : (SortedList.insert (s.lastId .records + 1) b.staged).contains row.id =
        b.isStaged row.id := by
      rw [Bool.eq_iff_iff]
      simp [Batch.isStaged, SortedList.mem_insert, hid]
    rw [Option.filter_some, Option.filter_some, hstaged]
    split
    · rw [Option.mapM_some, Option.mapM_some, view_staging_of_ne hid]
    · rfl

-- ---------------------------------------------------------------------------
-- A store ready for a batch to stage into
-- ---------------------------------------------------------------------------

/-- Every hidden row of repository `repo` is held by a batch still open: opening a batch on the
repository purges nothing. -/
def HeldOpen (repo : String) (s : Store) : Prop :=
  ∀ row ∈ s.records, purges s repo row = false

/-- A store ready for batch `b` to stage into: its bookkeeping is in order, every hidden row of
the batch's repository is held by an open batch, the batch is open and was handed out, and the
rows the batch staged are the rows under its id. -/
structure Ready (b : Batch) (s : Store) : Prop where
  numbered : s.Numbered
  held : HeldOpen b.repo s
  opened : b.id ∈ s.openBatches.map (·.1)
  issued : b.id ≤ s.lastBatch
  staged : ∀ row ∈ s.records, row.id ∈ b.staged ↔ row.batch = some b.id

/-- The store beside its records: all but the record rows, their relations, the ids handed out
and the repositories' times of change. Storing records keeps it. -/
def beside (s : Store) : Store :=
  { s with
    records := [], recordSets := [], processedBy := [], inputFor := [], lastId := fun _ => 0
    modified := [] }

theorem mem_replacePairs_le [BEq β] [LawfulBEq β] {xs : List (Int × β)} {n i : Int}
    (hxs : ∀ e ∈ xs, e.1 ≤ n) (hi : i ≤ n) (ys : List β) :
    ∀ e ∈ replacePairs xs i ys, e.1 ≤ n := by
  intro e he
  rcases mem_foldl_addPair.1 he with he | ⟨he, -⟩
  · exact hxs e (List.mem_filter.1 he).1
  · exact he ▸ hi

theorem mem_foldl_addPair_le [BEq β] [LawfulBEq β] {xs : List (Int × β)} {n : Int}
    (hxs : ∀ e ∈ xs, e.1 ≤ n) (ys : List β) :
    ∀ e ∈ ys.foldl (fun acc y => addPair acc (n + 1, y)) xs, e.1 ≤ n + 1 := by
  intro e he
  rcases mem_foldl_addPair.1 he with he | ⟨he, -⟩
  · exact (hxs e he).trans (Int.le_add_one le_rfl)
  · exact he.le

/-- Every row an update leaves has the seat of a row there before: an update changes what a row
holds, never where it sits. -/
theorem rewritten_seats (s : Store) (i : Int) (w : Record) :
    ∀ row' ∈ (s.rewritten i w).records, ∃ row₀ ∈ s.records, row'.seat = row₀.seat := by
  intro row' h
  obtain ⟨row₀, h₀, rfl⟩ := List.mem_map.1 h
  refine ⟨row₀, h₀, ?_⟩
  split <;> rfl

/-- Rewriting a record that is there keeps the bookkeeping in order: the rows keep their ids and
batches, and the new set names and marks are of an id handed out. -/
theorem Numbered.rewritten {s : Store} (hn : s.Numbered) {row : RecordRow} (hrow : row ∈ s.records)
    (w : Record) (m : List (String × Int)) : { s.rewritten row.id w with modified := m }.Numbered := by
  have hmem := rewritten_seats s row.id w
  have hle := hn.issued.records row hrow
  refine ⟨?ordered, ⟨?ids, ?batches⟩, ?sets, ?processedBy, ?inputFor, hn.lineage⟩
  case ordered =>
    refine List.pairwise_map.2 (hn.ordered.imp fun {a c} hac => ?_)
    split <;> split <;> exact hac
  case ids =>
    intro row' h
    obtain ⟨row₀, h₀, hs⟩ := hmem row' h
    rw [(RecordRow.seat_eq_iff.1 hs).1]
    exact hn.issued.records row₀ h₀
  case batches =>
    intro row' h
    obtain ⟨row₀, h₀, hs⟩ := hmem row' h
    rw [(RecordRow.seat_eq_iff.1 hs).2.2.2.1]
    exact hn.issued.batches row₀ h₀
  case sets => exact mem_replacePairs_le hn.sets hle w.sets
  case processedBy => exact mem_replacePairs_le hn.processedBy hle w.processedBy
  case inputFor => exact mem_replacePairs_le hn.inputFor hle w.inputFor

/-- Rewriting a record that is there keeps a store ready for a batch. -/
theorem Ready.rewritten {b : Batch} {s : Store} (hr : Ready b s) {row : RecordRow}
    (hrow : row ∈ s.records) (w : Record) (m : List (String × Int)) :
    Ready b { s.rewritten row.id w with modified := m } := by
  have hmem := rewritten_seats s row.id w
  refine ⟨hr.numbered.rewritten hrow w m, ?held, hr.opened, hr.issued, ?staged⟩
  case held =>
    intro row' h
    obtain ⟨row₀, h₀, hs⟩ := hmem row' h
    obtain ⟨-, hrepo, hvis, hbatch, -⟩ := RecordRow.seat_eq_iff.1 hs
    have hopen : (s.rewritten row.id w).openBatches = s.openBatches := rfl
    have := hr.held row₀ h₀
    simpa only [purges, hrepo, hvis, hbatch, hopen] using this
  case staged =>
    intro row' h
    obtain ⟨row₀, h₀, hs⟩ := hmem row' h
    obtain ⟨hid, -, -, hbatch, -⟩ := RecordRow.seat_eq_iff.1 hs
    rw [hid, hbatch]
    exact hr.staged row₀ h₀

/-- Staging a record under the next id keeps a store ready for the batch, which then holds the
row. -/
theorem Ready.staging {b : Batch} {s : Store} (hr : Ready b s) (w : Record)
    (m : List (String × Int)) :
    Ready { b with staged := SortedList.insert (s.lastId .records + 1) b.staged }
      { b.staging s w with modified := m } := by
  have hold : ∀ row ∈ s.records, row.id ≤ s.lastId .records := hr.numbered.issued.records
  have hlast : (b.staging s w).lastId .records = s.lastId .records + 1 := by
    simp [Batch.staging]
  have hopen : (b.staging s w).openBatches = s.openBatches := rfl
  refine ⟨⟨?ordered, ⟨?ids, ?batches⟩, ?sets, ?processedBy, ?inputFor, ?lineage⟩, ?held,
    hr.opened, hr.issued, ?staged⟩
  case ordered =>
    refine List.pairwise_append.2 ⟨hr.numbered.ordered, List.pairwise_singleton _ _, ?_⟩
    intro a ha c hc
    rw [List.mem_singleton.1 hc]
    have := hold a ha
    show a.id < s.lastId .records + 1
    omega
  case ids =>
    show ∀ row ∈ s.records ++ _, row.id ≤ (b.staging s w).lastId .records
    rw [hlast]
    intro row h
    rcases List.mem_append.1 h with h | h
    · have := hold row h
      omega
    · rw [List.mem_singleton.1 h]
      exact le_rfl
  case batches =>
    intro row h k hk
    rcases List.mem_append.1 h with h | h
    · exact hr.numbered.issued.batches row h k hk
    · rw [List.mem_singleton.1 h] at hk
      obtain rfl : b.id = k := Option.some.inj hk
      exact hr.issued
  case sets =>
    show ∀ e ∈ (b.staging s w).recordSets, e.1 ≤ (b.staging s w).lastId .records
    rw [hlast]
    exact mem_foldl_addPair_le hr.numbered.sets w.sets
  case processedBy =>
    show ∀ e ∈ (b.staging s w).processedBy, e.1 ≤ (b.staging s w).lastId .records
    rw [hlast]
    exact mem_foldl_addPair_le hr.numbered.processedBy w.processedBy
  case inputFor =>
    show ∀ e ∈ (b.staging s w).inputFor, e.1 ≤ (b.staging s w).lastId .records
    rw [hlast]
    exact mem_foldl_addPair_le hr.numbered.inputFor w.inputFor
  case lineage =>
    show ∀ e ∈ s.lineage, e.2 ≤ (b.staging s w).lastId .records
    rw [hlast]
    intro e he
    have := hr.numbered.lineage e he
    omega
  case held =>
    intro row h
    rcases List.mem_append.1 h with h | h
    · have := hr.held row h
      simpa only [purges, hopen] using this
    · -- the new row is held by the batch itself, which is open
      rw [List.mem_singleton.1 h]
      simp [purges, Batch.newRow, hopen, hr.opened]
  case staged =>
    intro row h
    rcases List.mem_append.1 h with h | h
    · have hne : row.id ≠ s.lastId .records + 1 := by
        have := hold row h
        omega
      rw [SortedList.mem_insert, hr.staged row h]
      simp [hne]
    · rw [List.mem_singleton.1 h]
      simp [Batch.newRow]

-- ---------------------------------------------------------------------------
-- Opening and ending the batch
-- ---------------------------------------------------------------------------

/-- A row no opening of a batch purges stays so while more batches are opened. -/
theorem purges_of_opened {s : Store} {repo : String} {row : RecordRow}
    (h : purges s repo row = false) (more : List (Nat × String)) :
    purges { s with openBatches := s.openBatches ++ more } repo row = false := by
  cases hb : row.batch with
  | none => simpa [purges, hb] using h
  | some k =>
    simp only [purges, hb, Option.all_some, Bool.and_eq_false_iff, Bool.not_eq_false'] at h ⊢
    rcases h with h | h
    · exact .inl h
    · refine .inr ?_
      simp only [List.map_append, List.contains_append]
      rw [h, Bool.true_or]

/-- **Opening a batch** on a store whose bookkeeping is in order leaves a store ready for it. -/
theorem Batch.start_ready {repo : String} {s t : Store} {b : Batch} {n : Nat} (hn : s.Numbered)
    (h : (Batch.start repo).run s = .ok ((b, n), t)) : Ready b t := by
  rw [Batch.start_run] at h
  rcases hdel : (deleteRecords (purges s repo)).run s with e | ⟨n', u⟩ <;> rw [hdel] at h
  · cases h
  simp only [Except.map, Except.ok.injEq, Prod.mk.injEq] at h
  obtain ⟨⟨rfl, -⟩, rfl⟩ := h
  -- the purge keeps a part of every table and relation
  obtain ⟨_, u₁, hget, h₁⟩ := Tx.bind_eq_ok.1 hdel
  cases hget
  obtain ⟨_, u₂, hset, hpure⟩ := Tx.bind_eq_ok.1 h₁
  cases hset
  cases hpure
  have hkept : ∀ row ∈ s.records.filter (fun row => !purges s repo row), row ∈ s.records ∧
      purges s repo row = false := fun row hrow => by simpa using List.mem_filter.1 hrow
  refine ⟨⟨hn.ordered.filter _, ⟨fun row hrow => hn.issued.records row (hkept row hrow).1,
    fun row hrow k hk => ?_⟩, fun e he => hn.sets e (List.mem_filter.1 he).1,
    fun e he => hn.processedBy e (List.mem_filter.1 he).1,
    fun e he => hn.inputFor e (List.mem_filter.1 he).1,
    fun e he => hn.lineage e (List.mem_filter.1 he).1⟩, fun row hrow => ?_, ?_, le_rfl,
    fun row hrow => ?_⟩
  · exact (hn.issued.batches row (hkept row hrow).1 k hk).trans (Nat.le_succ _)
  · exact purges_of_opened (hkept row hrow).2 _
  · simp
  · -- no row is staged under the new batch's id, which is above every one handed out
    have hle := hn.issued.batches row (hkept row hrow).1
    constructor
    · intro hmem
      cases hmem
    · intro hk
      have : s.lastBatch + 1 ≤ s.lastBatch := hle _ hk
      omega

/-- Opening a batch on a repository whose hidden rows open batches hold purges nothing. -/
theorem Batch.start_of_held {repo : String} {s t : Store} {b : Batch} {n : Nat}
    (hheld : HeldOpen repo s) (h : (Batch.start repo).run s = .ok ((b, n), t)) :
    b = { repo, id := s.lastBatch + 1 } ∧
      t = { s with lastBatch := s.lastBatch + 1
                   openBatches := s.openBatches ++ [(s.lastBatch + 1, repo)] } := by
  rw [Batch.start_run, deleteRecords_run_of_none hheld] at h
  simp only [Except.map, Except.ok.injEq, Prod.mk.injEq] at h
  obtain ⟨⟨rfl, -⟩, rfl⟩ := h
  exact ⟨rfl, rfl⟩

/-- Ending a batch that holds back no marks publishes its rows and forgets it. -/
theorem Batch.commit_eq {b : Batch} {s t : Store} {x : Nat × Nat} (hm : b.marks = [])
    (h : b.commit.run s = .ok (x, t)) :
    t = { s with records := s.records.map b.publish
                 openBatches := s.openBatches.filter (·.1 != b.id) } := by
  obtain ⟨u, hmarks, -, rfl⟩ := Batch.commit_run h
  rw [hm] at hmarks
  cases hmarks
  rfl

/-- Reading a row depends on neither whether it is visible nor which batch staged it. -/
theorem view_publish (b : Batch) (s : Store) (row : RecordRow) :
    s.view (b.publish row) = s.view row := by
  unfold Batch.publish
  split <;> rfl

/-- **Reading after the batch ends.** Once a batch that holds back no marks ends, the repository
shows every identifier as the batch read it. -/
theorem Batch.getOai?_commit {b : Batch} {s t : Store} {x : Nat × Nat}
    (hst : ∀ row ∈ s.records, row.id ∈ b.staged ↔ row.batch = some b.id) (hm : b.marks = [])
    (h : b.commit.run s = .ok (x, t)) (y : String) : t.shown b.repo y = b.getOai? s y := by
  rw [Batch.commit_eq hm h]
  unfold shown Batch.getOai?
  rw [findOaiRow?_map rfl (fun row => ⟨(b.publish_seat row).2.2, (b.publish_seat row).2.1⟩)]
  rcases hfind : s.findOaiRow? b.repo y with _ | row
  · rfl
  have hst' := hst row (findOaiRow?_some hfind).1
  -- a row the batch staged is published, any other keeps whether it is visible
  have hshown : (b.publish row).visible = (row.visible || b.isStaged row.id) := by
    unfold Batch.publish
    by_cases hb : row.batch = some b.id
    · rw [if_pos (by simp [hb])]
      simp [Batch.isStaged, hst'.2 hb]
    · have hns : row.id ∉ b.staged := fun hin => hb (hst'.1 hin)
      rw [if_neg (by simp [hb])]
      simp [Batch.isStaged, hns]
  rw [Option.map_some, Option.filter_some, Option.filter_some, hshown]
  split
  · rw [Option.mapM_some, Option.mapM_some]
    exact congrArg (Functor.map some) (view_publish b s row)
  · rfl

/-- Ending the batch keeps the bookkeeping in order and every hidden row of the batch's
repository held by a batch still open: the rows the batch held are shown. -/
theorem Batch.commit_held {b : Batch} {s t : Store} {x : Nat × Nat} (hr : Ready b s)
    (hm : b.marks = []) (h : b.commit.run s = .ok (x, t)) : t.Numbered ∧ HeldOpen b.repo t := by
  rw [Batch.commit_eq hm h]
  have hid : ∀ row, (b.publish row).id = row.id := fun row => (b.publish_seat row).1
  have hbatch : ∀ row, ∀ k ∈ (b.publish row).batch, k ∈ row.batch := fun row k hk => by
    unfold Batch.publish at hk
    split at hk
    · cases hk
    · exact hk
  refine ⟨⟨?_, ⟨?_, ?_⟩, hr.numbered.sets, hr.numbered.processedBy, hr.numbered.inputFor,
    hr.numbered.lineage⟩, ?_⟩
  · exact List.pairwise_map.2 (hr.numbered.ordered.imp fun {a c} hac => by rw [hid, hid]; exact hac)
  · intro row' h'
    obtain ⟨row, hrow, rfl⟩ := List.mem_map.1 h'
    rw [hid]
    exact hr.numbered.issued.records row hrow
  · intro row' h' k hk
    obtain ⟨row, hrow, rfl⟩ := List.mem_map.1 h'
    exact hr.numbered.issued.batches row hrow k (hbatch row k hk)
  · intro row' h'
    obtain ⟨row, hrow, rfl⟩ := List.mem_map.1 h'
    have hheld := hr.held row hrow
    unfold Batch.publish
    by_cases hb : row.batch = some b.id
    · rw [if_pos (by simp [hb])]
      simp [purges]
    · -- a row left hidden is held by another batch, which stays open
      rw [if_neg (by simp [hb])]
      cases hk : row.batch with
      | none => simpa [purges, hk] using hheld
      | some k =>
        have hne : k ≠ b.id := fun he => hb (by rw [hk, he])
        simp only [purges, hk, Option.all_some, Bool.and_eq_false_iff, Bool.not_eq_false'] at hheld ⊢
        rcases hheld with hheld | hheld
        · exact .inl hheld
        · refine .inr ?_
          simp only [List.contains_iff_mem, List.mem_map, List.mem_filter] at hheld ⊢
          obtain ⟨e, he, rfl⟩ := hheld
          exact ⟨e, ⟨he, by simpa using hne⟩, rfl⟩

end Catalog.Store
