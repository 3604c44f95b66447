import Catalog.Proofs.Harvest.Storing

/-!
# Reading back what was written

A record is stored as one row of the record table, with its set names, its service marks and
its lineage edges as rows of their own tables, and every reader of the store (by id, by OAI
identifier, a page of a query, the pending input of a service) rebuilds it from them. This module
shows what a written record reads back as.

Its fields read back as written, but for four things. The id is the one the store handed out,
the successors are left out, and the payload reads back as its JSON text reads, which is the
payload written whenever that text reads back to it. The predecessors are the edges into the
record, so they hold, besides those written, every record written in the same call that names it
among its successors, the record itself included. The set names, marks and predecessors read back
as sets, and a set name holding the unit separator reads back split at it; so a record whose sets
are sets and whose set names hold no separator reads back with them as written. A record staged by
a batch takes the marks the batch holds for it when the batch ends. Rewriting a record replaces
its set names and marks and adds the edges it names to those it had. A processing directive reads
back with its formats and sets, under the same conditions.

All this holds of a store whose bookkeeping is in order (`Store.Numbered`): a new id was never
handed out before, so no relation row names it.

## Main results

* `RowsAdded`, with `RowsAdded.append`: what writing records as new rows does to the store
* `RowsAdded.view`: how a record written as a new row reads back
* `Shows`, `Shows.readsBack`: a record a repository shows is what every reader reads
* `Batch.commit_view`, `updateRecord_shows`, `insertDirective_readBack`: ending a batch, rewriting
  a record and inserting a directive, read back
* `stored_records_read_back`: the records written by each kind of write, read back
-/

namespace Catalog

/-- A record whose set-valued fields hold sets, as every reader of the store gives them: its set
names, service marks and predecessors strictly ascending. -/
structure Record.Ascending (r : Record) : Prop where
  sets : SortedList.Sorted r.sets
  processedBy : SortedList.Sorted r.processedBy
  inputFor : SortedList.Sorted r.inputFor
  predecessors : SortedList.Sorted r.predecessors

/-- How a record reads back once written under id `i`, when the records written with it under
the ids `namers` name it among their successors: with its id, its payload as its JSON text
reads, no successors, and its own predecessors with the namers. -/
def Record.readBack (r : Record) (i : Int) (namers : List Int) : Record :=
  { r with id := some i, payload := r.payload.reread, successors := []
           predecessors := SortedList.union r.predecessors namers }

/-- A record with the marks `marks` applied to it under id `i`: it is processed by every service
marked for it, and no longer input for those. -/
def Record.withMarks (r : Record) (i : Int) (marks : List (Int × Int)) : Record :=
  { r with processedBy := SortedList.union r.processedBy (Store.seconds marks i)
           inputFor := r.inputFor.filter fun x => !marks.contains (i, x) }

/-- How record `R`, stored under id `i`, reads back once rewritten as `r`: as `r` written anew
under `i`, but with the OAI identifier of `R` and with the predecessors of `R` kept. -/
def Record.rewrittenAs (R r : Record) (i : Int) : Record :=
  { r.readBack i (if i ∈ r.successors then [i] else []) with
    oaiId := R.oaiId
    predecessors := SortedList.union R.predecessors
      (SortedList.union r.predecessors (if i ∈ r.successors then [i] else [])) }

/-- The new row that stores record `r` in repository `repo` under id `i`, staged by `batch` when
one is given, at time `clock`. -/
def Record.rowIn (r : Record) (repo : String) (batch : Option Nat) (i clock : Int) :
    Store.RecordRow :=
  { id := i, repo, oaiId := r.oaiId, format := r.format, recordType := r.recordType
    status := r.status, payload := r.payload.reread, visible := batch.isNone, batch
    updatedAt := clock }

end Catalog

namespace Catalog.SortedList

variable {α : Type} [Ord α]

instance (xs : List α) : Decidable (Sorted xs) :=
  inferInstanceAs (Decidable (xs.Pairwise fun a b => compare a b = .lt))

variable [Std.TransOrd α] [Std.LawfulEqOrd α]

/-- A strictly ascending list is its own sorted list. -/
theorem Sorted.ofList_eq {xs : List α} (h : Sorted xs) : ofList xs = xs :=
  (sorted_ofList xs).eq_of_mem_iff h fun _ => mem_ofList

/-- Joining a strictly ascending list with another gives the sorted list of both. -/
theorem Sorted.union_eq_ofList {xs : List α} (h : Sorted xs) (ys : List α) :
    SortedList.union xs ys = ofList (xs ++ ys) :=
  (h.union ys).eq_of_mem_iff (sorted_ofList _) fun _ => by
    rw [mem_union, mem_ofList, List.mem_append]

end Catalog.SortedList

namespace Catalog.Store

open Catalog.Pipeline

/-- Names none of which holds the unit separator (U+001F), at which stored names are split. -/
def Unsplit (names : List String) : Prop :=
  ∀ x ∈ names, '\x1f' ∉ x.toList

instance (names : List String) : Decidable (Unsplit names) :=
  inferInstanceAs (Decidable (∀ x ∈ names, '\x1f' ∉ x.toList))

/-- The ids of the records written, each under its id, that name `i` among their successors. -/
def namersOf (written : List (Int × Record)) (i : Int) : List Int :=
  written.filterMap fun w => if i ∈ w.2.successors then some w.1 else none

theorem mem_namersOf {written : List (Int × Record)} {i x : Int} :
    x ∈ namersOf written i ↔ ∃ w ∈ written, w.1 = x ∧ i ∈ w.2.successors := by
  simp only [namersOf, List.mem_filterMap, Option.ite_none_right_eq_some, Option.some.injEq]
  constructor
  · rintro ⟨w, hw, hs, rfl⟩
    exact ⟨w, hw, rfl, hs⟩
  · rintro ⟨w, hw, rfl, hs⟩
    exact ⟨w, hw, hs, rfl⟩

/-- Set names that hold no separator read back as the set of them. -/
theorem readSets_eq_ofList {xs : List String} (hu : Unsplit xs) :
    readSets xs = SortedList.ofList xs := by
  have hflat : xs.flatMap (fun x => (x.toList.splitOn '\x1f').map String.ofList) = xs := by
    conv => rhs; rw [← List.flatMap_singleton' xs]
    refine List.flatMap_congr fun x hx => ?_
    rw [List.splitOn_eq_singleton (hu x hx), List.map_singleton, String.ofList_toList]
  rw [readSets, hflat]

-- ---------------------------------------------------------------------------
-- Writing the relations
-- ---------------------------------------------------------------------------

/-- An edge added is there afterwards, with every edge there before. -/
theorem addEdge_mem {p q : Int} {s t : Store} {a : Unit} (h : (addEdge p q).run s = .ok (a, t)) :
    (p, q) ∈ t.lineage ∧ ∀ e ∈ s.lineage, e ∈ t.lineage := by
  obtain ⟨_, u, hget, hrest⟩ := Tx.bind_eq_ok.1 h
  cases hget
  split at hrest
  · cases hrest
    exact ⟨List.contains_iff_mem.1 ‹_›, fun _ he => he⟩
  · split at hrest
    · cases hrest
      exact ⟨List.mem_append_right _ (List.mem_singleton_self _),
        fun _ he => List.mem_append_left _ he⟩
    · exact nomatch hrest

/-- A run of edge additions that succeeds leaves every edge it added, with every edge there
before. -/
theorem forM_addEdge_mem {β : Type} {f : β → Int × Int} {xs : List β} {s t : Store} {a : Unit}
    (h : (xs.forM fun x => addEdge (f x).1 (f x).2).run s = .ok (a, t)) :
    (∀ x ∈ xs, f x ∈ t.lineage) ∧ ∀ e ∈ s.lineage, e ∈ t.lineage := by
  induction xs generalizing s with
  | nil =>
    cases h
    exact ⟨fun _ hx => absurd hx List.not_mem_nil, fun _ he => he⟩
  | cons x xs ih =>
    obtain ⟨_, u, hx, hrest⟩ := Tx.bind_eq_ok.1 h
    obtain ⟨hxu, hsu⟩ := addEdge_mem hx
    obtain ⟨hall, hut⟩ := ih hrest
    refine ⟨fun y hy => ?_, fun e he => hut e (hsu e he)⟩
    rcases List.mem_cons.1 hy with rfl | hy
    · exact hut _ hxu
    · exact hall y hy

/-- Writing the relations of record `i` leaves the edges there before and those the record
names, and no other. -/
theorem writeRelations_lineage_iff {i : Int} {r : Record} {s t : Store} {a : Unit}
    (h : (writeRelations i r).run s = .ok (a, t)) (e : Int × Int) :
    e ∈ t.lineage ↔ e ∈ s.lineage ∨ Joins r i e := by
  obtain ⟨_, u, hu, hedges⟩ := Tx.bind_eq_ok.1 h
  obtain ⟨_, w, hpred, hsucc⟩ := Tx.bind_eq_ok.1 hedges
  cases hu
  obtain ⟨hp, hsw⟩ := forM_addEdge_mem (f := fun p => (p, i)) hpred
  obtain ⟨hq, hwt⟩ := forM_addEdge_mem (f := fun q => (i, q)) hsucc
  constructor
  · intro he
    rcases (writeRelations_wrote h).lineage e he with hs | ⟨hj, -⟩
    · exact .inl hs
    · exact .inr hj
  · obtain ⟨e₁, e₂⟩ := e
    rintro (he | ⟨hp', rfl⟩ | ⟨rfl, hq'⟩)
    · exact hwt _ (hsw _ he)
    · exact hwt _ (hp e₁ hp')
    · exact hq e₂ hq'

-- ---------------------------------------------------------------------------
-- Records written as new rows
-- ---------------------------------------------------------------------------

/-- What writing the records `written` as new rows of repository `repo`, each under its id and
staged by `batch` when one is given, did between stores `s` and `t`: the rows are appended in
order, under ascending ids above those handed out before; each record's set names and marks and
the edges it names are added to the relations; the only row of the repository under a written
record's OAI identifier is its own; the clock and the schema stay. -/
structure RowsAdded (repo : String) (batch : Option Nat) (written : List (Int × Record))
    (s t : Store) : Prop where
  records : t.records = s.records ++ written.map fun w => w.2.rowIn repo batch w.1 s.clock
  ascending : (written.map (·.1)).Pairwise (· < ·)
  fresh : ∀ w ∈ written, s.lastId .records < w.1 ∧ w.1 ≤ t.lastId .records
  lastRecord : s.lastId .records ≤ t.lastId .records
  recordSets : ∀ e, e ∈ t.recordSets ↔
    e ∈ s.recordSets ∨ ∃ w ∈ written, e.1 = w.1 ∧ e.2 ∈ w.2.sets
  processedBy : ∀ e, e ∈ t.processedBy ↔
    e ∈ s.processedBy ∨ ∃ w ∈ written, e.1 = w.1 ∧ e.2 ∈ w.2.processedBy
  inputFor : ∀ e, e ∈ t.inputFor ↔
    e ∈ s.inputFor ∨ ∃ w ∈ written, e.1 = w.1 ∧ e.2 ∈ w.2.inputFor
  lineage : ∀ e, e ∈ t.lineage ↔ e ∈ s.lineage ∨ ∃ w ∈ written, Joins w.2 w.1 e
  unique : ∀ w ∈ written, ∀ row ∈ t.records, row.repo = repo → row.oaiId = w.2.oaiId →
    row.id = w.1
  clock : t.clock = s.clock
  tables : t.tables = s.tables
  table : written ≠ [] → t.hasTable "records" = true

/-- **Inserting a record** appends it under the next id. -/
theorem insertRecord_rowsAdded {repo : String} {r : Record} {batch : Option Nat} {s t : Store}
    {i : Int} (h : (insertRecord repo r batch).run s = .ok (i, t)) :
    RowsAdded repo batch [(i, r)] s t := by
  obtain ⟨_, u₁, huse, h₁⟩ := Tx.bind_eq_ok.1 h
  obtain ⟨htab, hu₁⟩ := useTable_eq_ok huse
  subst u₁
  obtain ⟨_, u₂, hget, h₂⟩ := Tx.bind_eq_ok.1 h₁
  cases hget
  dsimp only at h₂
  split at h₂
  · -- a row of the repository under the identifier is refused
    obtain ⟨_, _, hfail, -⟩ := Tx.bind_eq_ok.1 h₂
    cases hfail
  rename_i hfree
  obtain ⟨j, u₃, hnext, h₃⟩ := Tx.bind_eq_ok.1 h₂
  cases hnext
  obtain ⟨_, u₄, hmod, h₄⟩ := Tx.bind_eq_ok.1 h₃
  cases hmod
  obtain ⟨_, u₅, hw, hpure⟩ := Tx.bind_eq_ok.1 h₄
  cases hpure
  have ht := writeRelations_eq hw
  have hold : ∀ row ∈ s.records, ¬(row.repo = repo ∧ row.oaiId = r.oaiId) :=
    fun row hrow ⟨hrepo, hoai⟩ => hfree (List.any_eq_true.2 ⟨row, hrow, by simp [hrepo, hoai]⟩)
  refine ⟨?_, List.pairwise_singleton _ _, ?_, ?_, fun e => ?_, fun e => ?_, fun e => ?_,
    fun e => ?_, fun w hw row hrow hrepo hoai => ?_, ?_, ?_, fun _ => ?_⟩
  · rw [ht]
    rfl
  · intro w hw
    rw [List.mem_singleton.1 hw, ht]
    simp
  · rw [ht]
    simp
  · rw [ht, mem_foldl_addPair]
    simp
  · rw [ht, mem_foldl_addPair]
    simp
  · rw [ht, mem_foldl_addPair]
    simp
  · rw [writeRelations_lineage_iff hw]
    simp
  · -- the new row is the only one of the repository under its identifier
    obtain rfl := List.mem_singleton.1 hw
    rw [ht] at hrow
    rcases List.mem_append.1 hrow with hrow | hrow
    · exact absurd ⟨hrepo, hoai⟩ (hold row hrow)
    · rw [List.mem_singleton.1 hrow]
  · rw [ht]
  · rw [ht]
  · rw [ht]
    exact htab

/-- Nothing written, nothing added. -/
theorem RowsAdded.nil (repo : String) (batch : Option Nat) (s : Store) :
    RowsAdded repo batch [] s s where
  records := (List.append_nil _).symm
  ascending := List.Pairwise.nil
  fresh _ hw := absurd hw List.not_mem_nil
  lastRecord := le_refl _
  recordSets _ := by simp
  processedBy _ := by simp
  inputFor _ := by simp
  lineage _ := by simp
  unique _ hw := absurd hw List.not_mem_nil
  clock := rfl
  tables := rfl
  table hne := absurd rfl hne

/-- Records written one run after another were written by the two runs together: the ids of the
second run are above those of the first. -/
theorem RowsAdded.append {repo : String} {batch : Option Nat} {w₁ w₂ : List (Int × Record)}
    {s u t : Store} (h₁ : RowsAdded repo batch w₁ s u) (h₂ : RowsAdded repo batch w₂ u t) :
    RowsAdded repo batch (w₁ ++ w₂) s t where
  records := by rw [h₂.records, h₁.records, h₁.clock, List.map_append, List.append_assoc]
  ascending := by
    rw [List.map_append, List.pairwise_append]
    refine ⟨h₁.ascending, h₂.ascending, ?_⟩
    simp only [List.mem_map]
    rintro _ ⟨a, ha, rfl⟩ _ ⟨b, hb, rfl⟩
    exact (h₁.fresh a ha).2.trans_lt (h₂.fresh b hb).1
  fresh w hw := by
    rcases List.mem_append.1 hw with hw | hw
    · exact ⟨(h₁.fresh w hw).1, (h₁.fresh w hw).2.trans h₂.lastRecord⟩
    · exact ⟨h₁.lastRecord.trans_lt (h₂.fresh w hw).1, (h₂.fresh w hw).2⟩
  lastRecord := h₁.lastRecord.trans h₂.lastRecord
  recordSets e := by rw [h₂.recordSets, h₁.recordSets]; simp [or_assoc, or_and_right, exists_or]
  processedBy e := by rw [h₂.processedBy, h₁.processedBy]; simp [or_assoc, or_and_right, exists_or]
  inputFor e := by rw [h₂.inputFor, h₁.inputFor]; simp [or_assoc, or_and_right, exists_or]
  lineage e := by rw [h₂.lineage, h₁.lineage]; simp [or_assoc, or_and_right, exists_or]
  unique w hw row hrow hrepo hoai := by
    rcases List.mem_append.1 hw with hw | hw
    · -- the row of a record of the first run is in the middle store, so the second run wrote
      -- no row under its identifier
      rw [h₂.records] at hrow
      rcases List.mem_append.1 hrow with hrow | hrow
      · exact h₁.unique w hw row hrow hrepo hoai
      · obtain ⟨w', hw', rfl⟩ := List.mem_map.1 hrow
        have hmid : w.2.rowIn repo batch w.1 s.clock ∈ t.records := by
          rw [h₂.records, h₁.records]
          exact List.mem_append_left _ (List.mem_append_right _
            (List.mem_map_of_mem (f := fun w => w.2.rowIn repo batch w.1 s.clock) hw))
        have := h₂.unique w' hw' (w.2.rowIn repo batch w.1 s.clock) hmid rfl hoai.symm
        have := (h₁.fresh w hw).2
        have := (h₂.fresh w' hw').1
        simp only [Record.rowIn] at *
        omega
    · exact h₂.unique w hw row hrow hrepo hoai
  clock := h₂.clock.trans h₁.clock
  tables := h₂.tables.trans h₁.tables
  table hne := by
    by_cases hw₂ : w₂ = []
    · subst hw₂
      have : u.hasTable "records" = true := h₁.table (by simpa using hne)
      unfold hasTable at this ⊢
      rwa [h₂.tables]
    · exact h₂.table hw₂

/-- Setting the repositories' times of change keeps the rows written. -/
theorem RowsAdded.touch {repo : String} {batch : Option Nat} {written : List (Int × Record)}
    {s t : Store} (h : RowsAdded repo batch written s t) (m : List (String × Int)) :
    RowsAdded repo batch written s { t with modified := m } where
  records := h.records
  ascending := h.ascending
  fresh := h.fresh
  lastRecord := h.lastRecord
  recordSets := h.recordSets
  processedBy := h.processedBy
  inputFor := h.inputFor
  lineage := h.lineage
  unique := h.unique
  clock := h.clock
  tables := h.tables
  table := h.table

/-- **Inserting records one after another** writes each under its id. -/
theorem mapM_insertRecord_rowsAdded {repo : String} {batch : Option Nat} {rs : List Record}
    {s t : Store} {ids : List Int}
    (h : (rs.mapM fun r => insertRecord repo r batch).run s = .ok (ids, t)) :
    ids.length = rs.length ∧ RowsAdded repo batch (ids.zip rs) s t := by
  induction rs generalizing s ids with
  | nil =>
    cases h
    exact ⟨rfl, .nil repo batch _⟩
  | cons r rs ih =>
    rw [List.mapM_cons] at h
    obtain ⟨i, u, hins, hrest⟩ := Tx.bind_eq_ok.1 h
    obtain ⟨is, w, hmap, hpure⟩ := Tx.bind_eq_ok.1 hrest
    cases hpure
    obtain ⟨hlen, hrows⟩ := ih hmap
    exact ⟨by simp [hlen], (insertRecord_rowsAdded hins).append hrows⟩

/-- Adding records writes each as a visible row under its id. -/
theorem addRecords_rowsAdded {repo : String} {rs : List Record} {s t : Store} {ids : List Int}
    (h : (addRecords repo rs).run s = .ok (ids, t)) :
    ids.length = rs.length ∧ RowsAdded repo none (ids.zip rs) s t := by
  obtain ⟨is, u, hmap, hrest⟩ := Tx.bind_eq_ok.1 h
  obtain ⟨_, w, htouch, hpure⟩ := Tx.bind_eq_ok.1 hrest
  cases hpure
  obtain ⟨hlen, hrows⟩ := mapM_insertRecord_rowsAdded hmap
  rw [touch_eq htouch]
  exact ⟨hlen, hrows.touch _⟩

/-- Adding a record writes it as a visible row under its id. -/
theorem addRecord_rowsAdded {repo : String} {r : Record} {s t : Store} {i : Int}
    (h : (addRecord repo r).run s = .ok (i, t)) : RowsAdded repo none [(i, r)] s t := by
  obtain ⟨j, u, hins, hrest⟩ := Tx.bind_eq_ok.1 h
  obtain ⟨_, w, htouch, hpure⟩ := Tx.bind_eq_ok.1 hrest
  cases hpure
  rw [touch_eq htouch]
  exact (insertRecord_rowsAdded hins).touch _

-- ---------------------------------------------------------------------------
-- Reading back a new row
-- ---------------------------------------------------------------------------

/-- Two records written under one id are one record: the ids ascend. -/
theorem RowsAdded.eq_of_id {repo : String} {batch : Option Nat} {written : List (Int × Record)}
    {s t : Store} (h : RowsAdded repo batch written s t) {w w' : Int × Record} (hw : w ∈ written)
    (hw' : w' ∈ written) (hid : w.1 = w'.1) : w = w' :=
  List.inj_on_of_nodup_map h.ascending.nodup hw hw' hid

/-- The relation rows of a new id are those written for it: the store before held none under an
id above the last one handed out. -/
theorem mem_seconds_of_fresh {β : Type} [BEq β] [LawfulBEq β] {xs ys : List (Int × β)}
    {written : List (Int × Record)} {f : Record → List β} {n i : Int} {r : Record}
    (hold : ∀ e ∈ xs, e.1 ≤ n) (hfresh : n < i)
    (hys : ∀ e, e ∈ ys ↔ e ∈ xs ∨ ∃ w ∈ written, e.1 = w.1 ∧ e.2 ∈ f w.2)
    (hw : (i, r) ∈ written) (hone : ∀ w ∈ written, w.1 = i → w.2 = r) (c : β) :
    c ∈ seconds ys i ↔ c ∈ f r := by
  rw [mem_seconds_iff, hys]
  constructor
  · rintro (he | ⟨w, hw', hi, hc⟩)
    · exact absurd (hold _ he) (not_le.2 hfresh)
    · rwa [← hone w hw' hi.symm]
  · exact fun hc => .inr ⟨(i, r), hw, rfl, hc⟩

/-- The edges into a new id are those from its predecessors and from the records written with it
that name it as successor. -/
theorem RowsAdded.mem_firsts {repo : String} {batch : Option Nat} {written : List (Int × Record)}
    {s t : Store} (hn : s.Numbered) (h : RowsAdded repo batch written s t) {i : Int} {r : Record}
    (hw : (i, r) ∈ written) (p : Int) :
    p ∈ firsts t.lineage i ↔ p ∈ r.predecessors ∨ p ∈ namersOf written i := by
  have hone : ∀ w ∈ written, w.1 = i → w.2 = r := fun w hw' hi =>
    congrArg Prod.snd (h.eq_of_id hw' hw hi)
  rw [Engine.mem_firsts, h.lineage, mem_namersOf]
  constructor
  · rintro (he | ⟨w, hw', ⟨hp, hi⟩ | ⟨rfl, hi⟩⟩)
    · -- no edge of the store before leads into a new id
      exact absurd (hn.lineage _ he) (not_le.2 (h.fresh _ hw).1)
    · exact .inl (hone w hw' hi.symm ▸ hp)
    · exact .inr ⟨w, hw', rfl, hi⟩
  · rintro (hp | ⟨w, hw', rfl, hi⟩)
    · exact .inr ⟨(i, r), hw, .inl ⟨hp, rfl⟩⟩
    · exact .inr ⟨w, hw', .inr ⟨rfl, hi⟩⟩

/-- **A record written as a new row reads back** with the id it was given, its payload as its
text reads, no successors, and as predecessors its own with the records written with it that
name it as successor; its set names, if they hold no separator, and its marks as they were. -/
theorem RowsAdded.view {repo : String} {batch : Option Nat} {written : List (Int × Record)}
    {s t : Store} (hn : s.Numbered) (h : RowsAdded repo batch written s t) {i : Int} {r : Record}
    (hw : (i, r) ∈ written) (hr : r.Ascending) (hu : Unsplit r.sets) :
    t.view (r.rowIn repo batch i s.clock) = .ok (r.readBack i (namersOf written i)) := by
  have hone : ∀ w ∈ written, w.1 = i → w.2 = r := fun w hw' hi =>
    congrArg Prod.snd (h.eq_of_id hw' hw hi)
  have hfresh := (h.fresh _ hw).1
  have hsets : readSets (seconds t.recordSets i) = r.sets := by
    rw [readSets_congr (mem_seconds_of_fresh hn.sets hfresh h.recordSets hw hone),
      readSets_eq_ofList hu, hr.sets.ofList_eq]
  have hpb : SortedList.ofList (seconds t.processedBy i) = r.processedBy := by
    rw [SortedList.ofList_eq_of_mem_iff (mem_seconds_of_fresh hn.processedBy hfresh h.processedBy
      hw hone), hr.processedBy.ofList_eq]
  have hin : SortedList.ofList (seconds t.inputFor i) = r.inputFor := by
    rw [SortedList.ofList_eq_of_mem_iff (mem_seconds_of_fresh hn.inputFor hfresh h.inputFor
      hw hone), hr.inputFor.ofList_eq]
  have hpred : t.predecessorIds i = SortedList.union r.predecessors (namersOf written i) := by
    rw [hr.predecessors.union_eq_ofList, predecessorIds]
    exact SortedList.ofList_eq_of_mem_iff fun p => by
      rw [h.mem_firsts hn hw, List.mem_append]
  simp only [Store.view, RecordRow.document, Record.rowIn, hsets, hpb, hin, hpred]
  rfl

-- ---------------------------------------------------------------------------
-- The readers
-- ---------------------------------------------------------------------------

section Readers

variable {t : Store} {repo : String} {i : Int} {R : Record}

/-- Every reader of the store reads record `R` under id `i` of repository `repo`: by id, by OAI
identifier, and in every page of a query and every list of pending input that holds it. -/
def ReadsBack (t : Store) (repo : String) (i : Int) (R : Record) : Prop :=
  t.getRecord? repo i = .ok (some R) ∧ t.getOaiRecord? repo R.oaiId = .ok (some R) ∧
    (∀ f size rs, t.page repo f size = .ok rs → ∀ r ∈ rs, r.id = some i → r = R) ∧
    ∀ service recordType after limit rs, t.pending service recordType after limit = .ok rs →
      ∀ r ∈ rs, r.id = some i → r = R

/-- Repository `repo` shows record `R` under id `i`: a row of id `i` is there, every row of that
id is a visible row of the repository that reads back as `R`, and no other row of the repository
has its OAI identifier. -/
structure Shows (t : Store) (repo : String) (i : Int) (R : Record) : Prop where
  table : t.hasTable "records" = true
  held : ∃ row ∈ t.records, row.id = i
  rows : ∀ row ∈ t.records, row.id = i → row.repo = repo ∧ row.visible = true ∧ t.view row = .ok R
  oai : ∀ row ∈ t.records, row.repo = repo → row.oaiId = R.oaiId → row.id = i

/-- A record of a page was read from a row of the store. -/
theorem page_read {f : Filter} {size : Nat} {rs : List Record} (h : t.page repo f size = .ok rs)
    {r : Record} (hr : r ∈ rs) : ∃ row ∈ t.records, t.view row = .ok r := by
  unfold page at h
  rcases hn : t.needTable "records" with e | _ <;> rw [hn] at h
  · exact nomatch h
  obtain ⟨row, hrow, hview⟩ := mem_of_mapM_ok h hr
  exact ⟨row, (mem_selectRows (List.mem_of_mem_take hrow)).1, hview⟩

/-- A record of pending input was read from a row of the store. -/
theorem pending_read {service : Int} {recordType : Option String} {after limit : Int}
    {rs : List Record} (h : t.pending service recordType after limit = .ok rs) {r : Record}
    (hr : r ∈ rs) : ∃ row ∈ t.records, t.view row = .ok r := by
  obtain ⟨row, hrow, hview⟩ := mem_of_mapM_ok h hr
  have hpend : row ∈ t.records.filter (t.isPending service recordType after) := by
    split at hrow
    · exact hrow
    · exact List.mem_of_mem_take hrow
  exact ⟨row, (List.mem_filter.1 hpend).1, hview⟩

/-- A record of id `i` read from any row is `R`. -/
theorem Shows.eq_of_read (h : t.Shows repo i R) {row : RecordRow} (hrow : row ∈ t.records)
    {r : Record} (hview : t.view row = .ok r) (hid : r.id = some i) : r = R := by
  have hi : row.id = i := Option.some.inj ((view_id hview).symm.trans hid)
  have := (h.rows row hrow hi).2.2
  rw [hview] at this
  exact Except.ok.inj this

/-- The record shown under an id reads back by that id. -/
theorem Shows.getRecord (h : t.Shows repo i R) : t.getRecord? repo i = .ok (some R) := by
  obtain ⟨row, hrow, hid⟩ := h.held
  obtain ⟨found, hfind⟩ : ∃ found, t.findRow? repo i = some found :=
    Option.isSome_iff_exists.1 (List.find?_isSome.2
      ⟨row, hrow, by simp [hid, (h.rows row hrow hid).1]⟩)
  have hsel := List.find?_some hfind
  simp only [Bool.and_eq_true, beq_iff_eq] at hsel
  obtain ⟨-, hvis, hview⟩ := h.rows found (List.mem_of_find?_eq_some hfind) hsel.1
  rw [getRecord?, needTable, if_pos h.table, hfind, Option.filter_some, if_pos hvis,
    Option.mapM_some, hview]
  rfl

/-- The record shown under an id reads back by its OAI identifier. -/
theorem Shows.getOaiRecord (h : t.Shows repo i R) : t.getOaiRecord? repo R.oaiId = .ok (some R) := by
  obtain ⟨row, hrow, hid⟩ := h.held
  obtain ⟨hrepo, -, hview⟩ := h.rows row hrow hid
  obtain ⟨found, hfind⟩ : ∃ found, t.findOaiRow? repo R.oaiId = some found :=
    Option.isSome_iff_exists.1 (List.find?_isSome.2
      ⟨row, hrow, by simp [view_oaiId hview, hrepo]⟩)
  have hsel := List.find?_some hfind
  simp only [Bool.and_eq_true, beq_iff_eq] at hsel
  have hmem := List.mem_of_find?_eq_some hfind
  obtain ⟨-, hvis', hview'⟩ := h.rows found hmem (h.oai found hmem hsel.2 hsel.1)
  rw [getOaiRecord?, needTable, if_pos h.table, hfind, Option.filter_some, if_pos hvis',
    Option.mapM_some, hview']
  rfl

/-- **Every reader reads what a repository shows.** -/
theorem Shows.readsBack (h : t.Shows repo i R) : t.ReadsBack repo i R :=
  ⟨h.getRecord, h.getOaiRecord,
    fun _ _ _ hp _ hr hid => by
      obtain ⟨row, hrow, hview⟩ := page_read hp hr
      exact h.eq_of_read hrow hview hid,
    fun _ _ _ _ _ hp _ hr hid => by
      obtain ⟨row, hrow, hview⟩ := pending_read hp hr
      exact h.eq_of_read hrow hview hid⟩

end Readers

-- ---------------------------------------------------------------------------
-- Added, staged and rewritten records, shown
-- ---------------------------------------------------------------------------

section Shown

variable {repo : String} {batch : Option Nat} {written : List (Int × Record)} {s u t : Store}
  {i : Int} {r : Record}

theorem RowsAdded.row_mem (h : RowsAdded repo batch written s t) (hw : (i, r) ∈ written) :
    r.rowIn repo batch i s.clock ∈ t.records := by
  rw [h.records]
  exact List.mem_append_right _ (List.mem_map_of_mem (f := fun w => w.2.rowIn repo batch w.1 s.clock) hw)

/-- The only row of a written id is the one written for it. -/
theorem RowsAdded.row_of_id (hn : s.Numbered) (h : RowsAdded repo batch written s t)
    (hw : (i, r) ∈ written) {row : RecordRow} (hrow : row ∈ t.records) (hid : row.id = i) :
    row = r.rowIn repo batch i s.clock := by
  rw [h.records] at hrow
  rcases List.mem_append.1 hrow with hold | hnew
  · -- every row before has an id handed out before
    have := hn.issued.records row hold
    have := (h.fresh _ hw).1
    simp only at this
    omega
  · obtain ⟨w, hw', rfl⟩ := List.mem_map.1 hnew
    obtain rfl := h.eq_of_id hw' hw hid
    rfl

/-- **Added records are shown**, each as it reads back. -/
theorem RowsAdded.shows (hn : s.Numbered) (h : RowsAdded repo none written s t)
    (hw : (i, r) ∈ written) (hr : r.Ascending) (hu : Unsplit r.sets) :
    t.Shows repo i (r.readBack i (namersOf written i)) where
  table := h.table (List.ne_nil_of_mem hw)
  held := ⟨_, h.row_mem hw, rfl⟩
  rows row hrow hid := by
    obtain rfl := h.row_of_id hn hw hrow hid
    exact ⟨rfl, rfl, h.view hn hw hr hu⟩
  oai row hrow hrepo hoai := h.unique _ hw row hrow hrepo hoai

/-- Staging a record writes it as a row of the batch under its id. -/
theorem Batch.add_rowsAdded {b b' : Batch} (h : (b.add r).run s = .ok ((i, b'), t)) :
    RowsAdded b.repo (some b.id) [(i, r)] s t ∧
      b' = { b with staged := SortedList.insert i b.staged } := by
  obtain ⟨j, u, hins, hrest⟩ := Tx.bind_eq_ok.1 h
  obtain ⟨_, w, htouch, hpure⟩ := Tx.bind_eq_ok.1 hrest
  cases hpure
  rw [touch_eq htouch]
  exact ⟨(insertRecord_rowsAdded hins).touch _, rfl⟩

/-- **Ending a batch** reads every row with the batch's marks applied. -/
theorem Batch.commit_view {b : Batch} {x : Nat × Nat} (h : b.commit.run u = .ok (x, t))
    (row : RecordRow) : t.view row = (u.view row).map fun R => R.withMarks row.id b.marks := by
  obtain ⟨w, hmarks, -, rfl⟩ := Batch.commit_run h
  have hm := forM_applyMark_applied hmarks
  have hsets : w.recordSets = u.recordSets := (congrArg Store.recordSets hm.same :)
  have hlin : w.lineage = u.lineage := (congrArg Store.lineage hm.same :)
  have hpb : SortedList.ofList (seconds w.processedBy row.id) =
      SortedList.union (SortedList.ofList (seconds u.processedBy row.id)) (seconds b.marks row.id) := by
    rw [(SortedList.sorted_ofList _).union_eq_ofList]
    refine SortedList.ofList_eq_of_mem_iff fun c => ?_
    rw [mem_seconds_iff, hm.processedBy, List.mem_append, SortedList.mem_ofList, mem_seconds_iff,
      mem_seconds_iff]
  have hin : SortedList.ofList (seconds w.inputFor row.id) =
      (SortedList.ofList (seconds u.inputFor row.id)).filter
        fun x => !b.marks.contains (row.id, x) := by
    refine (SortedList.sorted_ofList _).eq_of_mem_iff
      (List.Pairwise.filter _ (SortedList.sorted_ofList _)) fun c => ?_
    rw [SortedList.mem_ofList, mem_seconds_iff, hm.inputFor, List.mem_filter, SortedList.mem_ofList,
      mem_seconds_iff]
    simp
  unfold Store.view
  rcases row.document with e | payload
  · rfl
  · simp only [predecessorIds, hsets, hlin, hpb, hin]
    rfl

/-- **A staged record is shown once its batch ends**, read back with the batch's marks applied. -/
theorem Batch.commit_shows {c : Batch} {x : Nat × Nat} (hn : s.Numbered)
    (ha : RowsAdded c.repo (some c.id) [(i, r)] s u) (hr : r.Ascending) (hu : Unsplit r.sets)
    (hc : c.commit.run u = .ok (x, t)) :
    t.Shows c.repo i ((r.readBack i (namersOf [(i, r)] i)).withMarks i c.marks) := by
  have hcom := Batch.commit_committed hc
  have hw : (i, r) ∈ [(i, r)] := List.mem_singleton_self _
  have hrow : ∀ row ∈ t.records, ∃ row₀ ∈ u.records, row = c.publish row₀ := fun row hrow => by
    rw [hcom.records] at hrow
    obtain ⟨row₀, hrow₀, rfl⟩ := List.mem_map.1 hrow
    exact ⟨row₀, hrow₀, rfl⟩
  refine ⟨?_, ⟨_, hcom.records ▸ List.mem_map_of_mem (ha.row_mem hw), (c.publish_seat _).1⟩, ?_, ?_⟩
  · have htab := ha.table (List.cons_ne_nil _ _)
    unfold hasTable at htab ⊢
    rwa [hcom.tables]
  · intro row hrow' hid
    obtain ⟨row₀, hrow₀, rfl⟩ := hrow row hrow'
    obtain rfl := ha.row_of_id hn hw hrow₀ ((c.publish_seat row₀).1.symm.trans hid)
    -- the staged row is published
    have hpub : c.publish (r.rowIn c.repo (some c.id) i s.clock) =
        { r.rowIn c.repo (some c.id) i s.clock with visible := true, batch := none } := by
      simp [Batch.publish, Record.rowIn]
    refine ⟨by rw [hpub]; rfl, by rw [hpub], ?_⟩
    rw [view_publish, Batch.commit_view hc, ha.view hn hw hr hu]
    rfl
  · intro row hrow' hrepo hoai
    obtain ⟨row₀, hrow₀, rfl⟩ := hrow row hrow'
    obtain ⟨hid, hrepo₀, hoai₀⟩ := c.publish_seat row₀
    rw [hid]
    exact ha.unique _ hw row₀ hrow₀ (hrepo₀ ▸ hrepo) (hoai₀ ▸ hoai)

/-- **Rewriting a record** of id `i`: its rows, set names and marks are rewritten as `rewritten`
says, and the edges it names join those there before. -/
theorem updateRecord_eq_rewritten {w : Record} (hid : w.id = some i)
    (h : (updateRecord repo w).run s = .ok ((), t)) :
    t = { s.rewritten i w with lineage := t.lineage, modified := t.modified } ∧
      ∀ e, e ∈ t.lineage ↔ e ∈ s.lineage ∨ Joins w i e := by
  obtain ⟨i', u₁, hi, h₁⟩ := Tx.bind_eq_ok.1 h
  obtain ⟨hreq, rfl⟩ := ofOutcome_eq_ok hi
  obtain rfl : i' = i := by
    unfold Record.requireId at hreq
    rw [hid] at hreq
    cases hreq
    rfl
  obtain ⟨_, u₂, huse, h₂⟩ := Tx.bind_eq_ok.1 h₁
  obtain ⟨-, rfl⟩ := useTable_eq_ok huse
  obtain ⟨_, u₃, hget, h₃⟩ := Tx.bind_eq_ok.1 h₂
  cases hget
  dsimp only at h₃
  split at h₃
  · obtain ⟨_, u₄, hset, h₄⟩ := Tx.bind_eq_ok.1 h₃
    cases hset
    obtain ⟨_, u₅, hw, htouch⟩ := Tx.bind_eq_ok.1 h₄
    have ht := touch_eq htouch
    refine ⟨?_, fun e => ?_⟩
    · rw [ht, writeRelations_eq hw]
      rfl
    · rw [ht]
      exact writeRelations_lineage_iff hw e
  · -- a record the repository does not hold is refused
    obtain ⟨_, _, hfail, -⟩ := Tx.bind_eq_ok.1 h₃
    cases hfail

/-- A row as an update of record `i` leaves it: the rows of that id are overwritten. -/
theorem overwrite_seat {w : Record} (row : RecordRow) (clock : Int) :
    let row' := if row.id == i then row.overwrite w clock else row
    row'.id = row.id ∧ row'.repo = row.repo ∧ row'.oaiId = row.oaiId ∧ row'.visible = row.visible := by
  intro row'
  simp only [row']
  split <;> exact ⟨rfl, rfl, rfl, rfl⟩

/-- **A rewritten record is shown** as `Record.rewrittenAs` says: with the new set names and marks,
and with the edges into it before and those the rewrite names. -/
theorem updateRecord_shows {R w : Record} (hs : s.Shows repo i R) (hid : w.id = some i)
    (hw : w.Ascending) (hu : Unsplit w.sets) (h : (updateRecord repo w).run s = .ok ((), t)) :
    t.Shows repo i (R.rewrittenAs w i) := by
  obtain ⟨ht, hlin⟩ := updateRecord_eq_rewritten hid h
  have hrec : t.records = s.records.map fun row => if row.id == i then row.overwrite w s.clock else row :=
    (congrArg Store.records ht :)
  have hsets : readSets (seconds t.recordSets i) = w.sets := by
    rw [show t.recordSets = replacePairs s.recordSets i w.sets from (congrArg Store.recordSets ht :),
      readSets_congr fun _ => mem_seconds_replacePairs, readSets_eq_ofList hu, hw.sets.ofList_eq]
  have hpb : SortedList.ofList (seconds t.processedBy i) = w.processedBy := by
    rw [show t.processedBy = replacePairs s.processedBy i w.processedBy from
      (congrArg Store.processedBy ht :), SortedList.ofList_eq_of_mem_iff fun _ =>
      mem_seconds_replacePairs, hw.processedBy.ofList_eq]
  have hin : SortedList.ofList (seconds t.inputFor i) = w.inputFor := by
    rw [show t.inputFor = replacePairs s.inputFor i w.inputFor from
      (congrArg Store.inputFor ht :), SortedList.ofList_eq_of_mem_iff fun _ =>
      mem_seconds_replacePairs, hw.inputFor.ofList_eq]
  -- the edges into the record: those before, read back as its predecessors, and the new ones
  obtain ⟨row₀, hrow₀, hid₀⟩ := hs.held
  have hview₀ := (hs.rows row₀ hrow₀ hid₀).2.2
  have hpred : t.predecessorIds i = SortedList.union R.predecessors
      (SortedList.union w.predecessors (if i ∈ w.successors then [i] else [])) := by
    have hR : R.predecessors = s.predecessorIds i := hid₀ ▸ (Engine.view_ok hview₀).2.1
    refine (SortedList.sorted_ofList _).eq_of_mem_iff
      ((hR ▸ SortedList.sorted_ofList _ : SortedList.Sorted R.predecessors).union _) fun p => ?_
    rw [SortedList.mem_ofList, Engine.mem_firsts, hlin, SortedList.mem_union, SortedList.mem_union,
      hR, predecessorIds, SortedList.mem_ofList, Engine.mem_firsts]
    by_cases hself : i ∈ w.successors <;> simp [Joins, hself, or_comm]
  have hview : ∀ row ∈ s.records, row.id = i → t.view (row.overwrite w s.clock) = .ok (R.rewrittenAs w i) := by
    intro row hrow hrid
    have hoai : R.oaiId = row.oaiId := view_oaiId (hs.rows row hrow hrid).2.2
    simp only [Store.view, RecordRow.document, RecordRow.overwrite, hrid, hsets, hpb, hin, hpred]
    simp only [Record.rewrittenAs, Record.readBack, hoai]
    rfl
  have hrow : ∀ row ∈ t.records, ∃ row₀ ∈ s.records,
      row = if row₀.id == i then row₀.overwrite w s.clock else row₀ := fun row hrow => by
    rw [hrec] at hrow
    obtain ⟨row₀, hrow₀, rfl⟩ := List.mem_map.1 hrow
    exact ⟨row₀, hrow₀, rfl⟩
  refine ⟨?_, ⟨_, hrec ▸ List.mem_map_of_mem hrow₀, (overwrite_seat row₀ s.clock).1.trans hid₀⟩,
    fun row hrow' hrid => ?_, fun row hrow' hrepo hoai => ?_⟩
  · have htab := hs.table
    unfold hasTable at htab ⊢
    rwa [show t.tables = s.tables from (congrArg Store.tables ht :)]
  · obtain ⟨row, hrow, rfl⟩ := hrow row hrow'
    obtain ⟨hid', hrepo, -, hvis⟩ := overwrite_seat (i := i) (w := w) row s.clock
    have hi : row.id = i := hid'.symm.trans hrid
    obtain ⟨hrepo₀, hvis₀, -⟩ := hs.rows row hrow hi
    refine ⟨hrepo.trans hrepo₀, hvis.trans hvis₀, ?_⟩
    rw [if_pos (beq_iff_eq.2 hi)]
    exact hview row hrow hi
  · obtain ⟨row, hrow, rfl⟩ := hrow row hrow'
    obtain ⟨hid', hrepo₀, hoai₀, -⟩ := overwrite_seat (i := i) (w := w) row s.clock
    rw [hid']
    exact hs.oai row hrow (hrepo₀ ▸ hrepo) (hoai₀ ▸ hoai)

end Shown

-- ---------------------------------------------------------------------------
-- Directives
-- ---------------------------------------------------------------------------

/-- Dropping the repeats of a list keeps its names. -/
theorem mem_foldl_dedup {xs acc : List String} {x : String} :
    x ∈ xs.foldl (fun acc y => if acc.contains y then acc else acc ++ [y]) acc ↔
      x ∈ acc ∨ x ∈ xs := by
  induction xs generalizing acc with
  | nil => simp
  | cons y ys ih =>
    rw [List.foldl_cons, ih, List.mem_cons]
    by_cases hy : y ∈ acc
    · rw [if_pos (List.contains_iff_mem.2 hy)]
      constructor
      · rintro (hx | hx)
        exacts [.inl hx, .inr (.inr hx)]
      · rintro (hx | rfl | hx)
        exacts [.inl hx, .inl hy, .inr hx]
    · rw [if_neg (mt List.contains_iff_mem.1 hy), List.mem_append, List.mem_singleton]
      tauto

/-- Inserting a directive appends it, with its formats and sets rid of repeats. -/
theorem insertDirective_directives {source : DirectiveSource} {target : Int}
    {outputSet : Option String} {formats sets : List String} {s t : Store} {id : Int}
    (h : (insertDirective source target outputSet formats sets).run s = .ok (id, t)) :
    t.directives = s.directives ++
      [{ id, source, target, outputSet
         formats := formats.foldl (fun acc x => if acc.contains x then acc else acc ++ [x]) []
         sets := sets.foldl (fun acc x => if acc.contains x then acc else acc ++ [x]) [] }] := by
  unfold insertDirective at h
  dsimp only at h
  split at h
  · -- a directive with no format is refused
    obtain ⟨_, _, hfail, -⟩ := Tx.bind_eq_ok.1 h
    cases hfail
  obtain ⟨_, u₁, hget, h₁⟩ := Tx.bind_eq_ok.1 h
  cases hget
  -- on the kind of source, then on whether the source and the target exist
  split at h₁ <;> split at h₁
  all_goals obtain ⟨_, u₂, hstep, h₂⟩ := Tx.bind_eq_ok.1 h₁
  all_goals cases hstep
  all_goals obtain ⟨_, u₃, hmod, hpure⟩ := Tx.bind_eq_ok.1 h₂
  all_goals cases hmod
  all_goals cases hpure
  all_goals rfl

/-- Names read back from a list rid of its repeats, when none holds the separator, are the set of
the names. -/
theorem readSets_dedup {xs : List String} (hu : Unsplit xs) :
    readSets (xs.foldl (fun acc x => if acc.contains x then acc else acc ++ [x]) []) =
      SortedList.ofList xs := by
  have hmem : ∀ x, x ∈ xs.foldl (fun acc x => if acc.contains x then acc else acc ++ [x]) [] ↔
      x ∈ xs := fun x => by
    rw [mem_foldl_dedup]
    simp
  rw [readSets_eq_ofList fun x hx => hu x ((hmem x).1 hx)]
  exact SortedList.ofList_eq_of_mem_iff hmem

/-- A source is its own source: the derived comparison compares the ids. -/
theorem directiveSource_beq_self (source : DirectiveSource) : (source == source) = true := by
  cases source with
  | provider a => exact (beq_self_eq_true a :)
  | service a => exact (beq_self_eq_true a :)

/-- **An inserted directive reads back** among the directives of its source, with the set of its
formats and the set of its sets, when none of them holds the separator. -/
theorem insertDirective_readBack {source : DirectiveSource} {target : Int}
    {outputSet : Option String} {formats sets : List String} {s t : Store} {id : Int}
    (hf : Unsplit formats) (hs : Unsplit sets)
    (h : (insertDirective source target outputSet formats sets).run s = .ok (id, t)) :
    ({ id, source, target, outputSet, formats := SortedList.ofList formats
       sets := SortedList.ofList sets } : Directive) ∈ t.directivesFor source := by
  rw [directivesFor, insertDirective_directives h, List.filter_append, List.map_append]
  refine List.mem_append_right _ ?_
  simp only [List.filter_cons, List.filter_nil, directiveSource_beq_self, if_true,
    List.map_singleton, List.mem_singleton, Directive.readBack, readSets_dedup hf, readSets_dedup hs]

-- ---------------------------------------------------------------------------
-- Stored records read back
-- ---------------------------------------------------------------------------

/-- **Stored records read back as written.** On a store whose bookkeeping is in order, a record
whose set-valued fields are sets and whose set names hold no separator reads back, by every
reader, with its fields as written, its id as given, no successors and its payload as its text
reads; its predecessors are its own with the records written in the same call that name it as
successor (itself included). A record staged in a batch reads back so once the batch ends, with
the batch's marks for it applied. A record rewritten reads back with the new set names and marks,
and with the edges into it before and those the rewrite names. A directive reads back with the set
of its formats and the set of its sets. -/
theorem stored_records_read_back :
    (∀ (s t : Store) (repo : String) (r : Record) (i : Int), s.Numbered → r.Ascending →
      Unsplit r.sets → (addRecord repo r).run s = .ok (i, t) →
        t.ReadsBack repo i (r.readBack i (namersOf [(i, r)] i))) ∧
    (∀ (s t : Store) (repo : String) (rs : List Record) (ids : List Int), s.Numbered →
      (∀ r ∈ rs, r.Ascending ∧ Unsplit r.sets) → (addRecords repo rs).run s = .ok (ids, t) →
        ∀ w ∈ ids.zip rs, t.ReadsBack repo w.1 (w.2.readBack w.1 (namersOf (ids.zip rs) w.1))) ∧
    (∀ (s u t : Store) (b b' : Batch) (r : Record) (i : Int) (x : Nat × Nat), s.Numbered →
      r.Ascending → Unsplit r.sets → (b.add r).run s = .ok ((i, b'), u) →
        b'.commit.run u = .ok (x, t) →
          t.ReadsBack b.repo i ((r.readBack i (namersOf [(i, r)] i)).withMarks i b.marks)) ∧
    (∀ (s t : Store) (repo : String) (i : Int) (R r : Record), s.Shows repo i R →
      r.id = some i → r.Ascending → Unsplit r.sets → (updateRecord repo r).run s = .ok ((), t) →
        t.ReadsBack repo i (R.rewrittenAs r i)) ∧
    ∀ (s t : Store) (source : DirectiveSource) (target : Int) (outputSet : Option String)
      (formats sets : List String) (id : Int), Unsplit formats → Unsplit sets →
      (insertDirective source target outputSet formats sets).run s = .ok (id, t) →
        ({ id, source, target, outputSet, formats := SortedList.ofList formats
           sets := SortedList.ofList sets } : Directive) ∈ t.directivesFor source := by
  refine ⟨fun s t repo r i hn hr hu h => ?_, fun s t repo rs ids hn hrs h => ?_,
    fun s u t b b' r i x hn hr hu ha hc => ?_, fun s t repo i R r hs hid hr hu h => ?_,
    fun s t source target outputSet formats sets id hf hs h => insertDirective_readBack hf hs h⟩
  · exact ((addRecord_rowsAdded h).shows hn (List.mem_singleton_self _) hr hu).readsBack
  · intro w hw
    obtain ⟨hr, hu⟩ := hrs w.2 (List.of_mem_zip hw).2
    exact ((addRecords_rowsAdded h).2.shows hn hw hr hu).readsBack
  · obtain ⟨hrows, rfl⟩ := Batch.add_rowsAdded ha
    exact (Batch.commit_shows hn hrows hr hu hc).readsBack
  · exact (updateRecord_shows hs hid hr hu h).readsBack

/-- A computation whose result, read as an option, is one that `f` maps to `c` succeeds. -/
theorem exists_ok_of_toOption {ε α γ : Type} {x : Except ε α} {f : α → γ} {c : γ}
    (h : x.toOption.map f = some c) : ∃ a, x = .ok a ∧ f a = c := by
  rcases x with e | a
  · cases h
  · exact ⟨a, rfl, Option.some.inj h⟩

/-- An action whose result, read as an option, is one that `f` maps to `c` returns it, and
leaves the site its run leaves. -/
theorem run_eq_ok_of_toOption {α γ : Type} {a : Site.Action α} {s : Site} {f : α → γ} {c : γ}
    (h : ((a.run).run s).1.toOption.map f = some c) :
    ∃ x, (a.run).run s = (.ok x, ((a.run).run s).2) ∧ f x = c := by
  obtain ⟨x, hx, hc⟩ := exists_ok_of_toOption h
  exact ⟨x, Prod.ext hx rfl, hc⟩

/-- An action whose result, read as an option, is none fails, and leaves the site its run
leaves. -/
theorem run_eq_error_of_toOption {α : Type} {a : Site.Action α} {s : Site}
    (h : ((a.run).run s).1.toOption.isNone = true) :
    ∃ e, (a.run).run s = (.error e, ((a.run).run s).2) := by
  cases hx : ((a.run).run s).1 with
  | error e => exact ⟨e, Prod.ext hx rfl⟩
  | ok _ =>
    rw [hx] at h
    cases h

/-- Records read back on a store of no records: a record added with a set, a record staged in a
batch and the batch ended, the first record rewritten with another set, and a directive from a
service to itself. -/
theorem stored_records_read_back_on_empty_store :
    let recordTable : Sql.Table :=
      { name := "records", columns := [], rowidColumn := none, primaryKey := [],
        autoincrement := false, checks := [], foreignKeys := [], rows := [], sql := "" }
    let s : Store := { tables := { main := [.table recordTable] } }
    let r : Record := { oaiId := "a", format := "marc21", sets := ["x"] }
    let r' : Record := { id := some 1, oaiId := "a", format := "marc21", sets := ["y"] }
    let b : Batch := { repo := "repo", id := 1 }
    let svc : ServiceRow :=
      { id := 1, name := "S", kind := "scripted", version := "1.0", repoName := "service:S"
        status := .notRunning, totals := {} }
    (∃ i t, (addRecord "repo" r).run s = .ok (i, t) ∧
      t.ReadsBack "repo" i (r.readBack i (namersOf [(i, r)] i))) ∧
    (∃ ids t, (addRecords "repo" [r]).run s = .ok (ids, t) ∧
      ∀ w ∈ ids.zip [r], t.ReadsBack "repo" w.1 (w.2.readBack w.1 (namersOf (ids.zip [r]) w.1))) ∧
    (∃ i b' u x t, (b.add r).run s = .ok ((i, b'), u) ∧ b'.commit.run u = .ok (x, t) ∧
      t.ReadsBack b.repo i ((r.readBack i (namersOf [(i, r)] i)).withMarks i b.marks)) ∧
    (∃ u t, (addRecord "repo" r).run s = .ok (1, u) ∧ (updateRecord "repo" r').run u = .ok ((), t) ∧
      t.ReadsBack "repo" 1 ((r.readBack 1 (namersOf [(1, r)] 1)).rewrittenAs r' 1)) ∧
    ∃ id t, (insertDirective (.service 1) 1 none ["marc21"] []).run { s with services := [svc] } =
      .ok (id, t) ∧ ({ id, source := .service 1, target := 1, outputSet := none
                       formats := SortedList.ofList ["marc21"], sets := SortedList.ofList [] } :
                       Directive) ∈ t.directivesFor (.service 1) := by
  intro recordTable s r r' b svc
  have hn : s.Numbered :=
    ⟨List.Pairwise.nil, ⟨fun _ h => absurd h List.not_mem_nil, fun _ h => absurd h List.not_mem_nil⟩,
      fun _ h => absurd h List.not_mem_nil, fun _ h => absurd h List.not_mem_nil,
      fun _ h => absurd h List.not_mem_nil, fun _ h => absurd h List.not_mem_nil⟩
  have hr : r.Ascending := ⟨by decide, by decide, by decide, by decide⟩
  have hu : Unsplit r.sets := by decide
  have hr' : r'.Ascending := ⟨by decide, by decide, by decide, by decide⟩
  have hu' : Unsplit r'.sets := by decide
  -- every run below succeeds, as evaluating it shows
  refine ⟨?_, ?_, ?_, ?_, ?_⟩
  · obtain ⟨⟨i, t⟩, h, -⟩ := exists_ok_of_toOption (f := fun _ => ()) (c := ())
      (by decide : ((addRecord "repo" r).run s).toOption.map (fun _ => ()) = some ())
    exact ⟨i, t, h, stored_records_read_back.1 s t "repo" r i hn hr hu h⟩
  · obtain ⟨⟨ids, t⟩, h, -⟩ := exists_ok_of_toOption (f := fun _ => ()) (c := ())
      (by decide : ((addRecords "repo" [r]).run s).toOption.map (fun _ => ()) = some ())
    refine ⟨ids, t, h, stored_records_read_back.2.1 s t "repo" [r] ids hn ?_ h⟩
    intro r₀ hr₀
    obtain rfl := List.mem_singleton.1 hr₀
    exact ⟨hr, hu⟩
  · obtain ⟨⟨x, t⟩, h, -⟩ := exists_ok_of_toOption (f := fun _ => ()) (c := ())
      (by decide : ((b.add r >>= fun p => p.2.commit).run s).toOption.map (fun _ => ()) = some ())
    obtain ⟨⟨i, b'⟩, u, ha, hc⟩ := Tx.bind_eq_ok.1 h
    exact ⟨i, b', u, x, t, ha, hc,
      stored_records_read_back.2.2.1 s u t b b' r i x hn hr hu ha hc⟩
  · obtain ⟨⟨i, t⟩, h, hi⟩ := exists_ok_of_toOption (f := Prod.fst) (c := 1)
      (by decide : ((addRecord "repo" r >>= fun i => updateRecord "repo" r' >>= fun _ => pure i).run
        s).toOption.map Prod.fst = some 1)
    obtain rfl : i = 1 := hi
    obtain ⟨a, u, hadd, hrest⟩ := Tx.bind_eq_ok.1 h
    obtain ⟨_, w, hup, hpure⟩ := Tx.bind_eq_ok.1 hrest
    cases hpure
    have hshows := (addRecord_rowsAdded hadd).shows hn (List.mem_singleton_self _) hr hu
    exact ⟨u, t, hadd, hup,
      stored_records_read_back.2.2.2.1 u t "repo" 1 _ r' hshows rfl hr' hu' hup⟩
  · obtain ⟨⟨id, t⟩, h, -⟩ := exists_ok_of_toOption (f := fun _ => ()) (c := ())
      (by decide : ((insertDirective (.service 1) 1 none ["marc21"] []).run
        { s with services := [svc] }).toOption.map (fun _ => ()) = some ())
    exact ⟨id, t, h, stored_records_read_back.2.2.2.2 _ t (.service 1) 1 none ["marc21"] [] id
      (by decide) (by decide) h⟩

/-- Two records that read back otherwise than written. A record that names itself as successor,
written with no predecessors, reads back as its own predecessor. A record staged as input for
service 1 in a batch that holds the mark of its id for service 1 reads back, once the batch ends,
processed by service 1 and input for none. -/
theorem records_read_back_otherwise_than_written :
    let recordTable : Sql.Table :=
      { name := "records", columns := [], rowidColumn := none, primaryKey := [],
        autoincrement := false, checks := [], foreignKeys := [], rows := [], sql := "" }
    let s : Store := { tables := { main := [.table recordTable] } }
    let r : Record := { oaiId := "a", format := "marc21", successors := [1] }
    let staged : Record := { oaiId := "a", format := "marc21", inputFor := [1] }
    let b : Batch := { repo := "repo", id := 1, marks := [(1, 1)] }
    r.predecessors = [] ∧
      (((addRecord "repo" r).run s).toOption.bind fun p =>
        (p.2.getRecord? "repo" p.1).toOption.bind (·.map (·.predecessors))) = some [1] ∧
      staged.processedBy = [] ∧ staged.inputFor = [1] ∧
      (((b.add staged >>= fun p => p.2.commit >>= fun _ => pure p.1).run s).toOption.bind fun p =>
        (p.2.getRecord? "repo" p.1).toOption.bind
          (·.map fun R => (R.processedBy, R.inputFor))) = some ([1], []) := by
  decide

end Catalog.Store
