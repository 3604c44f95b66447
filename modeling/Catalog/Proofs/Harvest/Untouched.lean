import Catalog.Proofs.Service.Update
import Catalog.Proofs.Engine.Status
import Catalog.Proofs.Engine.Atomicity
import Catalog.Harvest.Runner
import Catalog.Proofs.Harvest.Rewrite

/-!
# What a failed harvest step leaves

A harvest step stores the records a provider sent in the provider's repository, within one
write batch. The batch holds back only the records the step adds: a record the repository
holds already is rewritten in a transaction of its own, at once. So a step that fails is not
undone as a whole. The records it rewrote before it failed stay rewritten, and when it fails
after its batch ended, the records it added stay too.

What a failed step does leave alone is everything the provider did not send. This module
follows a step transaction by transaction and shows that it keeps, at every point, the relation
`Untouched`: the harvest steps and the schema are as they were, every record none of whose
rows is a row of the repository under a sent OAI identifier has the same rows, sets, marks
and inputs, and every row of the store sits where a row sat before or is a new row of the
repository under a sent identifier.

## Main results

* `Store.Untouched.trans` and the transactions a step runs, each with the relation
* `stage_leavesUntouched`: storing the sent records one by one
* `runStep_untouched_of_error`: a step that fails leaves its last run as it was and the records
  it was not sent as they were
-/

namespace Catalog.Store

variable {α β : Type}

-- ---------------------------------------------------------------------------
-- A record as a store holds it
-- ---------------------------------------------------------------------------

/-- Record `x` as a store holds it: its rows, and the sets it is in, the services that
processed it and the services it is input for, in the order they are stored. -/
def recordAt (s : Store) (x : Int) : List RecordRow × List String × List Int × List Int :=
  (s.records.filter (·.id == x), seconds s.recordSets x, seconds s.processedBy x,
    seconds s.inputFor x)

/-- Where a row sits and what it is called: its place and its OAI identifier. -/
def RecordRow.seat (row : RecordRow) : (Int × String × Bool × Option Nat) × String :=
  (row.place, row.oaiId)

theorem RecordRow.seat_eq_iff {row row' : RecordRow} :
    row.seat = row'.seat ↔ row.id = row'.id ∧ row.repo = row'.repo ∧
      row.visible = row'.visible ∧ row.batch = row'.batch ∧ row.oaiId = row'.oaiId := by
  simp [seat, place, and_assoc]

theorem seconds_filter_of [BEq α] [LawfulBEq α] {xs : List (α × β)} {p : α × β → Bool} {a : α}
    (ha : ∀ e : α × β, e.1 = a → p e = true) : seconds (xs.filter p) a = seconds xs a := by
  rw [seconds, seconds, List.filterMap_filter]
  congr 1
  funext e
  by_cases he : e.1 = a
  · simp [he, ha e he]
  · simp [he]

theorem seconds_addPair_of_ne [BEq α] [LawfulBEq α] [BEq β] {xs : List (α × β)} {p : α × β}
    {a : α} (h : p.1 ≠ a) : seconds (addPair xs p) a = seconds xs a := by
  unfold addPair
  split
  · rfl
  · simp [seconds, List.filterMap_append, h]

theorem seconds_foldl_addPair_of_ne [BEq α] [LawfulBEq α] [BEq β] {xs : List (α × β)}
    {i a : α} (ys : List β) (h : i ≠ a) :
    seconds (ys.foldl (fun acc y => addPair acc (i, y)) xs) a = seconds xs a := by
  induction ys generalizing xs with
  | nil => rfl
  | cons y ys ih => rw [List.foldl_cons, ih, seconds_addPair_of_ne h]

/-- Changing rows in place keeps the rows of an id whose rows it leaves alone. -/
theorem filter_id_map {xs : List RecordRow} {f : RecordRow → RecordRow} {x : Int}
    (hid : ∀ row ∈ xs, (f row).id = row.id) (hx : ∀ row ∈ xs, row.id = x → f row = row) :
    (xs.map f).filter (·.id == x) = xs.filter (·.id == x) := by
  induction xs with
  | nil => rfl
  | cons row rest ih =>
    have ih' := ih (fun r hr => hid r (List.mem_cons_of_mem _ hr))
      (fun r hr => hx r (List.mem_cons_of_mem _ hr))
    rw [List.map_cons, List.filter_cons, List.filter_cons, hid row List.mem_cons_self, ih']
    by_cases h : row.id = x
    · simp [h, hx row List.mem_cons_self h]
    · simp [h]

/-- Two stores that hold record `x` alike have the same rows of it. -/
theorem mem_of_recordAt {s t : Store} {x : Int} (h : t.recordAt x = s.recordAt x)
    {row : RecordRow} (hrow : row ∈ t.records) (hx : row.id = x) : row ∈ s.records := by
  have hmem : row ∈ t.records.filter (·.id == x) := List.mem_filter.2 ⟨hrow, by simpa using hx⟩
  have hrows : t.records.filter (·.id == x) = s.records.filter (·.id == x) := congrArg Prod.fst h
  rw [hrows] at hmem
  exact (List.mem_filter.1 hmem).1

/-- A record a batch reads back by OAI identifier is the view of a row of its repository under
that identifier. -/
theorem Batch.getOai?_ok {b : Batch} {s : Store} {oaiId : String} {o : Record}
    (h : b.getOai? s oaiId = .ok (some o)) :
    ∃ row ∈ s.records, row.oaiId = oaiId ∧ row.repo = b.repo ∧ s.view row = .ok o := by
  unfold Batch.getOai? at h
  rcases hrow : (s.findOaiRow? b.repo oaiId).filter
    (fun row => row.visible || b.isStaged row.id) with _ | row <;> rw [hrow] at h
  · cases h
  · obtain ⟨hfind, -⟩ := Option.filter_eq_some_iff.1 hrow
    replace hfind : s.records.find? (fun row => row.oaiId == oaiId && row.repo == b.repo) =
        some row := hfind
    have hp := List.find?_some hfind
    simp only [Bool.and_eq_true, beq_iff_eq] at hp
    rcases hview : s.view row with e | r <;> simp [hview] at h
    exact ⟨row, List.mem_of_find?_eq_some hfind, hp.1, hp.2, h ▸ hview⟩

-- ---------------------------------------------------------------------------
-- What a harvest step may reach
-- ---------------------------------------------------------------------------

section Reach

variable (repo : String) (names : List String)

/-- Record `x` lies beyond the reach of a harvest of repository `repo` sent the OAI
identifiers `names`: every row of it is visible, and none is a row of `repo` under one of
`names`. -/
def Spared (s : Store) (x : Int) : Prop :=
  ∀ row ∈ s.records, row.id = x → row.visible = true ∧ ¬(row.repo = repo ∧ row.oaiId ∈ names)

/-- What a harvest of repository `repo` sent the OAI identifiers `names` may have done between
stores `s` and `t`: the harvest steps and the schema are as they were, no id was taken back,
every record with an id of `s` beyond the harvest's reach is held as it was, and every row of
`t` sits where a row of `s` sat, or is a new row of `repo` under one of `names`. -/
structure Untouched (s t : Store) : Prop where
  steps : t.steps = s.steps
  tables : t.tables = s.tables
  lastRecord : s.lastId .records ≤ t.lastId .records
  lastBatch : s.lastBatch ≤ t.lastBatch
  kept : ∀ x ≤ s.lastId .records, Spared repo names s x → t.recordAt x = s.recordAt x
  seated : ∀ row ∈ t.records, (∃ row₀ ∈ s.records, row₀.seat = row.seat) ∨
    (s.lastId .records < row.id ∧ row.repo = repo ∧ row.oaiId ∈ names)

variable {repo names}

theorem Spared.of_recordAt {s t : Store} {x : Int} (h : Spared repo names s x)
    (hx : t.recordAt x = s.recordAt x) : Spared repo names t x :=
  fun row hrow hid => h row (mem_of_recordAt hx hrow hid) hid

theorem Untouched.refl (s : Store) : Untouched repo names s s :=
  ⟨rfl, rfl, le_rfl, le_rfl, fun _ _ _ => rfl, fun row hrow => .inl ⟨row, hrow, rfl⟩⟩

theorem Untouched.trans {s u t : Store} (h₁ : Untouched repo names s u)
    (h₂ : Untouched repo names u t) : Untouched repo names s t where
  steps := h₂.steps.trans h₁.steps
  tables := h₂.tables.trans h₁.tables
  lastRecord := h₁.lastRecord.trans h₂.lastRecord
  lastBatch := h₁.lastBatch.trans h₂.lastBatch
  kept x hx hsp := by
    have hu := h₁.kept x hx hsp
    exact (h₂.kept x (hx.trans h₁.lastRecord) (hsp.of_recordAt hu)).trans hu
  seated row hrow := by
    rcases h₂.seated row hrow with ⟨row₁, hrow₁, hseat⟩ | ⟨hlt, hnew⟩
    · rcases h₁.seated row₁ hrow₁ with ⟨row₀, hrow₀, hseat₀⟩ | ⟨hlt, hrepo, hname⟩
      · exact .inl ⟨row₀, hrow₀, hseat₀.trans hseat⟩
      · -- a row sitting where a new row sat is that new row
        obtain ⟨hid, hrepo', -, -, hoai⟩ := RecordRow.seat_eq_iff.1 hseat
        exact .inr ⟨hid ▸ hlt, hrepo' ▸ hrepo, hoai ▸ hname⟩
    · exact .inr ⟨lt_of_le_of_lt h₁.lastRecord hlt, hnew⟩

/-- A change that keeps the rows and their relations, the harvest steps and the schema, and
takes back no id. -/
theorem Untouched.of_same {s t : Store} (hr : t.records = s.records)
    (hs : t.recordSets = s.recordSets) (hp : t.processedBy = s.processedBy)
    (hi : t.inputFor = s.inputFor) (hst : t.steps = s.steps) (ht : t.tables = s.tables)
    (hl : t.lastId .records = s.lastId .records) (hb : s.lastBatch ≤ t.lastBatch) :
    Untouched repo names s t where
  steps := hst
  tables := ht
  lastRecord := hl.ge
  lastBatch := hb
  kept _ _ _ := by simp only [recordAt, hr, hs, hp, hi]
  seated row hrow := .inl ⟨row, hr ▸ hrow, rfl⟩

-- ---------------------------------------------------------------------------
-- The transactions of a step
-- ---------------------------------------------------------------------------

/-- Writing the relations of record `i` adds its sets, services and inputs, and edges. -/
theorem writeRelations_eq {i : Int} {r : Record} {s t : Store} {a : Unit}
    (h : (writeRelations i r).run s = .ok (a, t)) :
    t = { s with
      recordSets := r.sets.foldl (fun acc spec => addPair acc (i, spec)) s.recordSets
      processedBy := r.processedBy.foldl (fun acc sv => addPair acc (i, sv)) s.processedBy
      inputFor := r.inputFor.foldl (fun acc sv => addPair acc (i, sv)) s.inputFor
      lineage := t.lineage } := by
  obtain ⟨_, u, hu, hedges⟩ := Tx.bind_eq_ok.1 h
  obtain ⟨_, w, hpred, hsucc⟩ := Tx.bind_eq_ok.1 hedges
  cases hu
  have hg := (forM_addEdge_grown hpred).trans (forM_addEdge_from_grown hsucc)
  rw [hg.same]

/-- Deleting where no row matches changes nothing. -/
theorem deleteRecords_run_of_none {p : RecordRow → Bool} {s : Store}
    (h : ∀ row ∈ s.records, p row = false) : (deleteRecords p).run s = .ok (0, s) := by
  have hgone : s.records.filter p = [] := List.filter_eq_nil_iff.2 (by simpa using h)
  have hkeep : s.records.filter (fun row => !p row) = s.records :=
    List.filter_eq_self.2 (by simpa using h)
  simp only [deleteRecords, StateT.run_bind, StateT.run_get, StateT.run_set, StateT.run_pure,
    pure_bind, hgone, hkeep, List.map_nil, List.length_nil, List.contains_nil, Bool.not_false,
    Bool.and_self, List.filter_true]
  rfl

/-- Deleting rows that are all hidden reaches no record beyond a harvest's reach. -/
theorem deleteRecords_untouched {p : RecordRow → Bool} {s t : Store} {n : Nat}
    (h : (deleteRecords p).run s = .ok (n, t))
    (hp : ∀ row ∈ s.records, p row = true → row.visible = false) : Untouched repo names s t := by
  obtain ⟨_, u, hget, h⟩ := Tx.bind_eq_ok.1 h
  cases hget
  obtain ⟨_, u, hset, hpure⟩ := Tx.bind_eq_ok.1 h
  cases hset
  cases hpure
  refine ⟨rfl, rfl, le_rfl, le_rfl, fun x _ hsp => ?_,
    fun row hrow => .inl ⟨row, (List.mem_filter.1 hrow).1, rfl⟩⟩
  -- every row of a record beyond reach is visible, so none of them is deleted
  have hkeep : ∀ row ∈ s.records, row.id = x → p row = false := by
    intro row hrow hid
    cases hpr : p row
    · rfl
    · have hvis := hp row hrow hpr
      rw [(hsp row hrow hid).1] at hvis
      cases hvis
  have hgone : (!((s.records.filter p).map (·.id)).contains x) = true := by
    simp only [List.contains_iff_mem, List.mem_map, List.mem_filter, Bool.not_eq_eq_eq_not,
      Bool.not_true, Bool.eq_false_iff, ne_eq]
    rintro ⟨row, ⟨hrow, hpr⟩, hid⟩
    rw [hkeep row hrow hid] at hpr
    cases hpr
  have hrows : (s.records.filter fun row => !p row).filter (·.id == x) =
      s.records.filter (·.id == x) := by
    rw [List.filter_filter]
    refine List.filter_congr fun row hrow => ?_
    by_cases hid : row.id = x
    · simp [hid, hkeep row hrow hid]
    · simp [hid]
  have hsec : ∀ {γ : Type} (xs : List (Int × γ)),
      seconds (xs.filter fun e => !((s.records.filter p).map (·.id)).contains e.1) x =
        seconds xs x :=
    fun _ => seconds_filter_of fun e he => by subst he; exact hgone
  simp only [recordAt, hrows, hsec]

/-- Opening a batch deletes hidden rows only. -/
theorem Batch.start_untouched {repo' : String} {s t : Store} {b : Batch} {n : Nat}
    (h : (Batch.start repo').run s = .ok ((b, n), t)) : Untouched repo names s t := by
  rw [Batch.start_run] at h
  rcases hdel : (deleteRecords (purges s repo')).run s with e | ⟨n', u⟩ <;> rw [hdel] at h
  · cases h
  simp only [Except.map, Except.ok.injEq, Prod.mk.injEq] at h
  obtain ⟨-, rfl⟩ := h
  have hpurged : ∀ row ∈ s.records, purges s repo' row = true → row.visible = false := by
    intro row _ hp
    simp only [purges, Bool.and_eq_true, Bool.not_eq_true'] at hp
    exact hp.1.2
  have hledger := (deleteRecords_keepsLedger _).ledger_eq hdel
  exact (deleteRecords_untouched hdel hpurged).trans
    (.of_same rfl rfl rfl rfl rfl rfl rfl ((congrArg Prod.fst hledger).trans_le (Nat.le_succ _)))

/-- Aborting a batch deletes hidden rows only. -/
theorem Batch.abort_untouched {b : Batch} {s t : Store} {n : Nat}
    (h : b.abort.run s = .ok (n, t)) : Untouched repo names s t := by
  rw [Batch.abort_run] at h
  rcases hdel : (deleteRecords fun row => row.batch == some b.id && !row.visible).run s with
    e | ⟨n', u⟩ <;> rw [hdel] at h
  · cases h
  simp only [Except.map, Except.ok.injEq, Prod.mk.injEq] at h
  obtain ⟨-, rfl⟩ := h
  have hstaged : ∀ row ∈ s.records, (row.batch == some b.id && !row.visible) = true →
      row.visible = false := by
    intro row _ hp
    simp only [Bool.and_eq_true, Bool.not_eq_true'] at hp
    exact hp.2
  exact (deleteRecords_untouched hdel hstaged).trans (.of_same rfl rfl rfl rfl rfl rfl rfl le_rfl)

theorem touch_untouched {repo' : String} {s t : Store} {a : Unit}
    (h : (touch repo').run s = .ok (a, t)) : Untouched repo names s t := by
  rw [touch_eq h]
  exact .of_same rfl rfl rfl rfl rfl rfl rfl le_rfl

theorem insertJob_untouched {service : Int} {outputSet : Option String}
    {kind : Pipeline.JobKind} {s t : Store} {a : Option Pipeline.Job} (h : (insertJob service outputSet kind).run s = .ok (a, t)) :
    Untouched repo names s t := by
  have ht : s.hasTable "jobs" = true := hasTable_of_useTable h
  by_cases hw : ∃ j ∈ s.jobs, j.key = (service, outputSet)
  · rw [insertJob_run_waiting kind ht hw] at h
    cases h
    exact .refl s
  · rw [insertJob_run_free kind ht hw] at h
    cases h
    exact .of_same rfl rfl rfl rfl rfl rfl (by simp [withJob]) le_rfl

/-- Rewriting a record the harvest reaches keeps every record beyond its reach, and every row
where it sits. -/
theorem updateRecord_untouched {repo' : String} {r : Record} {s t : Store} {a : Unit}
    (h : (updateRecord repo' r).run s = .ok (a, t))
    (hreach : ∀ i, r.id = some i →
      ∃ row ∈ s.records, row.id = i ∧ row.repo = repo ∧ row.oaiId ∈ names) :
    Untouched repo names s t := by
  obtain ⟨i, u₁, hi, h₁⟩ := Tx.bind_eq_ok.1 h
  obtain ⟨hid, rfl⟩ := ofOutcome_eq_ok hi
  obtain ⟨_, u₂, huse, h₂⟩ := Tx.bind_eq_ok.1 h₁
  obtain ⟨-, rfl⟩ := useTable_eq_ok huse
  obtain ⟨_, u₃, hget, h₃⟩ := Tx.bind_eq_ok.1 h₂
  cases hget
  dsimp only at h₃
  split at h₃
  · obtain ⟨_, u₄, hset, h₄⟩ := Tx.bind_eq_ok.1 h₃
    cases hset
    obtain ⟨_, u₅, hw, htouch⟩ := Tx.bind_eq_ok.1 h₄
    rw [touch_eq htouch, writeRelations_eq hw]
    have hri : r.id = some i := by
      unfold Record.requireId at hid
      split at hid <;> simp_all
    -- no record beyond reach has the rewritten id
    have hne : ∀ x, Spared repo names u₂ x → i ≠ x := by
      rintro x hsp rfl
      obtain ⟨row, hrow, hrid, hrepo, hname⟩ := hreach i hri
      exact (hsp row hrow hrid).2 ⟨hrepo, hname⟩
    refine ⟨rfl, rfl, le_rfl, le_rfl, fun x _ hsp => ?_, fun row hrow => ?_⟩
    · have hx := hne x hsp
      simp only [recordAt, seconds_foldl_addPair_of_ne _ hx]
      rw [filter_id_map (fun row _ => by split <;> rfl)
        (fun row _ hrx => by simp [hrx, Ne.symm hx])]
      have hsec : ∀ {γ : Type} (xs : List (Int × γ)), seconds (xs.filter (·.1 != i)) x =
          seconds xs x :=
        fun _ => seconds_filter_of fun e he => by simp [he, Ne.symm hx]
      simp only [hsec]
    · obtain ⟨row', hrow', rfl⟩ := List.mem_map.1 hrow
      exact .inl ⟨row', hrow', by split <;> rfl⟩
  · -- a record the repository does not hold is refused
    obtain ⟨_, _, hfail, -⟩ := Tx.bind_eq_ok.1 h₃
    cases hfail

/-- Adding a record of the repository under a sent OAI identifier keeps every record with an id
handed out before: the new row takes the next id. -/
theorem insertRecord_untouched {repo' : String} {r : Record} {batch : Option Nat} {s t : Store}
    {i : Int} (h : (insertRecord repo' r batch).run s = .ok (i, t)) (hrepo : repo' = repo)
    (hname : r.oaiId ∈ names) : Untouched repo names s t := by
  obtain ⟨_, u₁, huse, h₁⟩ := Tx.bind_eq_ok.1 h
  obtain ⟨-, rfl⟩ := useTable_eq_ok huse
  obtain ⟨_, u₂, hget, h₂⟩ := Tx.bind_eq_ok.1 h₁
  cases hget
  dsimp only at h₂
  split at h₂
  · -- a row of the repository under the identifier is refused
    obtain ⟨_, _, hfail, -⟩ := Tx.bind_eq_ok.1 h₂
    cases hfail
  obtain ⟨j, u₃, hnext, h₃⟩ := Tx.bind_eq_ok.1 h₂
  cases hnext
  obtain ⟨_, u₄, hmod, h₄⟩ := Tx.bind_eq_ok.1 h₃
  cases hmod
  obtain ⟨_, u₅, hw, hpure⟩ := Tx.bind_eq_ok.1 h₄
  cases hpure
  rw [writeRelations_eq hw]
  dsimp only
  subst hrepo
  refine ⟨rfl, rfl, by simp, le_rfl, fun x hx _ => ?_, fun row hrow => ?_⟩
  · -- the new row takes an id no record had
    have hne : u₁.lastId .records + 1 ≠ x := by omega
    simp only [recordAt, seconds_foldl_addPair_of_ne _ hne, List.filter_append]
    simp [hne]
  · rcases List.mem_append.1 hrow with hold | hnew
    · exact .inl ⟨row, hold, rfl⟩
    · rw [List.mem_singleton.1 hnew]
      exact .inr ⟨by simp, rfl, hname⟩

/-- Staging a record of the repository under a sent OAI identifier. -/
theorem Batch.add_untouched {b b' : Batch} {r : Record} {s t : Store} {i : Int}
    (h : (b.add r).run s = .ok ((i, b'), t)) (hrepo : b.repo = repo) (hname : r.oaiId ∈ names) :
    Untouched repo names s t := by
  obtain ⟨j, u, hins, hrest⟩ := Tx.bind_eq_ok.1 h
  obtain ⟨_, w, htouch, hpure⟩ := Tx.bind_eq_ok.1 hrest
  cases hpure
  exact (insertRecord_untouched hins hrepo hname).trans (touch_untouched htouch)

theorem Batch.publish_seat (b : Batch) (row : RecordRow) :
    (b.publish row).id = row.id ∧ (b.publish row).repo = row.repo ∧
      (b.publish row).oaiId = row.oaiId := by
  unfold Batch.publish
  split <;> exact ⟨rfl, rfl, rfl⟩

/-- Ending a batch opened after `s₀`, with no marks held back, on a store a harvest has left
untouched from `s₀`: the rows the batch shows are new ones, so the store stays untouched. -/
theorem Untouched.commit {s₀ s t : Store} {b : Batch} {x : Nat × Nat}
    (hu : Untouched repo names s₀ s) (hiss : Issued s₀) (hb : s₀.lastBatch < b.id)
    (hm : b.marks = []) (h : b.commit.run s = .ok (x, t)) : Untouched repo names s₀ t := by
  obtain ⟨u, hmarks, -, rfl⟩ := Batch.commit_run h
  rw [hm] at hmarks
  cases hmarks
  -- a row where a row of `s₀` sat is staged by no batch opened after `s₀`
  have hold : ∀ row, (∃ row₀ ∈ s₀.records, row₀.seat = row.seat) → b.publish row = row := by
    rintro row ⟨row₀, hrow₀, hseat⟩
    obtain ⟨-, -, -, hbatch, -⟩ := RecordRow.seat_eq_iff.1 hseat
    unfold Batch.publish
    rw [if_neg]
    intro hk
    have hle := hiss.batches row₀ hrow₀ b.id (by rw [hbatch]; simpa using hk)
    omega
  refine ⟨hu.steps, hu.tables, hu.lastRecord, hu.lastBatch, fun y hy hsp => ?_, fun row hrow => ?_⟩
  · have hs := hu.kept y hy hsp
    rw [← hs]
    simp only [recordAt]
    rw [filter_id_map (fun row _ => (b.publish_seat row).1)
      (fun row hrow hid => hold row ⟨row, mem_of_recordAt hs hrow hid, rfl⟩)]
  · obtain ⟨row', hrow', rfl⟩ := List.mem_map.1 hrow
    rcases hu.seated row' hrow' with hseat | ⟨hlt, hrepo, hname⟩
    · rw [hold row' hseat]
      exact .inl hseat
    · obtain ⟨hid, hr, ho⟩ := b.publish_seat row'
      exact .inr ⟨hid ▸ hlt, hr ▸ hrepo, ho ▸ hname⟩

end Reach

end Catalog.Store

namespace Catalog.Site

/-- A bind that failed either failed in its first action, or ran it to a value and failed
after. -/
theorem run_bind_eq_error {α β : Type} {x : Action α} {k : α → Action β} {s t : Site} {e : Error}
    (h : ((x >>= k).run).run s = (.error e, t)) :
    (x.run).run s = (.error e, t) ∨
      ∃ a u, (x.run).run s = (.ok a, u) ∧ ((k a).run).run u = (.error e, t) := by
  rw [run_bind] at h
  rcases hx : (x.run).run s with ⟨_ | a, u⟩ <;> rw [hx] at h
  · cases h
    exact .inl rfl
  · exact .inr ⟨a, u, rfl, h⟩

/-- A bind whose first action fails fails with it, where that action left the site. -/
theorem run_bind_of_error {α β : Type} {x : Action α} {k : α → Action β} {s u : Site}
    {e : Error} (hx : (x.run).run s = (.error e, u)) : ((x >>= k).run).run s = (.error e, u) := by
  rw [run_bind, hx]

/-- A transaction that fails leaves the site as it was, whatever the schema. -/
theorem atomically_run_of_error {α : Type} {tx : Store.Tx α} {s : Site} {e : Error}
    (h : tx.run s.store = .error e) : ((atomically tx).run).run s = (.error e, s) := by
  simp only [atomically, run_bind, run_get, h]
  rfl

theorem attempt_run_of {α : Type} {x : Action α} {s u : Site} {r : Except Error α}
    (h : (x.run).run s = (r, u)) : ((attempt x).run).run s = (.ok r, u) := by
  rw [attempt_run, h]

/-- Committing the search index changes the site's index only. -/
theorem commitIndex_store (s : Site) : ((commitIndex.run).run s).2.store = s.store := by
  simp only [commitIndex, run_bind, run_get, run_set]
  split <;> rfl

end Catalog.Site

namespace Catalog.Harvest

open Catalog.Store Catalog.Site Catalog.Pipeline

variable {α β : Type}

/-- The OAI identifiers of the records a feed sends next. -/
def Feed.nextNames (f : Feed) : List String :=
  (f.responses.headD []).map (·.oaiId)

/-- A feed that answers sends the next list of records it was given. -/
theorem Feed.answer_records {f : Feed} {r : Request} {records : List Harvested}
    {reported : String} (h : (f.answer r).2 = .ok (records, reported)) :
    records = f.responses.headD [] := by
  unfold Feed.answer at h
  dsimp only at h
  split at h
  · cases h
  split at h
  · cases h
  split at h <;> rename_i hresp <;> simp only [Except.ok.injEq, Prod.mk.injEq] at h <;>
    rw [hresp, ← h.1] <;> rfl

/-- Asking the feed changes the feed only. -/
theorem ask_run (r : Request) (s : Site) :
    ((ask r).run).run s = ((s.feed.answer r).2, { s with feed := (s.feed.answer r).1 }) := by
  rcases hans : s.feed.answer r with ⟨f, _ | ⟨records, reported⟩⟩ <;>
    simp only [ask, run_bind, run_get, hans] <;> rfl

theorem Routing.evaluate_oaiId (ev : Routing) (r : Record) : (ev.evaluate r).1.oaiId = r.oaiId := by
  unfold Routing.evaluate
  generalize (ev.directives.filter (·.matches r)).map (fun d => (d.target, d.outputSet)) = targets
  induction targets generalizing r with
  | nil => rfl
  | cons t ts ih => exact ih _

section Leaves

variable {repo : String} {names : List String} {s₀ : Store}

variable (repo names s₀) in
/-- An action that keeps the store untouched from `s₀` by a harvest of `repo` sent `names`:
run from a site whose store is, it ends, failing or not, at a site whose store is. -/
def LeavesUntouched (a : Action α) : Prop :=
  ∀ s, Untouched repo names s₀ s.store → Untouched repo names s₀ ((a.run).run s).2.store

theorem LeavesUntouched.of_store {a : Action α} (h : ∀ s, ((a.run).run s).2.store = s.store) :
    LeavesUntouched repo names s₀ a :=
  fun s hs => by rw [h s]; exact hs

theorem LeavesUntouched.pure (x : α) : LeavesUntouched repo names s₀ (pure x : Action α) :=
  .of_store fun _ => rfl

theorem LeavesUntouched.bind {x : Action α} {f : α → Action β}
    (hx : LeavesUntouched repo names s₀ x) (hf : ∀ a, LeavesUntouched repo names s₀ (f a)) :
    LeavesUntouched repo names s₀ (x >>= f) := by
  intro s hs
  have h₁ := hx s hs
  rw [run_bind]
  rcases hrun : (x.run).run s with ⟨_ | a, t⟩ <;> rw [hrun] at h₁
  · exact h₁
  · exact hf a t h₁

theorem LeavesUntouched.foldlM {f : β → α → Action β}
    (hf : ∀ b a, LeavesUntouched repo names s₀ (f b a)) (xs : List α) (init : β) :
    LeavesUntouched repo names s₀ (xs.foldlM f init) := by
  induction xs generalizing init with
  | nil => exact .pure init
  | cons a as ih => exact (hf init a).bind fun b => ih b

theorem LeavesUntouched.attempt {a : Action α} (h : LeavesUntouched repo names s₀ a) :
    LeavesUntouched repo names s₀ (Site.attempt a) :=
  fun s hs => by rw [attempt_run]; exact h s hs

/-- A transaction that keeps every store untouched, run as an action on a store whose schema
sets off nothing. -/
theorem LeavesUntouched.atomically {tx : Tx α} (hq : s₀.needsReplay = false)
    (h : ∀ u a t, tx.run u = .ok (a, t) → Untouched repo names u t) :
    LeavesUntouched repo names s₀ (atomically tx) := by
  intro s hs
  rw [atomically_run tx s ((needsReplay_congr hs.tables).trans hq)]
  rcases hrun : tx.run s.store with e | ⟨a, t⟩
  · exact hs
  · exact hs.trans (h _ _ _ hrun)

/-- Storing the sent records in a batch of the repository keeps the store untouched: a record
the repository holds is rewritten under its own row, a new one is staged under its sent
identifier. -/
theorem stage_leavesUntouched (hq : s₀.needsReplay = false) (format : String)
    (hs : List Harvested) (hnames : ∀ h ∈ hs, h.oaiId ∈ names) (b : Batch) (hb : b.repo = repo)
    (ev : Routing) (sum : Summary) : LeavesUntouched repo names s₀ (stage format hs b ev sum) := by
  induction hs generalizing b ev sum with
  | nil => exact .pure _
  | cons h rest ih =>
    intro s hu
    rw [stage, run_bind, lookup_run]
    have hq' : s.store.needsReplay = false := (needsReplay_congr hu.tables).trans hq
    have hrest : ∀ h ∈ rest, h.oaiId ∈ names := fun h' hh => hnames h' (List.mem_cons_of_mem _ hh)
    rcases hget : b.getOai? s.store h.oaiId with e | _ | r₀
    · exact hu
    · -- a record the repository does not hold: ignored if deleted, else staged
      dsimp only
      split
      · exact ih hrest b hb ev _ s hu
      · rw [run_bind, atomically_run _ s hq']
        rcases hrun : (b.add (ev.evaluate (h.applyTo format (Record.new h.oaiId format))).1).run
          s.store with e | ⟨⟨i, b'⟩, t⟩
        · exact hu
        · obtain ⟨-, rfl⟩ := Batch.add_inserted hrun
          have hname : (ev.evaluate (h.applyTo format (Record.new h.oaiId format))).1.oaiId ∈
              names := by
            rw [Routing.evaluate_oaiId, Harvested.applyTo_oaiId]
            exact hnames h List.mem_cons_self
          exact ih hrest { b with staged := SortedList.insert i b.staged } hb _ _ { s with store := t }
            (hu.trans (Batch.add_untouched hrun hb hname))
    · -- a record the repository holds is rewritten under the row it was read from
      obtain ⟨row, hrow, hoai, hrepo, hview⟩ := Batch.getOai?_ok hget
      have hid : r₀.id = some row.id := (Engine.view_ok hview).1
      have hupdate : ∀ w : Record, w.id = r₀.id → ∀ ev' sum',
          Untouched repo names s₀ ((((atomically (updateRecord b.repo w)) >>= fun _ =>
            stage format rest b ev' sum').run).run s).2.store := by
        intro w hw ev' sum'
        have hreach : ∀ i, w.id = some i →
            ∃ row ∈ s.store.records, row.id = i ∧ row.repo = repo ∧ row.oaiId ∈ names := by
          intro i hi
          rw [hw, hid, Option.some.injEq] at hi
          exact ⟨row, hrow, hi, hrepo.trans hb, hoai ▸ hnames h List.mem_cons_self⟩
        rw [run_bind, atomically_run _ s hq']
        rcases hrun : (updateRecord b.repo w).run s.store with e | ⟨a, t⟩
        · exact hu
        · exact ih hrest b hb ev' sum' _ (hu.trans (updateRecord_untouched hrun hreach))
      dsimp only
      by_cases hdel : (h.applyTo format r₀).isDeleted = true
      · rw [if_pos hdel]
        exact hupdate (ev.reprocess (h.applyTo format r₀)).1 (h.applyTo_id format r₀) _ _
      · rw [if_neg hdel]
        exact hupdate (ev.evaluate (h.applyTo format r₀)).1
          ((Engine.evaluate_routed ev _).id.trans (h.applyTo_id format r₀)) _ _

/-- The batch a storing returns is the batch it was given, with more rows staged. -/
theorem stage_batch (format : String) (hs : List Harvested) (b : Batch) (ev : Routing)
    (sum : Summary) {s t : Site} {b' : Batch} {ev' : Routing} {sum' : Summary}
    (h : ((stage format hs b ev sum).run).run s = (.ok (b', ev', sum'), t)) :
    b'.repo = b.repo ∧ b'.id = b.id ∧ b'.marks = b.marks := by
  induction hs generalizing b ev sum s with
  | nil =>
    cases h
    exact ⟨rfl, rfl, rfl⟩
  | cons x rest ih =>
    rw [stage, run_bind, lookup_run] at h
    rcases hget : b.getOai? s.store x.oaiId with e | _ | r₀ <;> rw [hget] at h
    · cases h
    · dsimp only at h
      split at h
      · exact ih b ev _ h
      · rw [run_bind] at h
        split at h
        · rename_i a s₁ hadd
          rcases Service.atomically_cases hadd with ⟨-, e, he⟩ | ⟨a', u, ha, htx, -, -⟩
          · cases he
          · cases ha
            obtain ⟨-, hb'⟩ := Batch.add_inserted htx
            have hrest := ih _ _ _ h
            rw [hb'] at hrest
            exact hrest
        · cases h
    · dsimp only at h
      rw [run_bind] at h
      split at h
      · exact ih b _ _ h
      · cases h

/-- A bind that failed after an action that keeps the store untouched: the failure came from
that action, or from what follows it on a store it kept untouched. -/
theorem LeavesUntouched.error_bind {x : Action α} {k : α → Action β}
    (hx : LeavesUntouched repo names s₀ x) {s t : Site} {e : Error}
    (hs : Untouched repo names s₀ s.store) (h : ((x >>= k).run).run s = (.error e, t)) :
    Untouched repo names s₀ t.store ∨
      ∃ a u, Untouched repo names s₀ u.store ∧ ((k a).run).run u = (.error e, t) := by
  have hran := hx s hs
  rcases run_bind_eq_error h with hx' | ⟨a, u, hx', hk⟩ <;> rw [hx'] at hran
  · exact .inl hran
  · exact .inr ⟨a, u, hran, hk⟩

theorem enqueue_leavesUntouched (hq : s₀.needsReplay = false) (service : Int)
    (outputSet : Option String) (kind : JobKind) :
    LeavesUntouched repo names s₀ (enqueue service outputSet kind) := by
  unfold enqueue
  refine (LeavesUntouched.atomically hq fun _ _ _ h => insertJob_untouched h).bind fun job? => ?_
  exact .of_store fun s => by cases job? <;> rfl

theorem enqueueScheduled_leavesUntouched (hq : s₀.needsReplay = false) (ev : Routing) :
    LeavesUntouched repo names s₀ (enqueueScheduled ev) := by
  unfold enqueueScheduled
  refine (LeavesUntouched.foldlM (fun n p => ?_) _ _).bind fun _ => .pure _
  exact (enqueue_leavesUntouched hq _ _ _).bind fun _ => .pure _

theorem processComplete_leavesUntouched (hq : s₀.needsReplay = false) (repo' : String) :
    LeavesUntouched repo names s₀ (processComplete repo') :=
  (LeavesUntouched.of_store commitIndex_store).bind fun _ =>
    .atomically hq fun _ _ _ h => touch_untouched h

end Leaves

/-- A provider's repository where record `a` was deleted and record `z` is held, hidden, by a
batch still open. The provider sends both back active. -/
def heldRecordSite : Site :=
  { store :=
      { records :=
          [{ id := 1, repo := "provider:p", oaiId := "a", format := "marc21", recordType := none,
              status := .deleted, payload := .null, visible := true, batch := none, updatedAt := 0 },
            { id := 2, repo := "provider:p", oaiId := "z", format := "marc21", recordType := none,
              status := .active, payload := .null, visible := false, batch := some 1,
              updatedAt := 0 }]
        openBatches := [(1, "provider:p")], lastBatch := 1
        lastId := fun q => if q = .records then 2 else 0
        tables := { main := [.table { (default : Sql.Table) with name := "records" }] } }
    feed := { responses := [[⟨"a", [], false, .null⟩, ⟨"z", [], false, .null⟩]] } }

/-- The provider whose repository `heldRecordSite` holds. -/
def heldProvider : ProviderRow :=
  { id := 1, name := "p", baseUrl := "http://p", repoName := "provider:p" }

/-- The one step harvesting `heldProvider`. -/
def heldStep : StepRow :=
  { id := 1, scheduleId := 1, order := 1, format := "marc21", setSpec := none, lastRan := none }

theorem heldRecordSite_quiet : heldRecordSite.store.needsReplay = false :=
  needsReplay_of_bare (by simp [heldRecordSite, Sql.Database.objects]; rfl)

theorem heldRecordSite_issued : Issued heldRecordSite.store :=
  ⟨by simp [heldRecordSite], by simp [heldRecordSite]⟩

/-- The harvest of `heldRecordSite` rewrites `a` at once, then fails to stage `z` over the held
row: the step fails, and `a` is active. -/
theorem heldRecordSite_run :
    ∃ e t, ((runStep heldProvider heldStep).run).run heldRecordSite = (.error e, t) ∧
      ∃ row ∈ t.store.records, row.id = 1 ∧ row.status = .active := by
  have hq' : ∀ {st : Site}, st.store.tables = heldRecordSite.store.tables →
      st.store.needsReplay = false :=
    fun h => (needsReplay_congr h).trans heldRecordSite_quiet
  have hdir : heldRecordSite.store.directivesFor (.provider heldProvider.id) = [] := rfl
  have hstart : (Batch.start "provider:p").run heldRecordSite.store =
      .ok (({ repo := "provider:p", id := 2 }, 0),
        { heldRecordSite.store with
          lastBatch := 2, openBatches := [(1, "provider:p"), (2, "provider:p")] }) := by
    rw [Batch.start_run, deleteRecords_run_of_none (by decide)]
    rfl
  apply Exists.intro
  apply Exists.intro
  refine ⟨?run, ?active⟩
  case run =>
    unfold runStep
    refine run_bind_of (run_get _) ?_
    refine run_bind_of ((ask_run _ _).trans rfl) ?_
    refine run_bind_of (query_run _ _) ?_
    refine run_bind_of (atomically_run_of (hq' rfl) hstart) ?_
    apply run_bind_of (attempt_run_of ?stage)
    case stage =>
      -- `a` is found and rewritten at once
      rw [stage]
      refine run_bind_of ((lookup_run _ _).trans (by rfl)) ?_
      simp only [hdir, Harvested.applyTo_isDeleted, Bool.false_eq_true, ↓reduceIte,
        Routing.evaluate, List.filter_nil, List.map_nil, List.foldl_nil]
      refine run_bind_of (atomically_run_of (hq' rfl) (by rfl)) ?_
      -- `z` is not found, as its row is hidden, and staging it meets that row
      rw [stage]
      refine run_bind_of ((lookup_run _ _).trans (by rfl)) ?_
      simp only [Bool.false_eq_true, ↓reduceIte, Routing.evaluate, List.filter_nil,
        List.map_nil, List.foldl_nil]
      apply run_bind_of_error
      apply atomically_run_of_error
      rfl
    -- the batch is aborted, which deletes none of the rows `a` has
    refine run_bind_of (attempt_run_of (atomically_run_of (hq' rfl) (by rfl))) ?_
    rfl
  case active => decide +kernel

end Catalog.Harvest
