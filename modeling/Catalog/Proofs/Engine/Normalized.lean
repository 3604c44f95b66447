import Catalog.Proofs.Store.Readback

/-!
# One output for each input of a normalization

A normalization service writes, for each input it processes, one output into its repository: the
output it wrote for the input before, rewritten, or a new one, staged in the pass's open batch.
The input is marked processed when the batch ends, together with the staged rows becoming
visible.

This module states what a normalization pass keeps of the store (`Normalized`), whatever it
processed and wherever it stopped: every input has at most one output that the open batch sees,
every such output has one input, and every input that is marked processed, or whose mark the
batch holds, is *covered*: each of its outputs follows it, with its status and, when it is active,
with its payload cleaned and read back as stored, its format and its record type; and an active
input has an output, visible once its mark is applied. It holds of the store as long as no output
of the service is input for it.

Each way a pass changes the store keeps it: rewriting the output of an input, staging a new one,
holding back a mark, ending the batch, dropping it, opening the next one, and every transaction
that leaves the records alone. Along the way the rows of other repositories stay as they were
and every visible output stays (`Moves`).

## Main results

* `Normalized`, `Covered`, `Follows`: the invariant
* `Normalized.rewrite`, `Normalized.stage`, `Normalized.hold`, `Normalized.commit`,
  `Normalized.drop`, `Normalized.start`, `Normalized.of_recordBook`: each change keeps it
* `Normalized.successors`: the outputs of an input a batch reads back
-/

namespace Catalog.Store

open Catalog.Service Std.Do

variable {α : Type}

-- ---------------------------------------------------------------------------
-- Outputs an open batch sees
-- ---------------------------------------------------------------------------

/-- A row that batch `b` sees: a visible row, or one it staged. -/
def Sees (b : Option Batch) (row : RecordRow) : Prop :=
  row.visible = true ∨ ∃ bb ∈ b, row.batch = some bb.id

/-- Row `o` is an output of record `x` in repository `repo` that batch `b` sees: a row of the
repository that the batch sees, with a lineage edge from `x`. -/
def Successor (repo : String) (s : Store) (b : Option Batch) (x : Int) (o : RecordRow) : Prop :=
  o ∈ s.records ∧ o.repo = repo ∧ Sees b o ∧ (x, o.id) ∈ s.lineage

/-- Output row `o` follows input row `X` as normalization writes it: with the input's status
and, when the input is active, with the input's payload cleaned and read back as stored, its
format and its record type. -/
def Follows (X o : RecordRow) : Prop :=
  o.status = X.status ∧ (X.status = .active → ∃ p q n, X.document = .ok p ∧
    normalizePayload p = some (q, n) ∧ o.document = .ok q.reread ∧ o.format = X.format ∧
    o.recordType = X.recordType)

/-- What marking input row `X` processed promises, with batch `b` open: every output of `X`
that the batch sees follows it, and an active `X` has an output that batch `b'` sees. -/
def Covered (repo : String) (s : Store) (b b' : Option Batch) (X : RecordRow) : Prop :=
  (∀ o, Successor repo s b X.id o → Follows X o) ∧
    (X.status = .active → ∃ o, Successor repo s b' X.id o)

/-- The outputs of a normalization service `svc` in its repository `repo`, on store `s` with
batch `b` open. The store's bookkeeping is in order, its schema sets off nothing, and the batch
stages into `repo` and holds marks of records of other repositories. No row of `repo` is input
for the service or processed by it. Every record has at most one output the batch sees, and
each such output comes from one record. Every record marked processed by the service is
covered, with a visible output; every record whose mark the batch holds is covered. -/
structure Normalized (svc : Int) (repo : String) (s : Store) (b : Option Batch) : Prop where
  numbered : s.Numbered
  quiet : s.needsReplay = false
  ready : ∀ bb ∈ b, Ready bb s ∧ bb.repo = repo ∧
    ∀ row ∈ s.records, row.batch = some bb.id → row.repo = repo
  marks : ∀ bb ∈ b, ∀ m ∈ bb.marks, ∃ X ∈ s.records, X.id = m.1 ∧ X.repo ≠ repo
  outputs : ∀ row ∈ s.records, row.repo = repo →
    (row.id, svc) ∉ s.inputFor ∧ (row.id, svc) ∉ s.processedBy
  single : ∀ x o o', Successor repo s b x o → Successor repo s b x o' → o = o'
  sole : ∀ x y o, Successor repo s b x o → (y, o.id) ∈ s.lineage → y = x
  marked : ∀ X ∈ s.records, (X.id, svc) ∈ s.processedBy → Covered repo s b none X
  held : ∀ X ∈ s.records, (X.id, svc) ∈ marksOf b → Covered repo s b b X

/-- How a pass into `repo` moves the store on: the rows of every other repository stay as they
were, and every record of another repository keeps the visible outputs it had. -/
structure Moves (repo : String) (s t : Store) : Prop where
  others : t.records.filter (·.repo != repo) = s.records.filter (·.repo != repo)
  outputs : ∀ X ∈ s.records, X.repo ≠ repo → ∀ o, Successor repo s none X.id o →
    ∃ o', Successor repo t none X.id o' ∧ o'.id = o.id

section Invariant

variable {svc : Int} {repo : String} {s t u : Store} {b : Option Batch}

theorem Moves.refl (s : Store) : Moves repo s s :=
  ⟨rfl, fun _ _ _ o ho => ⟨o, ho, rfl⟩⟩

theorem Moves.mem_others (h : Moves repo s t) {X : RecordRow} (hX : X ∈ s.records)
    (hrepo : X.repo ≠ repo) : X ∈ t.records := by
  have hmem : X ∈ s.records.filter (·.repo != repo) := List.mem_filter.2 ⟨hX, by simpa using hrepo⟩
  rw [← h.others] at hmem
  exact (List.mem_filter.1 hmem).1

theorem Moves.trans (h₁ : Moves repo s u) (h₂ : Moves repo u t) : Moves repo s t := by
  refine ⟨h₂.others.trans h₁.others, fun X hX hrepo o ho => ?_⟩
  obtain ⟨o₁, ho₁, hid₁⟩ := h₁.outputs X hX hrepo o ho
  obtain ⟨o₂, ho₂, hid₂⟩ := h₂.outputs X (h₁.mem_others hX hrepo) hrepo o₁ ho₁
  exact ⟨o₂, ho₂, hid₂.trans hid₁⟩

/-- An output seen with no batch open is seen by every batch. -/
theorem Successor.of_none {x : Int} {o : RecordRow} (h : Successor repo s none x o) :
    Successor repo s b x o := by
  obtain ⟨hmem, hrepo, hsees | ⟨bb, hbb, -⟩, hedge⟩ := h
  · exact ⟨hmem, hrepo, .inl hsees, hedge⟩
  · cases hbb

theorem Covered.of_none {X : RecordRow} {b' : Option Batch} (h : Covered repo s b b' X) :
    Covered repo s none b' X :=
  ⟨fun o ho => h.1 o ho.of_none, h.2⟩

/-- Dropping the open batch keeps the invariant: the batch sees no less than the store shows,
and its marks go with it. -/
theorem Normalized.drop (h : Normalized svc repo s b) : Normalized svc repo s none where
  numbered := h.numbered
  quiet := h.quiet
  ready _ hbb := nomatch hbb
  marks _ hbb := nomatch hbb
  outputs := h.outputs
  single x o o' ho ho' := h.single x o o' ho.of_none ho'.of_none
  sole x y o ho := h.sole x y o ho.of_none
  marked X hX hpb := (h.marked X hX hpb).of_none
  held _ _ hm := nomatch hm

-- ---------------------------------------------------------------------------
-- Transactions that leave the records alone
-- ---------------------------------------------------------------------------

/-- What of a store the invariant reads: the record rows with their relations, the last record
id, whether writing replays, the set names, the last batch id and the open batches. -/
def recordBook (s : Store) : Rows × List (Int × String) × Nat × List (Nat × String) :=
  (s.rows, s.recordSets, s.ledger)

/-- Two stores with one record book have one invariant, and the pass moves nothing between
them. -/
theorem Normalized.of_recordBook (h : Normalized svc repo s b) (hb : t.recordBook = s.recordBook) :
    Normalized svc repo t b ∧ Moves repo s t := by
  have hrows : t.rows = s.rows := congrArg Prod.fst hb
  have hsets : t.recordSets = s.recordSets := congrArg (Prod.fst ∘ Prod.snd) hb
  have hbatch : t.lastBatch = s.lastBatch := congrArg (Prod.fst ∘ Prod.snd ∘ Prod.snd) hb
  have hopen : t.openBatches = s.openBatches := congrArg (Prod.snd ∘ Prod.snd ∘ Prod.snd) hb
  have hrec : t.records = s.records := congrArg Rows.records hrows
  have hlin : t.lineage = s.lineage := congrArg Rows.lineage hrows
  have hpb : t.processedBy = s.processedBy := congrArg Rows.processedBy hrows
  have hin : t.inputFor = s.inputFor := congrArg Rows.inputFor hrows
  have hlast : t.lastId .records = s.lastId .records := congrArg Rows.lastRecord hrows
  have hq : t.needsReplay = s.needsReplay := congrArg Rows.replay hrows
  have hsucc : Successor repo t = Successor repo s := by
    funext b x o
    simp only [Successor, hrec, hlin]
  have hcov : Covered repo t = Covered repo s := by
    funext b b' X
    simp only [Covered, hsucc]
  have hnum : t.Numbered := by
    obtain ⟨hord, ⟨hids, hbs⟩, hs, hp, hi, hl⟩ := h.numbered
    refine ⟨?_, ⟨?_, ?_⟩, ?_, ?_, ?_, ?_⟩ <;>
      simp only [KeyOrdered, hrec, hlast, hbatch, hsets, hpb, hin, hlin] <;> assumption
  have hready : ∀ bb, Ready bb s → Ready bb t := fun bb hr =>
    ⟨hnum, fun row hrow => by simpa only [purges, hopen, hrec] using hr.held row (hrec ▸ hrow),
      hopen ▸ hr.opened, hbatch ▸ hr.issued, hrec ▸ hr.staged⟩
  refine ⟨⟨hnum, hq.trans h.quiet, fun bb hbb => ?_, ?_, ?_, ?_, ?_, ?_, ?_⟩, ?_⟩
  · obtain ⟨hr, hrepo, hstaged⟩ := h.ready bb hbb
    exact ⟨hready bb hr, hrepo, hrec ▸ hstaged⟩
  · simpa only [hrec] using h.marks
  · simpa only [hrec, hin, hpb] using h.outputs
  · simpa only [hsucc] using h.single
  · simpa only [hsucc, hlin] using h.sole
  · simpa only [hrec, hpb, hcov] using h.marked
  · simpa only [hrec, hcov] using h.held
  · exact ⟨by rw [hrec], fun X _ _ o ho => ⟨o, hsucc ▸ ho, rfl⟩⟩

-- ---------------------------------------------------------------------------
-- Holding back a mark and ending the batch
-- ---------------------------------------------------------------------------

@[simp] theorem sees_none (row : RecordRow) : Sees none row ↔ row.visible = true := by
  simp [Sees]

/-- A batch with one more mark sees what it saw. -/
theorem successor_mark (bb : Batch) (y v : Int) :
    Successor repo s (some (bb.mark y v)) = Successor repo s (some bb) := by
  funext x o
  simp [Successor, Sees, Batch.mark]

theorem Ready.mark {bb : Batch} (hr : Ready bb s) (y v : Int) : Ready (bb.mark y v) s :=
  ⟨hr.numbered, hr.held, hr.opened, hr.issued, hr.staged⟩

/-- **Holding back a mark** of a record of another repository that is covered keeps the
invariant. -/
theorem Normalized.hold {bb : Batch} (h : Normalized svc repo s (some bb)) {X : RecordRow}
    (hX : X ∈ s.records) (hrepo : X.repo ≠ repo) (hcov : Covered repo s (some bb) (some bb) X) :
    Normalized svc repo s (some (bb.mark X.id svc)) := by
  have hsucc : Successor repo s (some (bb.mark X.id svc)) = Successor repo s (some bb) :=
    successor_mark bb X.id svc
  obtain ⟨hr, hbrepo, hstaged⟩ := h.ready bb rfl
  refine ⟨h.numbered, h.quiet, fun bb' hbb' => ?_, fun bb' hbb' m hm => ?_, h.outputs,
    hsucc ▸ h.single, hsucc ▸ h.sole, fun Y hY hpb => ?_, fun Y hY hm => ?_⟩
  · cases hbb'
    exact ⟨hr.mark X.id svc, hbrepo, hstaged⟩
  · cases hbb'
    rcases List.mem_append.1 hm with hm | hm
    · exact h.marks bb rfl m hm
    · rw [List.mem_singleton.1 hm]
      exact ⟨X, hX, rfl, hrepo⟩
  · simp only [Covered, hsucc]
    exact h.marked Y hY hpb
  · simp only [Covered, hsucc]
    rcases List.mem_append.1 hm with hm | hm
    · exact h.held Y hY hm
    · -- the record marked now is `X`: ids are keys
      obtain rfl := h.numbered.eq_of_id hY hX (Prod.mk.inj (List.mem_singleton.1 hm)).1
      exact hcov

/-- Ending a batch keeps what a row holds: its id, repository, status, payload, format and
record type. -/
theorem Batch.publish_content (bb : Batch) (row : RecordRow) :
    (bb.publish row).id = row.id ∧ (bb.publish row).repo = row.repo ∧
      (bb.publish row).status = row.status ∧ (bb.publish row).document = row.document ∧
      (bb.publish row).format = row.format ∧ (bb.publish row).recordType = row.recordType := by
  unfold Batch.publish
  split <;> exact ⟨rfl, rfl, rfl, rfl, rfl, rfl⟩

theorem follows_publish (bb bb' : Batch) {X o : RecordRow} :
    Follows (bb.publish X) (bb'.publish o) ↔ Follows X o := by
  obtain ⟨-, -, hsX, hdX, hfX, htX⟩ := bb.publish_content X
  obtain ⟨-, -, hso, hdo, hfo, hto⟩ := bb'.publish_content o
  simp only [Follows, hsX, hdX, hfX, htX, hso, hdo, hfo, hto]

/-- A row published by a batch is visible exactly when the batch saw it. -/
theorem Batch.publish_visible (bb : Batch) (row : RecordRow) :
    (bb.publish row).visible = true ↔ Sees (some bb) row := by
  unfold Batch.publish Sees
  by_cases hb : row.batch = some bb.id
  · simp [hb]
  · simp [hb]

/-- What ending a batch leaves: its rows published, its marks applied, the batch forgotten, and
the rest of the record book as it was. -/
theorem Batch.commit_eq_marked {bb : Batch} {x : Nat × Nat} (h : bb.commit.run s = .ok (x, t)) :
    t = { s with records := s.records.map bb.publish, processedBy := t.processedBy,
                 inputFor := t.inputFor, openBatches := t.openBatches } := by
  obtain ⟨u, hmarks, -, rfl⟩ := Batch.commit_run h
  rw [(forM_applyMark_applied hmarks).same]

/-- **Ending the batch** keeps the invariant, with no batch open: the rows it staged are shown,
and the records whose marks it held are marked. -/
theorem Normalized.commit {bb : Batch} {x : Nat × Nat} (h : Normalized svc repo s (some bb))
    (hc : bb.commit.run s = .ok (x, t)) : Normalized svc repo t none ∧ Moves repo s t := by
  have hcom := Batch.commit_committed hc
  have ht := Batch.commit_eq_marked hc
  obtain ⟨hr, -, hstaged⟩ := h.ready bb rfl
  have hn := h.numbered
  have hrec : t.records = s.records.map bb.publish := hcom.records
  have hlin : t.lineage = s.lineage := hcom.lineage
  -- every row of `t` is a row of `s`, published
  have hrow : ∀ o ∈ t.records, ∃ o₀ ∈ s.records, o = bb.publish o₀ := fun o ho => by
    rw [hrec] at ho
    obtain ⟨o₀, ho₀, rfl⟩ := List.mem_map.1 ho
    exact ⟨o₀, ho₀, rfl⟩
  have hsucc : ∀ y o₀, o₀ ∈ s.records →
      (Successor repo t none y (bb.publish o₀) ↔ Successor repo s (some bb) y o₀) := by
    intro y o₀ ho₀
    obtain ⟨hid, hrepo, -⟩ := bb.publish_content o₀
    have hmem : bb.publish o₀ ∈ t.records := hrec ▸ List.mem_map_of_mem ho₀
    simp only [Successor, sees_none, bb.publish_visible, hid, hrepo, hlin, ho₀, hmem, true_and]
  -- a covered record stays covered, its outputs now visible
  have hcov : ∀ X₀ ∈ s.records, ∀ b', Covered repo s (some bb) b' X₀ →
      (∀ o, Successor repo s b' X₀.id o → Successor repo s (some bb) X₀.id o) →
      Covered repo t none none (bb.publish X₀) := by
    intro X₀ hX₀ b' hc hb'
    refine ⟨fun o ho => ?_, fun hact => ?_⟩
    · rw [(bb.publish_content X₀).1] at ho
      obtain ⟨o₀, ho₀, rfl⟩ := hrow o ho.1
      exact (follows_publish bb bb).2 (hc.1 o₀ ((hsucc _ o₀ ho₀).1 ho))
    · rw [(bb.publish_content X₀).2.2.1] at hact
      obtain ⟨o₀, ho₀⟩ := hc.2 hact
      rw [(bb.publish_content X₀).1]
      exact ⟨bb.publish o₀, (hsucc _ o₀ (hb' o₀ ho₀).1).2 (hb' o₀ ho₀)⟩
  have hnum : t.Numbered := by
    obtain ⟨hord, ⟨hids, hbs⟩, hsets, hpb, hin, hl⟩ := hn
    refine ⟨?_, ⟨?_, ?_⟩, ?_, ?_, ?_, ?_⟩
    · unfold KeyOrdered
      rw [hrec, List.pairwise_map]
      exact hord.imp fun {a c} hac => by
        rw [(bb.publish_content a).1, (bb.publish_content c).1]
        exact hac
    · intro o ho
      obtain ⟨o₀, ho₀, rfl⟩ := hrow o ho
      rw [(bb.publish_content o₀).1, hcom.lastRecord]
      exact hids o₀ ho₀
    · intro o ho k hk
      obtain ⟨o₀, ho₀, rfl⟩ := hrow o ho
      rw [ht]
      unfold Batch.publish at hk
      split at hk
      · cases hk
      · exact hbs o₀ ho₀ k hk
    · rw [ht]
      exact hsets
    · intro e he
      rw [hcom.lastRecord]
      rcases (hcom.processedBy e).1 he with he | he
      · exact hpb e he
      · obtain ⟨X, hX, hid, -⟩ := h.marks bb rfl e he
        exact hid ▸ hids X hX
    · intro e he
      rw [hcom.lastRecord]
      exact hin e ((hcom.inputFor e).1 he).1
    · intro e he
      rw [hcom.lastRecord]
      exact hl e (hlin ▸ he)
  refine ⟨⟨hnum, (needsReplay_congr hcom.tables).trans h.quiet, fun _ hbb => (nomatch hbb),
    fun _ hbb => (nomatch hbb), fun o ho hrepo => ?_, fun y o o' ho ho' => ?_,
    fun y y' o ho hy => ?_, fun X hX hpb => ?_, fun _ _ hm => (nomatch hm)⟩,
    ⟨?_, fun X hX hXrepo o ho => ?_⟩⟩
  · obtain ⟨o₀, ho₀, rfl⟩ := hrow o ho
    obtain ⟨hid, hrepo₀, -⟩ := bb.publish_content o₀
    rw [hid]
    rw [hrepo₀] at hrepo
    obtain ⟨hin, hpb⟩ := h.outputs o₀ ho₀ hrepo
    refine ⟨fun hin' => hin ((hcom.inputFor _).1 hin').1, fun hpb' => ?_⟩
    rcases (hcom.processedBy _).1 hpb' with hpb' | hm
    · exact hpb hpb'
    · -- a held mark is of a record of another repository
      obtain ⟨X, hX, hid', hXrepo⟩ := h.marks bb rfl _ hm
      exact hXrepo (hn.eq_of_id hX ho₀ hid' ▸ hrepo)
  · obtain ⟨o₀, ho₀, rfl⟩ := hrow o ho.1
    obtain ⟨o₀', ho₀', rfl⟩ := hrow o' ho'.1
    rw [h.single y o₀ o₀' ((hsucc y o₀ ho₀).1 ho) ((hsucc y o₀' ho₀').1 ho')]
  · obtain ⟨o₀, ho₀, rfl⟩ := hrow o ho.1
    rw [(bb.publish_content o₀).1, hlin] at hy
    exact h.sole y y' o₀ ((hsucc y o₀ ho₀).1 ho) hy
  · obtain ⟨X₀, hX₀, rfl⟩ := hrow X hX
    rw [(bb.publish_content X₀).1] at hpb
    rcases (hcom.processedBy _).1 hpb with hpb | hm
    · exact hcov X₀ hX₀ none (h.marked X₀ hX₀ hpb) fun o ho => ho.of_none
    · exact hcov X₀ hX₀ (some bb) (h.held X₀ hX₀ hm) fun o ho => ho
  · -- the rows a batch publishes are of its repository
    rw [hrec, List.filter_map]
    refine congrArg (List.map bb.publish) ?_ |>.trans (List.map_congr_left fun row hrow => ?_)
      |>.trans (List.map_id _)
    · refine List.filter_congr fun row _ => ?_
      simp only [Function.comp_apply, (bb.publish_content row).2.1]
    · obtain ⟨hrow, hne⟩ := List.mem_filter.1 hrow
      unfold Batch.publish
      split
      · rename_i hb
        have := hstaged row hrow (by simpa using hb)
        simp [this] at hne
      · rfl
  · exact ⟨bb.publish o, (hsucc _ o ho.1).2 ho.of_none, (bb.publish_content o).1⟩

-- ---------------------------------------------------------------------------
-- Opening the next batch
-- ---------------------------------------------------------------------------

/-- Deleting rows keeps every edge between rows that stay. -/
theorem deleteRecords_keeps_edge {p : RecordRow → Bool} {n : Nat}
    (h : (deleteRecords p).run s = .ok (n, t)) {e : Int × Int} (he : e ∈ s.lineage)
    (hkeep : ∀ row ∈ s.records, p row = true → row.id ≠ e.1 ∧ row.id ≠ e.2) : e ∈ t.lineage := by
  obtain ⟨_, u, hget, h⟩ := Tx.bind_eq_ok.1 h
  cases hget
  obtain ⟨_, u, hset, hpure⟩ := Tx.bind_eq_ok.1 h
  cases hset
  cases hpure
  -- neither end is the id of a deleted row
  have hgone : ∀ i, (i = e.1 ∨ i = e.2) → i ∉ (s.records.filter p).map (·.id) := by
    intro i hi hm
    obtain ⟨row, hrow, rfl⟩ := List.mem_map.1 hm
    obtain ⟨hrow, hp⟩ := List.mem_filter.1 hrow
    rcases hi with hi | hi
    · exact (hkeep row hrow hp).1 hi
    · exact (hkeep row hrow hp).2 hi
  refine List.mem_filter.2 ⟨he, ?_⟩
  simp [hgone e.1 (.inl rfl), hgone e.2 (.inr rfl)]

/-- Opening a batch keeps every edge between rows it does not purge. -/
theorem Batch.start_keeps_edge {bn : Batch × Nat} (h : (Batch.start repo).run s = .ok (bn, t))
    {e : Int × Int} (he : e ∈ s.lineage)
    (hkeep : ∀ row ∈ s.records, purges s repo row = true → row.id ≠ e.1 ∧ row.id ≠ e.2) :
    e ∈ t.lineage := by
  rw [Batch.start_run] at h
  rcases hdel : (deleteRecords (purges s repo)).run s with err | ⟨n, u⟩ <;> rw [hdel] at h
  · exact nomatch h
  simp only [Except.map, Except.ok.injEq] at h
  rw [← (Prod.mk.inj h).2]
  exact deleteRecords_keeps_edge hdel he hkeep

theorem purges_repo {repo' : String} {row : RecordRow} (h : purges s repo' row = true) :
    row.repo = repo' ∧ row.visible = false := by
  simp only [purges, Bool.and_eq_true, beq_iff_eq, Bool.not_eq_eq_eq_not, Bool.not_true] at h
  exact ⟨h.1.1, h.1.2⟩

/-- **Opening the next batch** on a store with no batch open keeps the invariant: the rows it
purges are hidden rows of the repository, which no batch sees. -/
theorem Normalized.start {bn : Batch × Nat} (h : Normalized svc repo s none)
    (hs : (Batch.start repo).run s = .ok (bn, t)) :
    Normalized svc repo t (some bn.1) ∧ Moves repo s t := by
  obtain ⟨b, n⟩ := bn
  have hr : Ready b t := Batch.start_ready h.numbered hs
  have hop := Batch.start_opened hs
  have hst := Batch.start_started hs
  have hn := h.numbered
  have hempty : b.staged = [] := by rw [hop.batch]
  -- the new batch stages nothing yet
  have hfresh : ∀ row ∈ t.records, row.batch ≠ some b.id := fun row hrow hb => by
    have := (hr.staged row hrow).2 hb
    rw [hempty] at this
    exact absurd this List.not_mem_nil
  have hsucc : ∀ x o, Successor repo t (some b) x o → Successor repo s none x o := by
    rintro x o ⟨ho, hrepo, hsees | ⟨bb, hbb, hb⟩, hedge⟩
    · exact ⟨hst.records o ho, hrepo, (sees_none o).2 hsees, hst.lineage _ hedge⟩
    · cases hbb
      exact absurd hb (hfresh o ho)
  -- a visible row, and a row of another repository, are not purged
  have hkept : ∀ row ∈ s.records, (row.repo ≠ repo ∨ row.visible = true) →
      ∀ row' ∈ s.records, purges s repo row' = true → row'.id ≠ row.id := by
    intro row hrow hkeep row' hrow' hp hid
    obtain ⟨hrepo', hvis'⟩ := purges_repo hp
    obtain rfl := hn.eq_of_id hrow' hrow hid
    rcases hkeep with hkeep | hkeep
    · exact hkeep hrepo'
    · rw [hvis'] at hkeep
      exact Bool.false_ne_true hkeep
  have hstays : ∀ X ∈ s.records, X.repo ≠ repo → ∀ o, Successor repo s none X.id o →
      Successor repo t none X.id o := by
    intro X hX hXrepo o ⟨ho, hrepo, hvis, hedge⟩
    have hvis' : o.visible = true := (sees_none o).1 hvis
    refine ⟨hst.kept o ho (.inr hvis'), hrepo, hvis, Batch.start_keeps_edge hs hedge ?_⟩
    exact fun row hrow hp => ⟨hkept X hX (.inl hXrepo) row hrow hp, hkept o ho (.inr hvis') row hrow hp⟩
  refine ⟨⟨hr.numbered, (needsReplay_congr hst.tables).trans h.quiet, fun bb hbb => ?_,
    fun bb hbb m hm => ?_, fun row hrow hrepo => ?_, fun x o o' ho ho' => ?_,
    fun x y o ho hy => ?_, fun X hX hpb => ?_, fun X _ hm => ?_⟩, ?_, ?_⟩
  · cases hbb
    exact ⟨hr, hst.onRepo, fun row hrow hb => absurd hb (hfresh row hrow)⟩
  · cases hbb
    rw [hst.marks] at hm
    exact absurd hm List.not_mem_nil
  · obtain ⟨hin, hpb⟩ := h.outputs row (hst.records row hrow) hrepo
    exact ⟨fun h' => hin (hst.inputFor _ h'), fun h' => hpb (hst.processedBy _ h')⟩
  · exact h.single x o o' (hsucc x o ho) (hsucc x o' ho')
  · exact h.sole x y o (hsucc x o ho) (hst.lineage _ hy)
  · have hX₀ := hst.records X hX
    have hcov := h.marked X hX₀ (hst.processedBy _ hpb)
    -- a record processed by the service is of another repository
    have hXrepo : X.repo ≠ repo := fun hrepo => (h.outputs X hX₀ hrepo).2 (hst.processedBy _ hpb)
    exact ⟨fun o ho => hcov.1 o (hsucc _ o ho), fun hact => by
      obtain ⟨o, ho⟩ := hcov.2 hact
      exact ⟨o, hstays X hX₀ hXrepo o ho⟩⟩
  · rw [marksOf_some, hst.marks] at hm
    exact absurd hm List.not_mem_nil
  · rw [hop.records, List.filter_filter]
    refine List.filter_congr fun row _ => ?_
    by_cases hrepo : row.repo = repo
    · simp [hrepo]
    · simp [purges, hrepo]
  · exact fun X hX hXrepo o ho => ⟨o, hstays X hX hXrepo o ho, rfl⟩

-- ---------------------------------------------------------------------------
-- Rewriting an output
-- ---------------------------------------------------------------------------

theorem mem_replacePairs_iff {β : Type} [BEq β] [LawfulBEq β] {xs : List (Int × β)} {i : Int}
    {ys : List β} {e : Int × β} :
    e ∈ replacePairs xs i ys ↔ (e ∈ xs ∧ e.1 ≠ i) ∨ (e.1 = i ∧ e.2 ∈ ys) := by
  rw [replacePairs, mem_foldl_addPair, List.mem_filter]
  simp

/-- Rows rewritten in place keep the outputs the batch sees, as long as the rewrite keeps each
row's id, repository, visibility and batch. -/
theorem successor_map {f : RecordRow → RecordRow}
    (hf : ∀ row, (f row).id = row.id ∧ (f row).repo = row.repo ∧ (f row).visible = row.visible ∧
      (f row).batch = row.batch)
    (hrec : t.records = s.records.map f) (hlin : t.lineage = s.lineage) {o₀ : RecordRow}
    (ho₀ : o₀ ∈ s.records) (b' : Option Batch) (y : Int) :
    Successor repo t b' y (f o₀) ↔ Successor repo s b' y o₀ := by
  obtain ⟨hid, hrepo, hvis, hbatch⟩ := hf o₀
  have hmem : f o₀ ∈ t.records := hrec ▸ List.mem_map_of_mem ho₀
  simp only [Successor, Sees, hid, hrepo, hvis, hbatch, hlin, ho₀, hmem, true_and]

/-- **Rewriting the output** `O` of record `x` as `w`, a record of its id whose edges are there
already, with no successors and clear of the service, keeps the invariant when the rewritten row
follows the record `x`. -/
theorem Normalized.rewrite {bb : Batch} (h : Normalized svc repo s (some bb)) {x : Int}
    {O : RecordRow} (hO : Successor repo s (some bb) x O) {w : Record} (hid : w.id = some O.id)
    (hpred : ∀ p ∈ w.predecessors, (p, O.id) ∈ s.lineage) (hsucc : w.successors = [])
    (hclear : svc ∉ w.inputFor ∧ svc ∉ w.processedBy)
    (hfollow : ∀ X ∈ s.records, X.id = x → Follows X (O.overwrite w s.clock))
    (hw : (updateRecord repo w).run s = .ok ((), t)) :
    Normalized svc repo t (some bb) ∧ Moves repo s t := by
  have ht := updateRecord_eq hid hpred hsucc hw
  have hn := h.numbered
  let f := fun row : RecordRow => if row.id == O.id then row.overwrite w s.clock else row
  have hrec : t.records = s.records.map f := by rw [ht]; rfl
  have hlin : t.lineage = s.lineage := by rw [ht]; rfl
  have hpb : t.processedBy = replacePairs s.processedBy O.id w.processedBy := by rw [ht]; rfl
  have hin : t.inputFor = replacePairs s.inputFor O.id w.inputFor := by rw [ht]; rfl
  have hf : ∀ row, (f row).id = row.id ∧ (f row).repo = row.repo ∧
      (f row).visible = row.visible ∧ (f row).batch = row.batch := fun row => by
    dsimp only [f]
    split <;> exact ⟨rfl, rfl, rfl, rfl⟩
  have hf_ne : ∀ row, row.id ≠ O.id → f row = row := fun row hne => by
    simp [f, hne]
  have hrow : ∀ o ∈ t.records, ∃ o₀ ∈ s.records, o = f o₀ := fun o ho => by
    rw [hrec] at ho
    obtain ⟨o₀, ho₀, rfl⟩ := List.mem_map.1 ho
    exact ⟨o₀, ho₀, rfl⟩
  have hsucc' : ∀ {o₀ : RecordRow}, o₀ ∈ s.records → ∀ b' y,
      Successor repo t b' y (f o₀) ↔ Successor repo s b' y o₀ :=
    fun ho₀ => successor_map hf hrec hlin ho₀
  -- a record other than `O` stays covered: its outputs other than `O` are as they were, and `O`
  -- is an output of `x` alone
  have hcov : ∀ X ∈ s.records, X.id ≠ O.id → ∀ b', Covered repo s (some bb) b' X →
      Covered repo t (some bb) b' (f X) := by
    intro X hX hXO b' hc
    rw [hf_ne X hXO]
    refine ⟨fun o ho => ?_, fun hact => ?_⟩
    · obtain ⟨o₀, ho₀, rfl⟩ := hrow o ho.1
      have ho₀' := (hsucc' ho₀ (some bb) X.id).1 ho
      by_cases hoO : o₀.id = O.id
      · obtain rfl := hn.eq_of_id ho₀ hO.1 hoO
        have hXx : X.id = x := h.sole x X.id o₀ hO ho₀'.2.2.2
        simpa [f] using hfollow X hX hXx
      · rw [hf_ne o₀ hoO]
        exact hc.1 o₀ ho₀'
    · obtain ⟨o₀, ho₀⟩ := hc.2 hact
      exact ⟨f o₀, (hsucc' ho₀.1 b' X.id).2 ho₀⟩
  -- a record of another repository is not `O`
  have hother : ∀ X ∈ s.records, X.repo ≠ repo → X.id ≠ O.id := fun X hX hXrepo hXO =>
    hXrepo (hn.eq_of_id hX hO.1 hXO ▸ hO.2.1)
  obtain ⟨hr, hbrepo, hstaged⟩ := h.ready bb rfl
  have hr' : Ready bb t := ht ▸ hr.rewritten hO.1 w t.modified
  refine ⟨⟨hr'.numbered, (needsReplay_congr (by rw [ht]; rfl)).trans h.quiet, fun bb' hbb' => ?_,
    fun bb' hbb' m hm => ?_, fun o ho hrepo => ?_, fun y o o' ho ho' => ?_,
    fun y y' o ho hy => ?_, fun X hX hpbX => ?_, fun X hX hm => ?_⟩, ?_, ?_⟩
  · cases hbb'
    refine ⟨hr', hbrepo, fun row hrowt hb => ?_⟩
    obtain ⟨row₀, hrow₀, rfl⟩ := hrow row hrowt
    rw [(hf row₀).2.1]
    exact hstaged row₀ hrow₀ ((hf row₀).2.2.2 ▸ hb)
  · cases hbb'
    obtain ⟨X, hX, hXid, hXrepo⟩ := h.marks bb rfl m hm
    exact ⟨f X, hrec ▸ List.mem_map_of_mem hX, (hf X).1.trans hXid, (hf X).2.1 ▸ hXrepo⟩
  · obtain ⟨o₀, ho₀, rfl⟩ := hrow o ho
    rw [(hf o₀).2.1] at hrepo
    rw [(hf o₀).1, hin, hpb, mem_replacePairs_iff, mem_replacePairs_iff]
    obtain ⟨hin₀, hpb₀⟩ := h.outputs o₀ ho₀ hrepo
    exact ⟨by rintro (⟨h', -⟩ | ⟨-, h'⟩) <;> [exact hin₀ h'; exact hclear.1 h'],
      by rintro (⟨h', -⟩ | ⟨-, h'⟩) <;> [exact hpb₀ h'; exact hclear.2 h']⟩
  · obtain ⟨o₀, ho₀, rfl⟩ := hrow o ho.1
    obtain ⟨o₀', ho₀', rfl⟩ := hrow o' ho'.1
    rw [h.single y o₀ o₀' ((hsucc' ho₀ _ y).1 ho) ((hsucc' ho₀' _ y).1 ho')]
  · obtain ⟨o₀, ho₀, rfl⟩ := hrow o ho.1
    rw [(hf o₀).1, hlin] at hy
    exact h.sole y y' o₀ ((hsucc' ho₀ _ y).1 ho) hy
  · obtain ⟨X₀, hX₀, rfl⟩ := hrow X hX
    rw [(hf X₀).1, hpb, mem_replacePairs_iff] at hpbX
    rcases hpbX with ⟨hpbX, hne⟩ | ⟨-, hsvc⟩
    · have hc := hcov X₀ hX₀ hne none (h.marked X₀ hX₀ hpbX)
      exact hc
    · exact absurd hsvc hclear.2
  · obtain ⟨X₀, hX₀, rfl⟩ := hrow X hX
    rw [(hf X₀).1] at hm
    obtain ⟨Y, hY, hYid, hYrepo⟩ := h.marks bb rfl _ hm
    obtain rfl := hn.eq_of_id hY hX₀ hYid
    exact hcov Y hY (hother Y hY hYrepo) (some bb) (h.held Y hY hm)
  · -- the rows of other repositories are not `O`
    rw [hrec, List.filter_map]
    refine (List.map_congr_left fun row hrowf => ?_).trans (List.map_id _) |>.trans
      (List.filter_congr fun row _ => by simp only [Function.comp_apply, (hf row).2.1])
    obtain ⟨hrows, hne⟩ := List.mem_filter.1 hrowf
    exact hf_ne row (hother row hrows (by simpa [(hf row).2.1] using hne))
  · exact fun X hX hXrepo o ho => ⟨f o, (hsucc' ho.1 none X.id).2 ho, (hf o).1⟩

-- ---------------------------------------------------------------------------
-- Staging a new output
-- ---------------------------------------------------------------------------

/-- **Staging a record** with no successors: it takes the next id, the batch stages it, and the
store changes as `Batch.staging` says, with the edges from the record's predecessors added. -/
theorem Batch.add_eq_staging {bb bb' : Batch} {w : Record} {j : Int} (hsucc : w.successors = [])
    (h : (bb.add w).run s = .ok ((j, bb'), t)) :
    j = s.lastId .records + 1 ∧ bb' = { bb with staged := SortedList.insert j bb.staged } ∧
      t = { bb.staging s w with lineage := t.lineage, modified := t.modified } ∧
      ∀ e, e ∈ t.lineage ↔ e ∈ s.lineage ∨ (e.1 ∈ w.predecessors ∧ e.2 = j) := by
  obtain ⟨j', u, hins, hrest⟩ := Tx.bind_eq_ok.1 h
  obtain ⟨_, v, htouch, hpure⟩ := Tx.bind_eq_ok.1 hrest
  cases hpure
  obtain ⟨_, u₁, huse, h₁⟩ := Tx.bind_eq_ok.1 hins
  obtain ⟨-, rfl⟩ := useTable_eq_ok huse
  obtain ⟨_, u₂, hget, h₂⟩ := Tx.bind_eq_ok.1 h₁
  cases hget
  dsimp only at h₂
  split at h₂
  · -- a row of the repository under the identifier is refused
    obtain ⟨_, _, hfail, -⟩ := Tx.bind_eq_ok.1 h₂
    cases hfail
  obtain ⟨j, u₃, hnext, h₃⟩ := Tx.bind_eq_ok.1 h₂
  cases hnext
  obtain ⟨_, u₄, hmod, h₄⟩ := Tx.bind_eq_ok.1 h₃
  cases hmod
  obtain ⟨_, u₅, hw, hpure⟩ := Tx.bind_eq_ok.1 h₄
  cases hpure
  refine ⟨rfl, rfl, ?_, fun e => ?_⟩
  · rw [touch_eq htouch, writeRelations_eq hw]
    rfl
  · rw [touch_eq htouch]
    refine (writeRelations_lineage_iff hw e).trans ?_
    simp [Joins, hsucc]

theorem Ready.with_lineage {bb : Batch} (hr : Ready bb s) {l : List (Int × Int)}
    (hl : ∀ e ∈ l, e.2 ≤ s.lastId .records) : Ready bb { s with lineage := l } :=
  ⟨⟨hr.numbered.ordered, ⟨hr.numbered.issued.records, hr.numbered.issued.batches⟩,
    hr.numbered.sets, hr.numbered.processedBy, hr.numbered.inputFor, hl⟩, hr.held, hr.opened,
    hr.issued, hr.staged⟩

/-- **Staging a new output** of record `x`, which has no output the batch sees, as a record with
`x` as its one predecessor, no successors and clear of the service, keeps the invariant when the
staged row follows the record `x`; the staged row is then the output of `x`. -/
theorem Normalized.stage {bb bb' : Batch} {j : Int} (h : Normalized svc repo s (some bb))
    {x : Int} (hnone : ∀ o, ¬Successor repo s (some bb) x o) {w : Record}
    (hpred : w.predecessors = [x]) (hsucc : w.successors = [])
    (hclear : svc ∉ w.inputFor ∧ svc ∉ w.processedBy)
    (hfollow : ∀ X ∈ s.records, X.id = x → Follows X (bb.newRow j w s.clock))
    (hadd : (bb.add w).run s = .ok ((j, bb'), t)) :
    Normalized svc repo t (some bb') ∧ Moves repo s t ∧
      Successor repo t (some bb') x (bb.newRow j w s.clock) := by
  obtain ⟨rfl, rfl, ht, hlin⟩ := Batch.add_eq_staging hsucc hadd
  have hn := h.numbered
  obtain ⟨hr, hbrepo, hstaged⟩ := h.ready bb rfl
  set j := s.lastId .records + 1 with hj
  set new := bb.newRow j w s.clock with hnew
  have hrec : t.records = s.records ++ [new] := by rw [ht]; rfl
  have hpb : t.processedBy = w.processedBy.foldl (fun acc v => addPair acc (j, v)) s.processedBy := by
    rw [ht]; rfl
  have hin : t.inputFor = w.inputFor.foldl (fun acc v => addPair acc (j, v)) s.inputFor := by
    rw [ht]; rfl
  have hold : ∀ row ∈ s.records, row.id < j := fun row hrow => by
    have := hn.issued.records row hrow
    omega
  have hcases : ∀ o ∈ t.records, o ∈ s.records ∨ o = new := fun o ho => by
    rw [hrec] at ho
    rcases List.mem_append.1 ho with ho | ho
    · exact .inl ho
    · exact .inr (List.mem_singleton.1 ho)
  -- the edges into old rows are as they were, and the new row has one, from `x`
  have hedge_old : ∀ y i, i < j → ((y, i) ∈ t.lineage ↔ (y, i) ∈ s.lineage) := fun y i hi => by
    rw [hlin]
    simp only [hpred, List.mem_singleton, or_iff_left_iff_imp, and_imp]
    intro _ hij
    omega
  have hedge_new : ∀ y, (y, j) ∈ t.lineage ↔ y = x := fun y => by
    rw [hlin, hpred]
    constructor
    · rintro (he | ⟨hy, -⟩)
      · have := hn.lineage _ he
        simp only at this
        omega
      · exact List.mem_singleton.1 hy
    · rintro rfl
      exact .inr ⟨List.mem_singleton_self _, rfl⟩
  have hsees : ∀ b₁ b₂ : Option Batch, (∀ row, Sees b₁ row ↔ Sees b₂ row) → ∀ y o,
      o ∈ s.records → (Successor repo t b₁ y o ↔ Successor repo s b₂ y o) := by
    intro b₁ b₂ hb y o ho
    have hot : o ∈ t.records := hrec ▸ List.mem_append_left _ ho
    simp only [Successor, hb, hedge_old y o.id (hold o ho), ho, hot, true_and]
  have hsees_bb : ∀ row, Sees (some { bb with staged := SortedList.insert j bb.staged }) row ↔
      Sees (some bb) row := fun row => by simp [Sees]
  have hsucc_old := hsees _ _ hsees_bb
  have hsucc_none := hsees none none fun _ => Iff.rfl
  have hmem : new ∈ t.records := hrec ▸ List.mem_append_right _ (List.mem_singleton_self _)
  have hsucc_new : ∀ y, Successor repo t (some { bb with staged := SortedList.insert j bb.staged })
      y new ↔ y = x := fun y =>
    ⟨fun ho => (hedge_new y).1 ho.2.2.2, fun hy =>
      ⟨hmem, hbrepo, .inr ⟨_, rfl, rfl⟩, (hedge_new y).2 hy⟩⟩
  -- the new row is neither processed by the service nor input for it: its id was never handed
  -- out before
  have hnew_pb : (j, svc) ∉ t.processedBy := fun hm => by
    rw [hpb, mem_foldl_addPair] at hm
    rcases hm with hm | ⟨-, hm⟩
    · have := hn.processedBy _ hm
      simp only at this
      omega
    · exact hclear.2 hm
  have hnew_in : (j, svc) ∉ t.inputFor := fun hm => by
    rw [hin, mem_foldl_addPair] at hm
    rcases hm with hm | ⟨-, hm⟩
    · have := hn.inputFor _ hm
      simp only at this
      omega
    · exact hclear.1 hm
  -- a covered record stays covered: the new row is an output of `x` alone, and follows it
  have hcovered : ∀ X ∈ s.records, ∀ b₂ b₂' : Option Batch,
      (∀ y o, o ∈ s.records → (Successor repo t b₂' y o ↔ Successor repo s b₂ y o)) →
      Covered repo s (some bb) b₂ X →
      Covered repo t (some { bb with staged := SortedList.insert j bb.staged }) b₂' X := by
    intro X hX b₂ b₂' hb hc
    refine ⟨fun o ho => ?_, fun hact => ?_⟩
    · rcases hcases o ho.1 with hoo | rfl
      · exact hc.1 o ((hsucc_old _ o hoo).1 ho)
      · exact hfollow X hX ((hsucc_new _).1 ho)
    · obtain ⟨o, ho⟩ := hc.2 hact
      exact ⟨o, (hb _ o ho.1).2 ho⟩
  have hl : ∀ e ∈ t.lineage, e.2 ≤ j := fun e he => by
    rcases (hlin e).1 he with he | ⟨-, he⟩
    · have := hn.lineage e he
      omega
    · exact he.le
  have hr' : Ready { bb with staged := SortedList.insert j bb.staged } t := by
    rw [ht]
    exact (hr.staging w t.modified).with_lineage fun e he => by simpa [Batch.staging] using hl e he
  refine ⟨⟨hr'.numbered, (needsReplay_congr (by rw [ht]; rfl)).trans h.quiet, fun bb' hbb' => ?_,
    fun bb' hbb' m hm => ?_, fun o ho hrepo => ?_, fun y o o' ho ho' => ?_,
    fun y y' o ho hy => ?_, fun X hX hpbX => ?_, fun X hX hm => ?_⟩,
    ⟨?_, fun X hX hXrepo o ho => ⟨o, (hsucc_none _ o ho.1).2 ho, rfl⟩⟩, (hsucc_new x).2 rfl⟩
  · cases hbb'
    refine ⟨hr', hbrepo, fun row hrow hb => ?_⟩
    rcases hcases row hrow with hrow | rfl
    · exact hstaged row hrow hb
    · exact hbrepo
  · cases hbb'
    obtain ⟨X, hX, hXid, hXrepo⟩ := h.marks bb rfl m hm
    exact ⟨X, hrec ▸ List.mem_append_left _ hX, hXid, hXrepo⟩
  · rcases hcases o ho with hoo | rfl
    · obtain ⟨hin₀, hpb₀⟩ := h.outputs o hoo hrepo
      have hne : o.id ≠ j := (hold o hoo).ne
      rw [hin, hpb, mem_foldl_addPair, mem_foldl_addPair]
      exact ⟨by rintro (h' | ⟨h', -⟩) <;> [exact hin₀ h'; exact hne h'],
        by rintro (h' | ⟨h', -⟩) <;> [exact hpb₀ h'; exact hne h']⟩
    · exact ⟨hnew_in, hnew_pb⟩
  · rcases hcases o ho.1 with hoo | rfl <;> rcases hcases o' ho'.1 with hoo' | rfl
    · exact h.single y o o' ((hsucc_old y o hoo).1 ho) ((hsucc_old y o' hoo').1 ho')
    · obtain rfl := (hsucc_new y).1 ho'
      exact absurd ((hsucc_old _ o hoo).1 ho) (hnone o)
    · obtain rfl := (hsucc_new y).1 ho
      exact absurd ((hsucc_old _ o' hoo').1 ho') (hnone o')
    · rfl
  · rcases hcases o ho.1 with hoo | rfl
    · exact h.sole y y' o ((hsucc_old y o hoo).1 ho) ((hedge_old y' o.id (hold o hoo)).1 hy)
    · rw [(hsucc_new y).1 ho]
      exact (hedge_new y').1 hy
  · rcases hcases X hX with hXo | rfl
    · have hpb₀ : (X.id, svc) ∈ s.processedBy := by
        rw [hpb, mem_foldl_addPair] at hpbX
        exact hpbX.resolve_right fun hm => (hold X hXo).ne hm.1
      exact hcovered X hXo none none hsucc_none (h.marked X hXo hpb₀)
    · exact absurd hpbX hnew_pb
  · rcases hcases X hX with hXo | rfl
    · exact hcovered X hXo _ _ hsucc_old (h.held X hXo hm)
    · obtain ⟨Y, hY, hYid, -⟩ := h.marks bb rfl _ hm
      exact absurd hYid (hold Y hY).ne
  · rw [hrec, List.filter_append]
    simp [hnew, Batch.newRow, hbrepo]

-- ---------------------------------------------------------------------------
-- Reading back the outputs of a record
-- ---------------------------------------------------------------------------

/-- A record a batch reads back is the view of a row of its repository that is visible or that
the batch staged. -/
theorem Batch.get?_seen {bb : Batch} {i : Int} {v : Record} (h : bb.get? s i = .ok (some v)) :
    ∃ row ∈ s.records, row.id = i ∧ row.repo = bb.repo ∧ (row.visible = true ∨ i ∈ bb.staged) ∧
      s.view row = .ok v := by
  unfold Batch.get? at h
  rcases hrow : (s.findRow? bb.repo i).filter (fun row => row.visible || bb.isStaged i) with
    _ | row <;> rw [hrow] at h
  · exact nomatch h
  · obtain ⟨hfind, hseen⟩ := Option.filter_eq_some_iff.1 hrow
    replace hfind : s.records.find? (fun row => row.id == i && row.repo == bb.repo) = some row :=
      hfind
    have hp := List.find?_some hfind
    simp only [Bool.and_eq_true, beq_iff_eq] at hp
    rcases hview : s.view row with e | r <;> simp [hview] at h
    refine ⟨row, List.mem_of_find?_eq_some hfind, hp.1, hp.2, ?_, h ▸ hview⟩
    simpa [Batch.isStaged] using hseen

/-- A row of a repository is the row found under its id, when ids are keys. -/
theorem findRow?_of_mem (hn : s.Numbered) {row : RecordRow} (hrow : row ∈ s.records) :
    s.findRow? row.repo row.id = some row := by
  have hsome : (s.findRow? row.repo row.id).isSome :=
    List.find?_isSome.2 ⟨row, hrow, by simp⟩
  obtain ⟨row₀, hfind⟩ := Option.isSome_iff_exists.1 hsome
  have hp := List.find?_some hfind
  simp only [Bool.and_eq_true, beq_iff_eq] at hp
  rw [hfind, hn.eq_of_id (List.mem_of_find?_eq_some hfind) hrow hp.1]

/-- What a lookup over a list gives each of its members, when it succeeds as a whole. -/
theorem filterMapM_ok_of_mem {β γ : Type} {f : β → Outcome (Option γ)} {xs : List β} {ys : List γ}
    (h : xs.filterMapM f = .ok ys) {a : β} (ha : a ∈ xs) :
    f a = .ok none ∨ ∃ y ∈ ys, f a = .ok (some y) := by
  induction xs generalizing ys with
  | nil => exact absurd ha List.not_mem_nil
  | cons a' as ih =>
    rw [List.filterMapM_cons] at h
    rcases hfa : f a' with e | _ | b <;> rw [hfa] at h
    · exact nomatch h
    · rcases List.mem_cons.1 ha with rfl | ha
      · exact .inl hfa
      · exact ih h ha
    · rcases hrest : as.filterMapM f with e | zs <;> rw [hrest] at h
      · exact nomatch h
      · cases h
        rcases List.mem_cons.1 ha with rfl | ha
        · exact .inr ⟨b, List.mem_cons_self .., hfa⟩
        · rcases ih hrest ha with hnone | ⟨y, hy, hfy⟩
          · exact .inl hnone
          · exact .inr ⟨y, List.mem_cons_of_mem _ hy, hfy⟩

/-- **The outputs of a record that a batch reads back**: each is an output of the record that
the batch sees, read back, and none is read back only when the record has no such output. -/
theorem Normalized.successors {bb : Batch} (h : Normalized svc repo s (some bb)) {x : Int}
    {os : List Record} (hos : (s.successorIds x).filterMapM (bb.get? s) = .ok os) :
    (∀ v ∈ os, ∃ O, Successor repo s (some bb) x O ∧ s.view O = .ok v) ∧
      (os = [] → ∀ O, ¬Successor repo s (some bb) x O) := by
  obtain ⟨hr, hbrepo, -⟩ := h.ready bb rfl
  refine ⟨fun v hv => ?_, fun hnil O hO => ?_⟩
  · obtain ⟨i, hi, hget⟩ := Engine.mem_of_filterMapM_ok hos hv
    obtain ⟨O, hO, rfl, hrepo, hseen, hview⟩ := Batch.get?_seen hget
    refine ⟨O, ⟨hO, hrepo.trans hbrepo, ?_, Engine.mem_successorIds.1 hi⟩, hview⟩
    rcases hseen with hvis | hst
    · exact .inl hvis
    · exact .inr ⟨bb, rfl, (hr.staged O hO).1 hst⟩
  · -- the output is read back: it is found under its id, and the batch sees it
    obtain ⟨hmem, hrepo, hsees, hedge⟩ := hO
    have hfind : s.findRow? bb.repo O.id = some O := hbrepo ▸ hrepo ▸ findRow?_of_mem h.numbered hmem
    have hseen : (O.visible || bb.isStaged O.id) = true := by
      rcases hsees with hvis | ⟨bb', hbb', hb⟩
      · simp [hvis]
      · cases hbb'
        simp [Batch.isStaged, (hr.staged O hmem).2 hb]
    have hget : bb.get? s O.id = (s.view O).map some := by
      unfold Batch.get?
      rw [hfind, Option.filter_some, if_pos hseen]
      rfl
    rcases filterMapM_ok_of_mem hos (Engine.mem_successorIds.2 hedge) with hnone | ⟨v, hv, -⟩
    · rw [hget] at hnone
      rcases hview : s.view O with e | v <;> rw [hview] at hnone <;> cases hnone
    · rw [hnil] at hv
      exact absurd hv List.not_mem_nil

end Invariant

/-- A transaction that leaves the record book alone whenever it succeeds. -/
def KeepsRecords (tx : Tx α) : Prop :=
  ∀ r, ⦃fun s => ⌜s.recordBook = r⌝⦄ tx ⦃⇓? _ s => ⌜s.recordBook = r⌝⦄

theorem KeepsRecords.recordBook_eq {tx : Tx α} (h : KeepsRecords tx) {s t : Store} {a : α}
    (hrun : tx.run s = .ok (a, t)) : t.recordBook = s.recordBook :=
  Tx.of_spec (h s.recordBook) rfl hrun

theorem KeepsRecords.of_run {tx : Tx α}
    (h : ∀ s a t, tx.run s = .ok (a, t) → t.recordBook = s.recordBook) : KeepsRecords tx := by
  intro r s hs
  exact Tx.spec_of_run (fun a t ht => (h s a t ht).trans hs) s rfl

theorem KeepsRecords.pure (a : α) : KeepsRecords (pure a : Tx α) := by
  intro r
  mvcgen

theorem KeepsRecords.bind {β : Type} {x : Tx α} {f : α → Tx β} (hx : KeepsRecords x)
    (hf : ∀ a, KeepsRecords (f a)) : KeepsRecords (x >>= f) := by
  refine KeepsRecords.of_run fun s b t h => ?_
  obtain ⟨a, u, hxu, hft⟩ := Tx.bind_eq_ok.1 h
  exact ((hf a).recordBook_eq hft).trans (hx.recordBook_eq hxu)

theorem KeepsRecords.forM {xs : List α} {f : α → Tx PUnit} (h : ∀ a ∈ xs, KeepsRecords (f a)) :
    KeepsRecords (xs.forM f) := by
  induction xs with
  | nil => exact KeepsRecords.pure _
  | cons a as ih =>
    exact (h a (List.mem_cons_self ..)).bind fun _ =>
      ih fun b hb => h b (List.mem_cons_of_mem a hb)

theorem touch_keepsRecords (repo : String) : KeepsRecords (touch repo) := by
  intro r
  mvcgen [touch]

theorem modifyService_keepsRecords (id : Int) (f : ServiceRow → ServiceRow) :
    KeepsRecords (modifyService id f) := by
  intro r
  mvcgen [modifyService, useTable]

theorem tryStart_keepsRecords (id : Int) : KeepsRecords (tryStart id) := by
  intro r
  mvcgen [tryStart, modifyService, useTable]

theorem setStatus_keepsRecords (id : Int) (status : Service.Status) :
    KeepsRecords (setStatus id status) := by
  intro r
  mvcgen [setStatus, modifyService, useTable]

/-- A change of the store that keeps the record book of every store. -/
theorem keepsRecords_modify {f : Store → Store} (h : ∀ s, (f s).recordBook = s.recordBook) :
    KeepsRecords (modify f) := by
  intro r
  mvcgen
  rename_i s hs t
  exact (h s).trans hs

theorem saveCounter_keepsRecords (scope name : String) (next : Int) :
    KeepsRecords (saveCounter scope name next) :=
  keepsRecords_modify fun s => by split <;> rfl

theorem insertJob_keepsRecords (service : Int) (outputSet : Option String)
    (kind : Pipeline.JobKind) : KeepsRecords (insertJob service outputSet kind) := by
  intro r
  mvcgen [insertJob, nextId, useTable]

end Catalog.Store
