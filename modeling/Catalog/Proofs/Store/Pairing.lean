import Catalog.Proofs.Store.Footprint

/-!
# Outputs paired with the marks of their inputs

A pass of a service reads the records pending for it and writes its outputs into the
service's repository. It writes each input's outputs into its open batch, and holds back the
mark saying that the input was processed until the batch ends. The batch then makes its rows
visible and applies its marks, all in one transaction. The pass's outputs and its marks are
then never seen apart: an output is either staged in the open batch, whose marks include
every input it comes from, or visible, and every input it comes from is marked processed.

`Paired` states this of the rows of a store and the open batch, for the rows the pass added
to its repository. It also keeps the facts that make it last: no output is input for the
service or processed by it, ids only grow, and no relation names an id not yet handed out.
One input may be *in flight*: its output is written, and its mark is not yet held.

Each way a pass changes the rows keeps `Paired`: rewriting an output, staging a new one,
holding back a mark, ending the batch, opening the next one, and dropping an edge.

## Main results

* `Paired`: the invariant, and `Rows.Done`, what a pass owes an input it wrote for
* `Paired.rewrite`, `Paired.stage`, `Paired.hold`, `Paired.commit`, `Paired.start`,
  `Paired.dropEdge`: each change a pass makes keeps it
* `Paired.outputs_visible`, `Paired.inputs_marked`: with no batch open, every output is
  visible and every input it comes from is marked processed
-/

namespace Catalog.Store

/-- A pass of one service into one repository, and the rows of the store before it. The
pass's outputs are the rows of the repository whose ids are larger than any id handed out
before it. -/
structure Scope where
  service : Int
  repo : String
  start : Rows

/-- The marks a batch holds back, if one is open. -/
def marksOf : Option Batch → List (Int × Int)
  | none => []
  | some b => b.marks

@[simp] theorem marksOf_none : marksOf none = [] := rfl

@[simp] theorem marksOf_some (b : Batch) : marksOf (some b) = b.marks := rfl

namespace Rows

variable (c : Scope) (r : Rows)

/-- Some row of the pass's repository has this id. -/
def IsOutput (i : Int) : Prop :=
  ∃ row ∈ r.records, row.repo = c.repo ∧ row.id = i

/-- A row of the pass's repository that the pass added has this id. -/
def NewOutput (i : Int) : Prop :=
  ∃ row ∈ r.records, row.repo = c.repo ∧ row.id = i ∧ c.start.lastRecord < i

/-- A record is marked processed by the service. -/
def Marked (x : Int) : Prop :=
  (x, c.service) ∈ r.processedBy ∧ (x, c.service) ∉ r.inputFor

/-- A record still waits for the service: input for it, and not processed by it. -/
def Waiting (x : Int) : Prop :=
  (x, c.service) ∈ r.inputFor ∧ (x, c.service) ∉ r.processedBy

/-- What a pass owes a record its outputs come from: the record is marked processed, or
its mark is held back by the open batch. -/
def Done (b : Option Batch) (x : Int) : Prop :=
  r.Marked c x ∨ (x, c.service) ∈ marksOf b

/-- A stored record that is not an output of the pass. -/
def Input (x : Int) : Prop :=
  (∃ row ∈ r.records, row.id = x) ∧ ¬r.IsOutput c x

/-- No row or relation names an id larger than the last one handed out. -/
structure Fresh : Prop where
  records : ∀ row ∈ r.records, row.id ≤ r.lastRecord
  lineage : ∀ e ∈ r.lineage, e.1 ≤ r.lastRecord ∧ e.2 ≤ r.lastRecord
  processedBy : ∀ p ∈ r.processedBy, p.1 ≤ r.lastRecord
  inputFor : ∀ p ∈ r.inputFor, p.1 ≤ r.lastRecord

end Rows

/-- Outputs paired with the marks of their inputs, for a pass `c` with the open batch `b`,
the input `flight` in flight, and the inputs `ins` it still holds. -/
structure Paired (c : Scope) (flight : Option Int) (ins : List Int) (r : Rows)
    (b : Option Batch) : Prop where
  /-- No row of the repository is input for the service or processed by it. -/
  outputs : ∀ row ∈ r.records, row.repo = c.repo →
    (row.id, c.service) ∉ r.inputFor ∧ (row.id, c.service) ∉ r.processedBy
  fresh : r.Fresh
  grown : c.start.lastRecord ≤ r.lastRecord
  /-- The pass's outputs are visible or staged by the open batch. -/
  visible : ∀ row ∈ r.records, row.repo = c.repo → c.start.lastRecord < row.id →
    row.visible = true ∨ ∃ bb, b = some bb ∧ row.batch = some bb.id
  /-- Every record an output of the pass comes from is done, or in flight. -/
  lineage : ∀ x i, (x, i) ∈ r.lineage → r.NewOutput c i → r.Done c b x ∨ flight = some x
  /-- The held-back marks are the service's, of inputs. -/
  marks : ∀ m ∈ marksOf b, m.2 = c.service ∧ r.Input c m.1
  inputs : ∀ x ∈ ins, r.Input c x
  /-- A record that waited for the service when the pass began is marked or still waits. -/
  pairs : ∀ x, (x, c.service) ∈ c.start.inputFor → (x, c.service) ∉ c.start.processedBy →
    r.Marked c x ∨ r.Waiting c x

-- ---------------------------------------------------------------------------
-- Rows in their places
-- ---------------------------------------------------------------------------

section Places

variable {xs ys : List RecordRow}

/-- Rows in the same places satisfy the same tests of their places. -/
theorem exists_place_congr (h : ys.map RecordRow.place = xs.map RecordRow.place)
    (P : Int × String × Bool × Option Nat → Prop) :
    (∃ row ∈ ys, P row.place) ↔ ∃ row ∈ xs, P row.place := by
  have hmem : ∀ p, p ∈ ys.map RecordRow.place ↔ p ∈ xs.map RecordRow.place := by
    rw [h]; exact fun _ => Iff.rfl
  constructor
  · rintro ⟨row, hrow, hp⟩
    obtain ⟨row', hrow', heq⟩ := List.mem_map.1 ((hmem _).1 (List.mem_map_of_mem hrow))
    exact ⟨row', hrow', heq ▸ hp⟩
  · rintro ⟨row, hrow, hp⟩
    obtain ⟨row', hrow', heq⟩ := List.mem_map.1 ((hmem _).2 (List.mem_map_of_mem hrow))
    exact ⟨row', hrow', heq ▸ hp⟩

theorem forall_place_congr (h : ys.map RecordRow.place = xs.map RecordRow.place)
    (P : Int × String × Bool × Option Nat → Prop) :
    (∀ row ∈ ys, P row.place) ↔ ∀ row ∈ xs, P row.place := by
  have hmem : ∀ p, p ∈ ys.map RecordRow.place ↔ p ∈ xs.map RecordRow.place := by
    rw [h]; exact fun _ => Iff.rfl
  constructor
  · intro hall row hrow
    obtain ⟨row', hrow', heq⟩ := List.mem_map.1 ((hmem _).2 (List.mem_map_of_mem hrow))
    exact heq ▸ hall row' hrow'
  · intro hall row hrow
    obtain ⟨row', hrow', heq⟩ := List.mem_map.1 ((hmem _).1 (List.mem_map_of_mem hrow))
    exact heq ▸ hall row' hrow'

end Places

namespace Rows

variable {c : Scope} {r r' : Rows} {b b' : Option Batch} {x : Int}

theorem isOutput_congr (h : r'.records.map RecordRow.place = r.records.map RecordRow.place) :
    r'.IsOutput c x ↔ r.IsOutput c x :=
  exists_place_congr h fun p => p.2.1 = c.repo ∧ p.1 = x

theorem newOutput_congr (h : r'.records.map RecordRow.place = r.records.map RecordRow.place)
    (x : Int) : r'.NewOutput c x ↔ r.NewOutput c x :=
  exists_place_congr h fun p => p.2.1 = c.repo ∧ p.1 = x ∧ c.start.lastRecord < x

theorem input_congr (h : r'.records.map RecordRow.place = r.records.map RecordRow.place) :
    r'.Input c x ↔ r.Input c x :=
  and_congr (exists_place_congr h fun p => p.1 = x) (not_congr (isOutput_congr h))

/-- Two rows agree on the service's pairs of a record. -/
def SamePairs (c : Scope) (r r' : Rows) (x : Int) : Prop :=
  ((x, c.service) ∈ r'.processedBy ↔ (x, c.service) ∈ r.processedBy) ∧
    ((x, c.service) ∈ r'.inputFor ↔ (x, c.service) ∈ r.inputFor)

theorem SamePairs.marked (h : SamePairs c r r' x) : r'.Marked c x ↔ r.Marked c x := by
  unfold Marked
  rw [h.1, h.2]

theorem SamePairs.waiting (h : SamePairs c r r' x) : r'.Waiting c x ↔ r.Waiting c x := by
  unfold Waiting
  rw [h.1, h.2]

theorem SamePairs.done (h : SamePairs c r r' x) (hb : marksOf b' = marksOf b) :
    r'.Done c b' x ↔ r.Done c b x := by
  unfold Done
  rw [h.marked, hb]

end Rows

-- ---------------------------------------------------------------------------
-- What the invariant gives
-- ---------------------------------------------------------------------------

namespace Paired

variable {c : Scope} {fl : Option Int} {ins : List Int} {r : Rows} {b : Option Batch}
  {x : Int}

theorem not_output_of_marked (h : Paired c fl ins r b) (hx : r.Marked c x) : ¬r.IsOutput c x :=
  fun ⟨row, hrow, hrepo, hid⟩ => (h.outputs row hrow hrepo).2 (hid ▸ hx.1)

theorem not_output_of_waiting (h : Paired c fl ins r b) (hx : r.Waiting c x) :
    ¬r.IsOutput c x :=
  fun ⟨row, hrow, hrepo, hid⟩ => (h.outputs row hrow hrepo).1 (hid ▸ hx.1)

/-- A record whose outputs the pass owes something is no output: outputs are never marked,
and the batch holds marks of inputs only. -/
theorem not_output_of_done (h : Paired c fl ins r b) (hx : r.Done c b x) : ¬r.IsOutput c x := by
  rcases hx with hm | hb
  · exact h.not_output_of_marked hm
  · exact (h.marks _ hb).2.2

theorem le_of_isOutput (h : Paired c fl ins r b) {i : Int} (hi : r.IsOutput c i) :
    i ≤ r.lastRecord := by
  obtain ⟨row, hrow, -, rfl⟩ := hi
  exact h.fresh.records row hrow

theorem le_of_input (h : Paired c fl ins r b) (hx : r.Input c x) : x ≤ r.lastRecord := by
  obtain ⟨⟨row, hrow, rfl⟩, -⟩ := hx
  exact h.fresh.records row hrow

theorem le_of_marked (h : Paired c fl ins r b) (hx : r.Marked c x) : x ≤ r.lastRecord :=
  h.fresh.processedBy _ hx.1

theorem le_of_waiting (h : Paired c fl ins r b) (hx : r.Waiting c x) : x ≤ r.lastRecord :=
  h.fresh.inputFor _ hx.1

theorem le_of_done (h : Paired c fl ins r b) (hx : r.Done c b x) : x ≤ r.lastRecord := by
  rcases hx with hm | hb
  · exact h.le_of_marked hm
  · exact h.le_of_input (h.marks _ hb).2

end Paired

-- ---------------------------------------------------------------------------
-- Rewriting an output
-- ---------------------------------------------------------------------------

namespace Rewrote

variable {c : Scope} {repo : String} {i : Int} {w : Record} {s t : Store}

/-- The record rewritten is an output of the pass. -/
theorem isOutput (hw : Rewrote c.repo i w s t) : s.rows.IsOutput c i :=
  let ⟨row, hrow, hid, hrepo⟩ := hw.found
  ⟨row, hrow, hrepo, hid⟩

/-- A rewrite leaves the pairs of every other record. -/
theorem samePairs (hw : Rewrote repo i w s t) {x : Int} (hx : x ≠ i) :
    Rows.SamePairs c s.rows t.rows x := by
  refine ⟨?_, ?_⟩
  · show (x, c.service) ∈ t.processedBy ↔ (x, c.service) ∈ s.processedBy
    rw [hw.processedBy]
    simp [hx]
  · show (x, c.service) ∈ t.inputFor ↔ (x, c.service) ∈ s.inputFor
    rw [hw.inputFor]
    simp [hx]

end Rewrote

namespace Paired

variable {c : Scope} {fl : Option Int} {ins : List Int} {b : Option Batch}

theorem hasRecord_le {s : Store} (h : Paired c fl ins s.rows b) {y : Int}
    (hy : s.hasRecord y = true) : y ≤ s.rows.lastRecord := by
  obtain ⟨row, hrow, rfl⟩ := hasRecord_iff.1 hy
  exact h.fresh.records row hrow

/-- Rewriting an output keeps the invariant when the record written is no input for the
service and processed by it, has no successors, and comes only from records that are done
or in flight. -/
theorem rewrite {s t : Store} {i : Int} {w : Record} (h : Paired c fl ins s.rows b)
    (hw : Rewrote c.repo i w s t) (hv : c.service ∉ w.inputFor ∧ c.service ∉ w.processedBy)
    (hsucc : w.successors = [])
    (hpred : s.rows.NewOutput c i → ∀ x ∈ w.predecessors, s.rows.Done c b x ∨ fl = some x) :
    Paired c fl ins t.rows b := by
  have hplaces : t.rows.records.map RecordRow.place = s.rows.records.map RecordRow.place :=
    hw.places
  have hi : s.rows.IsOutput c i := hw.isOutput
  -- the pairs of every record but the output rewritten stay
  have hnotout : ∀ x, ¬s.rows.IsOutput c x → Rows.SamePairs c s.rows t.rows x :=
    fun x hx => hw.samePairs fun hxi => hx (hxi ▸ hi)
  have hlast : t.rows.lastRecord = s.rows.lastRecord := hw.lastRecord
  refine ⟨fun row hrow hrepo => ?_, ⟨?_, fun e he => ?_, fun p hp => ?_, fun p hp => ?_⟩,
    hlast ▸ h.grown, ?_, fun x j hxj hj => ?_, fun m hm => ?_, fun x hx => ?_,
    fun x hin hpr => ?_⟩
  · -- outputs: a row of the repository keeps its place, and its own pairs are the record's
    have hold := (forall_place_congr hplaces fun p => p.2.1 = c.repo →
      (p.1, c.service) ∉ s.inputFor ∧ (p.1, c.service) ∉ s.processedBy).2 h.outputs row hrow hrepo
    show (row.id, c.service) ∉ t.inputFor ∧ (row.id, c.service) ∉ t.processedBy
    rw [hw.inputFor, hw.processedBy]
    simp only [not_or, not_and]
    exact ⟨⟨fun hs _ => hold.1 hs, fun _ => hv.1⟩, ⟨fun hs _ => hold.2 hs, fun _ => hv.2⟩⟩
  · exact hlast ▸ (forall_place_congr hplaces fun p => p.1 ≤ s.lastId .records).2
      h.fresh.records
  · rw [hlast]
    rcases hw.lineage e he with hold | ⟨-, h1, h2⟩
    · exact h.fresh.lineage e hold
    · exact ⟨h.hasRecord_le h1, h.hasRecord_le h2⟩
  · rw [hlast]
    rcases (hw.processedBy p).1 hp with ⟨hold, -⟩ | ⟨hpi, -⟩
    · exact h.fresh.processedBy p hold
    · exact hpi ▸ h.le_of_isOutput hi
  · rw [hlast]
    rcases (hw.inputFor p).1 hp with ⟨hold, -⟩ | ⟨hpi, -⟩
    · exact h.fresh.inputFor p hold
    · exact hpi ▸ h.le_of_isOutput hi
  · exact (forall_place_congr hplaces fun p => p.2.1 = c.repo → c.start.lastRecord < p.1 →
      p.2.2.1 = true ∨ ∃ bb, b = some bb ∧ p.2.2.2 = some bb.id).2 h.visible
  · -- lineage: an old edge keeps what it owed, a new one comes from a predecessor written
    have hj' : s.rows.NewOutput c j := (Rows.newOutput_congr hplaces j).1 hj
    have hdone : s.rows.Done c b x ∨ fl = some x := by
      rcases hw.lineage (x, j) hxj with hold | ⟨hjoin, -⟩
      · exact h.lineage x j hold hj'
      · rcases hjoin with ⟨hx, rfl⟩ | ⟨-, hq⟩
        · exact hpred hj' x hx
        · rw [hsucc] at hq
          exact absurd hq List.not_mem_nil
    rcases hdone with hd | hf
    · exact .inl (((hnotout x (h.not_output_of_done hd)).done rfl).2 hd)
    · exact .inr hf
  · obtain ⟨hsv, hinput⟩ := h.marks m hm
    exact ⟨hsv, (Rows.input_congr hplaces).2 hinput⟩
  · exact (Rows.input_congr hplaces).2 (h.inputs x hx)
  · rcases h.pairs x hin hpr with hm | hwait
    · exact .inl (((hnotout x (h.not_output_of_marked hm)).marked).2 hm)
    · exact .inr (((hnotout x (h.not_output_of_waiting hwait)).waiting).2 hwait)

/-- A rewrite of an output leaves every record done. -/
theorem done_rewrite {s t : Store} {i : Int} {w : Record} (h : Paired c fl ins s.rows b)
    (hw : Rewrote c.repo i w s t) (hx : s.rows.Done c b x) : t.rows.Done c b x := by
  have hne : x ≠ i := fun hxi => h.not_output_of_done hx (hxi ▸ hw.isOutput)
  exact ((hw.samePairs hne).done rfl).2 hx

end Paired

-- ---------------------------------------------------------------------------
-- Staging a new output
-- ---------------------------------------------------------------------------

namespace Inserted

variable {c : Scope} {repo : String} {w : Record} {batch : Option Nat} {i : Int} {s t : Store}

/-- A row after an insertion is an old row in its place, or the new one. -/
theorem place_cases (hw : Inserted repo w batch i s t) {row : RecordRow} (hrow : row ∈ t.records) :
    (∃ row' ∈ s.records, row'.place = row.place) ∨ row.place = (i, repo, batch.isNone, batch) := by
  have hmem : row.place ∈ t.records.map RecordRow.place := List.mem_map_of_mem hrow
  rw [hw.places, List.mem_append, List.mem_singleton] at hmem
  rcases hmem with hold | hnew
  · exact .inl (List.mem_map.1 hold)
  · exact .inr hnew

theorem samePairs (hw : Inserted repo w batch i s t) {x : Int} (hx : x ≠ i) :
    Rows.SamePairs c s.rows t.rows x := by
  refine ⟨?_, ?_⟩
  · show (x, c.service) ∈ t.processedBy ↔ (x, c.service) ∈ s.processedBy
    rw [hw.processedBy]
    simp [hx]
  · show (x, c.service) ∈ t.inputFor ↔ (x, c.service) ∈ s.inputFor
    rw [hw.inputFor]
    simp [hx]

/-- The old rows keep their places after an insertion. -/
theorem mem_old (hw : Inserted repo w batch i s t) {row : RecordRow} (hrow : row ∈ s.records) :
    ∃ row' ∈ t.records, row'.place = row.place := by
  have hmem : row.place ∈ t.records.map RecordRow.place := by
    rw [hw.places]
    exact List.mem_append_left _ (List.mem_map_of_mem hrow)
  exact List.mem_map.1 hmem

end Inserted

namespace Paired

variable {c : Scope} {fl : Option Int} {ins : List Int} {b : Option Batch}

/-- Staging a new output in the open batch keeps the invariant when the record written is no
input for the service and processed by it, has no successors, and comes only from records
that are done or in flight. The batch keeps its id and its marks. -/
theorem stage {s t : Store} {i : Int} {w : Record} {bb bb' : Batch}
    (h : Paired c fl ins s.rows (some bb)) (hw : Inserted c.repo w (some bb.id) i s t)
    (hid : bb'.id = bb.id) (hmarks : bb'.marks = bb.marks)
    (hv : c.service ∉ w.inputFor ∧ c.service ∉ w.processedBy) (hsucc : w.successors = [])
    (hpred : ∀ x ∈ w.predecessors, s.rows.Done c (some bb) x ∨ fl = some x) :
    Paired c fl ins t.rows (some bb') := by
  have hlast : t.rows.lastRecord = i := hw.lastRecord
  have hi : i = s.rows.lastRecord + 1 := hw.id
  -- every id stored before is below the new one
  have hold_lt : ∀ {x}, x ≤ s.rows.lastRecord → x ≠ i := fun hx hxi => by omega
  have hsame : ∀ {x}, x ≤ s.rows.lastRecord → Rows.SamePairs c s.rows t.rows x :=
    fun hx => hw.samePairs (hold_lt hx)
  have hmarks' : marksOf (some bb') = marksOf (some bb) := by simp [hmarks]
  -- an old id names an output, a new output or an input exactly as before
  have hisout : ∀ {x}, x ≤ s.rows.lastRecord → (t.rows.IsOutput c x ↔ s.rows.IsOutput c x) := by
    intro x hx
    constructor
    · rintro ⟨row, hrow, hrepo, rfl⟩
      rcases hw.place_cases hrow with ⟨row', hrow', hpl⟩ | hnew
      · simp only [RecordRow.place, Prod.mk.injEq] at hpl
        exact ⟨row', hrow', hpl.2.1 ▸ hrepo, hpl.1⟩
      · simp only [RecordRow.place, Prod.mk.injEq] at hnew
        exact absurd hnew.1 (hold_lt hx)
    · rintro ⟨row, hrow, hrepo, rfl⟩
      obtain ⟨row', hrow', hpl⟩ := hw.mem_old hrow
      simp only [RecordRow.place, Prod.mk.injEq] at hpl
      exact ⟨row', hrow', hpl.2.1 ▸ hrepo, hpl.1⟩
  have hinput : ∀ {x}, s.rows.Input c x → t.rows.Input c x := by
    intro x hx
    have hle := h.le_of_input hx
    obtain ⟨⟨row, hrow, rfl⟩, hno⟩ := hx
    obtain ⟨row', hrow', hpl⟩ := hw.mem_old hrow
    simp only [RecordRow.place, Prod.mk.injEq] at hpl
    exact ⟨⟨row', hrow', hpl.1⟩, fun hout => hno ((hisout hle).1 hout)⟩
  have hgrown := h.grown
  refine ⟨fun row hrow hrepo => ?_, ⟨fun row hrow => ?_, fun e he => ?_, fun p hp => ?_,
    fun p hp => ?_⟩, by omega, fun row hrow hrepo hnew => ?_, fun x j hxj hj => ?_,
    fun m hm => ?_, fun x hx => hinput (h.inputs x hx), fun x hin hpr => ?_⟩
  · -- outputs: an old row's pairs stay out; the new row's pairs are the record's
    show (row.id, c.service) ∉ t.inputFor ∧ (row.id, c.service) ∉ t.processedBy
    rw [hw.inputFor, hw.processedBy]
    rcases hw.place_cases hrow with ⟨row', hrow', hpl⟩ | hnew
    · simp only [RecordRow.place, Prod.mk.injEq] at hpl
      have hout := h.outputs row' hrow' (hpl.2.1 ▸ hrepo)
      have hne := hold_lt (h.fresh.records row' hrow')
      rw [hpl.1] at hout hne
      simp only [not_or, not_and]
      exact ⟨⟨hout.1, fun hri => absurd hri hne⟩, ⟨hout.2, fun hri => absurd hri hne⟩⟩
    · simp only [RecordRow.place, Prod.mk.injEq] at hnew
      rw [hnew.1]
      have hin : (i, c.service) ∉ s.inputFor := fun hin => by
        have := h.fresh.inputFor _ hin
        simp only at this
        omega
      have hpr : (i, c.service) ∉ s.processedBy := fun hpr => by
        have := h.fresh.processedBy _ hpr
        simp only at this
        omega
      simp only [not_or, not_and]
      exact ⟨⟨hin, fun _ => hv.1⟩, ⟨hpr, fun _ => hv.2⟩⟩
  · rw [hlast]
    rcases hw.place_cases hrow with ⟨row', hrow', hpl⟩ | hnew
    · simp only [RecordRow.place, Prod.mk.injEq] at hpl
      have := h.fresh.records row' hrow'
      omega
    · simp only [RecordRow.place, Prod.mk.injEq] at hnew
      omega
  · rw [hlast]
    rcases hw.lineage e he with hold | ⟨-, h1, h2⟩
    · have := h.fresh.lineage e hold
      omega
    · have hle : ∀ y, (y = i ∨ s.hasRecord y = true) → y ≤ i := by
        rintro y (rfl | hy)
        · exact le_rfl
        · have := h.hasRecord_le hy
          omega
      exact ⟨hle _ h1, hle _ h2⟩
  · rw [hlast]
    rcases (hw.processedBy p).1 hp with hold | ⟨hpi, -⟩
    · have := h.fresh.processedBy p hold
      omega
    · omega
  · rw [hlast]
    rcases (hw.inputFor p).1 hp with hold | ⟨hpi, -⟩
    · have := h.fresh.inputFor p hold
      omega
    · omega
  · -- visible: an old row keeps its place; the new row is staged by the batch
    rcases hw.place_cases hrow with ⟨row', hrow', hpl⟩ | hnew
    · simp only [RecordRow.place, Prod.mk.injEq] at hpl
      obtain ⟨hpid, hprepo, hpvis, hpbatch⟩ := hpl
      rcases h.visible row' hrow' (hprepo ▸ hrepo) (hpid ▸ hnew) with hvis | ⟨bb'', hbb, hbatch⟩
      · exact .inl (hpvis ▸ hvis)
      · cases hbb
        exact .inr ⟨bb', rfl, by rw [← hpbatch, hbatch, hid]⟩
    · simp only [RecordRow.place, Prod.mk.injEq, Option.isNone_some] at hnew
      exact .inr ⟨bb', rfl, by rw [hnew.2.2.2, hid]⟩
  · -- lineage: an old edge enters an old row; a new edge comes from a predecessor written
    rcases hw.lineage (x, j) hxj with hold | ⟨hjoin, -⟩
    · have hle : j ≤ s.rows.lastRecord := (h.fresh.lineage _ hold).2
      have hj' : s.rows.NewOutput c j := by
        obtain ⟨row, hrow, hrepo, hrid, hgt⟩ := hj
        obtain ⟨out, hout, hrepo', hoid⟩ := (hisout hle).1 ⟨row, hrow, hrepo, hrid⟩
        exact ⟨out, hout, hrepo', hoid, hgt⟩
      rcases h.lineage x j hold hj' with hd | hf
      · exact .inl (((hsame (h.le_of_done hd)).done hmarks').2 hd)
      · exact .inr hf
    · rcases hjoin with ⟨hx, rfl⟩ | ⟨-, hq⟩
      · rcases hpred x hx with hd | hf
        · exact .inl (((hsame (h.le_of_done hd)).done hmarks').2 hd)
        · exact .inr hf
      · rw [hsucc] at hq
        exact absurd hq List.not_mem_nil
  · rw [hmarks'] at hm
    obtain ⟨hsv, hin⟩ := h.marks m hm
    exact ⟨hsv, hinput hin⟩
  · rcases h.pairs x hin hpr with hm | hwait
    · exact .inl (((hsame (h.le_of_marked hm)).marked).2 hm)
    · exact .inr (((hsame (h.le_of_waiting hwait)).waiting).2 hwait)

end Paired

-- ---------------------------------------------------------------------------
-- Holding back a mark, ending and opening a batch, dropping an edge
-- ---------------------------------------------------------------------------

namespace Paired

variable {c : Scope} {fl : Option Int} {ins : List Int} {r : Rows} {b : Option Batch}

/-- An invariant with no input in flight holds with any. -/
theorem fly (h : Paired c none ins r b) (fl : Option Int) : Paired c fl ins r b :=
  { h with lineage := fun x j hxj hj => .inl ((h.lineage x j hxj hj).resolve_right nofun) }

/-- The inputs still held can be let go of one by one. -/
theorem drop {x : Int} (h : Paired c fl (x :: ins) r b) : Paired c fl ins r b :=
  { h with inputs := fun y hy => h.inputs y (List.mem_cons_of_mem x hy) }

/-- Holding back the mark of the input in flight settles it. -/
theorem hold {x : Int} {bb : Batch} (h : Paired c (some x) ins r (some bb)) (hx : r.Input c x) :
    Paired c none ins r (some (bb.mark x c.service)) := by
  have hmarks : marksOf (some (bb.mark x c.service)) = bb.marks ++ [(x, c.service)] := rfl
  refine ⟨h.outputs, h.fresh, h.grown, fun row hrow hrepo hnew => ?_, fun y j hyj hj => ?_,
    fun m hm => ?_, h.inputs, h.pairs⟩
  · rcases h.visible row hrow hrepo hnew with hvis | ⟨bb', hbb, hbatch⟩
    · exact .inl hvis
    · cases hbb
      exact .inr ⟨bb.mark x c.service, rfl, hbatch⟩
  · refine .inl ?_
    rcases h.lineage y j hyj hj with hd | hf
    · rcases hd with hm | hb
      · exact .inl hm
      · exact .inr (hmarks ▸ List.mem_append_left _ hb)
    · cases hf
      exact .inr (hmarks ▸ List.mem_append_right _ (List.mem_singleton_self _))
  · rw [hmarks, List.mem_append, List.mem_singleton] at hm
    rcases hm with hm | rfl
    · exact h.marks m (by simpa using hm)
    · exact ⟨rfl, hx⟩

@[simp] theorem publish_id (bb : Batch) (row : RecordRow) : (bb.publish row).id = row.id := by
  unfold Batch.publish
  split <;> rfl

@[simp] theorem publish_repo (bb : Batch) (row : RecordRow) : (bb.publish row).repo = row.repo := by
  unfold Batch.publish
  split <;> rfl

/-- Ending the batch keeps the invariant, with no batch open: its rows become visible and the
marks it held are applied. -/
theorem commit {s t : Store} {bb : Batch} (h : Paired c none ins s.rows (some bb))
    (hw : Committed bb s t) : Paired c none ins t.rows none := by
  have hrec : t.rows.records = s.rows.records.map bb.publish := hw.records
  have hlast : t.rows.lastRecord = s.rows.lastRecord := hw.lastRecord
  -- ids and repositories stay, so do outputs and inputs
  have hisout : ∀ x, t.rows.IsOutput c x ↔ s.rows.IsOutput c x := by
    intro x
    simp only [Rows.IsOutput, hrec, List.mem_map]
    constructor
    · rintro ⟨_, ⟨row, hrow, rfl⟩, hrepo, hid⟩
      exact ⟨row, hrow, by simpa using hrepo, by simpa using hid⟩
    · rintro ⟨row, hrow, hrepo, hid⟩
      exact ⟨_, ⟨row, hrow, rfl⟩, by simpa using hrepo, by simpa using hid⟩
  have hinput : ∀ x, s.rows.Input c x → t.rows.Input c x := by
    rintro x ⟨⟨row, hrow, rfl⟩, hno⟩
    refine ⟨⟨bb.publish row, ?_, publish_id bb row⟩, fun hout => hno ((hisout _).1 hout)⟩
    rw [hrec]
    exact List.mem_map_of_mem hrow
  -- a record done before is marked now
  have hmarked : ∀ x, s.rows.Done c (some bb) x → t.rows.Marked c x := by
    intro x hx
    rcases hx with ⟨hpr, hin⟩ | hb
    · exact ⟨(hw.processedBy _).2 (.inl hpr), fun ht => hin ((hw.inputFor _).1 ht).1⟩
    · exact ⟨(hw.processedBy _).2 (.inr hb), fun ht => ((hw.inputFor _).1 ht).2 hb⟩
  refine ⟨fun row hrow hrepo => ?_, ⟨fun row hrow => ?_, fun e he => ?_, fun p hp => ?_,
    fun p hp => ?_⟩, hlast ▸ h.grown, fun row hrow hrepo hnew => ?_, fun x j hxj hj => ?_,
    fun m hm => absurd hm List.not_mem_nil, fun x hx => hinput x (h.inputs x hx),
    fun x hin hpr => ?_⟩
  · rw [hrec] at hrow
    obtain ⟨row', hrow', rfl⟩ := List.mem_map.1 hrow
    rw [publish_repo] at hrepo
    have hout := h.outputs row' hrow' hrepo
    rw [publish_id]
    refine ⟨fun hin => hout.1 ((hw.inputFor _).1 hin).1, fun hpr => ?_⟩
    rcases (hw.processedBy _).1 hpr with hpr | hb
    · exact hout.2 hpr
    · exact (h.marks _ hb).2.2 ⟨row', hrow', hrepo, rfl⟩
  · rw [hrec] at hrow
    obtain ⟨row', hrow', rfl⟩ := List.mem_map.1 hrow
    rw [publish_id, hlast]
    exact h.fresh.records row' hrow'
  · rw [hlast]
    exact h.fresh.lineage e (show e ∈ s.lineage by rw [← hw.lineage]; exact he)
  · rw [hlast]
    rcases (hw.processedBy p).1 hp with hp | hb
    · exact h.fresh.processedBy p hp
    · exact h.le_of_input (h.marks p hb).2
  · rw [hlast]
    exact h.fresh.inputFor p ((hw.inputFor p).1 hp).1
  · -- a row staged by the batch is made visible
    rw [hrec] at hrow
    obtain ⟨row', hrow', rfl⟩ := List.mem_map.1 hrow
    rw [publish_repo] at hrepo
    rw [publish_id] at hnew
    refine .inl ?_
    unfold Batch.publish
    split
    · rfl
    · rename_i hne
      rcases h.visible row' hrow' hrepo hnew with hvis | ⟨bb', hbb, hbatch⟩
      · exact hvis
      · cases hbb
        exact absurd (by rw [hbatch]; exact beq_self_eq_true _) hne
  · have hj' : s.rows.NewOutput c j := by
      obtain ⟨row, hrow, hrepo, hid, hgt⟩ := hj
      rw [hrec] at hrow
      obtain ⟨row', hrow', rfl⟩ := List.mem_map.1 hrow
      exact ⟨row', hrow', by simpa using hrepo, by simpa using hid, hgt⟩
    have hxj' : (x, j) ∈ s.lineage := by rw [← hw.lineage]; exact hxj
    exact .inl (.inl (hmarked x ((h.lineage x j hxj' hj').resolve_right nofun)))
  · rcases h.pairs x hin hpr with hm | ⟨hwin, hwpr⟩
    · exact .inl (hmarked x (.inl hm))
    · by_cases hb : (x, c.service) ∈ bb.marks
      · exact .inl (hmarked x (.inr hb))
      · exact .inr ⟨(hw.inputFor _).2 ⟨hwin, hb⟩, fun ht => ((hw.processedBy _).1 ht).elim hwpr hb⟩

end Paired

namespace Paired

variable {c : Scope} {fl : Option Int} {ins : List Int} {r : Rows} {b : Option Batch}

/-- Opening a batch, with every output visible, keeps the invariant: the purge takes only
staged rows of the repository, which are no outputs of the pass and hold no pairs of an
input. -/
theorem start {s t : Store} {bb : Batch} (h : Paired c none ins s.rows none)
    (hw : Started c.repo bb s t) : Paired c none ins t.rows (some bb) := by
  have hlast : t.rows.lastRecord = s.rows.lastRecord := hw.lastRecord
  have hisout : ∀ x, t.rows.IsOutput c x → s.rows.IsOutput c x :=
    fun x ⟨row, hrow, hrepo, hid⟩ => ⟨row, hw.records row hrow, hrepo, hid⟩
  -- a record that is no output keeps its rows and its pairs
  have hkeep : ∀ x, ¬s.rows.IsOutput c x → ∀ row ∈ s.records, row.repo = c.repo → row.id ≠ x :=
    fun x hx row hrow hrepo hid => hx ⟨row, hrow, hrepo, hid⟩
  have hinput : ∀ x, s.rows.Input c x → t.rows.Input c x := by
    rintro x ⟨⟨row, hrow, rfl⟩, hno⟩
    refine ⟨⟨row, hw.kept row hrow (.inl fun hrepo => hno ⟨row, hrow, hrepo, rfl⟩), rfl⟩,
      fun hout => hno (hisout _ hout)⟩
  have hmarked : ∀ x, s.rows.Marked c x → t.rows.Marked c x := fun x hx =>
    ⟨hw.keptProcessed _ hx.1 (hkeep x (h.not_output_of_marked hx)),
      fun hin => hx.2 (hw.inputFor _ hin)⟩
  refine ⟨fun row hrow hrepo => ?_, ⟨fun row hrow => ?_, fun e he => ?_, fun p hp => ?_,
    fun p hp => ?_⟩, hlast ▸ h.grown, fun row hrow hrepo hnew => ?_, fun x j hxj hj => ?_,
    fun m hm => ?_, fun x hx => hinput x (h.inputs x hx), fun x hin hpr => ?_⟩
  · have hout := h.outputs row (hw.records row hrow) hrepo
    exact ⟨fun hin => hout.1 (hw.inputFor _ hin), fun hpr => hout.2 (hw.processedBy _ hpr)⟩
  · rw [hlast]
    exact h.fresh.records row (hw.records row hrow)
  · rw [hlast]
    exact h.fresh.lineage e (hw.lineage e he)
  · rw [hlast]
    exact h.fresh.processedBy p (hw.processedBy p hp)
  · rw [hlast]
    exact h.fresh.inputFor p (hw.inputFor p hp)
  · exact .inl ((h.visible row (hw.records row hrow) hrepo hnew).resolve_right
      fun ⟨_, hnone, _⟩ => nomatch hnone)
  · have hj' : s.rows.NewOutput c j :=
      let ⟨row, hrow, hrepo, hid, hgt⟩ := hj
      ⟨row, hw.records row hrow, hrepo, hid, hgt⟩
    have hd := (h.lineage x j (hw.lineage _ hxj) hj').resolve_right nofun
    exact .inl (.inl (hmarked x (hd.resolve_right nofun)))
  · rw [marksOf_some, hw.marks] at hm
    exact absurd hm List.not_mem_nil
  · rcases h.pairs x hin hpr with hm | hwait
    · exact .inl (hmarked x hm)
    · exact .inr ⟨hw.keptInput _ hwait.1 (hkeep x (h.not_output_of_waiting hwait)),
        fun hp => hwait.2 (hw.processedBy _ hp)⟩

/-- Dropping a lineage edge keeps the invariant. -/
theorem dropEdge {s : Store} {p q : Int} (h : Paired c fl ins s.rows b) :
    Paired c fl ins ({ s with lineage := s.lineage.filter (· != (p, q)) } : Store).rows b :=
  ⟨h.outputs, ⟨h.fresh.records, fun e he => h.fresh.lineage e (List.mem_filter.1 he).1,
    h.fresh.processedBy, h.fresh.inputFor⟩, h.grown, h.visible,
    fun x j hxj hj => h.lineage x j (List.mem_filter.1 hxj).1 hj, h.marks, h.inputs, h.pairs⟩

-- ---------------------------------------------------------------------------
-- With no batch open
-- ---------------------------------------------------------------------------

/-- With no batch open, every output of the pass is visible. -/
theorem outputs_visible (h : Paired c fl ins r none) {row : RecordRow} (hrow : row ∈ r.records)
    (hrepo : row.repo = c.repo) (hnew : c.start.lastRecord < row.id) : row.visible = true :=
  (h.visible row hrow hrepo hnew).resolve_right fun ⟨_, hnone, _⟩ => nomatch hnone

/-- With no batch open and no input in flight, every record an output of the pass comes
from is marked processed. -/
theorem inputs_marked (h : Paired c none ins r none) {x i : Int} (hxi : (x, i) ∈ r.lineage)
    (hi : r.NewOutput c i) : r.Marked c x :=
  (((h.lineage x i hxi hi).resolve_right nofun).resolve_right nofun)

end Paired

end Catalog.Store
