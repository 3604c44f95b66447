import Catalog.Proofs.Engine.Frame
import Catalog.Proofs.Store.Pairing

/-!
# What a service returns for an input

A pass hands each input to its service, which returns the outputs to store. Which outputs
the pass may store, without losing the pairing of its outputs with the marks of their inputs
(`Paired`), is said by `Fine`: an output is neither input for the service nor processed by
it, names no successor, a new output comes from nothing yet, and a stored output comes only
from inputs that are marked processed or whose marks the open batch holds.

Every service returns such outputs, and either at most one, or only outputs already stored
for the input itself (`Returned`). This holds of the copying, normalizing and aggregating
services alike, on every path: the outputs they return are stored outputs read back from the
store, or new records. Along the way they keep the pass's invariant (`Kept`), also when they
fail: the only rows an aggregation changes are lineage edges that it drops.

## Main results

* `Kept`: the invariant of a pass's state, and `Fine`, `Returned`
* `fine_of_view`, `existingSuccessors_spec`: stored outputs read back are fine
* `copy_spec`, `normalize_spec`, `aggregate_spec`, `processWith_spec`
* `normalize_deleted_outputs`: a deleted input gets no new output
* `refresh_keeps_manifestation_iff_object`: when a refreshed output keeps its manifestation
  number
-/

namespace Catalog.Engine

open Catalog.Store Catalog.Site Catalog.Pipeline Catalog.Service Std.Do

variable {α β ε : Type}

-- ---------------------------------------------------------------------------
-- The invariant of a pass
-- ---------------------------------------------------------------------------

/-- The invariant of a pass of the service `c.service` into the repository `c.repo`, over the
key of its state: no trigger is set off, the pass is the service's, no directive routes the
service's outputs back to it, the open batch is the repository's, and the pass's outputs are
paired with the marks of their inputs, with `fl` in flight and `ins` still held. -/
structure Kept (c : Scope) (fl : Option Int) (ins : List Int) (k : Key) : Prop where
  quiet : k.rows.replay = false
  service : k.info.id = c.service
  repo : k.info.repoName = c.repo
  routes : ∀ d ∈ k.directives, d.target ≠ c.service
  onRepo : ∀ bb, k.batch = some bb → bb.repo = c.repo
  paired : Paired c fl ins k.rows k.batch

variable {c : Scope} {fl : Option Int} {ins : List Int}

theorem At.of_and {k : Key} {st : Site × Pass} {P : Prop} (h : At k st ∧ P) : At k st := h.1

theorem Kept.at {st : Site × Pass} (h : Kept c fl ins (key st)) : At (key st) st :=
  ⟨rfl, h.quiet⟩

theorem Kept.of_at {k : Key} {st : Site × Pass} (hs : At k st) (h : Kept c fl ins k) :
    Kept c fl ins (key st) :=
  hs.1 ▸ h

-- ---------------------------------------------------------------------------
-- Outputs a pass may store
-- ---------------------------------------------------------------------------

/-- An output that a pass with key `k` may store: it is neither input for the service nor
processed by it, it names no successor, a new record comes from nothing yet, and a stored
output of the pass comes only from records that are done. -/
structure Fine (c : Scope) (k : Key) (o : Record) : Prop where
  notInput : c.service ∉ o.inputFor
  notProcessed : c.service ∉ o.processedBy
  noSuccessors : o.successors = []
  fresh : o.id = none → o.predecessors = []
  owed : ∀ i, o.id = some i → k.rows.NewOutput c i → ∀ p ∈ o.predecessors,
    k.rows.Done c k.batch p

/-- What a service returns for the input `x`: outputs the pass may store, and either at most
one of them, or only stored outputs that come from `x`. -/
def Returned (c : Scope) (x : Int) (os : List Record) (k : Key) : Prop :=
  (∀ o ∈ os, Fine c k o) ∧ (os.length ≤ 1 ∨ ∀ o ∈ os, o.id.isSome ∧ x ∈ o.predecessors)

/-- Only the id, the lineage and the services of an output decide whether it is fine. -/
theorem Fine.of_eq {k : Key} {o o' : Record} (h : Fine c k o) (hid : o'.id = o.id)
    (hpred : o'.predecessors = o.predecessors) (hsucc : o'.successors = o.successors)
    (hin : o'.inputFor = o.inputFor) (hpb : o'.processedBy = o.processedBy) : Fine c k o' :=
  ⟨hin ▸ h.notInput, hpb ▸ h.notProcessed, hsucc ▸ h.noSuccessors,
    fun hnone => hpred ▸ h.fresh (hid ▸ hnone),
    fun i hi hnew p hp => h.owed i (hid ▸ hi) hnew p (hpred ▸ hp)⟩

/-- A new record is fine. -/
theorem fine_new (k : Key) (oaiId format : String) : Fine c k (Record.new oaiId format) :=
  ⟨nofun, nofun, rfl, fun _ => rfl, nofun⟩

-- ---------------------------------------------------------------------------
-- Stored outputs read back
-- ---------------------------------------------------------------------------

theorem mem_seconds {xs : List (Int × Int)} {a b : Int} : b ∈ seconds xs a ↔ (a, b) ∈ xs := by
  simp [seconds]

theorem mem_firsts {xs : List (Int × Int)} {a b : Int} : a ∈ firsts xs b ↔ (a, b) ∈ xs := by
  simp [firsts]

theorem mem_predecessorIds {s : Store} {p i : Int} : p ∈ s.predecessorIds i ↔ (p, i) ∈ s.lineage := by
  simp [predecessorIds, mem_firsts]

theorem mem_successorIds {s : Store} {x i : Int} : i ∈ s.successorIds x ↔ (x, i) ∈ s.lineage := by
  simp [successorIds, mem_seconds]

/-- Every element a fallible filter-map returns comes from an element of the list. -/
theorem mem_of_filterMapM_ok {f : α → Except ε (Option β)} {xs : List α} {ys : List β}
    (h : xs.filterMapM f = .ok ys) {y : β} (hy : y ∈ ys) : ∃ x ∈ xs, f x = .ok (some y) := by
  induction xs generalizing ys with
  | nil =>
    cases h
    exact absurd hy List.not_mem_nil
  | cons a as ih =>
    rw [List.filterMapM_cons] at h
    rcases hfa : f a with e | _ | b <;> rw [hfa] at h
    · exact nomatch h
    · obtain ⟨x, hx, hfx⟩ := ih h hy
      exact ⟨x, List.mem_cons_of_mem a hx, hfx⟩
    · rcases hrest : as.filterMapM f with e | zs <;> rw [hrest] at h
      · exact nomatch h
      · cases h
        rcases List.mem_cons.1 hy with rfl | hz
        · exact ⟨a, List.mem_cons_self .., hfa⟩
        · obtain ⟨x, hx, hfx⟩ := ih hrest hz
          exact ⟨x, List.mem_cons_of_mem a hx, hfx⟩

/-- A record a batch reads back is the view of a row of its repository. -/
theorem Batch.get?_ok {b : Batch} {s : Store} {i : Int} {o : Record}
    (h : b.get? s i = .ok (some o)) :
    ∃ row ∈ s.records, row.id = i ∧ row.repo = b.repo ∧ s.view row = .ok o := by
  unfold Batch.get? at h
  rcases hrow : (s.findRow? b.repo i).filter (fun row => row.visible || b.isStaged i) with
    _ | row <;> rw [hrow] at h
  · exact nomatch h
  · obtain ⟨hfind, -⟩ := Option.filter_eq_some_iff.1 hrow
    replace hfind : s.records.find? (fun row => row.id == i && row.repo == b.repo) = some row :=
      hfind
    have hp := List.find?_some hfind
    simp only [Bool.and_eq_true, beq_iff_eq] at hp
    rcases hview : s.view row with e | r <;> simp [hview] at h
    exact ⟨row, List.mem_of_find?_eq_some hfind, hp.1, hp.2, h ▸ hview⟩

/-- What reading a row gives: its id, its predecessors from the lineage, no successors,
and its services from the relations. -/
theorem view_ok {s : Store} {row : RecordRow} {o : Record} (h : s.view row = .ok o) :
    o.id = some row.id ∧ o.predecessors = s.predecessorIds row.id ∧ o.successors = [] ∧
      o.inputFor = SortedList.ofList (seconds s.inputFor row.id) ∧
      o.processedBy = SortedList.ofList (seconds s.processedBy row.id) := by
  unfold view at h
  rcases hdoc : row.document with e | payload <;> rw [hdoc] at h
  · exact nomatch h
  · cases h
    exact ⟨rfl, rfl, rfl, rfl, rfl⟩

/-- A row of the pass's repository, read back while no input is in flight, is an output the
pass may store. -/
theorem fine_of_view {k : Key} {s : Store} (h : Kept c none ins k) (hrows : k.rows = s.rows)
    {row : RecordRow} (hrow : row ∈ s.records) (hrepo : row.repo = c.repo) {o : Record}
    (hv : s.view row = .ok o) : Fine c k o := by
  obtain ⟨hid, hpred, hsucc, hin, hpb⟩ := view_ok hv
  have hpaired : Paired c none ins s.rows k.batch := hrows ▸ h.paired
  have hout := hpaired.outputs row hrow hrepo
  refine ⟨?_, ?_, hsucc, fun hnone => (nomatch hid.symm.trans hnone), ?_⟩
  · rw [hin, SortedList.mem_ofList, mem_seconds]
    exact hout.1
  · rw [hpb, SortedList.mem_ofList, mem_seconds]
    exact hout.2
  · intro i hi hnew p hp
    rw [hid, Option.some.injEq] at hi
    subst hi
    rw [hpred, mem_predecessorIds] at hp
    rw [hrows] at hnew ⊢
    exact (hpaired.lineage p row.id hp hnew).resolve_right nofun

/-- The successors of a record read back through a batch are stored records that come
from it. -/
theorem from_of_read {s : Store} {b : Batch} {x : Int} {os : List Record}
    (hread : (s.successorIds x).filterMapM (b.get? s) = .ok os) :
    ∀ o ∈ os, o.id.isSome ∧ x ∈ o.predecessors := by
  intro o ho
  obtain ⟨j, hj, hget⟩ := mem_of_filterMapM_ok hread ho
  obtain ⟨row, -, rfl, -, hv⟩ := Batch.get?_ok hget
  obtain ⟨hid, hpred, -⟩ := view_ok hv
  refine ⟨by simp [hid], ?_⟩
  rw [hpred, mem_predecessorIds, ← mem_successorIds]
  exact hj

/-- The stored outputs of `x` that a batch reads back are outputs the pass may store, and come
from `x`. -/
theorem fine_of_read {k : Key} {s : Store} {b : Batch} (h : Kept c none ins k)
    (hrows : k.rows = s.rows) (hb : k.batch = some b) {x : Int} {os : List Record}
    (hread : (s.successorIds x).filterMapM (b.get? s) = .ok os) :
    ∀ o ∈ os, Fine c k o ∧ o.id.isSome ∧ x ∈ o.predecessors := by
  intro o ho
  obtain ⟨j, -, hget⟩ := mem_of_filterMapM_ok hread ho
  obtain ⟨row, hrow, rfl, hrepo, hv⟩ := Batch.get?_ok hget
  exact ⟨fine_of_view h hrows hrow (hrepo.trans (h.onRepo b hb)) hv, from_of_read hread o ho⟩

-- ---------------------------------------------------------------------------
-- The services
-- ---------------------------------------------------------------------------

/-- The stored outputs of an input that a service reads back are outputs the pass may store,
and come from the input. -/
theorem existingSuccessors_spec {k : Key} (hk : Kept c none ins k) (x : Int) :
    ⦃fun st => ⌜At k st⌝⦄ existingSuccessors x
    ⦃post⟨fun os st => ⌜At k st ∧ ∀ o ∈ os, Fine c k o ∧ o.id.isSome ∧ x ∈ o.predecessors⌝,
      fun _ st => ⌜At k st⌝⟩⦄ := by
  mvcgen [existingSuccessors, outputBatch, current, fail]
  rename_i hat₀ b hb _ _
  intro hat hread
  have hb' : k.batch = some b := by rw [← hat₀.1]; exact hb
  exact ⟨hat, fine_of_read hk (hat.1 ▸ rfl) hb' hread⟩

/-- The stored outputs of an input that a service reads back come from the input, whatever
the pass's state. -/
theorem existingSuccessors_from (k : Key) (x : Int) :
    ⦃fun st => ⌜At k st⌝⦄ existingSuccessors x
    ⦃post⟨fun os _ => ⌜∀ o ∈ os, o.id.isSome ∧ x ∈ o.predecessors⌝, fun _ _ => ⌜True⌝⟩⦄ := by
  mvcgen [existingSuccessors, outputBatch, current, fail]
  exact fun _ hread => from_of_read hread

theorem requireId_ok {r : Record} {a : Int} (h : r.requireId = .ok a) : r.id = some a := by
  unfold Record.requireId at h
  split at h <;> cases h
  assumption

/-- Outputs read back, changed in other fields than their id, lineage and services, are what a
service may return. -/
theorem Returned.map {k : Key} {x : Int} {os : List Record} {f : Record → Record}
    (hf : ∀ o, (f o).id = o.id ∧ (f o).predecessors = o.predecessors ∧
      (f o).successors = o.successors ∧ (f o).inputFor = o.inputFor ∧
      (f o).processedBy = o.processedBy)
    (h : ∀ o ∈ os, Fine c k o ∧ o.id.isSome ∧ x ∈ o.predecessors) : Returned c x (os.map f) k := by
  refine ⟨fun o' ho' => ?_, .inr fun o' ho' => ?_⟩ <;> obtain ⟨o, ho, rfl⟩ := List.mem_map.1 ho'
  · obtain ⟨hid, hpred, hsucc, hin, hpb⟩ := hf o
    exact (h o ho).1.of_eq hid hpred hsucc hin hpb
  · rw [(hf o).1, (hf o).2.1]
    exact (h o ho).2

theorem Returned.of_stored {k : Key} {x : Int} {os : List Record}
    (h : ∀ o ∈ os, Fine c k o ∧ o.id.isSome ∧ x ∈ o.predecessors) : Returned c x os k :=
  ⟨fun o ho => (h o ho).1, .inr fun o ho => (h o ho).2⟩

theorem Returned.single {k : Key} {x : Int} {o : Record} (h : Fine c k o) : Returned c x [o] k :=
  ⟨by simpa using h, .inl (by simp)⟩

theorem copy_spec (script : Script) (seen : Nat) {r : Record} {x : Int} (hx : r.id = some x)
    {k : Key} (hk : Kept c none ins k) :
    ⦃fun st => ⌜At k st⌝⦄ copy script seen r
    ⦃post⟨fun os st => ⌜At k st ∧ Returned c x os k⌝, fun _ st => ⌜At k st⌝⟩⦄ := by
  have hread := existingSuccessors_spec hk
  mvcgen [copy, fail, Engine.ofOutcome, hread]
  -- a deleted input: its stored outputs, deleted
  · rename_i a ha _ _ _ h
    obtain rfl : a = x := Option.some.inj ((requireId_ok ha).symm.trans hx)
    exact ⟨h.1, Returned.map (fun _ => ⟨rfl, rfl, rfl, rfl, rfl⟩) h.2⟩
  -- the output made before, with the input's payload
  · rename_i _ _ _ _ _ prev _ _ _ h
    exact ⟨h.1, Returned.single ((h.2 prev (List.mem_cons_self ..)).1.of_eq rfl rfl rfl rfl rfl)⟩
  · exact ‹At k _ ∧ _›.1
  -- a new record
  · rename_i oaiId _ _
    exact ⟨‹_›, Returned.single ((fine_new k oaiId r.format).of_eq rfl rfl rfl rfl rfl)⟩

theorem normalize_spec {r : Record} {x : Int} (hx : r.id = some x) {k : Key}
    (hk : Kept c none ins k) :
    ⦃fun st => ⌜At k st⌝⦄ normalize r
    ⦃post⟨fun os st => ⌜At k st ∧ Returned c x os k⌝, fun _ st => ⌜At k st⌝⟩⦄ := by
  have hread := existingSuccessors_spec hk
  mvcgen [Service.normalize, fail, update, Engine.ofOutcome, hread]
  -- a deleted input: its stored outputs not yet deleted, deleted
  · rename_i a ha _ _ _ h
    obtain rfl : a = x := Option.some.inj ((requireId_ok ha).symm.trans hx)
    exact ⟨h.1, Returned.map (fun _ => ⟨rfl, rfl, rfl, rfl, rfl⟩)
      fun o ho => h.2 o (List.mem_of_mem_filter ho)⟩
  -- the output made before, with the cleaned payload
  · rename_i _ _ _ h _ _ prev _ hcons
    exact ⟨h.1, Returned.single
      ((h.2 prev (hcons ▸ List.mem_cons_self ..)).1.of_eq rfl rfl rfl rfl rfl)⟩
  · exact ‹At k _ ∧ _›.1
  -- a new record
  · rename_i oaiId _ _
    exact ⟨‹_›, Returned.single ((fine_new k oaiId r.format).of_eq rfl rfl rfl rfl rfl)⟩
  · exact ‹At k _ ∧ _›.1

/-- Two keys that agree on what decides whether an output is fine: the records, the services'
marks, and the open batch. -/
structure SameDone (k k' : Key) : Prop where
  records : k'.rows.records = k.rows.records
  processedBy : k'.rows.processedBy = k.rows.processedBy
  inputFor : k'.rows.inputFor = k.rows.inputFor
  batch : k'.batch = k.batch

theorem SameDone.refl (k : Key) : SameDone k k := ⟨rfl, rfl, rfl, rfl⟩

theorem Fine.congr {k k' : Key} {o : Record} (h : Fine c k o) (hk : SameDone k k') :
    Fine c k' o := by
  refine ⟨h.notInput, h.notProcessed, h.noSuccessors, h.fresh, fun i hi hnew p hp => ?_⟩
  have hnew' : k.rows.NewOutput c i := by
    unfold Rows.NewOutput at hnew ⊢
    rwa [← hk.records]
  have hdone := h.owed i hi hnew' p hp
  unfold Rows.Done Rows.Marked at hdone ⊢
  rwa [hk.processedBy, hk.inputFor, hk.batch]

theorem Returned.congr {k k' : Key} {x : Int} {os : List Record} (h : Returned c x os k)
    (hk : SameDone k k') : Returned c x os k' :=
  ⟨fun o ho => (h.1 o ho).congr hk, h.2⟩

/-- A state with key `k` keeps the invariant and agrees with `k` on what decides whether an
output is fine. -/
theorem Kept.at_key {k : Key} {st : Site × Pass} (h : Kept c fl ins k) (hs : At k st) :
    Kept c fl ins (key st) ∧ SameDone k (key st) := by
  obtain ⟨rfl, -⟩ := hs
  exact ⟨h, SameDone.refl _⟩

theorem SameDone.of_at {k₀ k : Key} {st : Site × Pass} (h : SameDone k₀ k) (hs : At k st) :
    SameDone k₀ (key st) :=
  hs.1 ▸ h

/-- The state a pass's store is left in by dropping a lineage edge. -/
def dropEdge (st : Site × Pass) (p q : Int) : Site × Pass :=
  ({ st.1 with store := { st.1.store with lineage := st.1.store.lineage.filter (· != (p, q)) } },
    st.2)

/-- Dropping a lineage edge keeps the invariant. -/
theorem Kept.dropEdge {st : Site × Pass} (h : Kept c fl ins (key st)) (p q : Int) :
    Kept c fl ins (key (dropEdge st p q)) :=
  ⟨h.quiet, h.service, h.repo, h.routes, h.onRepo, h.paired.dropEdge⟩

theorem SameDone.dropEdge {k₀ : Key} {st : Site × Pass} (h : SameDone k₀ (key st)) (p q : Int) :
    SameDone k₀ (key (dropEdge st p q)) :=
  ⟨h.records, h.processedBy, h.inputFor, h.batch⟩

/-- The output of the first candidate that has one is an output the pass may store. -/
theorem matchedOutput_spec {k : Key} (hk : Kept c none ins k) :
    ∀ cands : List Int, ⦃fun st => ⌜At k st⌝⦄ matchedOutput cands
    ⦃post⟨fun o? st => ⌜At k st ∧ ∀ o, o? = some o → Fine c k o⌝, fun _ st => ⌜At k st⌝⟩⦄
  | [] => by
    mvcgen [matchedOutput]
    exact ⟨‹_›, nofun⟩
  | cand :: rest => by
    have hread := existingSuccessors_spec hk
    have ih := matchedOutput_spec hk rest
    mvcgen [matchedOutput, hread, ih]
    · rename_i h
      refine ⟨h.1, fun o ho => ?_⟩
      cases ho
      exact (h.2 _ (List.mem_cons_self ..)).1
    · exact ‹At k _ ∧ _›.1

/-- Withdrawing a deleted input from one of its outputs keeps the invariant, and adds to the
outputs to store at most that output, deleted. -/
theorem retractFrom_spec {k₀ : Key} (x : Int) (acc : List Record) (o : Record) :
    ⦃fun st => ⌜Kept c none ins (key st) ∧ SameDone k₀ (key st)⌝⦄
    retractFrom x acc o
    ⦃post⟨fun acc' st => ⌜Kept c none ins (key st) ∧ SameDone k₀ (key st) ∧
        ∀ o' ∈ acc', o' ∈ acc ∨ o' = { o with status := .deleted }⌝,
      fun _ st => ⌜Kept c none ins (key st) ∧ SameDone k₀ (key st)⌝⟩⦄ := by
  mvcgen -trivial [retractFrom, Engine.ofOutcome, onSite_atomically]
  all_goals try exact Kept.at ‹_ ∧ _›.1
  · rename_i h₀ _ _ _ _ _ hat
    exact ⟨trivial, (Kept.of_at hat.1 h₀.1).quiet⟩
  -- an output another live input backs: the edge from the input is dropped
  · rename_i h₀ _ _ _ _ _ hat _ _ hrun
    obtain ⟨t, hrun, rfl⟩ := hrun
    rw [removeLineage_eq hrun]
    exact ⟨(Kept.of_at hat.1 h₀.1).dropEdge x _, (h₀.2.of_at hat.1).dropEdge x _,
      fun o' ho' => .inl ho'⟩
  · rename_i h₀ _ _ _ _ _ hat _ _
    rintro - rfl
    exact ⟨Kept.of_at hat.1 h₀.1, h₀.2.of_at hat.1⟩
  -- an output the input alone backed: it is deleted
  · rename_i h₀ _ _ _ _ _ _ hat
    refine ⟨Kept.of_at hat.1 h₀.1, h₀.2.of_at hat.1, fun o' ho' => ?_⟩
    rcases List.mem_append.1 ho' with hacc | hnew
    · exact .inl hacc
    · exact .inr (List.mem_singleton.1 hnew)
  · rename_i h₀ _ _ _ _ _ _ hat
    exact ⟨Kept.of_at hat.1 h₀.1, h₀.2.of_at hat.1, fun o' ho' => .inl ho'⟩
  · rename_i h₀ _ _ _ _
    exact fun hat => ⟨Kept.of_at hat h₀.1, h₀.2.of_at hat⟩
  · rename_i h₀ _ _
    exact h₀

/-- Withdrawing a deleted input keeps the invariant, and gives stored outputs of the input. -/
theorem retract_spec {k₀ : Key} (hk : Kept c none ins k₀) (x : Int) :
    ⦃fun st => ⌜At k₀ st⌝⦄ retract x
    ⦃post⟨fun os st => ⌜Kept c none ins (key st) ∧ SameDone k₀ (key st) ∧
        ∀ o ∈ os, Fine c k₀ o ∧ o.id.isSome ∧ x ∈ o.predecessors⌝,
      fun _ st => ⌜Kept c none ins (key st) ∧ SameDone k₀ (key st)⌝⟩⦄ := by
  have hread := existingSuccessors_spec hk x
  have hstep := @retractFrom_spec c ins k₀ x
  -- the outputs to store so far are the outputs already withdrawn from, deleted
  mvcgen [retract, hread, hstep] invariants
    · post⟨fun ⟨cur, acc⟩ st => ⌜Kept c none ins (key st) ∧ SameDone k₀ (key st) ∧
          ∀ o' ∈ acc, ∃ o ∈ cur.prefix, o' = { o with status := .deleted }⌝,
        fun _ st => ⌜Kept c none ins (key st) ∧ SameDone k₀ (key st)⌝⟩
  · rename_i h
    exact ⟨(hk.at_key h.1).1, (hk.at_key h.1).2, nofun⟩
  -- every output to store is a stored output of the input, deleted
  · rename_i h _ _
    intro hkept hsame hres
    refine ⟨hkept, hsame, fun o' ho' => ?_⟩
    obtain ⟨o, ho, rfl⟩ := hres o' ho'
    obtain ⟨hfine, hid, hx⟩ := h.2 o ho
    exact ⟨hfine.of_eq rfl rfl rfl rfl rfl, hid, hx⟩
  · rename_i h
    exact ⟨h.1, h.2.1⟩
  · rename_i _ cur _ _ _ _ h _
    intro st hkept hsame hres
    refine ⟨hkept, hsame, fun o' ho' => ?_⟩
    rcases hres o' ho' with hb | rfl
    · obtain ⟨o, ho, rfl⟩ := h.2.2 o' hb
      exact ⟨o, List.mem_append_left _ ho, rfl⟩
    · exact ⟨cur, List.mem_append_right _ (List.mem_singleton_self _), rfl⟩
  · exact hk.at_key
  · exact hk.at_key

/-- An output whose payload is refreshed is fine when it was. -/
theorem fine_refresh {k : Key} {o : Record} (h : Fine c k o) (b : Bool) (p : Json) :
    Fine c k (if b then { o with payload := p } else o) := by
  split
  · exact h.of_eq rfl rfl rfl rfl rfl
  · exact h

theorem lookup_insertMember (k : String) (v : Json) (ms : List (String × Json)) :
    (Json.insertMember k v ms).lookup k = some v := by
  induction ms with
  | nil => simp [Json.insertMember]
  | cons kv rest ih =>
    obtain ⟨k', v'⟩ := kv
    unfold Json.insertMember
    by_cases hlt : k < k'
    · simp [hlt]
    by_cases heq : k = k'
    · simp [heq]
    · have hne : (k == k') = false := beq_eq_false_iff_ne.2 heq
      simp [hlt, heq, List.lookup, hne, ih]

theorem aggregate_spec {r : Record} {x : Int} (hx : r.id = some x) {k₀ : Key}
    (hk : Kept c none ins k₀) :
    ⦃fun st => ⌜At k₀ st⌝⦄ aggregate r
    ⦃post⟨fun os st => ⌜Kept c none ins (key st) ∧ SameDone k₀ (key st) ∧ Returned c x os k₀⌝,
      fun _ st => ⌜Kept c none ins (key st) ∧ SameDone k₀ (key st)⌝⟩⦄ := by
  have hret := retract_spec hk
  have hread := existingSuccessors_spec hk
  have hmatch := matchedOutput_spec hk
  have hlinks := fun (a : Int) cands => forM_stays (fun b k => onSite_addLink a b k) cands
  mvcgen [aggregate, Engine.ofOutcome, hret, hread, hmatch, hlinks]
  -- a deleted input is withdrawn
  · rename_i a ha _ _ _
    obtain rfl : a = x := Option.some.inj ((requireId_ok ha).symm.trans hx)
    exact fun hkept hsame hos => ⟨hkept, hsame, Returned.of_stored hos⟩
  all_goals first
    | exact At.of_and ‹_›
    | exact fun hat => hk.at_key hat
    | exact hk.at_key ‹_›
    | exact hk.at_key (At.of_and ‹_›)
    | exact fun hkept hsame => ⟨hkept, hsame⟩
    | skip
  -- the input's own output: its payload is refreshed while the input alone backs it
  · rename_i h
    obtain ⟨hkept, hsame⟩ := hk.at_key h.1
    refine ⟨hkept, hsame, Returned.single ?_⟩
    refine Fine.of_eq (o := if _ then _ else _) ?_ rfl rfl rfl rfl rfl
    exact fine_refresh (h.2 _ (List.mem_cons_self ..)).1 _ _
  -- the output of a matched record
  · rename_i h
    obtain ⟨hkept, hsame⟩ := hk.at_key h.1
    exact ⟨hkept, hsame, Returned.single ((h.2 _ rfl).of_eq rfl rfl rfl rfl rfl)⟩
  -- a new record, numbered as a new manifestation
  · rename_i oaiId _ hat
    obtain ⟨hkept, hsame⟩ := hk.at_key hat
    exact ⟨hkept, hsame, Returned.single ((fine_new k₀ oaiId r.format).of_eq rfl rfl rfl rfl rfl)⟩
  -- a new record
  · rename_i oaiId _ hat
    obtain ⟨hkept, hsame⟩ := hk.at_key hat
    exact ⟨hkept, hsame, Returned.single ((fine_new k₀ oaiId r.format).of_eq rfl rfl rfl rfl rfl)⟩

-- ---------------------------------------------------------------------------
-- Any service
-- ---------------------------------------------------------------------------

/-- **Every service returns outputs the pass may store**, and keeps the invariant of the
pass, whether it succeeds or fails. -/
theorem processWith_spec {r : Record} {x : Int} (hx : r.id = some x) {k₀ : Key}
    (hk : Kept c none ins k₀) :
    ⦃fun st => ⌜At k₀ st⌝⦄ processWith r
    ⦃post⟨fun os st => ⌜Kept c none ins (key st) ∧ SameDone k₀ (key st) ∧ Returned c x os k₀⌝,
      fun _ st => ⌜Kept c none ins (key st) ∧ SameDone k₀ (key st)⌝⟩⦄ := by
  have hnormalize := normalize_spec hx hk
  have hcopy := fun script seen => copy_spec script seen hx hk
  have haggregate := aggregate_spec hx hk
  mvcgen [processWith, current, hnormalize, hcopy, haggregate]
  all_goals first
    | exact fun hat hret => ⟨(hk.at_key hat).1, (hk.at_key hat).2, hret⟩
    | exact fun hat => hk.at_key hat

end Catalog.Engine
