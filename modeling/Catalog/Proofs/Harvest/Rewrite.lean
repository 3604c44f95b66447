import Catalog.Harvest.Runner
import Catalog.Proofs.SortedList
import Mathlib.Logic.Function.Iterate

/-!
# What storing the same harvested records twice does to a record

A harvest step stores each record a provider sent in the record its OAI identifier names. Read
back, the stored record has the sent format, sets and status, and the sent payload unless the
sent record is a deletion, in which case it keeps its payload. Its service marks move: a
deletion sends it back to every service that processed it, any other record makes it input for
the services the provider's directives route it to. This module states that effect on the
record as it reads back (`Harvested.rewrite`), and on what an identifier reads as before and
after a list of sent records (`StoresAll`).

Storing the same records again changes payloads only: the marks have moved already, and format,
sets and status are those of the last record sent. A payload is written as its JSON text and
read back as that text reads, which need not give the value written; so a record that keeps its
payload, because every record sent under its identifier is a deletion, reads it back once more
for each of them (`rereads`).

## Main results

* `rewrite_eq` and the membership of the marks a stored record reads back with
* `Settled`, `settled_rewriteAll`: after the records are stored, storing them again moves no mark
* `rewriteAll_rewriteAll`: storing the same records twice, from any record
* `StoresAll.twice`: what an identifier reads as after the same records are stored twice
-/

namespace Catalog

open Pipeline

attribute [ext] Record

/-- A record as writing it to the store and reading it back gives it: its set names split at
unit separators and sorted, its payload as its JSON text reads, its service marks sorted. -/
def Record.stored (r : Record) : Record :=
  { r with
    sets := Store.readSets r.sets
    payload := r.payload.reread
    processedBy := SortedList.ofList r.processedBy
    inputFor := SortedList.ofList r.inputFor }

/-- Marking a record as input for targets changes its marks alone: it becomes input for each
target and stops being processed by it. -/
theorem foldl_markInput (ts : List (Int × Option String)) (r : Record) :
    let r' := ts.foldl (fun (r : Record) t =>
      { r with
        inputFor := SortedList.insert t.1 r.inputFor
        processedBy := SortedList.erase t.1 r.processedBy }) r
    r' = { r with inputFor := r'.inputFor, processedBy := r'.processedBy } ∧
      (∀ c, c ∈ r'.inputFor ↔ c ∈ r.inputFor ∨ c ∈ ts.map (·.1)) ∧
      (∀ c, c ∈ r'.processedBy ↔ c ∈ r.processedBy ∧ c ∉ ts.map (·.1)) := by
  induction ts generalizing r with
  | nil => simp
  | cons t ts ih =>
    obtain ⟨heq, hin, hpb⟩ := ih
      { r with
        inputFor := SortedList.insert t.1 r.inputFor
        processedBy := SortedList.erase t.1 r.processedBy }
    refine ⟨heq, fun c => ?_, fun c => ?_⟩
    · rw [List.foldl_cons, hin, SortedList.mem_insert, List.map_cons, List.mem_cons]
      tauto
    · rw [List.foldl_cons, hpb, SortedList.mem_erase, List.map_cons, List.mem_cons]
      tauto

namespace Harvest

-- ---------------------------------------------------------------------------
-- One sent record
-- ---------------------------------------------------------------------------

theorem Harvested.applyTo_id (h : Harvested) (format : String) (r : Record) :
    (h.applyTo format r).id = r.id := by
  unfold Harvested.applyTo
  split <;> rfl

theorem Harvested.applyTo_oaiId (h : Harvested) (format : String) (r : Record) :
    (h.applyTo format r).oaiId = r.oaiId := by
  unfold Harvested.applyTo
  split <;> rfl

theorem Harvested.applyTo_isDeleted (h : Harvested) (format : String) (r : Record) :
    (h.applyTo format r).isDeleted = h.deleted := by
  unfold Harvested.applyTo
  cases h.deleted <;> rfl

variable (ds : List Directive) (format : String)

/-- The services a harvest step routes a sent record to: the targets of the directives that
take a record of the step's format in the sent sets. -/
def Harvested.targets (h : Harvested) : List Int :=
  (ds.filter fun d => Directive.accepts d.formats d.sets format h.sets).map (·.target)

/-- The record a harvest step writes for a sent record it found stored as `r`: the record as
sent, sent back to the services that processed it if it is a deletion, else routed by the
directives. -/
def Harvested.written (h : Harvested) (r : Record) : Record :=
  let r := h.applyTo format r
  if r.isDeleted then (Routing.reprocess { directives := ds } r).1
  else (Routing.evaluate { directives := ds } r).1

/-- The record a sent record leaves, as it reads back. -/
def Harvested.rewrite (h : Harvested) (r : Record) : Record :=
  (h.written ds format r).stored

/-- The record the sent records `hs` leave, stored one after another. -/
def rewriteAll (hs : List Harvested) (r : Record) : Record :=
  hs.foldl (fun r h => h.rewrite ds format r) r

variable {ds format}

/-- A sent record leaves the step's format, its sets and status, and its payload unless it is a
deletion; what it does to the marks the membership lemmas below say. -/
theorem rewrite_eq (h : Harvested) (r : Record) :
    h.rewrite ds format r =
      { r with
        format
        sets := Store.readSets h.sets
        status := if h.deleted then .deleted else .active
        payload := (if h.deleted then r.payload else h.payload).reread
        processedBy := (h.rewrite ds format r).processedBy
        inputFor := (h.rewrite ds format r).inputFor } := by
  unfold Harvested.rewrite Harvested.written
  cases hd : h.deleted
  · -- routed: the routing changes the marks only
    simp only [Harvested.applyTo_isDeleted, hd, Bool.false_eq_true, ↓reduceIte]
    obtain ⟨heq, -, -⟩ := foldl_markInput
      (({ directives := ds } : Routing).directives.filter (·.matches (h.applyTo format r))
        |>.map fun d => (d.target, d.outputSet)) (h.applyTo format r)
    simp only [Routing.evaluate]
    rw [heq]
    simp [Harvested.applyTo, hd, Record.stored]
  · simp only [Harvested.applyTo_isDeleted, hd, ↓reduceIte]
    simp [Routing.reprocess, Harvested.applyTo, hd, Record.stored]

variable (h : Harvested) (r : Record)

@[simp] theorem rewrite_id : (h.rewrite ds format r).id = r.id :=
  by rw [rewrite_eq]

@[simp] theorem rewrite_oaiId : (h.rewrite ds format r).oaiId = r.oaiId :=
  by rw [rewrite_eq]

@[simp] theorem rewrite_format : (h.rewrite ds format r).format = format :=
  by rw [rewrite_eq]

@[simp] theorem rewrite_sets : (h.rewrite ds format r).sets = Store.readSets h.sets :=
  by rw [rewrite_eq]

@[simp] theorem rewrite_recordType : (h.rewrite ds format r).recordType = r.recordType :=
  by rw [rewrite_eq]

@[simp] theorem rewrite_status :
    (h.rewrite ds format r).status = if h.deleted then .deleted else .active :=
  by rw [rewrite_eq]

@[simp] theorem rewrite_payload :
    (h.rewrite ds format r).payload = (if h.deleted then r.payload else h.payload).reread :=
  by rw [rewrite_eq]

@[simp] theorem rewrite_predecessors : (h.rewrite ds format r).predecessors = r.predecessors :=
  by rw [rewrite_eq]

@[simp] theorem rewrite_successors : (h.rewrite ds format r).successors = r.successors :=
  by rw [rewrite_eq]

/-- The services that processed a record stay so unless it is a deletion, which drops them
all, or it is routed to them again. -/
theorem mem_rewrite_processedBy {c : Int} : c ∈ (h.rewrite ds format r).processedBy ↔
    h.deleted = false ∧ c ∈ r.processedBy ∧ c ∉ h.targets ds format := by
  unfold Harvested.rewrite Harvested.written
  cases hd : h.deleted
  · simp only [Harvested.applyTo_isDeleted, hd, Bool.false_eq_true, ↓reduceIte, Record.stored,
      SortedList.mem_ofList, Routing.evaluate, true_and]
    rw [(foldl_markInput _ _).2.2]
    simp [Harvested.applyTo, hd, Harvested.targets, Directive.matches]
  · simp only [Harvested.applyTo_isDeleted, hd, ↓reduceIte]
    simp [Routing.reprocess, Record.stored]

/-- A record stays input for the services it was input for, and becomes input for the services
that processed it if it is a deletion, else for those it is routed to. -/
theorem mem_rewrite_inputFor {c : Int} : c ∈ (h.rewrite ds format r).inputFor ↔
    c ∈ r.inputFor ∨ (h.deleted = true ∧ c ∈ r.processedBy) ∨
      (h.deleted = false ∧ c ∈ h.targets ds format) := by
  unfold Harvested.rewrite Harvested.written
  cases hd : h.deleted
  · simp only [Harvested.applyTo_isDeleted, hd, Bool.false_eq_true, ↓reduceIte, Record.stored,
      SortedList.mem_ofList, Routing.evaluate, false_and, true_and, false_or]
    rw [(foldl_markInput _ _).2.1]
    simp [Harvested.applyTo, hd, Harvested.targets, Directive.matches]
  · simp only [Harvested.applyTo_isDeleted, hd, ↓reduceIte]
    simp [Routing.reprocess, Record.stored, Harvested.applyTo, hd]

theorem sorted_rewrite_processedBy : SortedList.Sorted (h.rewrite ds format r).processedBy :=
  SortedList.sorted_ofList _

theorem sorted_rewrite_inputFor : SortedList.Sorted (h.rewrite ds format r).inputFor :=
  SortedList.sorted_ofList _

/-- A deletion leaves a record processed by no service. -/
theorem rewrite_processedBy_of_deleted (hd : h.deleted = true) :
    (h.rewrite ds format r).processedBy = [] :=
  List.eq_nil_iff_forall_not_mem.2 fun c hc => by
    rw [mem_rewrite_processedBy, hd] at hc
    exact Bool.noConfusion hc.1

/-- What a record that is not a deletion leaves depends on the record it was stored over only
through the fields a harvest keeps and the services its marks name. -/
theorem rewrite_congr {u v : Record} (hd : h.deleted = false) (hid : u.id = v.id)
    (hoai : u.oaiId = v.oaiId) (htype : u.recordType = v.recordType)
    (hpred : u.predecessors = v.predecessors) (hsucc : u.successors = v.successors)
    (hpb : ∀ c, c ∈ u.processedBy ↔ c ∈ v.processedBy)
    (hin : ∀ c, c ∈ u.inputFor ↔ c ∈ v.inputFor) :
    h.rewrite ds format u = h.rewrite ds format v := by
  have hpb' : (h.rewrite ds format u).processedBy = (h.rewrite ds format v).processedBy :=
    SortedList.Sorted.eq_of_mem_iff (sorted_rewrite_processedBy h u)
      (sorted_rewrite_processedBy h v) fun c => by simp only [mem_rewrite_processedBy, hpb]
  have hin' : (h.rewrite ds format u).inputFor = (h.rewrite ds format v).inputFor :=
    SortedList.Sorted.eq_of_mem_iff (sorted_rewrite_inputFor h u)
      (sorted_rewrite_inputFor h v) fun c => by simp only [mem_rewrite_inputFor, hin, hpb]
  ext1 <;> simp [hid, hoai, htype, hpred, hsucc, hpb', hin', hd]

/-- A sent record leaves a record alike whatever its id, which it keeps. -/
theorem rewrite_withId (i : Option Int) :
    h.rewrite ds format { r with id := i } = { h.rewrite ds format r with id := i } := by
  have hpb : (h.rewrite ds format { r with id := i }).processedBy =
      (h.rewrite ds format r).processedBy :=
    SortedList.Sorted.eq_of_mem_iff (sorted_rewrite_processedBy h _)
      (sorted_rewrite_processedBy h r) fun c => by simp only [mem_rewrite_processedBy]
  have hin : (h.rewrite ds format { r with id := i }).inputFor =
      (h.rewrite ds format r).inputFor :=
    SortedList.Sorted.eq_of_mem_iff (sorted_rewrite_inputFor h _)
      (sorted_rewrite_inputFor h r) fun c => by simp only [mem_rewrite_inputFor]
  ext1 <;> simp [hpb, hin]

-- ---------------------------------------------------------------------------
-- Records sent one after another
-- ---------------------------------------------------------------------------

variable (hs : List Harvested)

@[simp] theorem rewriteAll_nil : rewriteAll ds format [] r = r := rfl

@[simp] theorem rewriteAll_cons :
    rewriteAll ds format (h :: hs) r = rewriteAll ds format hs (h.rewrite ds format r) := rfl

theorem rewriteAll_append (hs' : List Harvested) :
    rewriteAll ds format (hs ++ hs') r = rewriteAll ds format hs' (rewriteAll ds format hs r) :=
  List.foldl_append

theorem rewriteAll_concat :
    rewriteAll ds format (hs ++ [h]) r = h.rewrite ds format (rewriteAll ds format hs r) := by
  rw [rewriteAll_append, rewriteAll_cons, rewriteAll_nil]

/-- Storing sent records keeps a record's id, OAI identifier, type and lineage. -/
theorem rewriteAll_keeps :
    (rewriteAll ds format hs r).id = r.id ∧ (rewriteAll ds format hs r).oaiId = r.oaiId ∧
      (rewriteAll ds format hs r).recordType = r.recordType ∧
      (rewriteAll ds format hs r).predecessors = r.predecessors ∧
      (rewriteAll ds format hs r).successors = r.successors := by
  induction hs generalizing r with
  | nil => exact ⟨rfl, rfl, rfl, rfl, rfl⟩
  | cons h hs ih =>
    rw [rewriteAll_cons]
    obtain ⟨h1, h2, h3, h4, h5⟩ := ih (h.rewrite ds format r)
    simp only [h1, h2, h3, h4, h5, rewrite_id, rewrite_oaiId, rewrite_recordType,
      rewrite_predecessors, rewrite_successors, and_self]

/-- No service comes to have processed a record while sent records are stored. -/
theorem mem_rewriteAll_processedBy {c : Int} (hc : c ∈ (rewriteAll ds format hs r).processedBy) :
    c ∈ r.processedBy := by
  induction hs generalizing r with
  | nil => exact hc
  | cons h hs ih => exact ((mem_rewrite_processedBy h r).1 (ih _ hc)).2.1

/-- The last of the sent records decides the format, the sets and the status. -/
theorem rewriteAll_format_sets_status {hs : List Harvested} (hne : hs ≠ []) (r r' : Record) :
    (rewriteAll ds format hs r).format = (rewriteAll ds format hs r').format ∧
      (rewriteAll ds format hs r).sets = (rewriteAll ds format hs r').sets ∧
      (rewriteAll ds format hs r).status = (rewriteAll ds format hs r').status := by
  obtain ⟨hs, h, rfl⟩ := (List.eq_nil_or_concat _).resolve_left hne
  simp only [List.concat_eq_append, rewriteAll_concat, rewrite_format, rewrite_sets,
    rewrite_status, and_self]

/-- Once a record is stored, its marks read back sorted. -/
theorem sorted_rewriteAll {hs : List Harvested} (hne : hs ≠ []) (r : Record) :
    SortedList.Sorted (rewriteAll ds format hs r).processedBy ∧
      SortedList.Sorted (rewriteAll ds format hs r).inputFor := by
  obtain ⟨hs, h, rfl⟩ := (List.eq_nil_or_concat _).resolve_left hne
  rw [List.concat_eq_append, rewriteAll_concat]
  exact ⟨sorted_rewrite_processedBy _ _, sorted_rewrite_inputFor _ _⟩

-- ---------------------------------------------------------------------------
-- Payloads
-- ---------------------------------------------------------------------------

/-- How many more times storing the sent records `hs` again reads back the payload of a record
they leave: once for each of them when all are deletions, since the record then keeps its
payload, and never otherwise. -/
def rereads (hs : List Harvested) : Nat :=
  if hs.all (·.deleted) then hs.length else 0

theorem rewriteAll_payload_congr {r r' : Record} (hp : r.payload = r'.payload) :
    (rewriteAll ds format hs r).payload = (rewriteAll ds format hs r').payload := by
  induction hs generalizing r r' with
  | nil => exact hp
  | cons h hs ih => exact ih (by simp only [rewrite_payload, hp])

/-- Deletions only read a record's payload back, once each. -/
theorem rewriteAll_payload_of_deletions (hdel : ∀ h ∈ hs, h.deleted = true) :
    (rewriteAll ds format hs r).payload = Json.reread^[hs.length] r.payload := by
  induction hs generalizing r with
  | nil => rfl
  | cons h hs ih =>
    rw [rewriteAll_cons, ih _ fun h' hh => hdel h' (List.mem_cons_of_mem _ hh), rewrite_payload,
      hdel h List.mem_cons_self, if_pos rfl, List.length_cons, Function.iterate_succ_apply]

/-- After a sent record that is not a deletion, the payload no longer depends on the record
stored over. -/
theorem rewriteAll_payload_of_active {hs : List Harvested} (hact : ∃ h ∈ hs, h.deleted = false)
    (r r' : Record) : (rewriteAll ds format hs r).payload = (rewriteAll ds format hs r').payload := by
  induction hs generalizing r r' with
  | nil => simp at hact
  | cons h hs ih =>
    rw [rewriteAll_cons, rewriteAll_cons]
    cases hd : h.deleted
    · exact rewriteAll_payload_congr hs
        (by simp only [rewrite_payload, hd, Bool.false_eq_true, ↓reduceIte])
    · obtain ⟨h', hh', hd'⟩ := hact
      rcases List.mem_cons.1 hh' with rfl | hh'
      · rw [hd] at hd'
        cases hd'
      · exact ih ⟨h', hh', hd'⟩ _ _

/-- Storing the same records again reads a payload back as often as `rereads` says. -/
theorem rewriteAll_payload_twice :
    (rewriteAll ds format hs (rewriteAll ds format hs r)).payload =
      Json.reread^[rereads hs] (rewriteAll ds format hs r).payload := by
  unfold rereads
  by_cases hall : hs.all (·.deleted) = true
  · rw [if_pos hall]
    exact rewriteAll_payload_of_deletions _ hs fun h hh => List.all_eq_true.1 hall h hh
  · rw [if_neg hall, Function.iterate_zero_apply]
    refine rewriteAll_payload_of_active ?_ _ _
    simpa using hall

-- ---------------------------------------------------------------------------
-- Marks
-- ---------------------------------------------------------------------------

variable (ds format) in
/-- Record `r` bears the marks the sent records `hs` leave: a deletion among them left it
processed by no service, and any other left it input for, and not processed by, each service
it was routed to. -/
def Settled (hs : List Harvested) (r : Record) : Prop :=
  ∀ h ∈ hs, (h.deleted = true → r.processedBy = []) ∧
    (h.deleted = false → ∀ c ∈ h.targets ds format, c ∉ r.processedBy ∧ c ∈ r.inputFor)

variable {hs h r}

/-- Marks stay settled while processing services only go and inputs only come. -/
theorem Settled.mono {r r' : Record} (hset : Settled ds format hs r)
    (hpb : ∀ c ∈ r'.processedBy, c ∈ r.processedBy) (hin : ∀ c ∈ r.inputFor, c ∈ r'.inputFor) :
    Settled ds format hs r' := by
  intro h hh
  obtain ⟨hdel, hact⟩ := hset h hh
  refine ⟨fun hd => List.eq_nil_iff_forall_not_mem.2 fun c hc => ?_, fun hd c hc => ?_⟩
  · have := hpb c hc
    rw [hdel hd] at this
    exact List.not_mem_nil this
  · obtain ⟨hnot, hinput⟩ := hact hd c hc
    exact ⟨fun hc' => hnot (hpb c hc'), hin c hinput⟩

/-- Storing one more sent record settles the marks it leaves too. -/
theorem Settled.rewrite (hset : Settled ds format hs r) :
    Settled ds format (hs ++ [h]) (h.rewrite ds format r) := by
  intro h' hh'
  rcases List.mem_append.1 hh' with hh' | hh'
  · refine hset.mono (fun c hc => ((mem_rewrite_processedBy h r).1 hc).2.1) (fun c hc => ?_) h' hh'
    exact (mem_rewrite_inputFor h r).2 (.inl hc)
  · obtain rfl : h = h' := (List.mem_singleton.1 hh').symm
    refine ⟨rewrite_processedBy_of_deleted h r, fun hd c hc => ⟨fun hc' => ?_, ?_⟩⟩
    · exact ((mem_rewrite_processedBy h r).1 hc').2.2 hc
    · exact (mem_rewrite_inputFor h r).2 (.inr (.inr ⟨hd, hc⟩))

/-- The sent records, once stored, leave settled marks. -/
theorem settled_rewriteAll (hs : List Harvested) (r : Record) :
    Settled ds format hs (rewriteAll ds format hs r) := by
  -- stored after records `pre` whose marks are settled, the rest leave all of them settled
  suffices hgen : ∀ pre u, Settled ds format pre u →
      Settled ds format (pre ++ hs) (rewriteAll ds format hs u) from
    hgen [] r fun _ hh => absurd hh List.not_mem_nil
  induction hs with
  | nil => simp
  | cons h hs ih =>
    intro pre u hset
    rw [rewriteAll_cons, ← List.singleton_append, ← List.append_assoc]
    exact ih _ _ hset.rewrite

/-- A sent record whose marks are settled moves none of them. -/
theorem Settled.rewrite_marks (hset : Settled ds format hs r) (hh : h ∈ hs) :
    (∀ c, c ∈ (h.rewrite ds format r).processedBy ↔ c ∈ r.processedBy) ∧
      (∀ c, c ∈ (h.rewrite ds format r).inputFor ↔ c ∈ r.inputFor) := by
  obtain ⟨hdel, hact⟩ := hset h hh
  cases hd : h.deleted
  · have hroute := hact hd
    refine ⟨fun c => ?_, fun c => ?_⟩
    · rw [mem_rewrite_processedBy, hd]
      exact ⟨fun hc => hc.2.1, fun hc => ⟨rfl, hc, fun ht => (hroute c ht).1 hc⟩⟩
    · rw [mem_rewrite_inputFor, hd]
      refine ⟨fun hc => ?_, fun hc => .inl hc⟩
      rcases hc with hc | ⟨hf, -⟩ | ⟨-, ht⟩
      · exact hc
      · cases hf
      · exact (hroute c ht).2
  · have hnone := hdel hd
    refine ⟨fun c => ?_, fun c => ?_⟩
    · rw [rewrite_processedBy_of_deleted h r hd, hnone]
    · rw [mem_rewrite_inputFor, hd, hnone]
      simp

/-- Storing again records whose marks are settled moves none of them. -/
theorem Settled.rewriteAll_marks (hset : Settled ds format hs r) {hs' : List Harvested}
    (hsub : ∀ h ∈ hs', h ∈ hs) :
    (∀ c, c ∈ (rewriteAll ds format hs' r).processedBy ↔ c ∈ r.processedBy) ∧
      (∀ c, c ∈ (rewriteAll ds format hs' r).inputFor ↔ c ∈ r.inputFor) := by
  induction hs' generalizing r with
  | nil => exact ⟨fun _ => Iff.rfl, fun _ => Iff.rfl⟩
  | cons h hs' ih =>
    obtain ⟨hpb, hin⟩ := hset.rewrite_marks (hsub h List.mem_cons_self)
    have hset' := hset.mono (fun c hc => (hpb c).1 hc) (fun c hc => (hin c).2 hc)
    obtain ⟨hpb', hin'⟩ := ih hset' fun h' hh' => hsub h' (List.mem_cons_of_mem _ hh')
    exact ⟨fun c => (hpb' c).trans (hpb c), fun c => (hin' c).trans (hin c)⟩

-- ---------------------------------------------------------------------------
-- Storing the same records twice
-- ---------------------------------------------------------------------------

variable (hs)

/-- **Storing the same records twice.** It leaves what storing them once left, but for the
payload of a record they all delete, which reads back once more for each of them. -/
theorem rewriteAll_rewriteAll (hne : hs ≠ []) (r : Record) :
    rewriteAll ds format hs (rewriteAll ds format hs r) =
      { rewriteAll ds format hs r with
        payload := Json.reread^[rereads hs] (rewriteAll ds format hs r).payload } := by
  obtain ⟨h1, h2, h3, h4, h5⟩ := rewriteAll_keeps (rewriteAll ds format hs r) hs
  obtain ⟨hformat, hsets, hstatus⟩ := rewriteAll_format_sets_status hne (rewriteAll ds format hs r) r
  obtain ⟨hpb, hin⟩ := (settled_rewriteAll hs r).rewriteAll_marks fun _ hh => hh
  obtain ⟨hsorted₂, hsorted₂'⟩ := sorted_rewriteAll hne (rewriteAll ds format hs r)
  obtain ⟨hsorted₁, hsorted₁'⟩ : SortedList.Sorted (rewriteAll ds format hs r).processedBy ∧
      SortedList.Sorted (rewriteAll ds format hs r).inputFor := sorted_rewriteAll hne r
  ext1
  · exact h1
  · exact h2
  · exact hformat
  · exact hsets
  · exact h3
  · exact hstatus
  · exact rewriteAll_payload_twice r hs
  · exact h4
  · exact h5
  · exact hsorted₂.eq_of_mem_iff hsorted₁ hpb
  · exact hsorted₂'.eq_of_mem_iff hsorted₁' hin

-- ---------------------------------------------------------------------------
-- What an OAI identifier reads as
-- ---------------------------------------------------------------------------

variable (ds format) in
/-- What storing one sent record does to what its OAI identifier reads as: a record read is
rewritten, a deletion of a record never stored is ignored, and any other record is added under
an id the store hands out. Reading the identifier must have succeeded. -/
def Harvested.Stores (h : Harvested) : Outcome (Option Record) → Outcome (Option Record) → Prop
  | .ok (some r), b => b = .ok (some (h.rewrite ds format r))
  | .ok none, b =>
    if h.deleted then b = .ok none
    else ∃ i, b = .ok (some (h.rewrite ds format { Record.new h.oaiId format with id := some i }))
  | .error _, _ => False

variable (ds format) in
/-- Storing the sent records `hs` one after another. -/
def StoresAll : List Harvested → Outcome (Option Record) → Outcome (Option Record) → Prop
  | [], a, b => b = a
  | h :: hs, a, b => ∃ m, h.Stores ds format a m ∧ StoresAll hs m b

variable {hs}

/-- From a record read, storing the sent records rewrites it by each in turn. -/
theorem storesAll_some {b : Outcome (Option Record)} :
    StoresAll ds format hs (.ok (some r)) b ↔ b = .ok (some (rewriteAll ds format hs r)) := by
  induction hs generalizing r with
  | nil => exact Iff.rfl
  | cons h hs ih =>
    simp only [StoresAll, Harvested.Stores, exists_eq_left, ih, rewriteAll_cons]

/-- From an identifier that reads as no record, storing the sent records ignores the deletions
up to the first record that is not one, which adds the record. -/
theorem storesAll_none {b : Outcome (Option Record)} (hst : StoresAll ds format hs (.ok none) b) :
    ((∀ h ∈ hs, h.deleted = true) ∧ b = .ok none) ∨
      ∃ pre h rest i, hs = pre ++ h :: rest ∧ (∀ h ∈ pre, h.deleted = true) ∧
        h.deleted = false ∧
        b = .ok (some (rewriteAll ds format (h :: rest) { Record.new h.oaiId format with id := some i })) := by
  induction hs with
  | nil => exact .inl ⟨fun _ hh => absurd hh List.not_mem_nil, hst⟩
  | cons h hs ih =>
    obtain ⟨m, hstore, hrest⟩ := hst
    dsimp only [Harvested.Stores] at hstore
    cases hd : h.deleted
    · -- the first record that is not a deletion adds the record
      rw [hd, if_neg Bool.false_ne_true] at hstore
      obtain ⟨i, rfl⟩ := hstore
      refine .inr ⟨[], h, hs, i, rfl, fun _ hh => absurd hh List.not_mem_nil, hd, ?_⟩
      rw [rewriteAll_cons]
      exact storesAll_some.1 hrest
    · rw [hd, if_pos rfl] at hstore
      subst hstore
      rcases ih hrest with ⟨hall, hb⟩ | ⟨pre, h', rest, i, heq, hpre, hd', hb⟩
      · refine .inl ⟨fun h' hh' => ?_, hb⟩
        rcases List.mem_cons.1 hh' with rfl | hh'
        · exact hd
        · exact hall h' hh'
      · refine .inr ⟨h :: pre, h', rest, i, by rw [heq, List.cons_append], fun h'' hh'' => ?_, hd', hb⟩
        rcases List.mem_cons.1 hh'' with rfl | hh''
        · exact hd
        · exact hpre h'' hh''

/-- A record added by the first sent record that is not a deletion is stored over again, after
deletions, as if it had been found: deletions leave it processed by no service. -/
theorem rewriteAll_added {pre rest : List Harvested} (hpre : ∀ h ∈ pre, h.deleted = true)
    (hd : h.deleted = false) (n : Record) (hn : n.processedBy = []) :
    rewriteAll ds format (pre ++ h :: rest) (rewriteAll ds format (h :: rest) n) =
      rewriteAll ds format (h :: rest) n := by
  set v := rewriteAll ds format (h :: rest) n
  -- the record added is processed by no service, so the deletions before move none of its marks
  have hv : v.processedBy = [] := List.eq_nil_iff_forall_not_mem.2 fun c hc => by
    have := mem_rewriteAll_processedBy _ _ hc
    rw [hn] at this
    exact List.not_mem_nil this
  have hset : Settled ds format pre v := fun h' hh' =>
    ⟨fun _ => hv, fun hd' => absurd (hpre h' hh') (by rw [hd']; decide)⟩
  obtain ⟨hpb, hin⟩ := hset.rewriteAll_marks fun _ hh => hh
  obtain ⟨h1, h2, h3, h4, h5⟩ := rewriteAll_keeps v pre
  have hsame : h.rewrite ds format (rewriteAll ds format pre v) = h.rewrite ds format v :=
    rewrite_congr h hd h1 h2 h3 h4 h5 hpb hin
  have hrereads : rereads (h :: rest) = 0 := by
    simp [rereads, hd]
  rw [rewriteAll_append, rewriteAll_cons, hsame, ← rewriteAll_cons,
    rewriteAll_rewriteAll _ (List.cons_ne_nil h rest), hrereads, Function.iterate_zero_apply]

/-- Once a record that is not a deletion is stored under an identifier, the identifier reads as a
record. -/
theorem StoresAll.found {a b : Outcome (Option Record)} (hst : StoresAll ds format hs a b)
    (hact : ∃ h ∈ hs, h.deleted = false) : ∃ r, b = .ok (some r) := by
  cases hs with
  | nil =>
    obtain ⟨_, hh, -⟩ := hact
    exact absurd hh List.not_mem_nil
  | cons h hs' =>
    rcases a with e | _ | r
    · obtain ⟨m, hfalse, -⟩ := hst
      exact hfalse.elim
    · rcases storesAll_none hst with ⟨hall, -⟩ | ⟨pre, h', rest, i, -, -, -, hb⟩
      · obtain ⟨h', hh', hd⟩ := hact
        rw [hall h' hh'] at hd
        cases hd
      · exact ⟨_, hb⟩
    · exact ⟨_, storesAll_some.1 hst⟩

/-- **Storing the same records twice.** What an OAI identifier reads as after the sent records
are stored a second time is what it read as after the first, but for the payload of a record
they all delete, which reads back once more for each of them. -/
theorem StoresAll.twice {a b c : Outcome (Option Record)} (h₁ : StoresAll ds format hs a b)
    (h₂ : StoresAll ds format hs b c) :
    c = b.map (Option.map fun r => { r with payload := Json.reread^[rereads hs] r.payload }) := by
  cases hs with
  | nil =>
    -- nothing sent: nothing read back
    rw [h₂]
    rcases b with e | _ | r <;> rfl
  | cons h hs' =>
    rcases a with e | _ | r
    · obtain ⟨m, hfalse, -⟩ := h₁
      exact hfalse.elim
    · rcases storesAll_none h₁ with ⟨hall, rfl⟩ | ⟨pre, h', rest, i, heq, hpre, hd, rfl⟩
      · -- only deletions of a record never stored: ignored both times
        rcases storesAll_none h₂ with ⟨-, rfl⟩ | ⟨pre, h', rest, i, heq, -, hd, -⟩
        · rfl
        · have := hall h' (by rw [heq]; exact List.mem_append_right _ List.mem_cons_self)
          rw [hd] at this
          cases this
      · -- a record added the first time is found the second
        have hrereads : rereads (h :: hs') = 0 := by
          have hmem : h' ∈ h :: hs' := by
            rw [heq]
            exact List.mem_append_right _ List.mem_cons_self
          have : (h :: hs').all (·.deleted) = false :=
            List.all_eq_false.2 ⟨h', hmem, by simp [hd]⟩
          simp only [rereads, this, Bool.false_eq_true, ↓reduceIte]
        rw [storesAll_some.1 h₂, hrereads, heq, rewriteAll_added hpre hd _ rfl]
        rfl
    · rw [storesAll_some.1 h₁] at h₂ ⊢
      rw [storesAll_some.1 h₂, rewriteAll_rewriteAll _ (List.cons_ne_nil h hs')]
      rfl

end Harvest

end Catalog
