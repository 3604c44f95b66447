import Catalog.Proofs.Service.Withdrawal
import Catalog.Proofs.Store.Paging
import Catalog.Proofs.Harvest.Untouched

/-!
# What deleting a service leaves

Deleting a service withdraws every record visible in its output repository, page by page:
each output loses the edges from its predecessors, is rewritten deleted and is sent back to
the services that processed it, which become input for it again and are scheduled. The pages
are read from above a cursor that moves to the last id of each page, so on a record table
kept in id order every output is read once. Then the schedule is queued and whatever names
the service is cleared: its marks, directives, jobs, counters and row.

The edges an output loses are those from its predecessors; the edges to its successors stay,
but only as long as the successor is not an output itself. A successor that is an output of the
same service is withdrawn too, which takes the edge from its side: so after a deletion no edge
leads into an output of the deleted service, and every other edge stays.

## Main results

* `Store.Retracted`: what withdrawing a list of records does to a store, with
  `Retracted.append` for one withdrawal after another
* `withdrawOutput_retracted`, `withdrawPages_retracted`: withdrawing one output, and the whole
  repository page by page
* `delete_retires`: a deletion that succeeds leaves every output deleted with no edge into it,
  the other edges, its consumers sent back and queued, and nothing that names the service
-/

namespace Catalog.Pipeline

/-- The derived comparison of directive sources is equality. -/
instance : LawfulBEq DirectiveSource where
  eq_of_beq {a b} h := by
    cases a with
    | provider x =>
      cases b with
      | provider y => exact congrArg _ (eq_of_beq (show (x == y) = true from h))
      | service y => cases h
    | service x =>
      cases b with
      | provider y => cases h
      | service y => exact congrArg _ (eq_of_beq (show (x == y) = true from h))
  rfl {a} := by
    cases a with
    | provider x => exact beq_self_eq_true x
    | service x => exact beq_self_eq_true x

end Catalog.Pipeline

namespace Catalog.Store

open Catalog.Pipeline

-- ---------------------------------------------------------------------------
-- Reading an output
-- ---------------------------------------------------------------------------

/-- A record read from the store carries the services it is input for. -/
theorem view_inputFor {s : Store} {row : RecordRow} {r : Record} (h : s.view row = .ok r)
    {c : Int} : c ∈ r.inputFor ↔ (row.id, c) ∈ s.inputFor := by
  simp only [view, bind, Except.bind] at h
  split at h
  · cases h
  · cases h
    simp [seconds]

/-- A record read from the store has no successors: reading leaves them out. -/
theorem view_successors {s : Store} {row : RecordRow} {r : Record} (h : s.view row = .ok r) :
    r.successors = [] := by
  simp only [view, bind, Except.bind] at h
  split at h
  · cases h
  · cases h
    rfl

-- ---------------------------------------------------------------------------
-- Rewriting an output
-- ---------------------------------------------------------------------------

/-- Writing the relations of a record with no predecessors and no successors adds no edge. -/
theorem writeRelations_lineage {i : Int} {r : Record} {s t : Store} {a : Unit}
    (h : (writeRelations i r).run s = .ok (a, t)) (hp : r.predecessors = [])
    (hs : r.successors = []) : t.lineage = s.lineage := by
  obtain ⟨_, u, hu, hedges⟩ := Tx.bind_eq_ok.1 h
  cases hu
  obtain ⟨_, w, hpred, hsucc⟩ := Tx.bind_eq_ok.1 hedges
  rw [hp] at hpred
  rw [hs] at hsucc
  cases hpred
  cases hsucc
  rfl

/-- **Rewriting a record**, as one inversion: the record has the id `i` of a row of the
repository; every row of that id is rewritten in place as the record has it, the others are
kept; and when the record has no predecessors and no successors, the edges stay. -/
theorem updateRecord_inv {repo : String} {r : Record} {s t : Store} {a : Unit}
    (h : (updateRecord repo r).run s = .ok (a, t)) (hp : r.predecessors = [])
    (hs : r.successors = []) :
    ∃ i, r.id = some i ∧ (∀ row ∈ t.records, row.id = i → row.status = r.status) ∧
      (∀ row ∈ t.records, row.id ≠ i → row ∈ s.records) ∧ t.lineage = s.lineage := by
  obtain ⟨i, u₁, hi, h₁⟩ := Tx.bind_eq_ok.1 h
  obtain ⟨hid, rfl⟩ := ofOutcome_eq_ok hi
  obtain ⟨_, u₂, huse, h₂⟩ := Tx.bind_eq_ok.1 h₁
  obtain ⟨-, rfl⟩ := useTable_eq_ok huse
  obtain ⟨_, u₃, hget, h₃⟩ := Tx.bind_eq_ok.1 h₂
  cases hget
  dsimp only at h₃
  split at h₃
  · obtain ⟨_, u₄, hset, h₄⟩ := Tx.bind_eq_ok.1 h₃
    cases hset
    obtain ⟨_, u₅, hw, htouch⟩ := Tx.bind_eq_ok.1 h₄
    have hri : r.id = some i := by
      unfold Record.requireId at hid
      split at hid <;> simp_all
    -- the rows are those rewritten in place, which the relations and the touch keep
    have hrows : t.records = u₂.records.map fun row =>
        if row.id == i then
          { row with
            format := r.format, recordType := r.recordType, status := r.status,
            payload := r.payload.reread, rawPayload := none, updatedAt := u₂.clock }
        else row := by
      rw [touch_eq htouch, writeRelations_eq hw]
    refine ⟨i, hri, fun row hrow hrid => ?_, fun row hrow hrid => ?_, ?_⟩
    · rw [hrows] at hrow
      obtain ⟨row₀, -, rfl⟩ := List.mem_map.1 hrow
      by_cases h₀ : row₀.id = i
      · simp only [h₀, beq_self_eq_true, if_true]
      · simp [h₀] at hrid
    · rw [hrows] at hrow
      obtain ⟨row₀, hrow₀, rfl⟩ := List.mem_map.1 hrow
      by_cases h₀ : row₀.id = i
      · simp [h₀] at hrid
      · simpa [h₀] using hrow₀
    · rw [touch_eq htouch, writeRelations_lineage hw hp hs]
  · -- a record the repository does not hold is refused
    obtain ⟨_, _, hfail, -⟩ := Tx.bind_eq_ok.1 h₃
    cases hfail

-- ---------------------------------------------------------------------------
-- Withdrawn records
-- ---------------------------------------------------------------------------

/-- What withdrawing the records with ids in `W` did between stores `s` and `t`: every row
keeps its place, the rows of `W` are deleted and the others kept; the edges into `W` are gone
and every other edge kept; the marks on `W` are gone, and the services that held them are input
for them again; the schema is the same. -/
structure Retracted (W : List Int) (s t : Store) : Prop where
  places : t.records.map RecordRow.place = s.records.map RecordRow.place
  deleted : ∀ row ∈ t.records, row.id ∈ W → row.status = .deleted
  kept : ∀ row ∈ t.records, row.id ∉ W → row ∈ s.records
  lineage : ∀ e, e ∈ t.lineage ↔ e ∈ s.lineage ∧ e.2 ∉ W
  processedBy : ∀ p, p ∈ t.processedBy ↔ p ∈ s.processedBy ∧ p.1 ∉ W
  inputFor : ∀ p, p ∈ t.inputFor ↔ p ∈ s.inputFor ∨ (p.1 ∈ W ∧ p ∈ s.processedBy)
  tables : t.tables = s.tables

theorem Retracted.nil (s : Store) : Retracted [] s s :=
  ⟨rfl, fun _ _ h => absurd h List.not_mem_nil, fun _ hrow _ => hrow, fun _ => by simp,
    fun _ => by simp, fun _ => by simp, rfl⟩

/-- One withdrawal after another withdraws both lists. -/
theorem Retracted.append {W₁ W₂ : List Int} {s u t : Store} (h₁ : Retracted W₁ s u)
    (h₂ : Retracted W₂ u t) : Retracted (W₁ ++ W₂) s t where
  places := h₂.places.trans h₁.places
  deleted row hrow hW := by
    by_cases h : row.id ∈ W₂
    · exact h₂.deleted row hrow h
    · exact h₁.deleted row (h₂.kept row hrow h) ((List.mem_append.1 hW).resolve_right h)
  kept row hrow hW := by
    rw [List.mem_append, not_or] at hW
    exact h₁.kept row (h₂.kept row hrow hW.2) hW.1
  lineage e := by
    rw [h₂.lineage, h₁.lineage, List.mem_append, not_or, and_assoc]
  processedBy p := by
    rw [h₂.processedBy, h₁.processedBy, List.mem_append, not_or, and_assoc]
  inputFor p := by
    -- a mark on `W₁` was taken by the first withdrawal and given back as input there
    rw [h₂.inputFor, h₁.inputFor, h₁.processedBy, List.mem_append]
    tauto
  tables := h₂.tables.trans h₁.tables

-- ---------------------------------------------------------------------------
-- Pages over rows that keep their places
-- ---------------------------------------------------------------------------

/-- A filter with a cursor alone selects a row by its place: the repository, whether it is
visible, and its id. -/
theorem admits_after (s : Store) (repo : String) (c : Int) (row : RecordRow) :
    Filter.admits { after := c } s repo row =
      (row.place.2.1 == repo && row.place.2.2.1 && decide (c < row.place.1)) := by
  simp only [Filter.admits, RecordRow.place, Option.all_none, Bool.and_true]
  rfl

/-- Stores whose rows sit in the same places select the same ids above a cursor. -/
theorem selectRows_ids_of_places {s t : Store} {repo : String}
    (hp : t.records.map RecordRow.place = s.records.map RecordRow.place) (c : Int) :
    (t.selectRows repo { after := c }).map (·.id) =
      (s.selectRows repo { after := c }).map (·.id) := by
  have hsel : ∀ u : Store, (u.selectRows repo { after := c }).map (·.id) =
      ((u.records.map RecordRow.place).filter
        fun p => p.2.1 == repo && p.2.2.1 && decide (c < p.1)).map (·.1) := by
    intro u
    rw [List.filter_map, List.map_map, selectRows]
    exact congrArg _ (List.filter_congr fun row _ => admits_after u repo c row)
  rw [hsel, hsel, hp]

/-- The ids a filter with a cursor at zero selects are those of the visible rows of the
repository, when every id is positive. -/
theorem mem_selectRows_zero {s : Store} {repo : String} (hpos : ∀ row ∈ s.records, 0 < row.id)
    {x : Int} : x ∈ (s.selectRows repo { after := 0 }).map (·.id) ↔
      ∃ row ∈ s.records, row.id = x ∧ row.repo = repo ∧ row.visible = true := by
  simp only [List.mem_map, selectRows, List.mem_filter, admits_after, RecordRow.place,
    Bool.and_eq_true, beq_iff_eq]
  constructor
  · rintro ⟨row, ⟨hrow, ⟨hrepo, hvis⟩, -⟩, rfl⟩
    exact ⟨row, hrow, rfl, hrepo, hvis⟩
  · rintro ⟨row, hrow, rfl, hrepo, hvis⟩
    exact ⟨row, ⟨hrow, ⟨hrepo, hvis⟩, decide_eq_true (hpos row hrow)⟩, rfl⟩

-- ---------------------------------------------------------------------------
-- Clearing what names the service
-- ---------------------------------------------------------------------------

theorem clearMarks_eq {id : Int} {s t : Store} {a : Unit} (h : (clearMarks id).run s = .ok (a, t)) :
    t = { s with
      inputFor := s.inputFor.filter (·.2 != id)
      processedBy := s.processedBy.filter (·.2 != id) } := by
  cases h
  rfl

theorem deleteDirectivesFor_eq {id : Int} {s t : Store} {n : Nat}
    (h : (deleteDirectivesFor id).run s = .ok (n, t)) :
    t = { s with
      directives := s.directives.filter fun d => !(d.source == .service id || d.target == id) } := by
  cases h
  rfl

theorem removeJobsFor_eq {id : Int} {s t : Store} {n : Nat}
    (h : (removeJobsFor id).run s = .ok (n, t)) :
    t = { s with jobs := s.jobs.filter (·.serviceId != id), strayKinds := t.strayKinds } := by
  obtain ⟨_, u, huse, hrest⟩ := Tx.bind_eq_ok.1 h
  obtain ⟨-, rfl⟩ := useTable_eq_ok huse
  cases hrest
  rfl

theorem deleteCounters_eq {scope : String} {s t : Store} {a : Unit}
    (h : (deleteCounters scope).run s = .ok (a, t)) :
    t = { s with counters := s.counters.filter (·.scope != scope) } := by
  cases h
  rfl

theorem deleteService_eq {id : Int} {s t : Store} {a : Unit}
    (h : (deleteService id).run s = .ok (a, t)) :
    t = { s with
      services := s.services.filter (·.id != id)
      directives := s.directives.filter fun d => d.target != id && d.source != .service id
      recordTypes := s.recordTypes.filter (·.serviceId != id) } := by
  obtain ⟨_, u, huse, hrest⟩ := Tx.bind_eq_ok.1 h
  obtain ⟨-, rfl⟩ := useTable_eq_ok huse
  cases hrest
  rfl

theorem modifyPoints_eq {f : Matching.PointTable → Matching.PointTable} {s t : Store} {a : PUnit}
    (h : (modify fun s : Store => { s with points := f s.points } : Tx PUnit).run s = .ok (a, t)) :
    t = { s with points := f s.points } := by
  cases h
  rfl

/-- What the last steps of deleting service `id`, named `name`, did between stores `s` and
`t`: the rows and the edges are as they were; the marks naming the service and its jobs are
gone, and all others kept; no directive, counter or service row names it. -/
structure Cleared (id : Int) (name : String) (s t : Store) : Prop where
  records : t.records = s.records
  lineage : t.lineage = s.lineage
  processedBy : ∀ p, p ∈ t.processedBy ↔ p ∈ s.processedBy ∧ p.2 ≠ id
  inputFor : ∀ p, p ∈ t.inputFor ↔ p ∈ s.inputFor ∧ p.2 ≠ id
  jobs : ∀ j, j ∈ t.jobs ↔ j ∈ s.jobs ∧ j.serviceId ≠ id
  directives : ∀ d ∈ t.directives, d.source ≠ .service id ∧ d.target ≠ id
  counters : ∀ c ∈ t.counters, c.scope ≠ name
  services : ∀ sv ∈ t.services, sv.id ≠ id

/-- What deleting service `id`, whose row is `info`, leaves of store `s` in store `t`. An output
is a row visible in the service's repository. Every output is still held, and deleted; no edge
leads into an output, and every other edge stays; every other service that had processed an
output is input for it again, is no longer marked as having processed it, and has a job
waiting with no output set; and no mark, directive, job, counter or service row names the
service. -/
structure Retired (id : Int) (info : ServiceRow) (s t : Store) : Prop where
  deleted : ∀ row ∈ s.records, row.repo = info.repoName → row.visible = true →
    (∃ row' ∈ t.records, row'.id = row.id) ∧
      ∀ row' ∈ t.records, row'.id = row.id → row'.status = .deleted
  lineage : ∀ e, e ∈ t.lineage ↔ e ∈ s.lineage ∧
    ¬∃ row ∈ s.records, row.id = e.2 ∧ row.repo = info.repoName ∧ row.visible = true
  consumers : ∀ row ∈ s.records, row.repo = info.repoName → row.visible = true → ∀ c, c ≠ id →
    (row.id, c) ∈ s.processedBy → (row.id, c) ∈ t.inputFor ∧ (row.id, c) ∉ t.processedBy ∧
      ∃ j ∈ t.jobs, j.key = (c, none)
  processedBy : ∀ p ∈ t.processedBy, p.2 ≠ id
  inputFor : ∀ p ∈ t.inputFor, p.2 ≠ id
  directives : ∀ d ∈ t.directives, d.source ≠ .service id ∧ d.target ≠ id
  jobs : ∀ j ∈ t.jobs, j.serviceId ≠ id
  counters : ∀ c ∈ t.counters, c.scope ≠ info.name
  services : ∀ sv ∈ t.services, sv.id ≠ id

end Catalog.Store

namespace Catalog.Site

open Catalog.Store Catalog.Pipeline

-- ---------------------------------------------------------------------------
-- Withdrawing the outputs
-- ---------------------------------------------------------------------------

/-- Cutting the edges from `ps` into `x` takes exactly those edges. -/
theorem forM_removeLineage_mem {x : Int} :
    ∀ {ps : List Int} {s t : Site} {a : PUnit}, s.store.needsReplay = false →
      ((ps.forM fun p => atomically (removeLineage p x)).run).run s = (.ok a, t) →
      ∀ e, e ∈ t.store.lineage ↔ e ∈ s.store.lineage ∧ ¬(e.1 ∈ ps ∧ e.2 = x)
  | [], s, t, a, _, h, e => by
    cases h
    simp
  | p :: ps, s, t, a, hq, h, e => by
    change ((atomically (removeLineage p x) >>= fun _ =>
      ps.forM fun p => atomically (removeLineage p x)).run).run s = (.ok a, t) at h
    obtain ⟨_, u, hu, hrest⟩ := run_bind_eq_ok h
    obtain ⟨htx, -⟩ := atomically_eq_ok hq hu
    have hstore := removeLineage_eq htx
    have hqu : u.store.needsReplay = false := by
      rw [needsReplay_congr (show u.store.tables = s.store.tables by rw [hstore])]
      exact hq
    rw [forM_removeLineage_mem hqu hrest e, hstore]
    simp only [List.mem_filter, bne_iff_ne, ne_eq, List.mem_cons]
    constructor
    · rintro ⟨⟨he, hne⟩, hrest⟩
      refine ⟨he, ?_⟩
      rintro ⟨rfl | hin, rfl⟩
      · exact hne rfl
      · exact hrest ⟨hin, rfl⟩
    · rintro ⟨he, hnot⟩
      exact ⟨⟨he, fun hpx => hnot ⟨.inl (congrArg Prod.fst hpx), congrArg Prod.snd hpx⟩⟩,
        fun ⟨hin, hx⟩ => hnot ⟨.inr hin, hx⟩⟩

/-- **Withdrawing one output** whose marks are read as the store holds them withdraws exactly
that output: the edges into it go, it is rewritten deleted, and the services that processed it
become input for it instead. -/
theorem withdrawOutput_retracted {repo : String} {ev ev' : Routing} {o : Record} {s t : Site}
    {x : Int} (hq : s.store.needsReplay = false) (hid : o.id = some x)
    (hsucc : o.successors = []) (hpb : ∀ c, c ∈ o.processedBy ↔ (x, c) ∈ s.store.processedBy)
    (hin : ∀ c, c ∈ o.inputFor ↔ (x, c) ∈ s.store.inputFor)
    (h : ((Service.withdrawOutput repo ev o).run).run s = (.ok ev', t)) :
    Retracted [x] s.store t.store := by
  unfold Service.withdrawOutput at h
  obtain ⟨y, s₁, hreq, h₁⟩ := run_bind_eq_ok h
  have hok : o.requireId = .ok x := by simp [Record.requireId, hid]
  rw [hok] at hreq
  cases hreq
  obtain ⟨preds, s₂, hpreds, h₂⟩ := run_bind_eq_ok h₁
  rw [query_run] at hpreds
  cases hpreds
  -- the edges into the output are cut, which changes the edges alone
  obtain ⟨_, s₃, hcut, h₃⟩ := run_bind_eq_ok h₂
  have hs₃ := forM_removeLineage_eq hq hcut
  have hlin₃ := forM_removeLineage_mem hq hcut
  dsimp only at h₃
  have hq₃ : s₃.store.needsReplay = false := by
    rw [needsReplay_congr (show s₃.store.tables = s.store.tables by rw [hs₃])]
    exact hq
  -- then it is rewritten deleted, with no marks and no edges of its own
  obtain ⟨_, s₄, hupd, h₄⟩ := run_bind_eq_ok h₃
  cases h₄
  obtain ⟨htx, -⟩ := atomically_eq_ok hq₃ hupd
  obtain ⟨i, hi, hw⟩ := updateRecord_rewrote htx
  obtain ⟨i', hi', hstatus, hkept, hlin⟩ := updateRecord_inv htx rfl hsucc
  have hix : x = i := Option.some.inj (hid.symm.trans hi)
  have hix' : x = i' := Option.some.inj (hid.symm.trans hi')
  subst hix hix'
  have hrec₃ : s₃.store.records = s.store.records := by rw [hs₃]
  have hpb₃ : s₃.store.processedBy = s.store.processedBy := by rw [hs₃]
  have hin₃ : s₃.store.inputFor = s.store.inputFor := by rw [hs₃]
  refine ⟨hw.places.trans (by rw [hrec₃]), fun row hrow hx => ?_, fun row hrow hx => ?_,
    fun e => ?_, fun p => ?_, fun p => ?_, hw.tables.trans (by rw [hs₃])⟩
  · exact hstatus row hrow (List.mem_singleton.1 hx)
  · exact hrec₃ ▸ hkept row hrow (fun h => hx (List.mem_singleton.2 h))
  · rw [hlin, hlin₃, Engine.mem_predecessorIds, List.mem_singleton]
    constructor
    · rintro ⟨he, hnot⟩
      exact ⟨he, fun hx => hnot ⟨hx ▸ he, hx⟩⟩
    · rintro ⟨he, hx⟩
      exact ⟨he, fun ⟨_, hx'⟩ => hx hx'⟩
  · rw [hw.processedBy, hpb₃, List.mem_singleton]
    simp
  · -- the services that processed the output are its input now, with those it had
    rw [hw.inputFor, hin₃, List.mem_singleton]
    obtain ⟨p₁, c⟩ := p
    by_cases hp : p₁ = x
    · subst hp
      simp [Routing.reprocess, hin, hpb]
    · simp [hp]

/-- **Withdrawing a page** read from store `sp`, on a store that holds the marks of the page's
rows as `sp` did, withdraws the page's rows. -/
theorem foldlM_withdrawOutput_retracted {repo : String} {sp : Store} :
    ∀ {rows : List RecordRow} {page : List Record} {ev ev' : Routing} {s t : Site},
      rows.mapM sp.view = .ok page → (rows.map (·.id)).Nodup →
      (∀ row ∈ rows, ∀ c, ((row.id, c) ∈ s.store.processedBy ↔ (row.id, c) ∈ sp.processedBy) ∧
        ((row.id, c) ∈ s.store.inputFor ↔ (row.id, c) ∈ sp.inputFor)) →
      s.store.needsReplay = false →
      ((page.foldlM (Service.withdrawOutput repo) ev).run).run s = (.ok ev', t) →
      Retracted (rows.map (·.id)) s.store t.store
  | [], page, ev, ev', s, t, hview, _, _, _, h => by
    cases hview
    cases h
    exact .nil _
  | row :: rows, page, ev, ev', s, t, hview, hnodup, hmarks, hq, h => by
    rw [List.mapM_cons] at hview
    rcases hv : sp.view row with e | o <;> rw [hv] at hview
    · cases hview
    rcases hrest : rows.mapM sp.view with e | os <;> rw [hrest] at hview
    · cases hview
    cases hview
    rw [List.foldlM_cons] at h
    obtain ⟨ev₁, u, hu, h'⟩ := run_bind_eq_ok h
    have h₁ : Retracted [row.id] s.store u.store :=
      withdrawOutput_retracted hq (view_id hv) (view_successors hv)
        (fun c => (view_processedBy hv).trans ((hmarks row List.mem_cons_self c).1).symm)
        (fun c => (view_inputFor hv).trans ((hmarks row List.mem_cons_self c).2).symm) hu
    obtain ⟨hfresh, hnodup'⟩ := List.nodup_cons.1 hnodup
    -- the rest of the page has other ids, whose marks the first withdrawal kept
    have hmarks' : ∀ row' ∈ rows, ∀ c,
        ((row'.id, c) ∈ u.store.processedBy ↔ (row'.id, c) ∈ sp.processedBy) ∧
          ((row'.id, c) ∈ u.store.inputFor ↔ (row'.id, c) ∈ sp.inputFor) := by
      intro row' hrow' c
      have hne : row'.id ∉ [row.id] := fun h =>
        hfresh (List.mem_map.2 ⟨row', hrow', List.mem_singleton.1 h⟩)
      obtain ⟨hp, hi⟩ := hmarks row' (List.mem_cons_of_mem _ hrow') c
      refine ⟨(h₁.processedBy _).trans ?_, (h₁.inputFor _).trans ?_⟩
      · simpa [hne] using hp
      · simpa [hne] using hi
    exact h₁.append (foldlM_withdrawOutput_retracted hrest hnodup' hmarks'
      ((needsReplay_congr h₁.tables).trans hq) h')

/-- The last record of a page is read from the last row of the page. -/
theorem getLast?_of_mapM_view {s : Store} {rows : List RecordRow} {pg : List Record}
    {last : Record} (h : rows.mapM s.view = .ok pg) (hlast : pg.getLast? = some last) :
    ∃ row, rows.getLast? = some row ∧ last.id = some row.id := by
  have hids := congrArg List.getLast? (mapM_view_ids h)
  rw [List.getLast?_map, List.getLast?_map, hlast, Option.map_some] at hids
  obtain ⟨row, hrow, hrid⟩ := Option.map_eq_some_iff.1 hids.symm
  exact ⟨row, hrow, hrid.symm⟩

/-- **Withdrawing a repository page by page** from a cursor, on a record table kept in id
order and with a page to spare, withdraws every row the repository shows above the cursor. -/
theorem withdrawPages_retracted {repo : String} {size : Nat} (hsize : 0 < size) :
    ∀ {pages : Nat} {cursor : Int} {ev ev' : Routing} {s t : Site},
      s.store.needsReplay = false → s.store.KeyOrdered →
      (s.store.selectRows repo { after := cursor }).length < pages →
      ((Service.withdrawPages repo size pages cursor ev).run).run s = (.ok ev', t) →
      Retracted ((s.store.selectRows repo { after := cursor }).map (·.id)) s.store t.store
  | 0, _, _, _, _, _, _, _, hlen, _ => absurd hlen (Nat.not_lt_zero _)
  | pages + 1, cursor, ev, ev', s, t, hq, hk, hlen, h => by
    rw [Service.withdrawPages] at h
    obtain ⟨page, u, hread, h₁⟩ := run_bind_eq_ok h
    rw [lookup_run] at hread
    rcases hpg : s.store.page repo { after := cursor } size with e | rs <;> rw [hpg] at hread
    · cases hread
    cases hread
    -- the page was read, so the store has its record table
    have ht : s.store.hasTable "records" = true := by
      cases ht : s.store.hasTable "records"
      · rw [page_of_no_table ht] at hpg
        cases hpg
      · rfl
    rw [page_eq ht] at hpg
    have hlength := length_of_mapM_view hpg
    split at h₁
    · -- an empty page: no row is left above the cursor
      rename_i hnone
      cases h₁
      have hnil : s.store.selectRows repo { after := cursor } = [] := by
        rw [List.getLast?_eq_none_iff] at hnone
        rw [hnone, List.length_nil, eq_comm, List.length_eq_zero_iff, List.take_eq_nil_iff]
          at hlength
        exact hlength.resolve_left (Nat.pos_iff_ne_zero.1 hsize)
      rw [hnil]
      exact .nil _
    · rename_i last hlast
      obtain ⟨ev₁, v, hv, hrest⟩ := run_bind_eq_ok h₁
      have hsorted : (s.store.selectRows repo { after := cursor }).Pairwise
          fun a b => a.id < b.id := selectRows_keyOrdered hk _
      have hordered := hsorted.sublist (List.take_sublist size _)
      have hpage := foldlM_withdrawOutput_retracted hpg
        (List.pairwise_map.2 (hordered.imp Int.ne_of_lt)) (fun _ _ _ => ⟨Iff.rfl, Iff.rfl⟩) hq hv
      -- the cursor moves to the id of the page's last row
      obtain ⟨row, hrow, hid⟩ := getLast?_of_mapM_view hpg hlast
      rw [hid, Option.getD_some] at hrest
      have hids : (v.store.selectRows repo { after := row.id }).map (·.id) =
          ((s.store.selectRows repo { after := cursor }).drop size).map (·.id) := by
        rw [selectRows_ids_of_places hpage.places, selectRows_after_page hk hrow]
      -- a page holds a row, so fewer rows are left above the new cursor
      have hlen' : (v.store.selectRows repo { after := row.id }).length < pages := by
        have hdrop := congrArg List.length hids
        rw [List.length_map, List.length_map, List.length_drop] at hdrop
        have hne : 0 < (s.store.selectRows repo { after := cursor }).length := by
          have : 0 < page.length := List.length_pos_iff.2 (fun hnil => by simp [hnil] at hlast)
          rw [hlength, List.length_take] at this
          omega
        omega
      have hrest' := withdrawPages_retracted hsize ((needsReplay_congr hpage.tables).trans hq)
        (keyOrdered_of_places hpage.places hk) hlen' hrest
      rw [hids] at hrest'
      have hall := hpage.append hrest'
      rwa [← List.map_append, List.take_append_drop] at hall

-- ---------------------------------------------------------------------------
-- Clearing what names the service
-- ---------------------------------------------------------------------------

/-- Uninstalling a service changes its match points at most. -/
theorem uninstall_store {info : ServiceRow} {w : Service.Worker} {s t : Site} {x : Unit}
    (hq : s.store.needsReplay = false) (h : ((Engine.uninstall info w).run).run s = (.ok x, t)) :
    t.store = { s.store with points := t.store.points } := by
  cases w with
  | aggregation _ _ =>
    simp only [Engine.uninstall, Engine.changePoints] at h
    obtain ⟨htx, -⟩ := atomically_eq_ok hq h
    rw [modifyPoints_eq htx]
  | scripted script _ =>
    simp only [Engine.uninstall] at h
    split at h
    · cases h
    · cases h
      rfl
  | normalization =>
    cases h
    rfl

/-- **The clean-up after the withdrawal**: clearing the service's marks, directives, jobs and
counters, uninstalling it and deleting its row leaves the rows and the edges alone, and nothing
that names the service. -/
theorem deleteCleanup_cleared {id : Int} {info : ServiceRow} {s t : Site} {x : Unit}
    (hq : s.store.needsReplay = false)
    (h : ((do
        atomically (clearMarks id)
        let _ ← atomically (deleteDirectivesFor id)
        let _ ← atomically (removeJobsFor id)
        atomically (deleteCounters info.name)
        Engine.uninstall info (← Engine.instantiate info)
        atomically (Store.deleteService id) : Action Unit).run).run s = (.ok x, t)) :
    Cleared id info.name s.store t.store := by
  -- each step changes its own part of the store, and never the schema
  obtain ⟨_, s₁, h₁, r₁⟩ := run_bind_eq_ok h
  have e₁ := clearMarks_eq (atomically_eq_ok hq h₁).1
  have hq₁ : s₁.store.needsReplay = false := (needsReplay_congr (by rw [e₁])).trans hq
  obtain ⟨_, s₂, h₂, r₂⟩ := run_bind_eq_ok r₁
  have e₂ := deleteDirectivesFor_eq (atomically_eq_ok hq₁ h₂).1
  have hq₂ : s₂.store.needsReplay = false := (needsReplay_congr (by rw [e₂])).trans hq₁
  obtain ⟨_, s₃, h₃, r₃⟩ := run_bind_eq_ok r₂
  have e₃ := removeJobsFor_eq (atomically_eq_ok hq₂ h₃).1
  have hq₃ : s₃.store.needsReplay = false := (needsReplay_congr (by rw [e₃])).trans hq₂
  obtain ⟨_, s₄, h₄, r₄⟩ := run_bind_eq_ok r₃
  have e₄ := deleteCounters_eq (atomically_eq_ok hq₃ h₄).1
  have hq₄ : s₄.store.needsReplay = false := (needsReplay_congr (by rw [e₄])).trans hq₃
  obtain ⟨w, s₅, h₅, r₅⟩ := run_bind_eq_ok r₄
  have e₅ : s₅.store = s₄.store := by
    have hs := Engine.instantiate_store info s₄
    rw [h₅] at hs
    exact hs
  obtain ⟨_, s₆, h₆, r₆⟩ := run_bind_eq_ok r₅
  have e₆ := uninstall_store (e₅ ▸ hq₄) h₆
  have hq₆ : s₆.store.needsReplay = false :=
    (needsReplay_congr (by rw [e₆])).trans (e₅ ▸ hq₄)
  have e₇ := deleteService_eq (atomically_eq_ok hq₆ r₆).1
  -- read each part of the last store back to the step that set it
  have hrecords : t.store.records = s.store.records := by
    rw [e₇, e₆, e₅, e₄, e₃, e₂, e₁]
  have hlineage : t.store.lineage = s.store.lineage := by
    rw [e₇, e₆, e₅, e₄, e₃, e₂, e₁]
  have hpb : t.store.processedBy = s.store.processedBy.filter (·.2 != id) := by
    rw [e₇, e₆, e₅, e₄, e₃, e₂, e₁]
  have hin : t.store.inputFor = s.store.inputFor.filter (·.2 != id) := by
    rw [e₇, e₆, e₅, e₄, e₃, e₂, e₁]
  have hjobs : t.store.jobs = s.store.jobs.filter (·.serviceId != id) := by
    rw [e₇, e₆, e₅, e₄, e₃, e₂, e₁]
  have hdirs : t.store.directives = s₆.store.directives.filter fun d =>
      d.target != id && d.source != .service id := by
    rw [e₇]
  have hcounters : t.store.counters = s₃.store.counters.filter (·.scope != info.name) := by
    rw [e₇, e₆, e₅, e₄]
  have hservices : t.store.services = s₆.store.services.filter (·.id != id) := by
    rw [e₇]
  refine ⟨hrecords, hlineage, fun p => ?_, fun p => ?_, fun j => ?_, fun d hd => ?_,
    fun c hc => ?_, fun sv hsv => ?_⟩
  · rw [hpb, List.mem_filter, bne_iff_ne]
  · rw [hin, List.mem_filter, bne_iff_ne]
  · rw [hjobs, List.mem_filter, bne_iff_ne]
  · rw [hdirs, List.mem_filter] at hd
    simpa [and_comm] using hd.2
  · rw [hcounters, List.mem_filter, bne_iff_ne] at hc
    exact hc.2
  · rw [hservices, List.mem_filter, bne_iff_ne] at hsv
    exact hsv.2

-- ---------------------------------------------------------------------------
-- The deletion
-- ---------------------------------------------------------------------------

/-- A deletion that succeeds retires the service it found. -/
theorem retired_of_delete {id : Int} {s t : Site} (hq : s.store.needsReplay = false)
    (hk : s.store.KeyOrdered) (hpos : ∀ row ∈ s.store.records, 0 < row.id)
    (h : ((Service.delete id).run).run s = (.ok (), t)) :
    ∃ info, s.store.service? id = .ok (some info) ∧ Retired id info s.store t.store := by
  unfold Service.delete at h
  obtain ⟨info, s₁, hreq, h₁⟩ := run_bind_eq_ok h
  obtain ⟨hs₁, hinfo⟩ := Service.requireService_eq hreq
  subst s₁
  refine ⟨info, hinfo info rfl, ?_⟩
  -- an active service is refused before anything is written
  split at h₁
  · obtain ⟨_, _, hthrow, -⟩ := run_bind_eq_ok h₁
    cases hthrow
  obtain ⟨_, s₂, hget, h₂⟩ := run_bind_eq_ok h₁
  cases hget
  obtain ⟨_, s₃, hcount, h₃⟩ := run_bind_eq_ok h₂
  cases hcount
  -- the outputs are withdrawn page by page: every one of them, as the pages suffice
  obtain ⟨ev, s₄, hpages, h₄⟩ := run_bind_eq_ok h₃
  have hret := withdrawPages_retracted (by omega) hq hk
    (Nat.lt_succ_of_le (List.length_filter_le _ _)) hpages
  have hw₄ := withdrawPages_withdrawal hq hpages
  have hq₄ : s₄.store.needsReplay = false := (needsReplay_congr hret.tables).trans hq
  -- completing the repository and queuing the schedule leave the rows alone
  obtain ⟨_, s₅, hdone, h₅⟩ := run_bind_eq_ok h₄
  have hw₅ := hw₄.trans (processComplete_withdrawal hq₄ hdone)
  have hrows₅ : s₅.store.rows = s₄.store.rows := by
    have hr := processComplete_leavesRows info.repoName s₄ hq₄
    rw [hdone] at hr
    exact hr
  have hq₅ : s₅.store.needsReplay = false := (needsReplay_congr hw₅.tables).trans hq
  obtain ⟨_, s₆, henq, h₆⟩ := run_bind_eq_ok h₅
  have hqueued := enqueueScheduled_queued hq₅ henq
  have hrows₆ : s₆.store.rows = s₄.store.rows := by
    have hr := enqueueScheduled_leavesRows ev s₅ hq₅
    rw [henq] at hr
    exact hr.trans hrows₅
  have hq₆ : s₆.store.needsReplay = false := (needsReplay_congr hqueued.tables).trans hq₅
  -- then whatever names the service is cleared
  have hclear := deleteCleanup_cleared hq₆ h₆
  have hrequeued := @Requeued.of_withdrawn id _ _ _ _ hw₅.withdrawn hqueued
  have hrecords : t.store.records = s₄.store.records :=
    hclear.records.trans (congrArg Rows.records hrows₆)
  have hlineage : t.store.lineage = s₄.store.lineage :=
    hclear.lineage.trans (congrArg Rows.lineage hrows₆)
  have hpb₆ : s₆.store.processedBy = s₄.store.processedBy := congrArg Rows.processedBy hrows₆
  have hin₆ : s₆.store.inputFor = s₄.store.inputFor := congrArg Rows.inputFor hrows₆
  have hout := fun {x : Int} => @mem_selectRows_zero _ info.repoName hpos x
  refine ⟨fun row hrow hrepo hvis => ⟨?_, ?_⟩, fun e => ?_, fun row hrow hrepo hvis c hc hpb => ?_,
    fun p hp => ((hclear.processedBy p).1 hp).2, fun p hp => ((hclear.inputFor p).1 hp).2,
    hclear.directives, fun j hj => ((hclear.jobs j).1 hj).2, hclear.counters, hclear.services⟩
  · -- the output keeps its place
    have hplace : row.place ∈ s₄.store.records.map RecordRow.place := by
      rw [hret.places]
      exact List.mem_map_of_mem hrow
    obtain ⟨row', hrow', hp⟩ := List.mem_map.1 hplace
    exact ⟨row', hrecords ▸ hrow', congrArg Prod.fst hp⟩
  · intro row' hrow' hid
    exact hret.deleted row' (hrecords ▸ hrow') (hid ▸ hout.2 ⟨row, hrow, rfl, hrepo, hvis⟩)
  · rw [hlineage, hret.lineage, hout]
  · have hx : row.id ∈ (s.store.selectRows info.repoName { after := 0 }).map (·.id) :=
      hout.2 ⟨row, hrow, rfl, hrepo, hvis⟩
    have hgone : (row.id, c) ∉ s₆.store.processedBy := by
      rw [hpb₆, hret.processedBy]
      exact fun h => h.2 hx
    refine ⟨(hclear.inputFor _).2 ⟨?_, hc⟩, fun h => hgone ((hclear.processedBy _).1 h).1, ?_⟩
    · rw [hin₆, hret.inputFor]
      exact .inr ⟨hx, hpb⟩
    · obtain ⟨j, hj, hkey⟩ := hrequeued row.id c hc hpb hgone
      have hsid : j.serviceId = c := congrArg Prod.fst hkey
      exact ⟨j, (hclear.jobs j).2 ⟨hj, hsid ▸ hc⟩, hkey⟩

/-- **What a deletion that succeeds leaves.** On a record table kept in id order, with positive
ids, and a schema that sets off nothing, deleting a service withdraws every output of it: each
stays, deleted, with no edge into it, while every edge into anything else stays, so an output
keeps its edges to successors that are not outputs themselves. Every other service that had
processed an output is input for it again and has a job waiting; and nothing names the service
any more. -/
theorem delete_retires {id : Int} {s t : Site} (hq : s.store.needsReplay = false)
    (hk : s.store.KeyOrdered) (hpos : ∀ row ∈ s.store.records, 0 < row.id)
    (h : ((Service.delete id).run).run s = (.ok (), t)) :
    ∃ info, s.store.service? id = .ok (some info) ∧ Retired id info s.store t.store :=
  retired_of_delete hq hk hpos h

/-- Service `S` with two outputs, the second derived from the first. -/
def twoOutputSite : Site :=
  { store :=
      { records :=
          [{ id := 1, repo := "service:S", oaiId := "o1", format := "marc21", recordType := none,
              status := .active, payload := .obj [], visible := true, batch := none,
              updatedAt := 0 },
            { id := 2, repo := "service:S", oaiId := "o2", format := "marc21", recordType := none,
              status := .active, payload := .obj [], visible := true, batch := none,
              updatedAt := 0 }]
        services :=
          [{ id := 1, name := "S", kind := "normalization", version := "1.0",
              repoName := "service:S", status := .notRunning, totals := {} }]
        lineage := [(1, 2)]
        tables :=
          { main := [.table { (default : Sql.Table) with name := "records" },
              .table { (default : Sql.Table) with name := "services" },
              .table { (default : Sql.Table) with name := "jobs" }] } } }

theorem twoOutputSite_quiet : twoOutputSite.store.needsReplay = false :=
  needsReplay_of_bare (by simp [twoOutputSite, Sql.Database.objects]; rfl)

/-- Deleting `S` from `twoOutputSite` succeeds and withdraws both outputs: the edge between
them goes with the second. -/
theorem twoOutputSite_delete :
    ∃ t, ((Service.delete 1).run).run twoOutputSite = (.ok (), t) ∧ (1, 2) ∉ t.store.lineage := by
  have hq' : ∀ {st : Site}, st.store.tables = twoOutputSite.store.tables →
      st.store.needsReplay = false :=
    fun h => (needsReplay_congr h).trans twoOutputSite_quiet
  apply Exists.intro
  refine ⟨?run, ?cut⟩
  case run =>
    unfold Service.delete
    refine run_bind_of (Service.requireService_run rfl) ?_
    rw [if_neg (by decide)]
    refine run_bind_of (run_get _) ?_
    refine run_bind_of (query_run _ _) ?_
    -- the first page holds both outputs, withdrawn in place; the next is empty
    apply run_bind_of
    · rw [show twoOutputSite.store.records.length + 1 = 2 + 1 from rfl, Service.withdrawPages]
      refine run_bind_of (lookup_run _ _) ?_
      simp only [List.reverse_cons, List.reverse_nil, List.nil_append, List.cons_append,
        List.getLast?_cons_cons, List.getLast?_singleton, List.foldlM_cons, List.foldlM_nil,
        bind_pure]
      apply run_bind_of
      · apply run_bind_of
        · -- the first output has no predecessor
          unfold Service.withdrawOutput
          refine run_bind_of rfl ?_
          refine run_bind_of (query_run _ _) ?_
          refine run_bind_of rfl ?_
          dsimp only [Pipeline.Routing.reprocess]
          refine run_bind_of (atomically_run_of (hq' rfl) rfl) ?_
          rfl
        · -- the second loses its edge from the first
          unfold Service.withdrawOutput
          refine run_bind_of rfl ?_
          refine @run_bind_of _ _ _ _ _ _ [1] _ ((query_run _ _).trans rfl) ?_
          refine run_bind_of (run_bind_of (atomically_run_of (hq' rfl) rfl) rfl) ?_
          dsimp only [Pipeline.Routing.reprocess]
          refine run_bind_of (atomically_run_of (hq' rfl) rfl) ?_
          rfl
      rw [Service.withdrawPages]
      refine run_bind_of (lookup_run _ _) ?_
      rfl
    -- the site the deletion has reached, written out once, before its last steps
    dsimp only
    refine run_bind_of (run_bind_of rfl (atomically_run_of (hq' rfl) (by rfl))) ?_
    refine run_bind_of rfl ?_
    refine run_bind_of (atomically_run_of (hq' rfl) (by rfl)) ?_
    refine run_bind_of (atomically_run_of (hq' rfl) (by rfl)) ?_
    refine run_bind_of (atomically_run_of (hq' rfl) (by rfl)) ?_
    refine run_bind_of (atomically_run_of (hq' rfl) (by rfl)) ?_
    refine run_bind_of rfl ?_
    refine run_bind_of rfl ?_
    exact atomically_run_of (hq' rfl) rfl
  case cut => decide +kernel

/-- Deleting a service cuts the edges between its outputs: the first output of `S` had the second
as its successor, and after the deletion it has no edge to it. -/
theorem deleting_a_service_cuts_edges_between_its_outputs :
    (1, 2) ∈ twoOutputSite.store.lineage ∧
      ∃ t, ((Service.delete 1).run).run twoOutputSite = (.ok (), t) ∧
        (1, 2) ∉ t.store.lineage :=
  ⟨List.mem_singleton_self _, twoOutputSite_delete⟩

/-- Deleting `S` from `twoOutputSite` retires it. -/
theorem deleting_a_service_with_linked_outputs_retires_it :
    ∃ t, (twoOutputSite.store.needsReplay = false ∧ twoOutputSite.store.KeyOrdered ∧
        (∀ row ∈ twoOutputSite.store.records, 0 < row.id) ∧
        ((Service.delete 1).run).run twoOutputSite = (.ok (), t)) ∧
      ∃ info, twoOutputSite.store.service? 1 = .ok (some info) ∧
        Retired 1 info twoOutputSite.store t.store := by
  have hk : twoOutputSite.store.KeyOrdered := by decide
  have hpos : ∀ row ∈ twoOutputSite.store.records, 0 < row.id := by decide
  obtain ⟨t, hdel, -⟩ := twoOutputSite_delete
  exact ⟨t, ⟨twoOutputSite_quiet, hk, hpos, hdel⟩, delete_retires twoOutputSite_quiet hk hpos hdel⟩

end Catalog.Site
