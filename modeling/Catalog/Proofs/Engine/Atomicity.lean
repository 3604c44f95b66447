import Catalog.Proofs.Engine.Outputs

/-!
# Outputs and marks of a pass go together

A pass stores the outputs of each input in its open batch and holds back the input's mark
until the batch ends. This module shows that the steps of a pass that store outputs keep the
outputs paired with the marks of their inputs: routing an output keeps it from becoming input
for the service, storing one keeps the lineage it names owed to its input, and a failure
leaves nothing in flight.

The steps carry the invariant `Kept` of `Catalog.Proofs.Engine.Outputs`, which assumes that
no update script of the store is set off by a write, that no directive routes the service's
outputs back to the service, and that the open batch is on the service's repository.

## Main results

* `prepareOutput_routed`: what routing does to an output
* `Kept.rewrite`, `Kept.stage`, `Kept.hold`: what a write of a pass does to the invariant
* `storeOutput_spec`, `storeOwned_spec`, `storeReturned_spec`: storing the outputs of an input
-/

namespace Catalog.Engine

open Catalog.Store Catalog.Site Catalog.Pipeline Catalog.Service Std.Do

-- ---------------------------------------------------------------------------
-- Routing an output
-- ---------------------------------------------------------------------------

/-- Marking a record as input for targets: the record's fields the marks live in. -/
theorem foldl_route_fields (targets : List (Int × Option String)) (r : Record) :
    let r' := targets.foldl (fun (r : Record) t =>
      { r with inputFor := SortedList.insert t.1 r.inputFor
               processedBy := SortedList.erase t.1 r.processedBy }) r
    r'.id = r.id ∧ r'.predecessors = r.predecessors ∧ r'.successors = r.successors ∧
      r'.status = r.status ∧
      (∀ v, v ∈ r'.inputFor → v ∈ r.inputFor ∨ v ∈ targets.map (·.1)) ∧
      (∀ v, v ∈ r'.processedBy → v ∈ r.processedBy) := by
  induction targets generalizing r with
  | nil => simp
  | cons t ts ih =>
    obtain ⟨h1, h2, h3, h4, h5, h6⟩ := ih
      { r with inputFor := SortedList.insert t.1 r.inputFor
               processedBy := SortedList.erase t.1 r.processedBy }
    refine ⟨h1, h2, h3, h4, fun v hv => ?_, fun v hv => ?_⟩
    · rcases h5 v hv with h | h
      · rw [SortedList.mem_insert] at h
        rcases h with rfl | h
        · exact .inr (by simp)
        · exact .inl h
      · exact .inr (by simp [h])
    · have := h6 v hv
      rw [SortedList.mem_erase] at this
      exact this.1

@[simp] theorem schedule_directives (ev : Routing) (p : Int × Option String) :
    (ev.schedule p).directives = ev.directives := by
  unfold Routing.schedule; split <;> rfl

theorem foldl_directives {α : Type} {f : Routing → α → Routing}
    (hf : ∀ ev a, (f ev a).directives = ev.directives) (xs : List α) (ev : Routing) :
    (xs.foldl f ev).directives = ev.directives := by
  induction xs generalizing ev with
  | nil => rfl
  | cons a as ih => rw [List.foldl_cons, ih, hf]

/-- What routing does to a record and to the routing: the lineage is untouched, the record
only becomes input for the directives' targets or for the services that processed it, and
the directives stay. -/
structure Routed (ev : Routing) (r w : Record) (ev' : Routing) : Prop where
  id : w.id = r.id
  predecessors : w.predecessors = r.predecessors
  successors : w.successors = r.successors
  inputFor : ∀ v ∈ w.inputFor, v ∈ r.inputFor ∨ v ∈ r.processedBy ∨
    ∃ d ∈ ev.directives, d.target = v
  processedBy : ∀ v ∈ w.processedBy, v ∈ r.processedBy
  directives : ev'.directives = ev.directives

theorem evaluate_routed (ev : Routing) (r : Record) :
    Routed ev r (ev.evaluate r).1 (ev.evaluate r).2.1 := by
  obtain ⟨h1, h2, h3, -, h5, h6⟩ := foldl_route_fields
    ((ev.directives.filter (·.matches r)).map fun d => (d.target, d.outputSet)) r
  refine ⟨h1, h2, h3, fun v hv => ?_, h6, foldl_directives schedule_directives _ _⟩
  rcases h5 v hv with h | h
  · exact .inl h
  · simp only [List.map_map, List.mem_map, List.mem_filter, Function.comp_apply] at h
    obtain ⟨d, ⟨hd, -⟩, rfl⟩ := h
    exact .inr (.inr ⟨d, hd, rfl⟩)

theorem Routed.reprocess {ev ev' : Routing} {r w : Record} (h : Routed ev r w ev') :
    Routed ev r (ev'.reprocess w).1 (ev'.reprocess w).2 := by
  refine ⟨h.id, h.predecessors, h.successors, fun v hv => ?_, fun v hv => ?_, ?_⟩
  · -- a deleted record becomes input again for the services that processed it
    rcases SortedList.mem_union.1 hv with hv | hv
    · exact h.inputFor v hv
    · exact .inr (.inl (h.processedBy v hv))
  · exact absurd hv List.not_mem_nil
  · exact (foldl_directives (fun _ _ => schedule_directives ..) _ _).trans h.directives

theorem Routed.congr {ev ev' : Routing} {r r' w : Record} (h : Routed ev r w ev')
    (hid : r.id = r'.id) (hpred : r.predecessors = r'.predecessors)
    (hsucc : r.successors = r'.successors) (hin : r.inputFor = r'.inputFor)
    (hpb : r.processedBy = r'.processedBy) : Routed ev r' w ev' := by
  obtain ⟨h1, h2, h3, h4, h5, h6⟩ := h
  exact ⟨hid ▸ h1, hpred ▸ h2, hsucc ▸ h3, hin ▸ hpb ▸ h4, hpb ▸ h5, h6⟩

theorem prepareOutput_routed (p : Pass) (x : Int) (o : Record) :
    Routed p.routing { o with predecessors := SortedList.insert x o.predecessors }
      (prepareOutput p x o).1 (prepareOutput p x o).2 := by
  unfold prepareOutput
  cases p.outputSet <;> dsimp only <;> split
  · exact (evaluate_routed _ _).reprocess.congr rfl rfl rfl rfl rfl
  · exact (evaluate_routed _ _).congr rfl rfl rfl rfl rfl
  · exact (evaluate_routed _ _).reprocess.congr rfl rfl rfl rfl rfl
  · exact (evaluate_routed _ _).congr rfl rfl rfl rfl rfl

/-- An output the pass may store stays clear of the service when it is routed by directives
that never target the service. -/
theorem Routed.clear {ev ev' : Routing} {r w : Record} {v : Int} (h : Routed ev r w ev')
    (hin : v ∉ r.inputFor) (hpb : v ∉ r.processedBy) (hroutes : ∀ d ∈ ev.directives, d.target ≠ v) :
    v ∉ w.inputFor ∧ v ∉ w.processedBy := by
  refine ⟨fun hv => ?_, fun hv => hpb (h.processedBy v hv)⟩
  rcases h.inputFor v hv with hv | hv | ⟨d, hd, rfl⟩
  · exact hin hv
  · exact hpb hv
  · exact hroutes d hd rfl

-- ---------------------------------------------------------------------------
-- What stays owed
-- ---------------------------------------------------------------------------

variable {c : Scope} {fl : Option Int} {ins : List Int}

/-- A later key of a pass owes no more than an earlier one: it has no output of the pass that
the earlier lacked, and every record done stays done. -/
structure StillDone (c : Scope) (k k' : Key) : Prop where
  newOutput : ∀ i, k'.rows.NewOutput c i → k.rows.NewOutput c i
  done : ∀ p, k.rows.Done c k.batch p → k'.rows.Done c k'.batch p

theorem StillDone.refl (k : Key) : StillDone c k k := ⟨fun _ h => h, fun _ h => h⟩

theorem StillDone.trans {k₁ k₂ k₃ : Key} (h₁ : StillDone c k₁ k₂) (h₂ : StillDone c k₂ k₃) :
    StillDone c k₁ k₃ :=
  ⟨fun i h => h₁.newOutput i (h₂.newOutput i h), fun p h => h₂.done p (h₁.done p h)⟩

theorem Fine.still {k k' : Key} {o : Record} (h : Fine c k o) (hk : StillDone c k k') :
    Fine c k' o :=
  ⟨h.notInput, h.notProcessed, h.noSuccessors, h.fresh,
    fun i hi hnew p hp => hk.done p (h.owed i hi (hk.newOutput i hnew) p hp)⟩

-- ---------------------------------------------------------------------------
-- The invariant across the writes of a pass
-- ---------------------------------------------------------------------------

/-- Rewriting an output keeps the invariant, and owes nothing new. -/
theorem Kept.rewrite {k : Key} {s t : Store} {i : Int} {w : Record} (h : Kept c fl ins k)
    (hrows : k.rows = s.rows) (hw : Rewrote c.repo i w s t)
    (hv : c.service ∉ w.inputFor ∧ c.service ∉ w.processedBy) (hsucc : w.successors = [])
    (hpred : k.rows.NewOutput c i → ∀ x ∈ w.predecessors, k.rows.Done c k.batch x ∨ fl = some x) :
    Kept c fl ins { k with rows := t.rows } ∧ StillDone c k { k with rows := t.rows } := by
  have hq : t.rows.replay = k.rows.replay := by rw [hrows]; exact needsReplay_congr hw.tables
  have hp := h.paired
  rw [hrows] at hp hpred
  refine ⟨⟨hq.trans h.quiet, h.service, h.repo, h.routes, h.onRepo, hp.rewrite hw hv hsucc hpred⟩,
    fun j hj => ?_, fun p hd => ?_⟩
  · rw [hrows]
    exact (Rows.newOutput_congr hw.places j).1 hj
  · rw [hrows] at hd
    exact hp.done_rewrite hw hd

/-- Staging a new output in the open batch keeps the invariant. -/
theorem Kept.stage {k : Key} {s t : Store} {i : Int} {w : Record} {bb : Batch}
    (h : Kept c fl ins k) (hrows : k.rows = s.rows) (hb : k.batch = some bb)
    (hw : Inserted c.repo w (some bb.id) i s t)
    (hv : c.service ∉ w.inputFor ∧ c.service ∉ w.processedBy) (hsucc : w.successors = [])
    (hpred : ∀ x ∈ w.predecessors, k.rows.Done c k.batch x ∨ fl = some x) :
    Kept c fl ins
      { k with rows := t.rows, batch := some { bb with staged := SortedList.insert i bb.staged } } := by
  have hq : t.rows.replay = k.rows.replay := by rw [hrows]; exact needsReplay_congr hw.tables
  have hp := h.paired
  rw [hrows, hb] at hp
  rw [hrows, hb] at hpred
  refine ⟨hq.trans h.quiet, h.service, h.repo, h.routes, ?_, hp.stage hw rfl rfl hv hsucc hpred⟩
  rintro bb' ⟨⟩
  exact h.onRepo bb hb

/-- Holding back the mark of the input in flight settles it. -/
theorem Kept.hold {k : Key} {x : Int} {bb : Batch} (h : Kept c (some x) ins k)
    (hb : k.batch = some bb) (hx : k.rows.Input c x) :
    Kept c none ins { k with batch := some (bb.mark x c.service) } := by
  have hp := h.paired
  rw [hb] at hp
  refine ⟨h.quiet, h.service, h.repo, h.routes, ?_, hp.hold hx⟩
  rintro bb' ⟨⟩
  exact h.onRepo bb hb

-- ---------------------------------------------------------------------------
-- Storing an output
-- ---------------------------------------------------------------------------

theorem At.quiet {k : Key} {st : Site × Pass} (h : At k st) : st.1.store.needsReplay = false := by
  obtain ⟨rfl, hq⟩ := h
  exact hq

/-- An output a pass may write with `fl` in flight: it is neither input for the service nor
processed by it, names no successor, and a new output or an output of the pass comes from
records that are done or in flight. -/
structure Writable (c : Scope) (fl : Option Int) (k : Key) (w : Record) : Prop where
  clear : c.service ∉ w.inputFor ∧ c.service ∉ w.processedBy
  noSuccessors : w.successors = []
  stored : ∀ i, w.id = some i → k.rows.NewOutput c i →
    ∀ p ∈ w.predecessors, k.rows.Done c k.batch p ∨ fl = some p
  new : w.id = none → ∀ p ∈ w.predecessors, k.rows.Done c k.batch p ∨ fl = some p

theorem writeOutput_spec {k : Key} (hk : Kept c fl ins k) (w : Record) :
    ⦃fun st => ⌜At k st ∧ Writable c fl k w⌝⦄ writeOutput w
    ⦃post⟨fun _ st => ⌜Kept c fl ins (key st) ∧ (key st).batch.isSome ∧
        (w.id.isSome → StillDone c k (key st))⌝,
      fun _ st => ⌜At k st⌝⟩⦄ := by
  mvcgen [writeOutput, current, update, outputBatch, fail, onSite_atomically]
  all_goals try exact ⟨trivial, ‹At k _ ∧ _›.1.quiet⟩
  -- a stored output is rewritten in place
  · rename_i st₀ hpre bb hb hsome _ _ hrun _
    obtain ⟨t, hrun, rfl⟩ := hrun
    obtain ⟨⟨rfl, -⟩, hw⟩ := hpre
    obtain ⟨i, hi, hrw⟩ := updateRecord_rewrote hrun
    rw [hk.onRepo bb hb] at hrw
    have h := hk.rewrite rfl hrw hw.clear hw.noSuccessors (hw.stored i hi)
    exact ⟨h.1, Option.isSome_iff_exists.2 ⟨bb, hb⟩, fun _ => h.2⟩
  · rename_i hpre _ _ _ _ _
    rintro - rfl
    exact hpre.1
  -- a new output is staged
  · rename_i st₀ hpre bb hb hnone ib _ hrun _
    obtain ⟨t, hrun, rfl⟩ := hrun
    obtain ⟨⟨rfl, -⟩, hw⟩ := hpre
    obtain ⟨i, bb'⟩ := ib
    obtain ⟨hins, rfl⟩ := Batch.add_inserted hrun
    rw [hk.onRepo bb hb] at hins
    have hid : w.id = none := Option.not_isSome_iff_eq_none.1 hnone
    exact ⟨hk.stage rfl hb hins hw.clear hw.noSuccessors (hw.new hid), rfl, fun h => absurd h hnone⟩
  · rename_i hpre _ _ _ _ _
    rintro - rfl
    exact hpre.1
  · exact ‹At k _ ∧ _›.1

/-- Routing an output the pass may store gives an output it may write: its own input is in
flight, or already among its predecessors in a stored output. -/
theorem Fine.writable {k : Key} {x : Int} {o w : Record} {ev ev' : Routing} (h : Fine c k o)
    (hr : Routed ev { o with predecessors := SortedList.insert x o.predecessors } w ev')
    (hroutes : ∀ d ∈ ev.directives, d.target ≠ c.service)
    (hx : (x ∈ o.predecessors ∧ o.id.isSome) ∨ fl = some x) : Writable c fl k w := by
  have hpred : w.predecessors = SortedList.insert x o.predecessors := hr.predecessors
  refine ⟨hr.clear h.notInput h.notProcessed hroutes, hr.successors.trans h.noSuccessors,
    fun i hi hnew p hp => ?_, fun hnone p hp => ?_⟩
  · have hi' : o.id = some i := hr.id ▸ hi
    rw [hpred, SortedList.mem_insert] at hp
    rcases hp with rfl | hp
    · rcases hx with ⟨hxo, -⟩ | hfl
      · exact .inl (h.owed i hi' hnew p hxo)
      · exact .inr hfl
    · exact .inl (h.owed i hi' hnew p hp)
  · -- a new output comes from its input alone
    have hnone' : o.id = none := hr.id ▸ hnone
    rw [hpred, h.fresh hnone', SortedList.mem_insert] at hp
    rcases hp with rfl | hp
    · rcases hx with ⟨-, hsome⟩ | hfl
      · rw [hnone'] at hsome
        exact absurd hsome Bool.false_ne_true
      · exact .inr hfl
    · exact absurd hp List.not_mem_nil

theorem At.route {k : Key} {st : Site × Pass} {ev : Routing} (h : At k st)
    (hd : ev.directives = st.2.routing.directives) : At k (st.1, { st.2 with routing := ev }) := by
  obtain ⟨rfl, hq⟩ := h
  exact ⟨by simp only [key, hd], hq⟩

theorem storeOutput_spec {k : Key} (hk : Kept c fl ins k) (x : Int) {o : Record}
    (hfine : Fine c k o) (hx : (x ∈ o.predecessors ∧ o.id.isSome) ∨ fl = some x) :
    ⦃fun st => ⌜At k st⌝⦄ storeOutput x o
    ⦃post⟨fun _ st => ⌜Kept c fl ins (key st) ∧ (key st).batch.isSome ∧
        (o.id.isSome → StillDone c k (key st))⌝,
      fun _ st => ⌜At k st⌝⟩⦄ := by
  have hwrite := writeOutput_spec hk
  mvcgen [storeOutput, current, update, hwrite]
  -- the routing changes, its directives do not
  · rename_i st hat _
    have hr := prepareOutput_routed st.2 x o
    refine ⟨hat.route hr.directives, hfine.writable hr ?_ hx⟩
    obtain ⟨rfl, -⟩ := hat
    exact hk.routes
  · rename_i st _ _ _ _
    intro hkept hb hstill
    refine ⟨hkept, hb, fun hsome => hstill ?_⟩
    rw [(prepareOutput_routed st.2 x o).id]
    exact hsome

theorem Kept.fly {k : Key} (h : Kept c none ins k) (fl : Option Int) : Kept c fl ins k :=
  { h with paired := h.paired.fly fl }

/-- Storing outputs that are stored already and come from the input keeps nothing in flight. -/
theorem storeOwned_spec (x : Int) : ∀ (os : List Record) (k : Key), Kept c none ins k →
    k.batch.isSome → (∀ o ∈ os, Fine c k o ∧ o.id.isSome ∧ x ∈ o.predecessors) →
    ⦃fun st => ⌜At k st⌝⦄ os.forM (storeOutput x)
    ⦃post⟨fun _ st => ⌜Kept c none ins (key st) ∧ (key st).batch.isSome⌝,
      fun _ st => ⌜Kept c none ins (key st)⌝⟩⦄
  | [], k, hk, hb, _ => by
    intro st hat
    obtain ⟨rfl, -⟩ := hat
    exact ⟨hk, hb⟩
  | o :: os, k, hk, _, hos => by
    obtain ⟨hfine, hsome, hxo⟩ := hos o (List.mem_cons_self ..)
    have hstep := storeOutput_spec hk x hfine (.inl ⟨hxo, hsome⟩)
    -- the rest are stored from the key the first one leaves, and owe no more there
    have ih : ⦃fun st => ⌜Kept c none ins (key st) ∧ (key st).batch.isSome ∧
          StillDone c k (key st)⌝⦄ os.forM (storeOutput x)
        ⦃post⟨fun _ st => ⌜Kept c none ins (key st) ∧ (key st).batch.isSome⌝,
          fun _ st => ⌜Kept c none ins (key st)⌝⟩⦄ := by
      intro st ⟨hkept, hb, hstill⟩
      refine storeOwned_spec x os (key st) hkept hb (fun o' ho' => ?_) st (Kept.at hkept)
      obtain ⟨hf, hrest⟩ := hos o' (List.mem_cons_of_mem o ho')
      exact ⟨hf.still hstill, hrest⟩
    change ⦃_⦄ (storeOutput x o >>= fun _ => os.forM (storeOutput x)) ⦃_⦄
    mvcgen [hstep, ih]
    · rename_i h
      exact ⟨h.1, h.2.1, h.2.2 hsome⟩
    · exact fun hat => Kept.of_at hat hk

/-- Storing what a service returned for `x` leaves `x` in flight. A failure leaves nothing in
flight: it comes before any output owed to `x` is stored, or only stores outputs already
owed to it. -/
theorem storeReturned_spec {k : Key} (hk : Kept c none ins k) (hb : k.batch.isSome) (x : Int)
    {os : List Record} (hret : Returned c x os k) :
    ⦃fun st => ⌜At k st⌝⦄ os.forM (storeOutput x)
    ⦃post⟨fun _ st => ⌜Kept c (some x) ins (key st) ∧ (key st).batch.isSome⌝,
      fun _ st => ⌜Kept c none ins (key st)⌝⟩⦄ := by
  obtain ⟨hfine, hone | howned⟩ := hret
  · match os, hone with
    | [], _ =>
      intro st hat
      obtain ⟨rfl, -⟩ := hat
      exact ⟨hk.fly _, hb⟩
    | [o], _ =>
      have hstep := storeOutput_spec (hk.fly (some x)) x (hfine o (List.mem_singleton_self o)) (.inr rfl)
      change ⦃_⦄ (storeOutput x o >>= fun _ => ([] : List Record).forM (storeOutput x)) ⦃_⦄
      mvcgen [hstep]
      · exact fun _ hkept hb' _ => ⟨hkept, hb'⟩
      · exact fun hat => Kept.of_at hat hk
  · have howned := storeOwned_spec x os k hk hb fun o ho => ⟨hfine o ho, howned o ho⟩
    mvcgen [howned]
    exact fun hkept hb' => ⟨hkept.fly _, hb'⟩

end Catalog.Engine
