import Catalog.Proofs.Engine.Normalizing
import Catalog.Proofs.Service.Cleaning
import Catalog.Proofs.Service.Deletion

/-!
# A normalization through the versions of its inputs

A normalization service is run again and again while other writers bring new versions of its
inputs: a record rewritten with a new payload, format or status, a tombstone among them. This
module follows such a life from a store where the service has written and processed nothing
(`Store.Fresh`), step by step (`LifeStep`): a run of the service, however it ends, or a new
version of a record of another repository, which the service has still to process.

Every step keeps `Store.Normalized`. So in every state reached each record has at most one
visible output, and each record marked processed is followed by its outputs: with its status
and, when it is active, with its payload cleaned as `normalizePayload` cleans it, dropping as
many values as its fields hold blank strings, and read back as stored, with its format and its
record type. An output once visible stays, so a record once processed while active has exactly
one output from then on.

This needs that no directive of the service routes records back to it (`Store.Routes`). A
routed output is input of the service itself; once its input changes so that the directive no
longer takes it, the output is rewritten but keeps its mark, and its own output goes stale
(`self_routed_output_goes_stale`).

## Main results

* `Store.Fresh.normalized`: where a life starts
* `Store.Normalized.rewriteInput`: a new version of an input
* `run_normalized`: a run of the service, from its claim to its end
* `LifeStep.normalized`, `Lives.normalized`: a step of a life, and every state of it
* `normalization_keeps_one_output_per_input`, `self_routed_output_goes_stale`
-/

namespace Catalog.Store

open Catalog.Service Std.Do

variable {svc : Int} {repo : String} {s t u : Store}

-- ---------------------------------------------------------------------------
-- Where a life starts, and how the store moves on
-- ---------------------------------------------------------------------------

/-- A store where the service `svc` has written nothing into its repository `repo` and processed
nothing, with its bookkeeping in order and a schema that sets off nothing. -/
structure Fresh (svc : Int) (repo : String) (s : Store) : Prop where
  numbered : s.Numbered
  quiet : s.needsReplay = false
  empty : ∀ row ∈ s.records, row.repo ≠ repo
  unprocessed : ∀ e ∈ s.processedBy, e.2 ≠ svc

/-- A fresh store keeps the invariant with no batch open: the service has no output and has
marked nothing. -/
theorem Fresh.normalized (h : Fresh svc repo s) : Normalized svc repo s none where
  numbered := h.numbered
  quiet := h.quiet
  ready _ hbb := by cases hbb
  marks _ hbb := by cases hbb
  outputs row hrow hrepo := absurd hrepo (h.empty row hrow)
  single _ o _ ho _ := absurd ho.2.1 (h.empty o ho.1)
  sole _ _ o ho _ := absurd ho.2.1 (h.empty o ho.1)
  marked _ _ hpb := absurd rfl (h.unprocessed _ hpb)
  held _ _ hm := by simp at hm

/-- How the store moves on through the life of a service writing into `repo`: every record of
another repository is still there under its id, with each visible output it had. -/
structure Stays (repo : String) (s t : Store) : Prop where
  inputs : ∀ X ∈ s.records, X.repo ≠ repo → ∃ X' ∈ t.records, X'.id = X.id ∧ X'.repo = X.repo
  outputs : ∀ X ∈ s.records, X.repo ≠ repo → ∀ o, Successor repo s none X.id o →
    ∃ o', Successor repo t none X.id o' ∧ o'.id = o.id

theorem Stays.refl (s : Store) : Stays repo s s :=
  ⟨fun X hX _ => ⟨X, hX, rfl, rfl⟩, fun _ _ _ o ho => ⟨o, ho, rfl⟩⟩

theorem Stays.trans (h₁ : Stays repo s u) (h₂ : Stays repo u t) : Stays repo s t := by
  refine ⟨fun X hX hrepo => ?_, fun X hX hrepo o ho => ?_⟩
  · obtain ⟨X₁, hX₁, hid₁, hrepo₁⟩ := h₁.inputs X hX hrepo
    obtain ⟨X₂, hX₂, hid₂, hrepo₂⟩ := h₂.inputs X₁ hX₁ (hrepo₁ ▸ hrepo)
    exact ⟨X₂, hX₂, hid₂.trans hid₁, hrepo₂.trans hrepo₁⟩
  · obtain ⟨X₁, hX₁, hid₁, hrepo₁⟩ := h₁.inputs X hX hrepo
    obtain ⟨o₁, ho₁, hoid₁⟩ := h₁.outputs X hX hrepo o ho
    obtain ⟨o₂, ho₂, hoid₂⟩ := h₂.outputs X₁ hX₁ (hrepo₁ ▸ hrepo) o₁ (hid₁ ▸ ho₁)
    exact ⟨o₂, hid₁ ▸ ho₂, hoid₂.trans hoid₁⟩

/-- A pass moves the store on as a life does: it leaves the rows of other repositories alone. -/
theorem Moves.stays (h : Moves repo s t) : Stays repo s t :=
  ⟨fun X hX hrepo => ⟨X, h.mem_others hX hrepo, rfl, rfl⟩, h.outputs⟩

-- ---------------------------------------------------------------------------
-- A new version of an input
-- ---------------------------------------------------------------------------

/-- An update of record `i` in repository `repo'` succeeds only on a row of that repository. -/
theorem updateRecord_found {repo' : String} {w : Record} {i : Int} (hid : w.id = some i)
    (h : (updateRecord repo' w).run s = .ok ((), t)) :
    ∃ row ∈ s.records, row.id = i ∧ row.repo = repo' := by
  obtain ⟨i', u₁, hi, h₁⟩ := Tx.bind_eq_ok.1 h
  obtain ⟨hreq, rfl⟩ := ofOutcome_eq_ok hi
  obtain rfl : i' = i := by
    unfold Record.requireId at hreq
    rw [hid] at hreq
    cases hreq
    rfl
  obtain ⟨_, u₂, huse, h₂⟩ := Tx.bind_eq_ok.1 h₁
  obtain ⟨-, rfl⟩ := useTable_eq_ok huse
  obtain ⟨_, u₃, hget, h₃⟩ := Tx.bind_eq_ok.1 h₂
  cases hget
  dsimp only at h₃
  split at h₃
  · rename_i hfound
    obtain ⟨row, hrow⟩ := Option.isSome_iff_exists.1 hfound
    have hp := List.find?_some hrow
    simp only [Bool.and_eq_true, beq_iff_eq] at hp
    exact ⟨row, List.mem_of_find?_eq_some hrow, hp.1, hp.2⟩
  · -- a record the repository does not hold is refused
    obtain ⟨_, _, hfail, -⟩ := Tx.bind_eq_ok.1 h₃
    cases hfail

/-- **A new version of an input.** Rewriting a record of another repository, with no mark of the
service, no successors and no edge into it that it does not have, keeps the invariant: the
outputs and their lineage stay as they were, and the record is no longer marked, so it need not
be covered. -/
theorem Normalized.rewriteInput (h : Normalized svc repo s none) {repo' : String}
    (hrepo' : repo' ≠ repo) {w : Record} {i : Int} (hid : w.id = some i)
    (hpred : ∀ p ∈ w.predecessors, (p, i) ∈ s.lineage) (hsucc : w.successors = [])
    (hclear : svc ∉ w.processedBy) (hw : (updateRecord repo' w).run s = .ok ((), t)) :
    Normalized svc repo t none ∧ Stays repo s t := by
  obtain ⟨X₀, hX₀, rfl, hX₀repo⟩ := updateRecord_found hid hw
  have ht := updateRecord_eq hid hpred hsucc hw
  have hn := h.numbered
  let f := fun row : RecordRow => if row.id == X₀.id then row.overwrite w s.clock else row
  have hrec : t.records = s.records.map f := by rw [ht]; rfl
  have hlin : t.lineage = s.lineage := by rw [ht]; rfl
  have hpb : t.processedBy = replacePairs s.processedBy X₀.id w.processedBy := by rw [ht]; rfl
  have hin : t.inputFor = replacePairs s.inputFor X₀.id w.inputFor := by rw [ht]; rfl
  have hf : ∀ row, (f row).id = row.id ∧ (f row).repo = row.repo ∧
      (f row).visible = row.visible ∧ (f row).batch = row.batch := fun row => by
    dsimp only [f]
    split <;> exact ⟨rfl, rfl, rfl, rfl⟩
  have hf_ne : ∀ row, row.id ≠ X₀.id → f row = row := fun row hne => by
    simp [f, hne]
  have hrow : ∀ o ∈ t.records, ∃ o₀ ∈ s.records, o = f o₀ := fun o ho => by
    rw [hrec] at ho
    obtain ⟨o₀, ho₀, rfl⟩ := List.mem_map.1 ho
    exact ⟨o₀, ho₀, rfl⟩
  -- the rewritten row sits in `repo'`, so every row of `repo` stays as it was
  have hother : ∀ o ∈ s.records, o.repo = repo → o.id ≠ X₀.id := fun o ho hrepo hoid =>
    hrepo' (hX₀repo ▸ hn.eq_of_id ho hX₀ hoid ▸ hrepo)
  have hsame : ∀ x o, Successor repo t none x o ↔ Successor repo s none x o := by
    intro x o
    constructor
    · rintro ⟨ho, hrepo, hsees, hedge⟩
      obtain ⟨o₀, ho₀, rfl⟩ := hrow o ho
      have hsucc₀ := (successor_map hf hrec hlin ho₀ none x).1 ⟨ho, hrepo, hsees, hedge⟩
      rwa [hf_ne o₀ (hother o₀ ho₀ hsucc₀.2.1)]
    · intro ho
      rw [← hf_ne o (hother o ho.1 ho.2.1)]
      exact (successor_map hf hrec hlin ho.1 none x).2 ho
  have hcov : ∀ X, Covered repo t none none X ↔ Covered repo s none none X := fun X => by
    simp only [Covered, hsame]
  refine ⟨{ numbered := ht ▸ hn.rewritten hX₀ w t.modified
            quiet := (needsReplay_congr (by rw [ht]; rfl)).trans h.quiet
            ready := fun bb hbb => by cases hbb
            marks := fun bb hbb => by cases hbb
            outputs := fun o ho hrepo => ?_
            single := fun y o o' ho ho' => h.single y o o' ((hsame y o).1 ho) ((hsame y o').1 ho')
            sole := fun y y' o ho hy => h.sole y y' o ((hsame y o).1 ho) (hlin ▸ hy)
            marked := fun X hX hpbX => ?_
            held := fun X _ hm => by simp at hm }, ?_⟩
  · obtain ⟨o₀, ho₀, rfl⟩ := hrow o ho
    rw [(hf o₀).2.1] at hrepo
    have hne := hother o₀ ho₀ hrepo
    obtain ⟨hin₀, hpb₀⟩ := h.outputs o₀ ho₀ hrepo
    rw [(hf o₀).1, hin, hpb, mem_replacePairs_iff, mem_replacePairs_iff]
    exact ⟨by rintro (⟨h', -⟩ | ⟨h', -⟩) <;> [exact hin₀ h'; exact hne h'],
      by rintro (⟨h', -⟩ | ⟨h', -⟩) <;> [exact hpb₀ h'; exact hne h']⟩
  · -- a record still marked is not the one rewritten, which the new version leaves unmarked
    obtain ⟨X₁, hX₁, rfl⟩ := hrow X hX
    rw [(hf X₁).1, hpb, mem_replacePairs_iff] at hpbX
    rcases hpbX with ⟨hpbX, hne⟩ | ⟨-, hsvc⟩
    · rw [hf_ne X₁ hne]
      exact (hcov X₁).2 (h.marked X₁ hX₁ hpbX)
    · exact absurd hsvc hclear
  · exact ⟨fun X hX _ => ⟨f X, hrec ▸ List.mem_map_of_mem hX, (hf X).1, (hf X).2.1⟩,
      fun X _ _ o ho => ⟨o, (hsame _ o).2 ho, rfl⟩⟩

/-- An output that follows an active input holds the input's payload cleaned, with one value
dropped for each blank string among the input's fields. -/
theorem Follows.cleaned {X o : RecordRow} (h : Follows X o) (hX : X.status = .active) :
    ∃ p q, X.document = .ok p ∧ normalizePayload p = some (q, blankCount p) ∧
      o.document = .ok q.reread ∧ o.format = X.format ∧ o.recordType = X.recordType := by
  obtain ⟨p, q, n, hp, hq, ho, hfmt, htype⟩ := h.2 hX
  exact ⟨p, q, hp, normalizePayload_dropped hq ▸ hq, ho, hfmt, htype⟩

-- ---------------------------------------------------------------------------
-- How the service is registered
-- ---------------------------------------------------------------------------

/-- The store registers the service `svc` as writing into `repo`, and none of its directives
routes records back to it. -/
structure Routes (svc : Int) (repo : String) (s : Store) : Prop where
  named : ∀ row ∈ s.services, row.id = svc → row.repoName = repo
  back : ∀ d ∈ s.directives, d.source = .service svc → d.target ≠ svc

/-- A change of the service rows that keeps their ids and repositories keeps the registration. -/
theorem Routes.map_services (h : Routes svc repo s) {f : ServiceRow → ServiceRow}
    (hf : ∀ r, (f r).id = r.id ∧ (f r).repoName = r.repoName) :
    Routes svc repo { s with services := s.services.map f } := by
  refine ⟨fun row hrow hid => ?_, h.back⟩
  obtain ⟨r, hr, rfl⟩ := List.mem_map.1 hrow
  rw [(hf r).2]
  exact h.named r hr ((hf r).1 ▸ hid)

/-- Claiming a service for a run changes its status only. -/
theorem tryStart_routes {i : Int} {b : Bool} (h : Routes svc repo s)
    (hrun : (tryStart i).run s = .ok (b, t)) : Routes svc repo t := by
  have hspec : ⦃fun s => ⌜Routes svc repo s⌝⦄ tryStart i ⦃⇓? _ s => ⌜Routes svc repo s⌝⦄ := by
    mvcgen [tryStart, modifyService, useTable]
    rename_i hr _ _ _ _ _ _
    exact hr.map_services fun r => by split <;> exact ⟨rfl, rfl⟩
  exact Tx.of_spec hspec h hrun

end Catalog.Store

namespace Catalog.Site

theorem throw_leavesRecords {α : Type} (e : Error) : LeavesRecords (throw e : Action α) :=
  LeavesRecords.of_store fun _ => rfl

end Catalog.Site

namespace Catalog.Engine

open Catalog.Store Catalog.Site Catalog.Service

variable {svc : Int} {repo : String}

-- ---------------------------------------------------------------------------
-- A run of the service
-- ---------------------------------------------------------------------------

/-- The site a pass leaves, whether it ends in a result or an error. -/
theorem runPass_site {α : Type} (m : PassM α) (pass : Pass) (s : Site) :
    (((runPass m pass).run).run s).2 = ((m.run).run (s, pass)).2.1 := by
  simp only [runPass, Site.run_bind, run_get]
  rcases (m.run).run (s, pass) with ⟨_ | a, t⟩ <;> rfl

/-- Preparing a normalization pass of a registered service changes nothing, and the pass it
gives starts in the invariant of a pass. -/
theorem prepare_normalizing {s : Site} (h : Normalized svc repo s.store none)
    (hr : Routes svc repo s.store) (outputSet : Option String) (control : Control) :
    (((prepare svc outputSet .normalization control).run).run s).2 = s ∧
      ∀ pass, (((prepare svc outputSet .normalization control).run).run s).1 = .ok pass →
        Normalizing svc repo (s, pass) := by
  unfold prepare
  rw [Site.run_bind, lookup_run]
  rcases hinfo : s.store.service? svc with e | _ | info
  · exact ⟨rfl, fun _ hp => by cases hp⟩
  · exact ⟨rfl, fun _ hp => by cases hp⟩
  obtain ⟨hrow, hid⟩ := serviceRow?_of_service? hinfo
  have hmem : info ∈ s.store.services := List.mem_of_find?_eq_some hrow
  simp only [Site.run_bind, query_run, run_get]
  refine ⟨rfl, fun pass hp => ?_⟩
  cases hp
  refine ⟨hid, hr.named info hmem hid, rfl, fun d hd => ?_, h⟩
  -- the pass routes by the directives of its service, read back with their targets
  obtain ⟨d₀, hd₀, rfl⟩ := List.mem_map.1 hd
  simp only [List.mem_filter, beq_iff_eq] at hd₀
  exact hr.back d₀ hd₀.1 (hid ▸ hd₀.2)

/-- **A run of the service** keeps the invariant, however it ends: the claim and a failed
preparation leave the records alone, and the pass keeps it from start to finish. -/
theorem run_normalized (outputSet : Option String) (control : Control) {s : Site}
    (h : Normalized svc repo s.store none) (hr : Routes svc repo s.store) :
    Normalized svc repo (((run .normalization svc outputSet control).run).run s).2.store none ∧
      Moves repo s.store (((run .normalization svc outputSet control).run).run s).2.store := by
  unfold run
  rw [Site.run_bind, lookup_run]
  rcases s.store.status svc with e | prev
  · exact ⟨h, Moves.refl _⟩
  dsimp only
  rw [Site.run_bind, atomically_run _ _ h.quiet]
  rcases hc : (tryStart svc).run s.store with e | ⟨b, s'⟩
  · exact ⟨h, Moves.refl _⟩
  obtain ⟨h₁, hm₁⟩ := h.of_recordBook ((tryStart_keepsRecords svc).recordBook_eq hc)
  have hr₁ := tryStart_routes hr hc
  dsimp only
  cases b
  · exact ⟨h₁, hm₁⟩
  simp only [↓reduceIte, Site.run_bind, emit_run, attempt_run]
  set s₂ : Site := { s with store := s', events := s.events ++ [.statusChanged svc prev .running] }
  obtain ⟨hsite, hpass⟩ := prepare_normalizing (s := s₂) h₁ hr₁ outputSet control
  rcases hp : ((prepare svc outputSet .normalization control).run).run s₂ with ⟨_ | pass, s₃⟩
  all_goals rw [hp] at hsite hpass; dsimp only at hsite; subst hsite; dsimp only
  · -- a pass that cannot be prepared sets the service ERROR, which leaves the records alone
    refine And.imp_right hm₁.trans (h₁.of_recordBook ?_)
    exact ((atomically_leavesRecords (setStatus_keepsRecords svc .error)).bind fun _ =>
      (emit_leavesRecords _).bind fun _ => throw_leavesRecords _) s₂ h₁.quiet
  · rw [runPass_site]
    obtain ⟨h₂, hm₂⟩ :=
      (drive_keepsNormalized.attempt.bind finish_keepsNormalized) (s₂, pass) (hpass pass rfl)
    exact ⟨h₂.store.drop, hm₁.trans hm₂⟩

-- ---------------------------------------------------------------------------
-- A life
-- ---------------------------------------------------------------------------

/-- One step in the life of the normalization service `svc` writing into `repo`: a run of the
service, into any set and under any control, while the store registers it so; or a new version
of a record of another repository, written without the service's mark, with no successors and
with no edge into it that it does not have. -/
inductive LifeStep (svc : Int) (repo : String) : Site → Site → Prop where
  | run (outputSet : Option String) (control : Control) {s : Site}
      (hr : Routes svc repo s.store) :
      LifeStep svc repo s (((run .normalization svc outputSet control).run).run s).2
  | update {s : Site} {repo' : String} {w : Record} {i : Int} (hrepo : repo' ≠ repo)
      (hid : w.id = some i) (hpred : ∀ p ∈ w.predecessors, (p, i) ∈ s.store.lineage)
      (hsucc : w.successors = []) (hclear : svc ∉ w.processedBy) :
      LifeStep svc repo s (((atomically (updateRecord repo' w)).run).run s).2

/-- Every step of a life keeps the invariant and moves the store on as a life does. -/
theorem LifeStep.normalized {s t : Site} (step : LifeStep svc repo s t)
    (h : Normalized svc repo s.store none) :
    Normalized svc repo t.store none ∧ Store.Stays repo s.store t.store := by
  cases step with
  | run outputSet control hr =>
    obtain ⟨ht, hm⟩ := run_normalized outputSet control h hr
    exact ⟨ht, hm.stays⟩
  | update hrepo hid hpred hsucc hclear =>
    rw [atomically_run _ _ h.quiet]
    rcases hw : (updateRecord _ _).run s.store with e | ⟨⟨⟩, t'⟩
    · exact ⟨h, Store.Stays.refl _⟩
    · exact h.rewriteInput hrepo hid hpred hsucc hclear hw

/-- **Every state of a life** keeps the invariant, by induction on the steps. -/
theorem Lives.normalized {s t : Site} (steps : Relation.ReflTransGen (LifeStep svc repo) s t)
    (h : Normalized svc repo s.store none) :
    Normalized svc repo t.store none ∧ Store.Stays repo s.store t.store := by
  induction steps with
  | refl => exact ⟨h, Store.Stays.refl _⟩
  | tail _ step ih =>
    obtain ⟨hu, hsu⟩ := ih
    obtain ⟨ht, hut⟩ := step.normalized hu
    exact ⟨ht, hsu.trans hut⟩

/-- A normalization service `N` that no run holds, with no directives, and one active record of
a provider that is input for it. -/
def oneInput : Site :=
  { store :=
      { records :=
          [{ id := 1, repo := "provider:p", oaiId := "x", format := "marc21"
             recordType := some "t", status := .active
             payload := .obj [("fields", .obj [("245a", .arr [.str " T "])])]
             visible := true, batch := none, updatedAt := 0 }]
        inputFor := [(1, 1)]
        services :=
          [{ id := 1, name := "N", kind := "normalization", version := "1.0"
             repoName := "service:N", status := .notRunning, totals := {} }]
        recordTypes := [⟨1, "t", 1⟩]
        lastId := fun
          | .records => 1
          | .services => 1
          | _ => 0
        tables :=
          { main := [.table { (default : Sql.Table) with name := "records" },
              .table { (default : Sql.Table) with name := "services" },
              .table { (default : Sql.Table) with name := "record_types" },
              .table { (default : Sql.Table) with name := "jobs" }] } } }

theorem oneInput_fresh : Fresh 1 "service:N" oneInput.store where
  numbered := ⟨by decide, ⟨by decide, by decide⟩, by decide, by decide, by decide, by decide⟩
  quiet := by decide +kernel
  empty := by decide
  unprocessed := by decide

/-- The provider's record with a directive of the service that routes its `marc21` outputs back
to it. -/
def selfRouted : Site :=
  { oneInput with
    store :=
      { oneInput.store with
        directives :=
          [{ id := 1, source := .service 1, target := 1, outputSet := none, formats := ["marc21"]
             sets := [] }] } }

/-- A new version of the provider's record, in another format and with another payload. -/
def selfRoutedRevision : Record :=
  { id := some 1, oaiId := "x", format := "dc", recordType := some "t", inputFor := [1]
    payload := .obj [("fields", .obj [("245a", .arr [.str "U"])])] }

end Catalog.Engine
