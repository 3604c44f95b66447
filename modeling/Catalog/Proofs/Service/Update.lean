import Catalog.Proofs.Service.Withdrawal

/-!
# Updating a service runs its scripts one transaction at a time

Updating a service to a new version runs the update scripts whose versions lie above the
service's version and not above the new one, oldest first, each in a transaction of its own,
and then writes the new version. The update as a whole is not one transaction. A script that
fails stops the update: what the scripts before it committed stays, and so does whatever the
failing script committed itself, while the version is not written. Running the same update
again then runs those earlier scripts a second time.

## Main results

* `plan_perm`, `plan_pairwise`: the scripts an update plans are exactly the given update
  scripts of versions in `(source, target]`, each as often as it is given, in ascending
  version order
* `Store.runScripts`, `forM_applyUpdate_run`: the planned scripts run in order until one fails
* `updateTo_ends`: the ways an update can end. It is refused with nothing changed; or a
  script stops it after every script before it committed; or it fails after every script
  committed, before the version is written; or the version is written after every script
* `failed_update_keeps_earlier_script`: an update whose second script fails keeps the table
  its first script created
-/

namespace Catalog.Service

-- ---------------------------------------------------------------------------
-- The order of versions and the planned scripts
-- ---------------------------------------------------------------------------

/-- A version comes no later than another when it is no greater in major number, then in
minor number, then in patch number. -/
theorem Version.compare_ne_gt_iff {a b : Version} :
    compare a b ≠ .gt ↔ a.major < b.major ∨ a.major = b.major ∧
      (a.minor < b.minor ∨ a.minor = b.minor ∧ a.patch ≤ b.patch) := by
  show ((compare a.major b.major).then ((compare a.minor b.minor).then
    (compare a.patch b.patch))) ≠ .gt ↔ _
  rcases Nat.lt_trichotomy a.major b.major with h₁ | h₁ | h₁ <;>
  rcases Nat.lt_trichotomy a.minor b.minor with h₂ | h₂ | h₂ <;>
  rcases Nat.lt_trichotomy a.patch b.patch with h₃ | h₃ | h₃ <;>
  simp [Nat.compare_eq_lt.2, Nat.compare_eq_gt.2, Ordering.then, *] <;>
  omega

/-- The planned scripts are the given scripts of versions above `source` and not above
`target`, each as often as it is given. -/
theorem plan_perm {α : Type} (scripts : List (Version × α)) (source target : Version) :
    (plan scripts source target).Perm
      (scripts.filter fun s => compare s.1 source == .gt && compare s.1 target != .gt) :=
  List.mergeSort_perm _ _

/-- The planned scripts come in ascending version order. -/
theorem plan_pairwise {α : Type} (scripts : List (Version × α)) (source target : Version) :
    (plan scripts source target).Pairwise fun a b => compare a.1 b.1 ≠ .gt := by
  have hsorted := @List.pairwise_mergeSort _ (fun a b : Version × α => compare a.1 b.1 != .gt)
    (fun a b c hab hbc => by
      simp only [bne_iff_ne, ne_eq, Version.compare_ne_gt_iff] at hab hbc ⊢
      omega)
    (fun a b => by
      simp only [Bool.or_eq_true, bne_iff_ne, ne_eq, Version.compare_ne_gt_iff]
      omega)
    (scripts.filter fun s => compare s.1 source == .gt && compare s.1 target != .gt)
  exact hsorted.imp fun h => by simpa using h

/-- The update scripts among script files, each with the version its file name gives. -/
def updateScripts : Option (List (String × String)) → List (Version × String)
  | none => []
  | some files => files.filterMap fun (name, sql) => (scriptVersion name).map (·, sql)

end Catalog.Service

namespace Catalog.Store

-- ---------------------------------------------------------------------------
-- Running scripts one after another
-- ---------------------------------------------------------------------------

/-- One script of a run of update scripts: it runs on the store the scripts before it left,
unless one of them failed. -/
def scriptStep (acc : Store × Option StoreFault) (text : String) : Store × Option StoreFault :=
  match acc with
  | (u, none) => u.applyScript text
  | stopped => stopped

/-- Run update scripts in order, each in a transaction of its own, until one fails: the
store they leave and the failure that stopped them, if any. -/
def runScripts (s : Store) (texts : List String) : Store × Option StoreFault :=
  texts.foldl scriptStep (s, none)

theorem foldl_scriptStep_stopped (u : Store) (f : StoreFault) (texts : List String) :
    texts.foldl scriptStep (u, some f) = (u, some f) := by
  induction texts with
  | nil => rfl
  | cons text rest ih => exact ih

/-- The first script runs on the store as it is; the rest run only when it succeeded. -/
theorem runScripts_cons (s : Store) (text : String) (rest : List String) :
    s.runScripts (text :: rest) = match s.applyScript text with
      | (u, some f) => (u, some f)
      | (u, none) => u.runScripts rest := by
  rw [runScripts, List.foldl_cons]
  show rest.foldl scriptStep (s.applyScript text) = _
  rcases s.applyScript text with ⟨u, _ | f⟩
  · rfl
  · exact foldl_scriptStep_stopped u f rest

/-- A run of scripts that stops at a failure ran every script before the failing one to its
end, and the failing one left the store it stopped on. -/
theorem runScripts_eq_some {s t : Store} {texts : List String} {f : StoreFault}
    (h : s.runScripts texts = (t, some f)) :
    ∃ pre text post u, texts = pre ++ text :: post ∧ s.runScripts pre = (u, none) ∧
      u.applyScript text = (t, some f) := by
  induction texts generalizing s with
  | nil =>
    have hnone : (none : Option StoreFault) = some f := congrArg Prod.snd h
    cases hnone
  | cons text rest ih =>
    rw [runScripts_cons] at h
    rcases happ : s.applyScript text with ⟨u, _ | g⟩ <;> rw [happ] at h
    · -- the first script ran to its end; the failure came later
      obtain ⟨pre, text', post, w, rfl, hpre, hfail⟩ := ih h
      refine ⟨text :: pre, text', post, w, rfl, ?_, hfail⟩
      rw [runScripts_cons, happ]
      exact hpre
    · cases h
      exact ⟨[], text, rest, s, rfl, rfl, happ⟩

end Catalog.Store

namespace Catalog.Service

open Catalog.Store Catalog.Site

/-- Running one update script: the site takes the store the script leaves, and the action
fails with the script's failure. -/
theorem applyUpdate_run (text : String) (s : Site) :
    ((applyUpdate text).run).run s =
      (match (s.store.applyScript text).2 with
        | some f => .error (.storage f)
        | none => .ok (),
        { s with store := (s.store.applyScript text).1 }) := by
  unfold applyUpdate
  rcases h : s.store.applyScript text with ⟨u, _ | f⟩ <;>
    simp only [run_bind, run_get, run_set, h] <;> rfl

/-- Running planned scripts is running their texts in order until one fails. -/
theorem forM_applyUpdate_run {α : Type} (ps : List (α × String)) (s : Site) :
    ((ps.forM fun p => applyUpdate p.2).run).run s =
      (match (s.store.runScripts (ps.map (·.2))).2 with
        | some f => .error (.storage f)
        | none => .ok (),
        { s with store := (s.store.runScripts (ps.map (·.2))).1 }) := by
  induction ps generalizing s with
  | nil => rfl
  | cons p ps ih =>
    change ((applyUpdate p.2 >>= fun _ => ps.forM fun p => applyUpdate p.2).run).run s = _
    rw [run_bind, applyUpdate_run, List.map_cons, runScripts_cons]
    rcases h : s.store.applyScript p.2 with ⟨u, _ | f⟩
    · exact ih { s with store := u }
    · rfl

-- ---------------------------------------------------------------------------
-- The ways an update ends
-- ---------------------------------------------------------------------------

/-- The scripts that updating service `id` to version `v` runs, on a site where the update is
not refused: the service is stored and no run holds it, both versions read, the new one is
not below the old, and `texts` are the given update scripts of versions above the old and not
above the new, each as often as it is given, in ascending version order. -/
def Planned (s : Site) (id : Int) (v : String) (scripts : Option (List (String × String)))
    (texts : List String) : Prop :=
  ∃ info source target, s.store.service? id = .ok (some info) ∧
    info.status.isActive = false ∧ Version.parse info.version = .ok source ∧
    Version.parse v = .ok target ∧ compare target source ≠ .lt ∧
    ∃ ps : List (Version × String),
      ps.Perm ((updateScripts scripts).filter fun p =>
        compare p.1 source == .gt && compare p.1 target != .gt) ∧
      ps.Pairwise (fun a b => compare a.1 b.1 ≠ .gt) ∧ texts = ps.map (·.2)

/-- The store `t` is `u` with version `v` written into the row of service `id`, and with what
the schema's triggers do about that write. -/
def VersionWritten (id : Int) (v : String) (u t : Store) : Prop :=
  u.hasTable "services" = true ∧
    withTriggers u { u with services := u.services.map fun row =>
      if row.id == id then { row with version := v } else row } = .ok t

/-- The ways an update of service `id` to version `v` can end, run on site `s`. -/
inductive UpdateEnds (id : Int) (v : String) (scripts : Option (List (String × String)))
    (s : Site) : Except Error ServiceRow × Site → Prop
  /-- Refused before any script ran, with nothing changed. -/
  | refused (e : Error) : UpdateEnds id v scripts s (.error e, s)
  /-- Stopped by a failing script: the scripts planned before it committed, the failing one
  kept what it committed itself, and the version was not written. -/
  | stopped {pre post : List String} {text : String} {u t : Store} {f : StoreFault} :
      Planned s id v scripts (pre ++ text :: post) → s.store.runScripts pre = (u, none) →
      u.applyScript text = (t, some f) →
      UpdateEnds id v scripts s (.error (.storage f), { s with store := t })
  /-- Every planned script committed, and the update failed before the version was
  written. -/
  | unwritten {texts : List String} {u : Store} (e : Error) :
      Planned s id v scripts texts → s.store.runScripts texts = (u, none) →
      UpdateEnds id v scripts s (.error e, { s with store := u })
  /-- Every planned script committed and then the version was written; a service the update
  returns is the row as it is stored then. -/
  | written {texts : List String} {u t : Store} {r : Except Error ServiceRow} :
      Planned s id v scripts texts → s.store.runScripts texts = (u, none) →
      VersionWritten id v u t → (∀ row, r = .ok row → t.service? id = .ok (some row)) →
      UpdateEnds id v scripts s (r, { s with store := t })

/-- Looking a service up leaves the site alone, and what it finds is stored. -/
theorem requireService_eq {id : Int} {s t : Site} {r : Except Error ServiceRow}
    (h : ((requireService id).run).run s = (r, t)) :
    t = s ∧ ∀ info, r = .ok info → s.store.service? id = .ok (some info) := by
  simp only [requireService, run_bind, lookup_run] at h
  rcases hs : s.store.service? id with e | _ | info <;> rw [hs] at h <;> cases h
  · exact ⟨rfl, fun _ h => by cases h⟩
  · exact ⟨rfl, fun _ h => by cases h⟩
  · exact ⟨rfl, fun _ h => by cases h; rfl⟩

/-- A transaction run as an action either fails with the site unchanged, or the site takes the
store the transaction left, with what the schema's triggers do about it. -/
theorem atomically_cases {α : Type} {tx : Tx α} {s t : Site} {r : Except Error α}
    (h : ((atomically tx).run).run s = (r, t)) :
    (t = s ∧ ∃ e, r = .error e) ∨ ∃ a u, r = .ok a ∧ tx.run s.store = .ok (a, u) ∧
      withTriggers s.store u = .ok t.store ∧ t = { s with store := t.store } := by
  simp only [atomically, run_bind, run_get] at h
  rcases htx : tx.run s.store with e | ⟨a, u⟩ <;> rw [htx] at h
  · cases h
    exact .inl ⟨rfl, e, rfl⟩
  · dsimp only at h
    rcases hw : withTriggers s.store u with f | w <;> rw [hw] at h <;> cases h
    · exact .inl ⟨rfl, _, rfl⟩
    · exact .inr ⟨a, u, rfl, rfl, hw, rfl⟩

/-- Writing a version into the row of a service, as a transaction. -/
theorem setVersion_run {id : Int} {v : String} {u w : Store} {a : Unit}
    (h : (setVersion id v).run u = .ok (a, w)) :
    u.hasTable "services" = true ∧ w = { u with services := u.services.map fun row =>
      if row.id == id then { row with version := v } else row } := by
  obtain ⟨_, u', huse, hmod⟩ := Tx.bind_eq_ok.1 h
  obtain ⟨ht, rfl⟩ := useTable_eq_ok huse
  cases hmod
  exact ⟨ht, rfl⟩

-- ---------------------------------------------------------------------------
-- The run of an update
-- ---------------------------------------------------------------------------

/-- An outcome that holds a value passes it on. -/
theorem ofOutcome_ok_bind {α β : Type} (a : α) (f : α → Action β) (s : Site) :
    ((Site.ofOutcome (.ok a) >>= f).run).run s = ((f a).run).run s := rfl

/-- Making a service's worker leaves the site alone. -/
theorem instantiate_site {info : ServiceRow} {s t : Site} {r : Except Error Worker}
    (h : ((Engine.instantiate info).run).run s = (r, t)) : t = s := by
  simp only [Engine.instantiate, run_bind, run_get] at h
  rcases hw : Worker.ofKind s.settings s.scripts info.kind info.name with e | w <;>
    rw [hw] at h <;> cases h <;> rfl

/-- The end of an update that is not refused: its planned scripts run in order, then the
service's worker is made, the version written and the service read back. -/
theorem planned_run_ends {id : Int} {v : String} {scripts : Option (List (String × String))}
    {s : Site} {ps : List (Version × String)} (hplanned : Planned s id v scripts (ps.map (·.2)))
    (info : ServiceRow) :
    UpdateEnds id v scripts s
      ((((ps.forM fun p => applyUpdate p.2) >>= fun _ => do
        let _ ← Engine.instantiate info
        atomically (setVersion id v)
        requireService id).run).run s) := by
  rw [run_bind, forM_applyUpdate_run]
  rcases hran : s.store.runScripts (ps.map (·.2)) with ⟨u, _ | f⟩ <;> simp only [hran]
  · -- every script committed; then the worker, the version and the service
    rw [run_bind]
    rcases hinst : ((Engine.instantiate info).run).run { s with store := u } with ⟨_ | w, s₂⟩
    all_goals obtain rfl := instantiate_site hinst
    · exact .unwritten _ hplanned hran
    dsimp only
    rw [run_bind]
    rcases hver : ((atomically (setVersion id v)).run).run { s with store := u } with ⟨r, s₃⟩
    rcases atomically_cases hver with ⟨rfl, e, rfl⟩ | ⟨a, w', rfl, htx, hw, hs₃⟩
    · exact .unwritten _ hplanned hran
    obtain ⟨hhas, rfl⟩ := setVersion_run htx
    dsimp only
    rcases hback : ((requireService id).run).run s₃ with ⟨r', s₄⟩
    obtain ⟨rfl, hrow⟩ := requireService_eq hback
    rw [hs₃]
    exact .written hplanned hran ⟨hhas, hw⟩ hrow
  · -- a script failed: the ones before it committed
    obtain ⟨pre, text, post, w, htexts, hpre, hfail⟩ := runScripts_eq_some hran
    rw [htexts] at hplanned
    exact .stopped hplanned hpre hfail

/-- Every update ends in one of the ways `UpdateEnds` lists. In particular an update that
fails after its first script committed does not leave the store as it found it. -/
theorem updateTo_ends (id : Int) (v : String) (scripts : Option (List (String × String)))
    (s : Site) : UpdateEnds id v scripts s (((updateTo id v scripts).run).run s) := by
  unfold updateTo
  rw [run_bind]
  rcases hreq : ((requireService id).run).run s with ⟨_ | info, s₁⟩
  all_goals obtain ⟨rfl, hinfo⟩ := requireService_eq hreq
  · exact .refused _
  dsimp only
  split
  · exact .refused _
  rename_i hidle
  rcases hsource : Version.parse info.version with e | source
  · exact .refused _
  rw [ofOutcome_ok_bind]
  rcases htarget : Version.parse v with e | target
  · exact .refused _
  rw [ofOutcome_ok_bind]
  split
  · exact .refused _
  rename_i hup
  -- the update is not refused: it runs the planned scripts
  have hplanned : ∀ ps : List (Version × String), ps.Perm ((updateScripts scripts).filter
      fun p => compare p.1 source == .gt && compare p.1 target != .gt) →
      ps.Pairwise (fun a b => compare a.1 b.1 ≠ .gt) → Planned s₁ id v scripts (ps.map (·.2)) :=
    fun ps hperm hsorted => ⟨info, source, target, hinfo info rfl, by simpa using hidle,
      hsource, htarget, by simpa using hup, ps, hperm, hsorted, rfl⟩
  cases scripts with
  | some files =>
    exact planned_run_ends (hplanned _ (plan_perm _ _ _) (plan_pairwise _ _ _)) info
  | none => exact @planned_run_ends id v none s₁ [] (hplanned [] .nil .nil) info

-- ---------------------------------------------------------------------------
-- An update that fails halfway
-- ---------------------------------------------------------------------------

/-- A version text read by evaluation: the reading has no decidable equality of its own,
as errors have none. -/
theorem parse_eq_ok {text : String} {v : Version} (h : (Version.parse text).toOption = some v) :
    Version.parse text = .ok v := by
  rcases hp : Version.parse text with e | w <;> rw [hp] at h
  · cases h
  · cases h
    rfl

/-- A column of a table, of a declared type, with no constraint. -/
def plainColumn (name type : String) : Sql.Column :=
  { name, type, notNull := false, default := none, collation := .binary }

/-- Service `S`, at version 1.0, is updated to 1.2 with two scripts: the one of version 1.1
creates a table, the one of version 1.2 is no SQL. The update fails on the second script,
and the table the first one created stays. -/
theorem failed_update_keeps_earlier_script :
    let svc : ServiceRow :=
      { id := 1, name := "S", kind := "scripted", version := "1.0", repoName := "service:S",
        status := .notRunning, totals := {} }
    let services : Sql.Table :=
      { name := "services", rowidColumn := some 0, primaryKey := ["id"], autoincrement := true
        checks := [], foreignKeys := [], rows := [], sql := ""
        columns := [plainColumn "id" "INTEGER", plainColumn "name" "TEXT",
          plainColumn "kind" "TEXT", plainColumn "version" "TEXT",
          plainColumn "repo_name" "TEXT", plainColumn "status" "TEXT",
          plainColumn "warnings" "INTEGER", plainColumn "errors" "INTEGER",
          plainColumn "errors_per_commit" "INTEGER", plainColumn "input_record_count" "INTEGER",
          plainColumn "output_record_count" "INTEGER", plainColumn "status_changed_at" "INTEGER"] }
    let s₀ : Site :=
      { store := { services := [svc], tables := { main := [.table services], temp := [] }
                   lastId := fun q => if q = .services then 1 else 0 } }
    let files := [("update.1.1.sql", "CREATE TABLE notes (x);"),
      ("update.1.2.sql", "THIS IS NOT SQL;")]
    ∃ e t, ((updateTo 1 "1.2" (some files)).run).run s₀ = (.error e, t) ∧
      s₀.store.hasTable "notes" = false ∧ t.store.hasTable "notes" = true := by
  intro svc services s₀ files
  -- the scripts: the first creates the table, the second fails and changes nothing
  have hran : ∃ u f, s₀.store.runScripts ["CREATE TABLE notes (x);", "THIS IS NOT SQL;"] =
      (u, some f) ∧ u.hasTable "notes" = true := by
    have hb : ((s₀.store.runScripts ["CREATE TABLE notes (x);", "THIS IS NOT SQL;"]).2.isSome &&
        (s₀.store.runScripts ["CREATE TABLE notes (x);", "THIS IS NOT SQL;"]).1.hasTable
          "notes") = true := by decide +kernel
    rcases h : s₀.store.runScripts ["CREATE TABLE notes (x);", "THIS IS NOT SQL;"] with
      ⟨u, _ | f⟩ <;> rw [h] at hb
    · cases hb
    · exact ⟨u, f, rfl, by simpa using hb⟩
  obtain ⟨u, f, hscripts, hnotes⟩ := hran
  -- both versions read, and both scripts are planned, in order
  have hplan : plan (files.filterMap fun x => (scriptVersion x.1).map (·, x.2))
      ⟨1, 0, 0⟩ ⟨1, 2, 0⟩ = [(⟨1, 1, 0⟩, "CREATE TABLE notes (x);"),
        (⟨1, 2, 0⟩, "THIS IS NOT SQL;")] := by
    have hfound : (files.filterMap fun x => (scriptVersion x.1).map (·, x.2)).filter
        (fun s => compare s.1 ⟨1, 0, 0⟩ == .gt && compare s.1 ⟨1, 2, 0⟩ != .gt) =
        [(⟨1, 1, 0⟩, "CREATE TABLE notes (x);"), (⟨1, 2, 0⟩, "THIS IS NOT SQL;")] := by
      decide +kernel
    rw [plan, hfound]
    exact List.mergeSort_of_pairwise (by decide)
  have hsource : Version.parse svc.version = .ok ⟨1, 0, 0⟩ := parse_eq_ok (by decide +kernel)
  have htarget : Version.parse "1.2" = .ok ⟨1, 2, 0⟩ := parse_eq_ok (by decide +kernel)
  refine ⟨.storage f, { s₀ with store := u }, ?_, by decide, hnotes⟩
  unfold updateTo
  have hhas : s₀.store.hasTable "services" = true := by decide +kernel
  have hsvc : s₀.store.service? 1 = .ok (some svc) := by
    simp only [Store.service?, Store.needTable, hhas, if_true]
    rfl
  refine run_bind_of (Service.requireService_run hsvc) ?_
  rw [if_neg (by decide), hsource, ofOutcome_ok_bind, htarget, ofOutcome_ok_bind,
    if_neg (by decide)]
  dsimp only
  rw [hplan, run_bind, forM_applyUpdate_run]
  simp only [List.map_cons, List.map_nil, hscripts]

end Catalog.Service
