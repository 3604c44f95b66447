import Catalog.Proofs.Matching.PointSet
import Catalog.Proofs.Engine.Commit
import Catalog.Proofs.Engine.Frame

/-!
# Field matchers — a save that fails

An aggregation saves the unsaved points of each matcher at every checkpoint and at the end of
a pass, and first of all when it loads a matcher. The save hands its unsaved points over
before the transaction that writes them runs: the matcher is left with its memory and with
nothing unsaved, and only then is the store written. When that write fails, the store is as
it was, so the set of points the matcher stands for is the same; but the points that were
unsaved are no longer known as such. The next forced save writes none of them and empties the
memory, and a fresh matcher that loads the store sees only the points the store held before
the failure: exactly the unsaved points that the store lacked are lost.

## Main results

* `Matcher.pointSet_release_false`: a save that hands its points over keeps the point set.
* `Matcher.mem_load_after_forced_save`: after it, a forced save and a fresh load see only the
  store's points.
* `Matcher.Coherent.lost_after_forced_save_iff`: the points lost are the unsaved points the
  store lacked.
* `Engine.saveMatcher_outcome`, `Engine.loadMatcher_outcome`: a save or a load in a pass
  succeeds, or fails having changed nothing but the matcher, which it left handed over.
* `Engine.failed_save_loses_unstored_points`: all of it together.
-/

namespace Catalog.Matching.Matcher

/-- A fresh matcher of the same definition and store, with nothing in memory. -/
def fresh (m : Matcher) : Matcher :=
  { m with points := [], unsaved := [] }

@[simp] theorem fresh_scope (m : Matcher) : m.fresh.scope = m.scope := rfl

@[simp] theorem fresh_name (m : Matcher) : m.fresh.name = m.name := rfl

@[simp] theorem release_false_points (m : Matcher) : (m.release false).points = m.points := rfl

@[simp] theorem release_unsaved (m : Matcher) (force : Bool) : (m.release force).unsaved = [] := by
  cases force <;> rfl

/-- Handing the unsaved points over keeps the point set: memory and store are untouched. -/
theorem pointSet_release_false (m : Matcher) (t : PointTable) :
    (m.release false).pointSet t = m.pointSet t := rfl

/-- A forced save with nothing unsaved writes nothing: it only empties the memory. -/
theorem flush_true_of_unsaved_nil {m : Matcher} {scope : String} (h : m.scope = some scope)
    (hu : m.unsaved = []) (t : PointTable) : m.flush true t = (m.fresh, t) := by
  rw [flush_of_some h, hu]
  rfl

/-- A fresh matcher that loads the store sees exactly the points the store holds for it. -/
theorem mem_fresh_load {m : Matcher} {scope : String} (h : m.scope = some scope)
    (t : PointTable) {p : Point} : p ∈ (m.fresh.load t).1.points ↔ p ∈ m.savedPoints t := by
  have hf : m.fresh.scope = some scope := h
  rw [mem_load_points hf, flush_true_of_unsaved_nil hf rfl]
  exact Iff.of_eq (congrArg (p ∈ ·) (savedPoints_congr t rfl rfl))

/-- **After a save that failed, a forced save and a fresh load see only the store's points.**
The forced save finds nothing unsaved, so it writes nothing. -/
theorem mem_load_after_forced_save {m : Matcher} {scope : String} (h : m.scope = some scope)
    (t : PointTable) {p : Point} :
    p ∈ (m.fresh.load ((m.release false).flush true t).2).1.points ↔ p ∈ m.savedPoints t := by
  have hr : (m.release false).scope = some scope := h
  rw [flush_true_of_unsaved_nil hr rfl]
  exact mem_fresh_load h t

/-- The points a failed save loses, among those the matcher stands for, are exactly the
unsaved points that the store lacked. -/
theorem Coherent.lost_after_forced_save_iff {m : Matcher} {t : PointTable} (hc : m.Coherent t)
    {p : Point} :
    (p ∈ m.pointSet t ∧ p ∉ (m.fresh.load ((m.release false).flush true t).2).1.points) ↔
      p ∈ m.unsaved ∧ p ∉ m.savedPoints t := by
  obtain ⟨scope, h⟩ := hc.scope_eq
  rw [mem_load_after_forced_save h, mem_pointSet]
  constructor
  · -- a point in memory that the store lacks is unsaved, by coherence
    rintro ⟨hp | hp, hs⟩
    · exact ⟨hc.unsaved_of_unstored p hp hs, hs⟩
    · exact absurd hp hs
  · rintro ⟨hu, hs⟩
    exact ⟨.inl (hc.unsaved_mem p hu), hs⟩

end Catalog.Matching.Matcher

namespace Catalog.Engine

open Catalog.Matching Catalog.Service Catalog.Site

/-- The pass with a matcher put in place of the one of its name in its match engine. -/
def Pass.placing (p : Pass) (settings : Config.MatchingSettings) (e : MatchEngine)
    (m : Matcher) : Pass :=
  { p with worker := .aggregation settings (some { e with matchers := MatchEngine.placeMatcher m e.matchers }) }

section

variable {settings : Config.MatchingSettings} {e : MatchEngine} {st : Site × Pass}

theorem putMatcher_run (hw : st.2.worker = .aggregation settings (some e)) (m : Matcher) :
    ((putMatcher m).run).run st = (.ok (), (st.1, st.2.placing settings e m)) := by
  obtain ⟨s, ⟨info, worker⟩⟩ := st
  dsimp only at hw
  subst hw
  rfl

/-- How a save or a load of `m` can end in a pass whose engine is `e`: it succeeds, and the
pass still holds a match engine, or it fails with the site as it was and `m` handed over, its
memory kept and nothing unsaved. -/
def SavedOrHandedOver (settings : Config.MatchingSettings) (e : MatchEngine) (m : Matcher)
    (st : Site × Pass) (a : PassM Unit) : Prop :=
  (∃ t e', (a.run).run st = (.ok (), t) ∧ t.2.worker = .aggregation settings (some e')) ∨
    ∃ err, (a.run).run st = (.error err, (st.1, st.2.placing settings e (m.release false)))

/-- A save of a matcher backed by the store hands its unsaved points over, then writes them
in a transaction of its own: it succeeds, or it fails having changed nothing but the
matcher. -/
theorem saveMatcher_outcome (hw : st.2.worker = .aggregation settings (some e)) (force : Bool)
    {m : Matcher} {scope : String} (hs : m.scope = some scope) :
    SavedOrHandedOver settings e m st (saveMatcher force m) := by
  unfold SavedOrHandedOver saveMatcher
  simp only [hs]
  rw [Engine.run_bind, putMatcher_run hw]
  dsimp only
  rw [Engine.run_bind, onSite_run]
  -- the write runs on the site, from the pass that holds `m` handed over
  rcases hw' : ((changePoints (·.insertPoints scope m.name m.pending)).run).run st.1 with
    ⟨err | _, s⟩
  · right
    refine ⟨err, ?_⟩
    rw [atomically_error hw']
  · left
    have hworker : (st.2.placing settings e (m.release false)).worker =
        .aggregation settings (some _) := rfl
    exact ⟨_, _, putMatcher_run hworker _, rfl⟩

/-- A load begins with a forced save, and fails exactly where that save fails. -/
theorem loadMatcher_outcome (hw : st.2.worker = .aggregation settings (some e)) {m : Matcher}
    {scope : String} (hs : m.scope = some scope) :
    SavedOrHandedOver settings e m st (loadMatcher m) := by
  unfold SavedOrHandedOver loadMatcher
  simp only [hs]
  rcases saveMatcher_outcome hw true hs with ⟨t, e', hok, hw'⟩ | ⟨err, herr⟩
  · -- after a save, reading the store and putting the matcher back never fail
    left
    rw [Engine.run_bind, hok]
    dsimp only
    rw [Engine.run_bind, onSite_run, query_run]
    exact ⟨_, _, putMatcher_run hw' _, rfl⟩
  · right
    exact ⟨err, by rw [Engine.run_bind, herr]⟩

end

/-- **A save that fails keeps the point set, but the next forced save loses what the store
lacked.** In a pass whose match engine holds a matcher coherent with the store, saving or
loading the matcher either succeeds, or fails with the store as it was and the matcher
holding its memory but nothing unsaved. So the set of points it stands for is the same; yet
a forced save after it writes nothing, and a fresh matcher that loads the store then sees
exactly the points the store held: the points lost are the unsaved ones the store lacked. -/
theorem failed_save_loses_unstored_points (force : Bool) (m : Matcher)
    {settings : Config.MatchingSettings} {e : MatchEngine} {st : Site × Pass}
    (hw : st.2.worker = .aggregation settings (some e)) (hc : m.Coherent st.1.store.points) :
    SavedOrHandedOver settings e m st (saveMatcher force m) ∧
      SavedOrHandedOver settings e m st (loadMatcher m) ∧
      (m.release false).pointSet st.1.store.points = m.pointSet st.1.store.points ∧
      (∀ p, p ∈ (m.fresh.load ((m.release false).flush true st.1.store.points).2).1.points ↔
        p ∈ m.savedPoints st.1.store.points) ∧
      ∀ p, (p ∈ m.pointSet st.1.store.points ∧
          p ∉ (m.fresh.load ((m.release false).flush true st.1.store.points).2).1.points) ↔
        p ∈ m.unsaved ∧ p ∉ m.savedPoints st.1.store.points := by
  obtain ⟨scope, hs⟩ := hc.scope_eq
  exact ⟨saveMatcher_outcome hw force hs, loadMatcher_outcome hw hs,
    Matcher.pointSet_release_false m _, fun _ => Matcher.mem_load_after_forced_save hs _,
    fun _ => hc.lost_after_forced_save_iff⟩

/-- An ISBN matcher of the service `Dedup` holding one unsaved point over an empty store: a
failed save would lose that point, which the store lacks. -/
theorem isbn_point_unsaved_at_failed_save :
    let m : Matcher :=
      { name := "isbn", fields := ["020a"], normalizer := .isbn, scope := some "Dedup"
        points := [⟨"9780306406157", 1⟩], unsaved := [⟨"9780306406157", 1⟩] }
    let st : Site × Pass := (default,
      { info := default, worker := .aggregation {} (some ⟨[m], []⟩), routing := default,
        oaiIds := default, counters := .new "Dedup", outputSet := none, control := {} })
    st.2.worker = .aggregation {} (some ⟨[m], []⟩) ∧ m.Coherent st.1.store.points ∧
      (SavedOrHandedOver {} ⟨[m], []⟩ m st (saveMatcher false m) ∧
        SavedOrHandedOver {} ⟨[m], []⟩ m st (loadMatcher m) ∧
        (m.release false).pointSet st.1.store.points = m.pointSet st.1.store.points ∧
        (∀ p, p ∈ (m.fresh.load ((m.release false).flush true st.1.store.points).2).1.points ↔
          p ∈ m.savedPoints st.1.store.points) ∧
        ∀ p, (p ∈ m.pointSet st.1.store.points ∧
            p ∉ (m.fresh.load ((m.release false).flush true st.1.store.points).2).1.points) ↔
          p ∈ m.unsaved ∧ p ∉ m.savedPoints st.1.store.points) := by
  intro m st
  have hc : m.Coherent st.1.store.points := ⟨rfl, by simp [m], by simp [m]⟩
  exact ⟨rfl, hc, failed_save_loses_unstored_points false m rfl hc⟩

end Catalog.Engine
