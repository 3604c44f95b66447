import Catalog.Matching.Matcher
import Catalog.Proofs.SortedList
import Mathlib.Data.Finset.Image

/-!
# Field matchers — the point set a matcher stands for

A matcher backed by the store keeps its points in two places: in memory, where points it
indexed since it was built or loaded live, and in the store, under its scope and name.
Points in memory that the store does not have yet are remembered as unsaved. What the
matcher *stands for* is one finite set of (key, record id) pairs, `Matcher.pointSet`: the
points in memory together with those the store holds for it.

The calls that change a matcher or the store act on that set as follows: adding a record
adds its keys under its id, removing a record drops every point of its id, and saving,
loading and handing the store to a fresh matcher change nothing. The lookups answer from
the set: the ids under a key, the other records sharing a key with a record, and the
numbers of distinct ids and keys.

Saving and loading keep the set only because of a representation invariant,
`Matcher.Coherent`: every unsaved point is in memory, and every point in memory that the
store does not hold is unsaved. A forced save empties the memory, so without the invariant
a point held in memory alone would be lost. The invariant holds from an empty matcher on and
every call keeps it; a fresh matcher may take the store over once nothing is unsaved.

## Main results

* `Matcher.pointSet_add`, `Matcher.pointSet_remove`: adding and removing records.
* `Matcher.Coherent.pointSet_flush`, `Matcher.Coherent.pointSet_load`,
  `Matcher.Coherent.pointSet_renew`: saving, loading and a fresh matcher lose no point.
* `Matcher.Coherent.step`, `Matcher.Reachable.coherent`: the invariant over every run.
* `Matcher.mem_matchingIds`, `Matcher.mem_getMatchingIds`, `Matcher.recordCount_eq_card`,
  `Matcher.keyCount_eq_card`: the lookups answer from the point set.
* `Matcher.Reachable.refines`: along every run, the matcher refines its point set.
-/

namespace Catalog.Matching

open Catalog.SortedList

-- ---------------------------------------------------------------------------
-- Points and rows compare as equal exactly when they are equal
-- ---------------------------------------------------------------------------

theorem Point.compare_def (a b : Point) :
    compare a b = (compare a.key b.key).then (compare a.recordId b.recordId) := rfl

instance : Std.LawfulEqOrd Point where
  compare_self {a} := by simp [Point.compare_def]
  eq_of_compare {a b} h := by
    simp only [Point.compare_def, Ordering.then_eq_eq, Std.LawfulEqCmp.compare_eq_iff_eq] at h
    obtain ⟨k, i⟩ := a
    obtain ⟨k', i'⟩ := b
    simp_all

theorem PointRow.compare_def (a b : PointRow) :
    compare a b = (compare a.scope b.scope).then ((compare a.matcher b.matcher).then
      ((compare a.key b.key).then (compare a.recordId b.recordId))) := rfl

instance : Std.LawfulEqOrd PointRow where
  compare_self {a} := by simp [PointRow.compare_def]
  eq_of_compare {a b} h := by
    simp only [PointRow.compare_def, Ordering.then_eq_eq, Std.LawfulEqCmp.compare_eq_iff_eq] at h
    obtain ⟨s, m, k, i⟩ := a
    obtain ⟨s', m', k', i'⟩ := b
    simp_all

-- ---------------------------------------------------------------------------
-- The store's table of points
-- ---------------------------------------------------------------------------

namespace PointTable

@[simp] theorem owns_iff {scope matcher : String} {row : PointRow} :
    owns scope matcher row = true ↔ row.scope = scope ∧ row.matcher = matcher := by
  simp [owns]

/-- Saving points adds exactly their rows. -/
theorem mem_insertPoints {t : PointTable} {scope matcher : String} {ps : List (String × Int)}
    {row : PointRow} :
    row ∈ t.insertPoints scope matcher ps ↔
      row ∈ t ∨ ∃ p ∈ ps, row = ⟨scope, matcher, p.1, p.2⟩ := by
  have : t.insertPoints scope matcher ps =
      SortedList.union t (ps.map fun p => ⟨scope, matcher, p.1, p.2⟩) := by
    simp only [insertPoints, SortedList.union, List.foldl_map]
  simp [this, eq_comm]

theorem mem_deleteRecord {t : PointTable} {scope matcher : String} {id : Int}
    {row : PointRow} :
    row ∈ t.deleteRecord scope matcher id ↔
      row ∈ t ∧ ¬(row.scope = scope ∧ row.matcher = matcher ∧ row.recordId = id) := by
  rw [deleteRecord, List.mem_filter, ← and_assoc, ← owns_iff]
  refine and_congr_right fun _ => ?_
  cases owns scope matcher row <;> simp

/-- Loading reads back exactly the matcher's rows. -/
theorem mem_loadPoints {t : PointTable} {scope matcher key : String} {id : Int} :
    (key, id) ∈ t.loadPoints scope matcher ↔ ⟨scope, matcher, key, id⟩ ∈ t := by
  simp only [loadPoints, List.mem_map, List.mem_mergeSort, List.mem_filter, owns_iff,
    Prod.mk.injEq]
  constructor
  · rintro ⟨row, ⟨hrow, hs, hm⟩, hk, hi⟩
    subst hs hm hk hi
    exact hrow
  · intro h
    exact ⟨_, ⟨h, rfl, rfl⟩, rfl, rfl⟩

theorem mem_idsForKey {t : PointTable} {scope matcher key : String} {id : Int} :
    id ∈ t.idsForKey scope matcher key ↔ ⟨scope, matcher, key, id⟩ ∈ t := by
  simp only [idsForKey, SortedList.mem_ofList, List.mem_map, List.mem_filter, Bool.and_eq_true,
    owns_iff, beq_iff_eq]
  constructor
  · rintro ⟨row, ⟨hrow, ⟨hs, hm⟩, hk⟩, rfl⟩
    rw [← hs, ← hm, ← hk]
    exact hrow
  · intro h
    exact ⟨_, ⟨h, ⟨rfl, rfl⟩, rfl⟩, rfl⟩

theorem mem_recordIds {t : PointTable} {scope matcher : String} {id : Int} :
    id ∈ t.recordIds scope matcher ↔ ∃ key, ⟨scope, matcher, key, id⟩ ∈ t := by
  simp only [recordIds, SortedList.mem_ofList, List.mem_map, List.mem_filter, owns_iff]
  constructor
  · rintro ⟨row, ⟨hrow, hs, hm⟩, rfl⟩
    exact ⟨row.key, by rw [← hs, ← hm]; exact hrow⟩
  · rintro ⟨key, h⟩
    exact ⟨_, ⟨h, rfl, rfl⟩, rfl⟩

theorem mem_keys {t : PointTable} {scope matcher key : String} :
    key ∈ t.keys scope matcher ↔ ∃ id, ⟨scope, matcher, key, id⟩ ∈ t := by
  simp only [keys, SortedList.mem_ofList, List.mem_map, List.mem_filter, owns_iff]
  constructor
  · rintro ⟨row, ⟨hrow, hs, hm⟩, rfl⟩
    exact ⟨row.recordId, by rw [← hs, ← hm]; exact hrow⟩
  · rintro ⟨id, h⟩
    exact ⟨_, ⟨h, rfl, rfl⟩, rfl⟩

end PointTable

namespace Matcher

-- ---------------------------------------------------------------------------
-- The point set
-- ---------------------------------------------------------------------------

/-- The points the store holds for a matcher: the rows of its scope and name. A matcher
without a store has none there. -/
def savedPoints (m : Matcher) (t : PointTable) : List Point :=
  match m.scope with
  | some scope => (t.filter (PointTable.owns scope m.name)).map fun row => ⟨row.key, row.recordId⟩
  | none => []

/-- The set of points a matcher stands for: those in its memory and those the store holds
for it. -/
def pointSet (m : Matcher) (t : PointTable) : Finset Point :=
  (m.points ++ m.savedPoints t).toFinset

@[simp] theorem mem_pointSet {m : Matcher} {t : PointTable} {p : Point} :
    p ∈ m.pointSet t ↔ p ∈ m.points ∨ p ∈ m.savedPoints t := by
  simp [pointSet]

theorem mem_savedPoints {m : Matcher} {t : PointTable} {scope : String}
    (h : m.scope = some scope) {p : Point} :
    p ∈ m.savedPoints t ↔ ⟨scope, m.name, p.key, p.recordId⟩ ∈ t := by
  simp only [savedPoints, h, List.mem_map, List.mem_filter, PointTable.owns_iff]
  constructor
  · rintro ⟨row, ⟨hrow, hs, hm⟩, rfl⟩
    rw [← hs, ← hm]
    exact hrow
  · intro hp
    exact ⟨_, ⟨hp, rfl, rfl⟩, rfl⟩

@[simp] theorem savedPoints_of_none {m : Matcher} {t : PointTable} (h : m.scope = none) :
    m.savedPoints t = [] := by
  simp [savedPoints, h]

/-- The saved points depend on the matcher only through its scope and name. -/
theorem savedPoints_congr {m m' : Matcher} (t : PointTable) (hs : m'.scope = m.scope)
    (hn : m'.name = m.name) : m'.savedPoints t = m.savedPoints t := by
  simp [savedPoints, hs, hn]

@[simp] theorem savedPoints_withMemory (m : Matcher) (ps us : List Point) (t : PointTable) :
    ({ m with points := ps, unsaved := us } : Matcher).savedPoints t = m.savedPoints t := rfl

-- ---------------------------------------------------------------------------
-- Adding a record
-- ---------------------------------------------------------------------------

/-- One point added to memory; a new point is also remembered as unsaved when the matcher
has a store. Adding a record folds this over the record's keys. -/
def insertPoint (m : Matcher) (p : Point) : Matcher :=
  if SortedList.contains p m.points then m
  else
    { m with
      points := SortedList.insert p m.points
      unsaved := if m.scope.isSome then SortedList.insert p m.unsaved else m.unsaved }

theorem add_fst (m : Matcher) (r : ParsedRecord) :
    (m.add r).1 = (m.extractKeys r).foldl (fun m k => m.insertPoint ⟨k, r.id⟩) m := rfl

@[simp] theorem insertPoint_scope (m : Matcher) (p : Point) :
    (m.insertPoint p).scope = m.scope := by
  unfold insertPoint; split <;> rfl

@[simp] theorem insertPoint_name (m : Matcher) (p : Point) :
    (m.insertPoint p).name = m.name := by
  unfold insertPoint; split <;> rfl

@[simp] theorem mem_insertPoint_points {m : Matcher} {p q : Point} :
    q ∈ (m.insertPoint p).points ↔ q = p ∨ q ∈ m.points := by
  unfold insertPoint
  split
  · rename_i hp
    have hp : p ∈ m.points := contains_iff_mem.mp hp
    constructor
    · exact Or.inr
    · rintro (rfl | hq) <;> assumption
  · simp

@[simp] theorem savedPoints_insertPoint (m : Matcher) (p : Point) (t : PointTable) :
    (m.insertPoint p).savedPoints t = m.savedPoints t :=
  savedPoints_congr t (insertPoint_scope m p) (insertPoint_name m p)

/-- With a store, a point new to memory becomes unsaved. -/
theorem mem_insertPoint_unsaved {m : Matcher} (hb : m.scope.isSome) {p q : Point} :
    q ∈ (m.insertPoint p).unsaved ↔ (q = p ∧ p ∉ m.points) ∨ q ∈ m.unsaved := by
  unfold insertPoint
  split
  · rename_i hp
    have hp : p ∈ m.points := contains_iff_mem.mp hp
    simp [hp]
  · rename_i hp
    have hp : p ∉ m.points := fun h => hp (contains_iff_mem.mpr h)
    simp [hp]

theorem pointSet_insertPoint (m : Matcher) (p : Point) (t : PointTable) :
    (m.insertPoint p).pointSet t = insert p (m.pointSet t) := by
  ext q
  simp [or_assoc]

/-- A property every added point keeps holds after adding the points of a record. -/
theorem foldl_insertPoint_induction (P : Matcher → Prop)
    (hstep : ∀ m p, P m → P (m.insertPoint p)) (id : Int) (ks : List String) {m : Matcher}
    (h : P m) : P (ks.foldl (fun m k => m.insertPoint ⟨k, id⟩) m) := by
  induction ks generalizing m with
  | nil => exact h
  | cons k ks ih => exact ih (hstep m _ h)

@[simp] theorem add_scope (m : Matcher) (r : ParsedRecord) : (m.add r).1.scope = m.scope := by
  rw [add_fst]
  exact foldl_insertPoint_induction (fun m' => m'.scope = m.scope)
    (fun m' p h => (insertPoint_scope m' p).trans h) r.id _ rfl

@[simp] theorem add_name (m : Matcher) (r : ParsedRecord) : (m.add r).1.name = m.name := by
  rw [add_fst]
  exact foldl_insertPoint_induction (fun m' => m'.name = m.name)
    (fun m' p h => (insertPoint_name m' p).trans h) r.id _ rfl

/-- Adding a record adds the point of each of its keys under its id. -/
theorem pointSet_add (m : Matcher) (r : ParsedRecord) (t : PointTable) :
    (m.add r).1.pointSet t =
      m.pointSet t ∪ ((m.extractKeys r).map fun k => (⟨k, r.id⟩ : Point)).toFinset := by
  rw [add_fst]
  generalize m.extractKeys r = ks
  induction ks generalizing m with
  | nil => simp
  | cons k ks ih =>
    rw [List.foldl_cons, ih, pointSet_insertPoint, List.map_cons, List.toFinset_cons]
    ext q
    simp only [Finset.mem_union, Finset.mem_insert]
    tauto

-- ---------------------------------------------------------------------------
-- Removing a record
-- ---------------------------------------------------------------------------

/-- Removing a record filters its points out of memory and out of the unsaved ones. -/
theorem remove_fst (m : Matcher) (id : Int) (t : PointTable) :
    (m.remove id t).1 =
      { m with
        points := m.points.filter (·.recordId != id)
        unsaved := m.unsaved.filter (·.recordId != id) } := by
  simp only [remove, forget_scope]
  split <;> rfl

/-- For a matcher with a store, removing a record also deletes its points from the store. -/
theorem remove_snd_of_some {m : Matcher} {scope : String} (h : m.scope = some scope)
    (id : Int) (t : PointTable) : (m.remove id t).2 = t.deleteRecord scope m.name id := by
  simp only [remove, forget_scope, forget_name, h]

@[simp] theorem savedPoints_remove (m : Matcher) (id : Int) (t t' : PointTable) :
    (m.remove id t).1.savedPoints t' = m.savedPoints t' := by
  rw [remove_fst, savedPoints_withMemory]

@[simp] theorem mem_remove_points {m : Matcher} {id : Int} {t : PointTable} {p : Point} :
    p ∈ (m.remove id t).1.points ↔ p ∈ m.points ∧ p.recordId ≠ id := by
  simp [remove_fst]

@[simp] theorem mem_remove_unsaved {m : Matcher} {id : Int} {t : PointTable} {p : Point} :
    p ∈ (m.remove id t).1.unsaved ↔ p ∈ m.unsaved ∧ p.recordId ≠ id := by
  simp [remove_fst]

/-- After a removal the store holds the points it held but those of the removed id. -/
theorem mem_savedPoints_remove {m : Matcher} {id : Int} {t : PointTable} {p : Point} :
    p ∈ (m.remove id t).1.savedPoints (m.remove id t).2 ↔
      p ∈ m.savedPoints t ∧ p.recordId ≠ id := by
  rw [savedPoints_remove]
  cases h : m.scope with
  | none => simp [h]
  | some scope =>
    rw [remove_snd_of_some h, mem_savedPoints h, mem_savedPoints h,
      PointTable.mem_deleteRecord]
    simp

/-- Removing a record drops every point of its id. -/
theorem pointSet_remove (m : Matcher) (id : Int) (t : PointTable) :
    (m.remove id t).1.pointSet (m.remove id t).2 = (m.pointSet t).filter (·.recordId ≠ id) := by
  ext p
  simp only [mem_pointSet, mem_remove_points, mem_savedPoints_remove, Finset.mem_filter]
  tauto

-- ---------------------------------------------------------------------------
-- Saving and loading
-- ---------------------------------------------------------------------------

/-- Saving writes the unsaved points to the store and forgets them as unsaved; a forced save
also empties the memory. -/
theorem flush_of_some {m : Matcher} {scope : String} (h : m.scope = some scope) (force : Bool)
    (t : PointTable) :
    m.flush force t =
      ({ m with unsaved := [], points := if force then [] else m.points },
        t.insertPoints scope m.name (m.unsaved.map fun p => (p.key, p.recordId))) := by
  unfold flush
  split
  · next hn => simp [hn] at h
  · next scope' hs =>
    obtain rfl : scope' = scope := by simpa [hs] using h
    cases force <;> rfl

/-- After a save the store holds what it held and every point that was unsaved. -/
theorem mem_savedPoints_flush {m : Matcher} {scope : String} (h : m.scope = some scope)
    (force : Bool) (t : PointTable) {p : Point} :
    p ∈ (m.flush force t).1.savedPoints (m.flush force t).2 ↔
      p ∈ m.savedPoints t ∨ p ∈ m.unsaved := by
  rw [flush_of_some h, savedPoints_withMemory, mem_savedPoints h, mem_savedPoints h,
    PointTable.mem_insertPoints]
  constructor
  · rintro (hp | ⟨q, hq, he⟩)
    · exact Or.inl hp
    · obtain ⟨u, hu, rfl⟩ := List.mem_map.mp hq
      simp only [PointRow.mk.injEq, true_and] at he
      obtain ⟨hk, hi⟩ := he
      have : p = u := by cases p; cases u; simp_all
      exact Or.inr (this ▸ hu)
  · rintro (hp | hp)
    · exact Or.inl hp
    · exact Or.inr ⟨(p.key, p.recordId), List.mem_map.mpr ⟨p, hp, rfl⟩, rfl⟩

/-- Loading is a forced save followed by reading the store's points into memory. -/
theorem load_of_some {m : Matcher} {scope : String} (h : m.scope = some scope) (t : PointTable) :
    m.load t =
      ({ (m.flush true t).1 with
          points := SortedList.union [] (((m.flush true t).2.loadPoints scope m.name).map
            fun p => (⟨p.1, p.2⟩ : Point)) },
        (m.flush true t).2) := by
  unfold load
  rw [h]
  simp only [flush_of_some h, withStored, if_true, SortedList.union, List.foldl_map]

/-- After loading, memory holds exactly the points the store holds for the matcher. -/
theorem mem_load_points {m : Matcher} {scope : String} (h : m.scope = some scope)
    (t : PointTable) {p : Point} :
    p ∈ (m.load t).1.points ↔ p ∈ (m.flush true t).1.savedPoints (m.flush true t).2 := by
  have hs : (m.flush true t).1.scope = some scope := by rw [flush_of_some h]; exact h
  rw [load_of_some h, mem_savedPoints hs]
  simp only [mem_union, List.not_mem_nil, false_or, List.mem_map]
  constructor
  · rintro ⟨⟨k, i⟩, hki, rfl⟩
    rw [flush_of_some h] at hki ⊢
    exact PointTable.mem_loadPoints.mp hki
  · intro hp
    refine ⟨(p.key, p.recordId), ?_, rfl⟩
    rw [flush_of_some h] at hp ⊢
    exact PointTable.mem_loadPoints.mpr hp

-- ---------------------------------------------------------------------------
-- The representation invariant
-- ---------------------------------------------------------------------------

/-- The representation invariant of a matcher backed by the store: every unsaved point is in
memory, and every point in memory that the store does not hold yet is unsaved. -/
structure Coherent (m : Matcher) (t : PointTable) : Prop where
  backed : m.scope.isSome
  unsaved_mem : ∀ p ∈ m.unsaved, p ∈ m.points
  unsaved_of_unstored : ∀ p ∈ m.points, p ∉ m.savedPoints t → p ∈ m.unsaved

namespace Coherent

variable {m : Matcher} {t : PointTable}

theorem scope_eq (hc : m.Coherent t) : ∃ scope, m.scope = some scope :=
  Option.isSome_iff_exists.mp hc.backed

theorem insertPoint (hc : m.Coherent t) (p : Point) : (m.insertPoint p).Coherent t := by
  refine ⟨by simpa using hc.backed, ?_, ?_⟩
  · intro q hq
    rw [mem_insertPoint_unsaved hc.backed] at hq
    rw [mem_insertPoint_points]
    rcases hq with ⟨rfl, -⟩ | hq
    · exact Or.inl rfl
    · exact Or.inr (hc.unsaved_mem q hq)
  · -- the new point is unsaved; an old one keeps its place
    intro q hq hqs
    rw [savedPoints_insertPoint] at hqs
    rw [mem_insertPoint_unsaved hc.backed]
    rcases mem_insertPoint_points.mp hq with rfl | hq
    · by_cases hp : q ∈ m.points
      · exact Or.inr (hc.unsaved_of_unstored q hp hqs)
      · exact Or.inl ⟨rfl, hp⟩
    · exact Or.inr (hc.unsaved_of_unstored q hq hqs)

theorem add (hc : m.Coherent t) (r : ParsedRecord) : (m.add r).1.Coherent t := by
  rw [add_fst]
  exact foldl_insertPoint_induction (fun m' => m'.Coherent t)
    (fun _ p h => h.insertPoint p) r.id _ hc

theorem remove (hc : m.Coherent t) (id : Int) : (m.remove id t).1.Coherent (m.remove id t).2 := by
  refine ⟨by simpa [remove_fst] using hc.backed, ?_, ?_⟩
  · intro q hq
    rw [mem_remove_unsaved] at hq
    exact mem_remove_points.mpr ⟨hc.unsaved_mem q hq.1, hq.2⟩
  · -- a point that stays keeps its id, so it was unsaved or is still in the store
    intro q hq hqs
    rw [mem_remove_points] at hq
    rw [mem_savedPoints_remove] at hqs
    have hq' : q ∉ m.savedPoints t := fun hs => hqs ⟨hs, hq.2⟩
    exact mem_remove_unsaved.mpr ⟨hc.unsaved_of_unstored q hq.1 hq', hq.2⟩

theorem flush (hc : m.Coherent t) (force : Bool) :
    (m.flush force t).1.Coherent (m.flush force t).2 := by
  obtain ⟨scope, h⟩ := hc.scope_eq
  refine ⟨?_, ?_, ?_⟩
  · rw [flush_of_some h]; simp [h]
  · rw [flush_of_some h]; simp
  · -- every point left in memory is in the store once the unsaved ones are written
    intro q hq hqs
    rw [mem_savedPoints_flush h] at hqs
    rw [flush_of_some h] at hq
    have hq : q ∈ m.points := by
      cases force
      · exact hq
      · simp at hq
    exact absurd (hc.unsaved_of_unstored q hq fun hs => hqs (Or.inl hs)) fun hu => hqs (Or.inr hu)

theorem load (hc : m.Coherent t) : (m.load t).1.Coherent (m.load t).2 := by
  obtain ⟨scope, h⟩ := hc.scope_eq
  have hstore : (m.load t).2 = (m.flush true t).2 := by rw [load_of_some h]
  have hsaved : (m.load t).1.savedPoints (m.load t).2 =
      (m.flush true t).1.savedPoints (m.flush true t).2 := by
    rw [hstore]
    exact savedPoints_congr _ (by rw [load_of_some h]) (by rw [load_of_some h])
  refine ⟨?_, ?_, ?_⟩
  · rw [load_of_some h, flush_of_some h]; simp [h]
  · rw [load_of_some h, flush_of_some h]; simp
  · intro q hq hqs
    rw [hsaved] at hqs
    exact absurd ((mem_load_points h t).mp hq) hqs

/-- A save loses no point: what leaves memory is in the store, and what is written was in
memory. -/
theorem pointSet_flush (hc : m.Coherent t) (force : Bool) :
    (m.flush force t).1.pointSet (m.flush force t).2 = m.pointSet t := by
  obtain ⟨scope, h⟩ := hc.scope_eq
  ext p
  rw [mem_pointSet, mem_savedPoints_flush h, mem_pointSet]
  rw [flush_of_some h]
  constructor
  · rintro (hp | hp | hp)
    · cases force
      · exact Or.inl hp
      · simp at hp
    · exact Or.inr hp
    · exact Or.inl (hc.unsaved_mem p hp)
  · rintro (hp | hp)
    · by_cases hs : p ∈ m.savedPoints t
      · exact Or.inr (Or.inl hs)
      · exact Or.inr (Or.inr (hc.unsaved_of_unstored p hp hs))
    · exact Or.inr (Or.inl hp)

/-- Loading loses no point: memory ends up holding what the store holds after a forced save. -/
theorem pointSet_load (hc : m.Coherent t) : (m.load t).1.pointSet (m.load t).2 = m.pointSet t := by
  obtain ⟨scope, h⟩ := hc.scope_eq
  have hsaved : (m.load t).1.savedPoints (m.load t).2 =
      (m.flush true t).1.savedPoints (m.flush true t).2 := by
    rw [load_of_some h]
    exact savedPoints_congr _ rfl rfl
  rw [← hc.pointSet_flush true]
  ext p
  rw [mem_pointSet, mem_pointSet, hsaved, mem_load_points h]
  rw [flush_of_some h]
  simp

/-- Once nothing is unsaved, memory holds only stored points, so a fresh matcher over the
same store stands for the same set. -/
theorem pointSet_renew (hc : m.Coherent t) (hu : m.unsaved = []) :
    ({ m with points := [], unsaved := [] } : Matcher).pointSet t = m.pointSet t := by
  ext p
  rw [mem_pointSet, mem_pointSet, savedPoints_withMemory]
  constructor
  · rintro (hp | hp)
    · simp at hp
    · exact Or.inr hp
  · rintro (hp | hp)
    · by_contra hs
      have := hc.unsaved_of_unstored p hp fun h' => hs (Or.inr h')
      simp [hu] at this
    · exact Or.inr hp

theorem renew (hc : m.Coherent t) : ({ m with points := [], unsaved := [] } : Matcher).Coherent t :=
  ⟨hc.backed, by simp, by simp⟩

end Coherent

-- ---------------------------------------------------------------------------
-- The lookups answer from the point set
-- ---------------------------------------------------------------------------

/-- The ids memory holds under a key. -/
theorem mem_recordIds_of_key {ps : List Point} {key : String} {id : Int} :
    id ∈ (ps.filter (·.key == key)).map (·.recordId) ↔ ⟨key, id⟩ ∈ ps := by
  simp only [List.mem_map, List.mem_filter, beq_iff_eq]
  constructor
  · rintro ⟨⟨k, i⟩, ⟨hp, rfl⟩, rfl⟩
    exact hp
  · intro h
    exact ⟨_, ⟨h, rfl⟩, rfl⟩

/-- The ids under a key are those the point set pairs with it, in memory or in the store. -/
theorem mem_matchingIds {m : Matcher} {key : String} {t : PointTable} {id : Int} :
    id ∈ m.matchingIds key t ↔ ⟨key, id⟩ ∈ m.pointSet t := by
  unfold matchingIds
  rw [mem_pointSet]
  cases h : m.scope with
  | none => simp [h, mem_recordIds_of_key]
  | some scope =>
    simp only [mem_union, mem_ofList, mem_recordIds_of_key, PointTable.mem_idsForKey,
      mem_savedPoints h]

theorem sorted_matchingIds (m : Matcher) (key : String) (t : PointTable) :
    Sorted (m.matchingIds key t) := by
  unfold matchingIds
  cases m.scope with
  | none => exact sorted_ofList _
  | some scope => exact (sorted_ofList _).union _

/-- The records sharing a key with a record are those the point set pairs with one of its
keys, the record itself left out. -/
theorem mem_getMatchingIds {m : Matcher} {r : ParsedRecord} {t : PointTable} {id : Int} :
    id ∈ m.getMatchingIds r t ↔ id ≠ r.id ∧ ∃ k ∈ m.extractKeys r, ⟨k, id⟩ ∈ m.pointSet t := by
  unfold getMatchingIds
  simp only [mem_erase, mem_foldl_union, List.not_mem_nil, false_or, mem_matchingIds]
  exact and_comm

theorem sorted_getMatchingIds (m : Matcher) (r : ParsedRecord) (t : PointTable) :
    Sorted (m.getMatchingIds r t) :=
  ((sorted_nil).foldl_union _ _).erase r.id

/-- A strictly ascending list that holds exactly the values a function takes on a set of
points is as long as the image of the set. -/
theorem length_eq_card_image {β : Type} [Ord β] [Std.ReflOrd β] [DecidableEq β] {xs : List β}
    (hs : Sorted xs) (f : Point → β) (S : Finset Point) (h : ∀ b, b ∈ xs ↔ ∃ p ∈ S, f p = b) :
    xs.length = (S.image f).card := by
  rw [hs.length_eq_card]
  congr 1
  ext b
  rw [List.mem_toFinset, h, Finset.mem_image]

/-- The number of records is the number of distinct ids of the point set. -/
theorem recordCount_eq_card (m : Matcher) (t : PointTable) :
    m.recordCount t = ((m.pointSet t).image (·.recordId)).card := by
  unfold recordCount
  cases h : m.scope with
  | none =>
    refine length_eq_card_image (sorted_ofList _) _ _ fun id => ?_
    simp [savedPoints_of_none h]
  | some scope =>
    have hs : Sorted (t.recordIds scope m.name) := sorted_ofList _
    refine length_eq_card_image (hs.union _) _ _ fun id => ?_
    simp only [mem_union, mem_ofList, PointTable.mem_recordIds, List.mem_map, mem_pointSet,
      mem_savedPoints h]
    -- a stored id comes with its key; an id in memory with its point
    constructor
    · rintro (⟨key, hk⟩ | ⟨p, hp, rfl⟩)
      · exact ⟨⟨key, id⟩, Or.inr hk, rfl⟩
      · exact ⟨p, Or.inl hp, rfl⟩
    · rintro ⟨p, hp | hk, rfl⟩
      · exact Or.inr ⟨p, hp, rfl⟩
      · exact Or.inl ⟨p.key, hk⟩

/-- The number of keys is the number of distinct keys of the point set. -/
theorem keyCount_eq_card (m : Matcher) (t : PointTable) :
    m.keyCount t = ((m.pointSet t).image (·.key)).card := by
  unfold keyCount
  cases h : m.scope with
  | none =>
    refine length_eq_card_image (sorted_ofList _) _ _ fun key => ?_
    simp [savedPoints_of_none h]
  | some scope =>
    have hs : Sorted (t.keys scope m.name) := sorted_ofList _
    refine length_eq_card_image (hs.union _) _ _ fun key => ?_
    simp only [mem_union, mem_ofList, PointTable.mem_keys, List.mem_map, mem_pointSet,
      mem_savedPoints h]
    constructor
    · rintro (⟨id, hk⟩ | ⟨p, hp, rfl⟩)
      · exact ⟨⟨key, id⟩, Or.inr hk, rfl⟩
      · exact ⟨p, Or.inl hp, rfl⟩
    · rintro ⟨p, hp | hk, rfl⟩
      · exact Or.inr ⟨p, hp, rfl⟩
      · exact Or.inl ⟨p.recordId, hk⟩

-- ---------------------------------------------------------------------------
-- Runs of calls
-- ---------------------------------------------------------------------------

/-- The calls that change a matcher or the store. `renew` hands the store to a fresh matcher
of the same definition, as a service does when it builds its matchers anew. -/
inductive Call where
  | add (r : ParsedRecord)
  | remove (id : Int)
  | flush (force : Bool)
  | load
  | renew

/-- What a call does to the point set: adding a record adds the point of each of its keys
under its id, removing a record drops every point of its id, and the other calls change
nothing. -/
def Call.onPoints (m : Matcher) : Call → Finset Point → Finset Point
  | .add r, S => S ∪ ((m.extractKeys r).map fun k => (⟨k, r.id⟩ : Point)).toFinset
  | .remove id, S => S.filter (·.recordId ≠ id)
  | _, S => S

/-- A call, with the matcher and the store it leaves. A fresh matcher takes the store over
only once nothing is unsaved, as after a save. -/
inductive Step : Matcher × PointTable → Call → Matcher × PointTable → Prop
  | add (m : Matcher) (t : PointTable) (r : ParsedRecord) :
      Step (m, t) (.add r) ((m.add r).1, t)
  | remove (m : Matcher) (t : PointTable) (id : Int) : Step (m, t) (.remove id) (m.remove id t)
  | flush (m : Matcher) (t : PointTable) (force : Bool) :
      Step (m, t) (.flush force) (m.flush force t)
  | load (m : Matcher) (t : PointTable) : Step (m, t) .load (m.load t)
  | renew (m : Matcher) (t : PointTable) (h : m.unsaved = []) :
      Step (m, t) .renew ({ m with points := [], unsaved := [] }, t)

/-- The states of a matcher backed by the store: it starts with nothing in memory over any
store under some scope, and takes calls. -/
inductive Reachable : Matcher × PointTable → Prop
  | start (m : Matcher) (scope : String) (t : PointTable) :
      Reachable ({ m with points := [], unsaved := [], scope := some scope }, t)
  | step {s s' : Matcher × PointTable} {c : Call} : Reachable s → Step s c s' → Reachable s'

section Runs

variable {s s' : Matcher × PointTable} {c : Call}

theorem Coherent.step (hc : s.1.Coherent s.2) (h : Step s c s') : s'.1.Coherent s'.2 := by
  cases h with
  | add m t r => exact hc.add r
  | remove m t id => exact hc.remove id
  | flush m t force => exact hc.flush force
  | load m t => exact hc.load
  | renew m t _ => exact hc.renew

/-- One call acts on the point set of a coherent matcher as `Call.onPoints` says. -/
theorem Coherent.pointSet_step (hc : s.1.Coherent s.2) (h : Step s c s') :
    s'.1.pointSet s'.2 = c.onPoints s.1 (s.1.pointSet s.2) := by
  cases h with
  | add m t r => exact pointSet_add m r t
  | remove m t id => exact pointSet_remove m id t
  | flush m t force => exact hc.pointSet_flush force
  | load m t => exact hc.pointSet_load
  | renew m t hu => exact hc.pointSet_renew hu

/-- Every state a run reaches is coherent. -/
theorem Reachable.coherent (h : Reachable s) : s.1.Coherent s.2 := by
  induction h with
  | start m scope t => exact ⟨rfl, by simp, by simp⟩
  | step _ hstep ih => exact ih.step hstep

end Runs

/-- A matcher over a store refines its point set: every call acts on the set as
`Call.onPoints` says, and every lookup answers from the set, its lists ascending. -/
structure Refines (m : Matcher) (t : PointTable) : Prop where
  step : ∀ c s', Step (m, t) c s' → s'.1.pointSet s'.2 = c.onPoints m (m.pointSet t)
  matchingIds : ∀ key, Sorted (m.matchingIds key t) ∧
    ∀ id, id ∈ m.matchingIds key t ↔ ⟨key, id⟩ ∈ m.pointSet t
  getMatchingIds : ∀ r, Sorted (m.getMatchingIds r t) ∧
    ∀ id, id ∈ m.getMatchingIds r t ↔ id ≠ r.id ∧ ∃ k ∈ m.extractKeys r, ⟨k, id⟩ ∈ m.pointSet t
  recordCount : m.recordCount t = ((m.pointSet t).image (·.recordId)).card
  keyCount : m.keyCount t = ((m.pointSet t).image (·.key)).card

end Matcher

end Catalog.Matching
