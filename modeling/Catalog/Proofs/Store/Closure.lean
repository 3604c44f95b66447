import Catalog.Store.Lineage
import Catalog.Proofs.SortedList
import Mathlib.Logic.Relation

/-!
# The predecessor closure

`Store.populate` walks the lineage graph from a set of seeds towards the records they were
derived from. It keeps the ids reached so far and the frontier of the ids reached in the last
round. Each round looks up the predecessors of the frontier, keeps those not reached yet as the
next frontier, and the walk stops when a round finds nothing new.

The walk is exact on every graph, cycles and self-loops included: it returns, ascending, the ids
reached from a seed by following edges from successor to predecessor zero or more times. The
invariant (`Walk`) says that everything reached lies in that closure, and that only the
frontier may still have predecessors that are not reached. A round that finds nothing new thus
leaves the reached ids closed under predecessors, and so holding the whole closure. A round that
finds something reaches a predecessor id not reached before, and there are no more such ids than
edges: the walk stops on its own before its rounds run out.

## Main results

* `Walk.step`: a round keeps the invariant; `unreached_union_freshFrom_lt`: a round that finds
  something leaves fewer predecessor ids unreached.
* `Walk.closeOver`: with more rounds than unreached predecessor ids, the walk returns the closure.
* `populate_closure`: `populate` returns the closure of its seeds, ascending, and any larger
  number of rounds gives the same answer.
-/

namespace Catalog.Store

open SortedList

variable {s : Store} {seeds reached frontier : List Int}

/-- One step back along the lineage: `b` is a predecessor of `a`. -/
def StepBack (s : Store) (a b : Int) : Prop :=
  (b, a) ∈ s.lineage

/-- The ids reached from a seed by stepping back along the lineage zero or more times. -/
def Ancestry (s : Store) (seeds : List Int) (y : Int) : Prop :=
  ∃ x ∈ seeds, Relation.ReflTransGen s.StepBack x y

/-- The predecessors of a frontier that a round of the walk looks up. -/
def predecessorsOf (s : Store) (frontier : List Int) : List Int :=
  s.lineage.filterMap fun e => if frontier.contains e.2 then some e.1 else none

/-- The next frontier: the predecessors found that were not reached, ascending. -/
def freshFrom (s : Store) (reached frontier : List Int) : List Int :=
  ofList ((s.predecessorsOf frontier).filter (!reached.contains ·))

/-- The predecessor ids of the lineage that are not reached yet. -/
def unreached (s : Store) (reached : List Int) : Nat :=
  ((s.lineage.map Prod.fst).toFinset.filter (· ∉ reached)).card

/-- One round of the walk, in the words above. -/
theorem closeOver_succ (fuel : Nat) (reached frontier : List Int) :
    s.closeOver (fuel + 1) reached frontier =
      if (s.freshFrom reached frontier).isEmpty then reached
      else s.closeOver fuel (union reached (s.freshFrom reached frontier))
        (s.freshFrom reached frontier) := rfl

theorem mem_predecessorsOf {b : Int} :
    b ∈ s.predecessorsOf frontier ↔ ∃ a ∈ frontier, s.StepBack a b := by
  simp only [predecessorsOf, List.mem_filterMap, Option.ite_none_right_eq_some,
    Option.some.injEq, List.contains_iff_mem, StepBack]
  constructor
  · rintro ⟨⟨b', a⟩, he, ha, rfl⟩
    exact ⟨a, ha, he⟩
  · rintro ⟨a, ha, he⟩
    exact ⟨(b, a), he, ha, rfl⟩

theorem mem_freshFrom {b : Int} :
    b ∈ s.freshFrom reached frontier ↔ (∃ a ∈ frontier, s.StepBack a b) ∧ b ∉ reached := by
  simp [freshFrom, mem_predecessorsOf]

/-- There are no more unreached predecessor ids than edges. -/
theorem unreached_le_length (reached : List Int) : s.unreached reached ≤ s.lineage.length :=
  calc s.unreached reached ≤ (s.lineage.map Prod.fst).toFinset.card := Finset.card_filter_le _ _
    _ ≤ (s.lineage.map Prod.fst).length := List.toFinset_card_le _
    _ = s.lineage.length := List.length_map _

/-- A round that finds a new id reaches a predecessor id that was not reached before. -/
theorem unreached_union_freshFrom_lt (hne : s.freshFrom reached frontier ≠ []) :
    s.unreached (union reached (s.freshFrom reached frontier)) < s.unreached reached := by
  obtain ⟨b, hb⟩ := List.exists_mem_of_ne_nil _ hne
  obtain ⟨⟨a, -, hab⟩, hnb⟩ := mem_freshFrom.1 hb
  apply Finset.card_lt_card
  rw [Finset.ssubset_iff_of_subset]
  · -- `b` was unreached and is reached now
    refine ⟨b, ?_, ?_⟩
    · simp only [Finset.mem_filter, List.mem_toFinset, List.mem_map]
      exact ⟨⟨(b, a), hab, rfl⟩, hnb⟩
    · simp [hb]
  · intro z hz
    simp only [Finset.mem_filter, List.mem_toFinset, mem_union, not_or] at hz ⊢
    exact ⟨hz.1, hz.2.1⟩

-- ---------------------------------------------------------------------------
-- The invariant of the walk
-- ---------------------------------------------------------------------------

/-- The walk from `seeds` has reached `reached`, with `frontier` found in its last round: the
reached ids are ascending, hold the seeds and the frontier and lie in the closure, and every
predecessor of a reached id off the frontier is reached. -/
structure Walk (s : Store) (seeds reached frontier : List Int) : Prop where
  sorted : Sorted reached
  seeded : ∀ x ∈ seeds, x ∈ reached
  covers : ∀ a ∈ frontier, a ∈ reached
  sound : ∀ y ∈ reached, s.Ancestry seeds y
  closed : ∀ a ∈ reached, a ∉ frontier → ∀ b, s.StepBack a b → b ∈ reached

/-- The walk starts with the seeds reached, all of them on the frontier. -/
theorem Walk.start (s : Store) (seeds : List Int) : s.Walk seeds (ofList seeds) (ofList seeds) where
  sorted := sorted_ofList seeds
  seeded _ hx := mem_ofList.2 hx
  covers _ ha := ha
  sound y hy := ⟨y, mem_ofList.1 hy, .refl⟩
  closed _ ha hnot := absurd ha hnot

/-- **A round of the walk** keeps the invariant: the fresh ids step back from the frontier, and
the predecessors of the old frontier are reached now, as old or as fresh ids. -/
theorem Walk.step (hw : s.Walk seeds reached frontier) :
    s.Walk seeds (union reached (s.freshFrom reached frontier)) (s.freshFrom reached frontier) where
  sorted := hw.sorted.union _
  seeded x hx := mem_union.2 (.inl (hw.seeded x hx))
  covers _ ha := mem_union.2 (.inr ha)
  sound y hy := by
    rcases mem_union.1 hy with hy | hy
    · exact hw.sound y hy
    · obtain ⟨⟨a, ha, hab⟩, -⟩ := mem_freshFrom.1 hy
      obtain ⟨x, hx, hxa⟩ := hw.sound a (hw.covers a ha)
      exact ⟨x, hx, hxa.tail hab⟩
  closed a ha hnot b hab := by
    rcases mem_union.1 ha with ha | ha
    · by_cases hf : a ∈ frontier
      · by_cases hb : b ∈ reached
        · exact mem_union.2 (.inl hb)
        · exact mem_union.2 (.inr (mem_freshFrom.2 ⟨⟨a, hf, hab⟩, hb⟩))
      · exact mem_union.2 (.inl (hw.closed a ha hf b hab))
    · exact absurd ha hnot

/-- A round that finds nothing new leaves the whole closure reached. -/
theorem Walk.complete (hw : s.Walk seeds reached frontier)
    (hnone : s.freshFrom reached frontier = []) {y : Int} (hy : s.Ancestry seeds y) :
    y ∈ reached := by
  obtain ⟨x, hx, hxy⟩ := hy
  -- along the path from the seed, each predecessor of a reached id is reached
  induction hxy with
  | refl => exact hw.seeded x hx
  | @tail a b _ hab ih =>
    by_cases hf : a ∈ frontier
    · by_contra hb
      have hfresh : b ∈ s.freshFrom reached frontier := mem_freshFrom.2 ⟨⟨a, hf, hab⟩, hb⟩
      rw [hnone] at hfresh
      exact List.not_mem_nil hfresh
    · exact hw.closed a ih hf b hab

/-- **The walk returns the closure** when it has more rounds than there are unreached
predecessor ids. -/
theorem Walk.closeOver {fuel : Nat} (hw : s.Walk seeds reached frontier)
    (hfuel : s.unreached reached < fuel) :
    Sorted (s.closeOver fuel reached frontier) ∧
      ∀ y, y ∈ s.closeOver fuel reached frontier ↔ s.Ancestry seeds y := by
  -- on the rounds left; each round that goes on reaches an unreached predecessor id
  induction fuel generalizing reached frontier with
  | zero => exact absurd hfuel (Nat.not_lt_zero _)
  | succ fuel ih =>
    rw [closeOver_succ]
    split
    · rename_i hnone
      exact ⟨hw.sorted, fun y => ⟨hw.sound y, hw.complete (List.isEmpty_iff.1 hnone)⟩⟩
    · rename_i hsome
      have hlt := unreached_union_freshFrom_lt fun h => hsome (List.isEmpty_iff.2 h)
      exact ih hw.step (by omega)

/-- **The predecessor closure.** On every lineage graph, cycles and self-loops included,
`populate` returns, ascending, the ids reached from a seed by stepping back along the lineage
zero or more times. The walk stops by itself: with any number of rounds above the number of
edges it gives the same answer. -/
theorem populate_closure (s : Store) (seeds : List Int) :
    Sorted (s.populate seeds) ∧ (∀ y, y ∈ s.populate seeds ↔ s.Ancestry seeds y) ∧
      ∀ fuel, s.lineage.length < fuel →
        s.closeOver fuel (ofList seeds) (ofList seeds) = s.populate seeds := by
  have hrun : ∀ fuel, s.lineage.length < fuel →
      Sorted (s.closeOver fuel (ofList seeds) (ofList seeds)) ∧
        ∀ y, y ∈ s.closeOver fuel (ofList seeds) (ofList seeds) ↔ s.Ancestry seeds y :=
    fun _ hfuel => (Walk.start s seeds).closeOver ((unreached_le_length _).trans_lt hfuel)
  obtain ⟨hsorted, hmem⟩ := hrun (s.lineage.length + 1) (Nat.lt_succ_self _)
  refine ⟨hsorted, hmem, fun fuel hfuel => ?_⟩
  obtain ⟨hsorted', hmem'⟩ := hrun fuel hfuel
  exact hsorted'.eq_of_mem_iff hsorted fun y => (hmem' y).trans (hmem y).symm

/-- Record 1 was derived from 2 and 2 from 1, record 3 from itself and record 2 from 4: the
closure of 1 goes round the cycle to 2 and on to 4, and stops. -/
theorem populate_walks_round_a_cycle :
    let s : Store := { lineage := [(2, 1), (1, 2), (3, 3), (4, 2)] }
    s.populate [1] = [1, 2, 4] ∧ s.lineage.length < 9 ∧
      s.closeOver 9 (ofList [1]) (ofList [1]) = [1, 2, 4] := by
  intro s
  have hpop : s.populate [1] = [1, 2, 4] := by decide
  refine ⟨hpop, by decide, ?_⟩
  rw [(populate_closure s [1]).2.2 9 (by decide), hpop]

end Catalog.Store
