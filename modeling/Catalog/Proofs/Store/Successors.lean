import Catalog.Store.Lineage
import Catalog.Proofs.SortedList

/-!
# Successors filled in one read

Filling the successors of a slice of records in one read of the lineage builds a table from the
edges that leave the records' ids, and then hands each record that has an id the set of its id,
taking the set out of the table as it goes. The table holds for each of these ids exactly the
successors the record-by-record lookup gives (`successorTable_of_mem`). Taking the set out means
that only the first record of an id gets it: a later record with the same id finds the set gone
and gets no successors. A record without an id stays as it is.

So the batched lookup agrees with the record-by-record one on every slice whose ids do not
repeat, and differs from it on every record that repeats the id of an earlier record with
successors.

## Main results

* `successorTable_of_mem`: the table holds the successors of each id it was read for
* `handOutSuccessors_eq`: what handing out the table gives each record
* `injectSuccessorIds_eq`: the first record of an id gets its successors, a later one none
* `injectSuccessorIds_of_nodup`, `injectSuccessorIds_repeated`: slices without and with a
  repeated id
-/

namespace Catalog.Store

open Catalog.SortedList

variable (s : Store)

-- ---------------------------------------------------------------------------
-- The table of one read
-- ---------------------------------------------------------------------------

/-- Folding edges into a table adds the successor of each edge to the set of its predecessor,
and keeps every set ascending. -/
theorem foldl_addSuccessor_spec (rows : List (Int × Int)) (table : Int → List Int)
    (hsorted : ∀ p, Sorted (table p)) (p : Int) :
    Sorted ((rows.foldl addSuccessor table) p) ∧
      ∀ q, q ∈ (rows.foldl addSuccessor table) p ↔ q ∈ table p ∨ (p, q) ∈ rows := by
  induction rows generalizing table with
  | nil => simpa using hsorted p
  | cons e rows ih =>
    have hsorted' : ∀ p', Sorted (addSuccessor table e p') := by
      intro p'
      unfold addSuccessor
      split
      · exact (hsorted p').insert
      · exact hsorted p'
    obtain ⟨hs, hmem⟩ := ih _ hsorted'
    refine ⟨hs, fun q => ?_⟩
    rw [List.foldl_cons, hmem q, addSuccessor]
    by_cases hp : p = e.1
    · subst hp
      simp only [if_true, mem_insert, List.mem_cons, Prod.ext_iff]
      tauto
    · simp only [hp, if_false, List.mem_cons, Prod.ext_iff, false_and, false_or]

/-- For each id it was read for, the table holds the successors the record-by-record lookup
gives. -/
theorem successorTable_of_mem {ids : List Int} {p : Int} (hp : p ∈ ids) :
    s.successorTable ids p = s.successorIds p := by
  obtain ⟨hsorted, hmem⟩ := foldl_addSuccessor_spec (s.lineage.filter fun e => ids.contains e.1)
    (fun _ => []) (fun _ => sorted_nil) p
  refine hsorted.eq_of_mem_iff (sorted_ofList _) fun q => ?_
  rw [hmem q, successorIds, mem_ofList]
  simp [seconds, List.mem_filter, hp]

-- ---------------------------------------------------------------------------
-- Handing out the table
-- ---------------------------------------------------------------------------

theorem handOutSuccessors_of_no_ids (table : Int → List Int) {rs : List Record}
    (h : ∀ r ∈ rs, r.id = none) : handOutSuccessors table rs = rs := by
  induction rs with
  | nil => rfl
  | cons r rs ih =>
    rw [handOutSuccessors, h r (by simp), ih fun r' hr' => h r' (List.mem_cons_of_mem r hr')]

/-- Handing out a table that holds no set for the ids `seen` and the successors of every other
id: a record gets no successors when its id is seen or an earlier record carries it, and its
successors otherwise. -/
theorem handOutSuccessors_eq (seen : List Int) (table : Int → List Int) (rs : List Record)
    (htable : ∀ r ∈ rs, ∀ id, r.id = some id →
      table id = if id ∈ seen then [] else s.successorIds id) :
    handOutSuccessors table rs = rs.mapIdx fun i r =>
      match r.id with
      | none => r
      | some id => if id ∈ seen ++ (rs.take i).filterMap (·.id) then { r with successors := [] }
        else s.withSuccessors r := by
  induction rs generalizing seen table with
  | nil => rfl
  | cons r rs ih =>
    rw [List.mapIdx_cons]
    cases hr : r.id with
    | none =>
      -- a record without an id passes, and the ids the others see are as before
      rw [handOutSuccessors]
      simp only [hr]
      rw [ih seen table fun r' hr' => htable r' (List.mem_cons_of_mem r hr')]
      congr 2
      funext i r'
      simp [List.take_succ_cons, hr]
    | some id =>
      -- the record takes the set of its id, and the rest see the id as taken
      have hnext : ∀ r' ∈ rs, ∀ id', r'.id = some id' →
          (if id' = id then [] else table id') =
            if id' ∈ id :: seen then [] else s.successorIds id' := by
        intro r' hr' id' hid'
        rw [htable r' (List.mem_cons_of_mem r hr') id' hid']
        by_cases h : id' = id <;> simp [h]
      rw [handOutSuccessors]
      simp only [hr]
      rw [ih (id :: seen) _ hnext, htable r (by simp) id hr]
      congr 1
      · by_cases h : id ∈ seen <;> simp [h, withSuccessors, hr]
      · congr 1
        funext i r'
        cases r'.id with
        | none => rfl
        | some id' =>
          simp only [List.take_succ_cons, List.filterMap_cons, hr, List.mem_append,
            List.mem_cons]
          by_cases h₁ : id' = id <;> by_cases h₂ : id' ∈ seen <;> simp [h₁, h₂]

-- ---------------------------------------------------------------------------
-- The batched lookup
-- ---------------------------------------------------------------------------

/-- **Batched successors.** Filling the successors of a slice in one read gives each record with
an id that no earlier record of the slice carries the successors the record-by-record lookup
gives, each record that repeats the id of an earlier one no successors, and leaves each record
without an id as it is. -/
theorem injectSuccessorIds_eq (rs : List Record) :
    s.injectSuccessorIds rs = rs.mapIdx fun i r =>
      match r.id with
      | none => r
      | some id => if id ∈ (rs.take i).filterMap (·.id) then { r with successors := [] }
        else s.withSuccessors r := by
  have hids : ∀ r ∈ rs, ∀ id, r.id = some id → id ∈ SortedList.ofList (rs.filterMap (·.id)) :=
    fun r hr id hid => mem_ofList.2 (List.mem_filterMap.2 ⟨r, hr, hid⟩)
  -- with no ids the slice is left as it is, as handing out would leave it
  have hhand : s.injectSuccessorIds rs =
      handOutSuccessors (s.successorTable (SortedList.ofList (rs.filterMap (·.id)))) rs := by
    rw [injectSuccessorIds]
    split
    · rename_i hempty
      refine (handOutSuccessors_of_no_ids _ fun r hr => ?_).symm
      cases hid : r.id with
      | none => rfl
      | some id =>
        have := hids r hr id hid
        simp [List.isEmpty_iff.1 hempty] at this
    · rfl
  rw [hhand, handOutSuccessors_eq s [] _ rs fun r hr id hid => by
    rw [successorTable_of_mem s (hids r hr id hid)]
    simp]
  simp

/-- A slice whose ids do not repeat gets the successors record by record. -/
theorem injectSuccessorIds_of_nodup {rs : List Record} (h : (rs.filterMap (·.id)).Nodup) :
    s.injectSuccessorIds rs = rs.map s.withSuccessors := by
  rw [injectSuccessorIds_eq]
  refine List.ext_getElem (by simp) fun i h₁ _ => ?_
  have hi : i < rs.length := by simpa using h₁
  rw [List.getElem_mapIdx, List.getElem_map]
  cases hid : rs[i].id with
  | none => simp [withSuccessors, hid]
  | some id =>
    -- the id of the `i`-th record is carried after the records before it, so not among them
    have hsplit : rs = rs.take i ++ rs[i] :: rs.drop (i + 1) := by
      rw [← List.drop_eq_getElem_cons hi, List.take_append_drop]
    rw [hsplit] at h
    simp only [List.filterMap_append, List.filterMap_cons, hid] at h
    have hnot : id ∉ (rs.take i).filterMap (·.id) := fun hmem =>
      (List.nodup_append.1 h).2.2 id hmem id (by simp) rfl
    simp [hnot]

/-- A record that repeats the id of the record before it gets no successors, whatever the
successors of that id. -/
theorem injectSuccessorIds_repeated {r : Record} {id : Int} (hr : r.id = some id) :
    s.injectSuccessorIds [r, r] = [s.withSuccessors r, { r with successors := [] }] := by
  rw [injectSuccessorIds_eq]
  simp [hr]

end Catalog.Store
