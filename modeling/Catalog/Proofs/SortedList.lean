import Catalog.Data.SortedList
import Mathlib.Data.Finset.Card
import Mathlib.Data.List.Sort

/-!
# Sorted lists as finite sets — membership and order

The sets of the library are strictly ascending lists (`Catalog.SortedList`). This module
says what each operation holds and that it keeps the order:

* membership needs only that `compare` is `.eq` exactly on equal elements
  (`Std.LawfulEqOrd`): `insert`, `ofList`, `union`, `erase` and `contains` hold what their
  names say, whatever order the lists they are given are in;
* order needs a transitive comparison (`Std.TransOrd`): every list that `ofList` builds is
  strictly ascending, and `union` and `erase` keep a strictly ascending list so;
* a strictly ascending list has no repeats, so its length is the number of its elements, and
  two strictly ascending lists with the same elements are equal.

## Main results

* `mem_insert`, `mem_ofList`, `mem_union`, `mem_foldl_union`, `mem_erase`, `contains_iff_mem`
* `Sorted.insert`, `sorted_ofList`, `Sorted.union`, `Sorted.foldl_union`, `Sorted.erase`
* `Sorted.length_eq_card`, `Sorted.eq_of_mem_iff`, `ofList_eq_of_mem_iff`
-/

namespace Catalog.SortedList

variable {α : Type} [Ord α]

/-- A list is sorted when it is strictly ascending. -/
def Sorted (xs : List α) : Prop :=
  xs.Pairwise fun a b => compare a b = .lt

theorem sorted_nil : Sorted ([] : List α) := List.Pairwise.nil

theorem Sorted.erase {xs : List α} (x : α) (h : Sorted xs) : Sorted (erase x xs) :=
  List.Pairwise.filter _ h

/-- A strictly ascending list repeats no element. -/
theorem Sorted.nodup [Std.ReflOrd α] {xs : List α} (h : Sorted xs) : xs.Nodup :=
  h.imp fun hab => Std.ReflCmp.ne_of_cmp_ne_eq (show compare _ _ ≠ .eq by rw [hab]; decide)

/-- The length of a strictly ascending list is the number of its elements. -/
theorem Sorted.length_eq_card [Std.ReflOrd α] [DecidableEq α] {xs : List α} (h : Sorted xs) :
    xs.length = xs.toFinset.card :=
  (List.toFinset_card_of_nodup h.nodup).symm

/-- Folding `insert` over a list, as `ofList` and `union` do. -/
theorem ofList_eq_foldl (xs : List α) :
    ofList xs = xs.foldl (fun acc x => insert x acc) [] := rfl

theorem union_eq_foldl (xs ys : List α) :
    union xs ys = ys.foldl (fun acc y => insert y acc) xs := rfl

-- ---------------------------------------------------------------------------
-- Membership
-- ---------------------------------------------------------------------------

section Membership

variable [Std.LawfulEqOrd α]

@[simp] theorem mem_insert {a x : α} {xs : List α} : a ∈ insert x xs ↔ a = x ∨ a ∈ xs := by
  induction xs with
  | nil => simp [insert]
  | cons y ys ih =>
    unfold insert
    split
    · simp
    · -- an element equal to the head is already there
      rename_i hxy
      obtain rfl := Std.LawfulEqOrd.eq_of_compare hxy
      simp
    · simp only [List.mem_cons, ih]
      tauto

theorem mem_foldl_insert {a : α} (ys : List α) {xs : List α} :
    a ∈ ys.foldl (fun acc y => insert y acc) xs ↔ a ∈ xs ∨ a ∈ ys := by
  induction ys generalizing xs with
  | nil => simp
  | cons y ys ih =>
    simp only [List.foldl_cons, ih, mem_insert, List.mem_cons]
    tauto

@[simp] theorem mem_ofList {a : α} {xs : List α} : a ∈ ofList xs ↔ a ∈ xs := by
  simp [ofList_eq_foldl, mem_foldl_insert]

@[simp] theorem mem_union {a : α} {xs ys : List α} : a ∈ union xs ys ↔ a ∈ xs ∨ a ∈ ys := by
  rw [union_eq_foldl, mem_foldl_insert]

/-- Joining the sets a function gives for each element of a list. -/
theorem mem_foldl_union {β : Type} {a : α} (f : β → List α) (ks : List β) {acc : List α} :
    a ∈ ks.foldl (fun acc k => union acc (f k)) acc ↔ a ∈ acc ∨ ∃ k ∈ ks, a ∈ f k := by
  induction ks generalizing acc with
  | nil => simp
  | cons k ks ih =>
    simp only [List.foldl_cons, ih, mem_union, List.mem_cons, exists_eq_or_imp]
    tauto

@[simp] theorem mem_erase {a x : α} {xs : List α} : a ∈ erase x xs ↔ a ∈ xs ∧ a ≠ x := by
  simp only [erase, List.mem_filter, bne_iff_ne, ne_eq, Std.LawfulEqCmp.compare_eq_iff_eq]
  exact and_congr_right fun _ => ⟨fun h e => h e.symm, fun h e => h e.symm⟩

@[simp] theorem contains_iff_mem {x : α} {xs : List α} : contains x xs = true ↔ x ∈ xs := by
  simp [contains, Std.LawfulEqCmp.compare_eq_iff_eq]

end Membership

-- ---------------------------------------------------------------------------
-- Order
-- ---------------------------------------------------------------------------

section Order

variable [Std.TransOrd α] [Std.LawfulEqOrd α]

theorem Sorted.insert {x : α} {xs : List α} (h : Sorted xs) : Sorted (insert x xs) := by
  induction xs with
  | nil => exact List.pairwise_singleton _ x
  | cons y ys ih =>
    obtain ⟨hy, hys⟩ := List.pairwise_cons.mp h
    unfold SortedList.insert
    split
    · -- `x` goes in front: it is below `y` and so below all of `ys`
      rename_i hxy
      refine List.Pairwise.cons ?_ h
      intro z hz
      rcases List.mem_cons.mp hz with rfl | hz
      · exact hxy
      · exact Std.TransCmp.lt_trans hxy (hy z hz)
    · exact h
    · -- `x` goes into the tail, which stays above `y`
      rename_i hxy
      refine List.Pairwise.cons ?_ (ih hys)
      intro z hz
      rcases mem_insert.mp hz with rfl | hz
      · exact Std.OrientedCmp.lt_of_gt hxy
      · exact hy z hz

theorem Sorted.foldl_insert {xs : List α} (ys : List α) (h : Sorted xs) :
    Sorted (ys.foldl (fun acc y => SortedList.insert y acc) xs) := by
  induction ys generalizing xs with
  | nil => exact h
  | cons y ys ih => exact ih h.insert

theorem sorted_ofList (xs : List α) : Sorted (ofList xs) :=
  Sorted.foldl_insert xs sorted_nil

theorem Sorted.union {xs : List α} (ys : List α) (h : Sorted xs) : Sorted (union xs ys) :=
  Sorted.foldl_insert ys h

theorem Sorted.foldl_union {β : Type} {acc : List α} (f : β → List α) (ks : List β)
    (h : Sorted acc) : Sorted (ks.foldl (fun acc k => SortedList.union acc (f k)) acc) := by
  induction ks generalizing acc with
  | nil => exact h
  | cons k ks ih => exact ih (h.union (f k))

/-- Two strictly ascending lists with the same elements are the same list. -/
theorem Sorted.eq_of_mem_iff {xs ys : List α} (hx : Sorted xs) (hy : Sorted ys)
    (h : ∀ a, a ∈ xs ↔ a ∈ ys) : xs = ys :=
  -- the strict order is irreflexive, and so antisymmetric for want of any two related ways
  haveI : Std.Irrefl fun a b : α => compare a b = .lt :=
    ⟨fun a ha => by
      have hself : compare a a = .eq := Std.ReflCmp.compare_self
      rw [hself] at ha
      cases ha⟩
  haveI : Std.Antisymm fun a b : α => compare a b = .lt :=
    ⟨fun a b hab hba => by
      have hgt : compare b a = .gt := Std.OrientedCmp.gt_of_lt hab
      rw [hgt] at hba
      cases hba⟩
  List.Pairwise.eq_of_mem_iff hx hy h

/-- The sorted list of a list's elements depends on its elements alone. -/
theorem ofList_eq_of_mem_iff {xs ys : List α} (h : ∀ a, a ∈ xs ↔ a ∈ ys) :
    ofList xs = ofList ys :=
  (sorted_ofList xs).eq_of_mem_iff (sorted_ofList ys) fun a => by rw [mem_ofList, mem_ofList, h]

end Order

end Catalog.SortedList
