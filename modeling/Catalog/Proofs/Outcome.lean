import Catalog.Error

/-!
# Fallible traversals of lists

Much of the library walks a list with a step that may fail: reading a page of rows, building
the rules of a match engine, asking each rule for its matches. Two facts about such walks are
used throughout: every element a successful map returns comes from an element of the list,
and a fold whose steps all succeed is the plain fold of their results.

## Main results

* `mem_of_mapM_ok`: what a successful map returns
* `foldlM_eq_ok_foldl`: a fold whose steps all succeed
-/

namespace Catalog

variable {α β γ ε : Type}

/-- Every element a fallible map returns comes from an element of the list. -/
theorem mem_of_mapM_ok {g : α → Except ε β} {xs : List α} {ys : List β}
    (h : xs.mapM g = .ok ys) {y : β} (hy : y ∈ ys) : ∃ x ∈ xs, g x = .ok y := by
  induction xs generalizing ys with
  | nil =>
    cases h
    exact absurd hy List.not_mem_nil
  | cons a as ih =>
    rw [List.mapM_cons] at h
    rcases hga : g a with e | b
    · rw [hga] at h
      exact nomatch h
    rcases hrest : as.mapM g with e | bs
    · rw [hga, hrest] at h
      exact nomatch h
    rw [hga, hrest] at h
    cases h
    rcases List.mem_cons.1 hy with rfl | hy
    · exact ⟨a, List.mem_cons_self .., hga⟩
    · obtain ⟨x, hx, hgx⟩ := ih hrest hy
      exact ⟨x, List.mem_cons_of_mem a hx, hgx⟩

/-- A fold that asks each element for a value, and combines it into the accumulator,
succeeds with the plain fold of the answers when every element answers. -/
theorem foldlM_eq_ok_foldl {g : α → Except ε γ} {g' : α → γ} {h : β → γ → β} {xs : List α}
    (hg : ∀ x ∈ xs, g x = .ok (g' x)) (init : β) :
    xs.foldlM (fun acc x => do let y ← g x; pure (h acc y)) init =
      .ok ((xs.map g').foldl h init) := by
  induction xs generalizing init with
  | nil => rfl
  | cons x xs ih =>
    rw [List.foldlM_cons, hg x List.mem_cons_self]
    exact ih (fun x' hx' => hg x' (List.mem_cons_of_mem x hx')) (h init (g' x))

end Catalog
