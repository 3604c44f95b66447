import Mathlib
import Catalog.Service.Version
import Catalog.Proofs.Text.Blanks

/-!
# Versions and update plans

A version stands for the triple of its numbers, and versions compare as these triples do in the
lexicographic order (`Version.key`). The written form of a version reads back as the same
version exactly when each of its numbers fits in 32 bits, which is every version the services
can hold.

Planning an update filters the scripts to a half-open range of versions and sorts them with a
stable merge sort, so scripts of one version keep the order they are given in. Hence the plan
from `a` to `c` is the plan from `a` to `b` followed by the plan from `b` to `c`: upgrading in
two steps runs the same scripts in the same order as upgrading in one.

## Main results

* `Version.compare_eq`: versions compare as their triples of numbers
* `Version.parse_display_iff`: the written form of a version reads back when its numbers fit
* `mergeSort_cons_eq_orderedInsert`: merge sort puts a first element in front of the first
  sorted element it may precede
* `plan_append`: plans compose
-/

namespace Catalog.Service

namespace Version

-- ---------------------------------------------------------------------------
-- The order of versions
-- ---------------------------------------------------------------------------

/-- The numbers of a version, ordered lexicographically. -/
def key (v : Version) : ℕ ×ₗ ℕ ×ₗ ℕ :=
  toLex (v.major, toLex (v.minor, v.patch))

theorem key_injective : Function.Injective key := by
  rintro ⟨a₁, a₂, a₃⟩ ⟨b₁, b₂, b₃⟩ h
  simp only [key, toLex_inj, Prod.mk.injEq] at h
  obtain ⟨rfl, rfl, rfl⟩ := h
  rfl

/-- Versions compare by major number, then minor number, then patch number: as their triples of
numbers do in the lexicographic order. -/
theorem compare_eq (a b : Version) : compare a b = compareOfLessAndEq a.key b.key :=
  LinearOrder.compare_eq_compareOfLessAndEq a.key b.key

theorem compare_ne_gt_iff_key_le {a b : Version} : compare a b ≠ .gt ↔ a.key ≤ b.key :=
  compare_le_iff_le (a := a.key) (b := b.key)

theorem compare_eq_gt_iff_key_lt {a b : Version} : compare a b = .gt ↔ b.key < a.key :=
  compare_gt_iff_gt (a := a.key) (b := b.key)

-- ---------------------------------------------------------------------------
-- Reading a written version
-- ---------------------------------------------------------------------------

theorem display_toList (v : Version) :
    v.display.toList = ['.'].intercalate
      [Nat.toDigits 10 v.major, Nat.toDigits 10 v.minor, Nat.toDigits 10 v.patch] := by
  simp [display, List.intercalate]

/-- The digits of a number read back as the number when it fits in 32 bits. -/
theorem parsePart_toDigits (n : Nat) :
    parsePart (Nat.toDigits 10 n) = if n < 2 ^ 32 then some n else none := by
  have hdigit : ∀ d ∈ Nat.toDigits 10 n, d.isDigit = true := fun d hd =>
    Nat.isDigit_of_mem_toDigits (by decide) (by decide) hd
  -- the fold of `parsePart` is the library's reading of decimal digits
  have hfold : (Nat.toDigits 10 n).foldl (fun acc c => acc * 10 + (c.toNat - '0'.toNat)) 0 = n := by
    have hstep : (fun acc (c : Char) => acc * 10 + (c.toNat - '0'.toNat)) =
        fun acc c => 10 * acc + (c.toNat - '0'.toNat) := by
      funext acc c
      rw [Nat.mul_comm]
    rw [hstep, ← Nat.ofDigitChars_eq_foldl, Nat.ofDigitChars_ten_toDigits]
  rw [parsePart]
  · simp only [hfold, Nat.pow_eq]
    simp [Nat.toDigits_ne_nil, List.all_eq_true.2 hdigit]
  · -- the digits of a number do not start with a sign
    intro rest h
    exact absurd (hdigit '+' (by simp [h])) (by decide)

theorem mem_display_toList {v : Version} {c : Char} (h : c ∈ v.display.toList) :
    c = '.' ∨ c.isDigit = true := by
  rw [display_toList] at h
  simp only [List.intercalate, List.intersperse, List.flatten_cons, List.flatten_nil,
    List.append_nil, List.mem_append, List.mem_singleton] at h
  rcases h with h | rfl | h | rfl | h
  all_goals first
    | exact .inl rfl
    | exact .inr (Nat.isDigit_of_mem_toDigits (by decide) (by decide) h)

/-- The written form of a version reads back as the version exactly when each of its numbers
fits in 32 bits. -/
theorem parse_display_iff (v : Version) :
    parse v.display = .ok v ↔ v.major < 2 ^ 32 ∧ v.minor < 2 ^ 32 ∧ v.patch < 2 ^ 32 := by
  have htrim : Text.trim v.display.toList = v.display.toList := Text.trim_eq_self fun c hc => by
    rcases mem_display_toList hc with rfl | hd
    · rfl
    · exact Text.isBlank_of_isDigit hd
  -- the dots split the written form into the digits of the three numbers
  have hparts : dotParts v.display.toList =
      [Nat.toDigits 10 v.major, Nat.toDigits 10 v.minor, Nat.toDigits 10 v.patch] := by
    rw [dotParts, display_toList]
    refine List.splitOn_intercalate '.' (fun l hl hdot => ?_) (by simp)
    simp only [List.mem_cons, List.not_mem_nil, or_false] at hl
    have : ('.' : Char).isDigit = true := by
      rcases hl with rfl | rfl | rfl <;>
        exact Nat.isDigit_of_mem_toDigits (by decide) (by decide) hdot
    exact absurd this (by decide)
  rw [parse, htrim, hparts]
  simp only [List.mapM_cons, List.mapM_nil, parsePart_toDigits]
  -- the bound as the literal `simp` writes it, so that the cases rewrite the parse
  rw [show (2 : ℕ) ^ 32 = 4294967296 from rfl]
  by_cases h₁ : v.major < 4294967296 <;> by_cases h₂ : v.minor < 4294967296 <;>
    by_cases h₃ : v.patch < 4294967296 <;> simp [h₁, h₂, h₃]

end Version

-- ---------------------------------------------------------------------------
-- Stable sorting
-- ---------------------------------------------------------------------------

section Stable

variable {β : Type} (r : β → β → Prop) [DecidableRel r]

/-- An element that may precede everything in `m` is inserted before `m`. -/
theorem orderedInsert_append_of_forall {x : β} (l : List β) {m : List β}
    (h : ∀ y ∈ m, r x y) : (l ++ m).orderedInsert r x = l.orderedInsert r x ++ m := by
  induction l with
  | nil =>
    cases m with
    | nil => rfl
    | cons y m => simp [h y (by simp)]
  | cons y l ih =>
    simp only [List.cons_append, List.orderedInsert_cons]
    split <;> simp [ih]

/-- An element that may precede nothing in `l` is inserted after `l`. -/
theorem orderedInsert_append_of_forall_not {x : β} {l : List β} (m : List β)
    (h : ∀ y ∈ l, ¬r x y) : (l ++ m).orderedInsert r x = l ++ m.orderedInsert r x := by
  induction l with
  | nil => rfl
  | cons y l ih =>
    rw [List.cons_append, List.orderedInsert_cons, if_neg (h y (by simp)),
      ih fun z hz => h z (List.mem_cons_of_mem y hz)]
    rfl

end Stable

/-- Merge sort is stable: sorting a list with a new first element puts that element in front of
the first element of the sorted rest that it may precede. -/
theorem mergeSort_cons_eq_orderedInsert {β : Type} {le : β → β → Bool}
    (trans : ∀ a b c, le a b → le b c → le a c) (total : ∀ a b, (le a b || le b a) = true)
    (x : β) (l : List β) :
    (x :: l).mergeSort le = (l.mergeSort le).orderedInsert (fun a b => le a b = true) x := by
  obtain ⟨l₁, l₂, h₁, h₂, hbefore⟩ := List.mergeSort_cons trans total x l
  have hsorted := List.pairwise_mergeSort trans total (x :: l)
  rw [h₁] at hsorted
  have hafter : ∀ y ∈ l₂, le x y = true :=
    (List.pairwise_cons.1 (List.pairwise_append.1 hsorted).2.1).1
  rw [h₁, h₂, orderedInsert_append_of_forall_not _ _ fun y hy => by simpa using hbefore y hy,
    ← List.nil_append l₂, orderedInsert_append_of_forall _ [] hafter]
  rfl

-- ---------------------------------------------------------------------------
-- Plans
-- ---------------------------------------------------------------------------

variable {α : Type}

/-- The order in which a plan runs scripts: by version, and among scripts of one version in the
order they are given. -/
theorem scriptOrder_iff (s t : Version × α) :
    (compare s.1 t.1 != .gt) = true ↔ s.1.key ≤ t.1.key := by
  simp [Version.compare_ne_gt_iff_key_le]

theorem plan_filter_iff (s : Version × α) (a b : Version) :
    (compare s.1 a == .gt && compare s.1 b != .gt) = true ↔ a.key < s.1.key ∧ s.1.key ≤ b.key := by
  simp [Version.compare_eq_gt_iff_key_lt]

theorem mem_plan {scripts : List (Version × α)} {a b : Version} {s : Version × α} :
    s ∈ plan scripts a b ↔ s ∈ scripts ∧ a.key < s.1.key ∧ s.1.key ≤ b.key := by
  rw [plan, List.mem_mergeSort, List.mem_filter, plan_filter_iff]

/-- A script in the range of a plan is inserted into the plan of the others in version order;
one outside it changes nothing. -/
theorem plan_cons (s : Version × α) (rest : List (Version × α)) (a b : Version) :
    plan (s :: rest) a b = if a.key < s.1.key ∧ s.1.key ≤ b.key then
      (plan rest a b).orderedInsert (fun x y => (compare x.1 y.1 != .gt) = true) s
    else plan rest a b := by
  have trans : ∀ x y z : Version × α, (compare x.1 y.1 != .gt) = true →
      (compare y.1 z.1 != .gt) = true → (compare x.1 z.1 != .gt) = true := by
    intro x y z hxy hyz
    rw [scriptOrder_iff] at hxy hyz ⊢
    exact hxy.trans hyz
  have total : ∀ x y : Version × α,
      ((compare x.1 y.1 != .gt) || (compare y.1 x.1 != .gt)) = true := by
    intro x y
    rw [Bool.or_eq_true, scriptOrder_iff, scriptOrder_iff]
    exact le_total _ _
  unfold plan
  rw [List.filter_cons]
  by_cases hs : a.key < s.1.key ∧ s.1.key ≤ b.key
  · rw [if_pos ((plan_filter_iff s a b).2 hs), if_pos hs]
    exact mergeSort_cons_eq_orderedInsert trans total s _
  · rw [if_neg (mt (plan_filter_iff s a b).1 hs), if_neg hs]

/-- **Plans compose.** Updating from `a` to `b` and then from `b` to `c` runs the same scripts
in the same order as updating from `a` to `c`. -/
theorem plan_append (scripts : List (Version × α)) {a b c : Version} (hab : a.key ≤ b.key)
    (hbc : b.key ≤ c.key) : plan scripts a b ++ plan scripts b c = plan scripts a c := by
  induction scripts with
  | nil => simp [plan]
  | cons s rest ih =>
    simp only [plan_cons]
    -- a script falls in `(a, b]`, in `(b, c]`, or outside `(a, c]`
    by_cases hlow : a.key < s.1.key ∧ s.1.key ≤ b.key
    · have hac : a.key < s.1.key ∧ s.1.key ≤ c.key := ⟨hlow.1, hlow.2.trans hbc⟩
      have hbc' : ¬(b.key < s.1.key ∧ s.1.key ≤ c.key) := fun h => absurd hlow.2 (not_le.2 h.1)
      rw [if_pos hlow, if_neg hbc', if_pos hac, ← ih, orderedInsert_append_of_forall]
      intro t ht
      rw [scriptOrder_iff]
      exact hlow.2.trans (mem_plan.1 ht).2.1.le
    · by_cases hhigh : b.key < s.1.key ∧ s.1.key ≤ c.key
      · have hac : a.key < s.1.key ∧ s.1.key ≤ c.key := ⟨lt_of_le_of_lt hab hhigh.1, hhigh.2⟩
        rw [if_neg hlow, if_pos hhigh, if_pos hac, ← ih, orderedInsert_append_of_forall_not]
        intro t ht
        rw [scriptOrder_iff, not_le]
        exact lt_of_le_of_lt (mem_plan.1 ht).2.2 hhigh.1
      · have hac : ¬(a.key < s.1.key ∧ s.1.key ≤ c.key) := by
          rintro ⟨h₁, h₂⟩
          by_cases hb : s.1.key ≤ b.key
          · exact hlow ⟨h₁, hb⟩
          · exact hhigh ⟨not_le.1 hb, h₂⟩
        rw [if_neg hlow, if_neg hhigh, if_neg hac, ih]

/-- Upgrading in steps runs the scripts that upgrading at once runs, in the same order; the
written form of every version with 32-bit numbers reads back as that version; and versions are
ordered as their triples of numbers are, lexicographically. -/
theorem plans_compose_and_versions_read_back :
    (∀ (α : Type) (scripts : List (Version × α)) (a b c : Version), a.key ≤ b.key →
      b.key ≤ c.key → plan scripts a b ++ plan scripts b c = plan scripts a c) ∧
    (∀ v : Version, Version.parse v.display = .ok v ↔
      v.major < 2 ^ 32 ∧ v.minor < 2 ^ 32 ∧ v.patch < 2 ^ 32) ∧
    (∀ a b : Version, compare a b = compareOfLessAndEq a.key b.key) :=
  ⟨fun _ scripts _ _ _ hab hbc => plan_append scripts hab hbc, Version.parse_display_iff,
    Version.compare_eq⟩

/-- Upgrading from 1.0 to 1.3 through 1.1, where `update.1.1.sql` and `update.1.1.0.sql` name
the same version. -/
theorem plan_through_one_one :
    (⟨1, 0, 0⟩ : Version).key ≤ (⟨1, 1, 0⟩ : Version).key ∧
      (⟨1, 1, 0⟩ : Version).key ≤ (⟨1, 3, 0⟩ : Version).key ∧
      plan [(⟨1, 3, 0⟩, "update.1.3.sql"), (⟨1, 1, 0⟩, "update.1.1.sql"),
          (⟨1, 1, 0⟩, "update.1.1.0.sql")] ⟨1, 0, 0⟩ ⟨1, 1, 0⟩ ++
        plan [(⟨1, 3, 0⟩, "update.1.3.sql"), (⟨1, 1, 0⟩, "update.1.1.sql"),
          (⟨1, 1, 0⟩, "update.1.1.0.sql")] ⟨1, 1, 0⟩ ⟨1, 3, 0⟩ =
        plan [(⟨1, 3, 0⟩, "update.1.3.sql"), (⟨1, 1, 0⟩, "update.1.1.sql"),
          (⟨1, 1, 0⟩, "update.1.1.0.sql")] ⟨1, 0, 0⟩ ⟨1, 3, 0⟩ :=
  ⟨by decide, by decide,
    plans_compose_and_versions_read_back.1 String _ _ _ _ (by decide) (by decide)⟩

end Catalog.Service
