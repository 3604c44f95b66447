import Catalog.Pipeline.Identifiers
import Catalog.Pipeline.Stats

/-!
# Counting within sixty-four bits

Identifier numbers and the totals of a service are signed 64-bit words, and each step of
counting wraps around as such words do: counting on from the largest word gives the smallest.
This module says exactly when counting is exact.

A counter at `v` hands out `v, v + 1, …`, each reduced into the signed range
(`Word.countFrom`). The numbers it hands out, followed by its next value, increase strictly
exactly when `v` plus the number of calls stays below `2 ^ 63`; one call more and the next value
is the smallest word, below every number handed out. The OAI identifier generator and the
element counter of every kind count so, whatever other kinds are counted in between. The totals
after a pass are the true sums of the stored totals and the pass's counts exactly when each sum
fits a signed word.

## Main results

* `Word.signed_add_eq_iff`: an addition of words is exact exactly when its sum is in range
* `Word.countFrom_increasing_iff`: counting increases strictly exactly while it stays in range
* `OaiIds.takeMany_eq`, `ElementCounters.takeAll_numbers`: what a run of calls hands out
* `PassStats.totals_exact_iff`: when the totals of a pass are the true sums
* `counting_exact_iff_fits`: the three counters together
-/

namespace Catalog.Word

theorem signedBound_eq : signedBound = 9223372036854775808 := rfl

/-- The range of a signed word, as bounds. -/
theorem isSigned_iff {v : Int} :
    isSigned v = true ↔ -9223372036854775808 ≤ v ∧ v < 9223372036854775808 := by
  unfold isSigned signedBound
  simp only [Bool.and_eq_true, decide_eq_true_eq]

/-- A value in range is its own signed word. -/
theorem signed_eq_self {v : Int} (h : isSigned v = true) : signed v = v := by
  rw [isSigned_iff] at h
  exact Int.bmod_eq_of_le (by simp only [modulus]; omega) (by simp only [modulus]; omega)

/-- A signed word is in range. -/
theorem isSigned_signed (v : Int) : isSigned (signed v) = true := by
  have h₁ := @Int.le_bmod v modulus (by decide)
  have h₂ := @Int.bmod_lt v modulus (by decide)
  simp only [modulus] at h₁ h₂
  rw [isSigned_iff, signed, modulus]
  omega

/-- A value is its own signed word exactly when it is in range. -/
theorem signed_eq_self_iff {v : Int} : signed v = v ↔ isSigned v = true :=
  ⟨fun h => h ▸ isSigned_signed v, signed_eq_self⟩

theorem signed_add_signed (a b : Int) : signed (a + signed b) = signed (a + b) :=
  Int.add_bmod_bmod

theorem signed_signed_add (a b : Int) : signed (signed a + b) = signed (a + b) :=
  Int.bmod_add_bmod

/-- **An addition of words is exact exactly when the true sum is in range.** -/
theorem signed_add_eq_iff (a b : Int) :
    signed (a + signed b) = a + b ↔ isSigned (a + b) = true := by
  rw [signed_add_signed, signed_eq_self_iff]

/-- The numbers a counter at `v` hands out in `n` steps: `v, v + 1, …` as signed words. -/
def countFrom (v : Int) (n : Nat) : List Int :=
  (List.range n).map fun k : Nat => signed (v + k)

theorem countFrom_zero (v : Int) : countFrom v 0 = [] := rfl

/-- A counter in range hands out its value and counts on from the next word. -/
theorem countFrom_succ {v : Int} (hv : isSigned v = true) (n : Nat) :
    countFrom v (n + 1) = v :: countFrom (signed (v + 1)) n := by
  simp only [countFrom, List.range_succ_eq_map, List.map_cons, List.map_map, Int.natCast_zero,
    Int.add_zero, signed_eq_self hv, List.cons.injEq, true_and]
  refine List.map_congr_left fun k _ => ?_
  rw [Function.comp_apply, signed_signed_add]
  congr 1
  omega

theorem countFrom_succ_right (v : Int) (n : Nat) :
    countFrom v (n + 1) = countFrom v n ++ [signed (v + n)] := by
  simp [countFrom, List.range_succ]

theorem length_countFrom (v : Int) (n : Nat) : (countFrom v n).length = n := by
  simp [countFrom]

theorem getElem_countFrom (v : Int) {n k : Nat} (hk : k < (countFrom v n).length) :
    (countFrom v n)[k] = signed (v + k) := by
  simp [countFrom]

/-- **Counting from a word increases strictly exactly while it stays in range**: the `n + 1`
numbers from `v` increase strictly exactly when `v + n` is below `2 ^ 63`. Past that the count
reaches the largest word and wraps to the smallest. -/
theorem countFrom_increasing_iff {v : Int} (hv : isSigned v = true) (n : Nat) :
    (countFrom v (n + 1)).Pairwise (· < ·) ↔ v + n < signedBound := by
  have hv' := isSigned_iff.1 hv
  rw [signedBound_eq]
  constructor
  · intro h
    refine Int.lt_of_not_ge fun hn => ?_
    -- the count reaches the largest word at step `k` and wraps at the step after
    have hk : ((9223372036854775807 - v).toNat : Int) = 9223372036854775807 - v :=
      Int.toNat_of_nonneg (by omega)
    have hlt := List.pairwise_iff_getElem.1 h (9223372036854775807 - v).toNat
      ((9223372036854775807 - v).toNat + 1) (by rw [length_countFrom]; omega)
      (by rw [length_countFrom]; omega) (Nat.lt_succ_self _)
    rw [getElem_countFrom, getElem_countFrom, Int.natCast_add, Int.natCast_one, hk,
      show v + (9223372036854775807 - v) = 9223372036854775807 by omega,
      show v + (9223372036854775807 - v + 1) = 9223372036854775808 by omega] at hlt
    exact absurd hlt (by decide)
  · intro hn
    rw [countFrom, List.pairwise_map]
    refine List.pairwise_lt_range.imp_of_mem fun ha hb hab => ?_
    -- every step is in range, so each number is the true one
    rw [List.mem_range] at ha hb
    have hin : ∀ k : Nat, k < n + 1 → isSigned (v + k) = true := fun k hk => by
      rw [isSigned_iff]
      omega
    rw [signed_eq_self (hin _ ha), signed_eq_self (hin _ hb)]
    omega

end Catalog.Word

namespace Catalog.Pipeline

open Catalog.Word

namespace OaiIds

/-- **What a run of the identifier generator hands out**: from a number in range, `n` calls give
the identifiers of the numbers counted from it, and the generator is left at the count's next
word. -/
theorem takeMany_eq {g : OaiIds} (hg : isSigned g.next = true) (n : Nat) :
    g.takeMany n = ((countFrom g.next n).map (g.stem ++ toString ·),
      { g with next := signed (g.next + n) }) := by
  induction n generalizing g with
  | zero => simp [takeMany, countFrom_zero, signed_eq_self hg]
  | succ n ih =>
    -- one call hands out the current number, and the rest count on from the next word
    have hrest := ih (g := { g with next := signed (g.next + 1) }) (isSigned_signed _)
    have hnext : signed (signed (g.next + 1) + n) = signed (g.next + ((n + 1 : Nat) : Int)) := by
      rw [signed_signed_add]
      congr 1
      omega
    simp only [takeMany, take, hrest, countFrom_succ hg, List.map_cons, hnext]

@[simp] theorem new_next (domainName instanceName service : String) (start : Int) :
    (OaiIds.new domainName instanceName service start).next = max start 1 := rfl

/-- A generator made from a stored number starts in range. -/
theorem isSigned_new_next (domainName instanceName service : String) {start : Int}
    (h : isSigned start = true) :
    isSigned (OaiIds.new domainName instanceName service start).next = true := by
  rw [isSigned_iff] at h ⊢
  rw [new_next]
  omega

end OaiIds

namespace ElementCounters

/-- The numbers handed out by a sequence of calls, one kind per call, and the counters after
them. -/
def takeAll (c : ElementCounters) : List ElementKind → List Int × ElementCounters
  | [] => ([], c)
  | k :: ks =>
    let (x, c) := c.take k
    let (xs, c) := c.takeAll ks
    (x :: xs, c)

@[simp] theorem take_fst (c : ElementCounters) (k : ElementKind) : (c.take k).1 = c.next k := rfl

@[simp] theorem take_next_self (c : ElementCounters) (k : ElementKind) :
    (c.take k).2.next k = signed (c.next k + 1) := by
  simp [take]

@[simp] theorem take_next_of_ne (c : ElementCounters) {k k' : ElementKind} (h : k' ≠ k) :
    (c.take k').2.next k = c.next k := by
  simp [take, Ne.symm h]

/-- **What a run of calls hands out for one kind**: the calls for a kind hand out the numbers
counted from its stored number, whatever other kinds are counted in between, and leave its
counter at the count's next word. -/
theorem takeAll_numbers (c : ElementCounters) (ks : List ElementKind) {k : ElementKind}
    (hc : isSigned (c.next k) = true) :
    ((ks.zip (c.takeAll ks).1).filter (·.1 = k)).map (·.2) =
        countFrom (c.next k) (ks.countP (· = k)) ∧
      (c.takeAll ks).2.next k = signed (c.next k + ks.countP (· = k)) := by
  induction ks generalizing c with
  | nil => simp [takeAll, countFrom_zero, signed_eq_self hc]
  | cons k' ks ih =>
    by_cases hk : k' = k
    · -- a call for the kind hands out its number and counts on
      subst hk
      obtain ⟨hnums, hnext⟩ := ih (c.take k').2 (by rw [take_next_self]; exact isSigned_signed _)
      rw [take_next_self] at hnums hnext
      have hsum : signed (signed (c.next k' + 1) + (ks.countP (· = k') : Nat)) =
          signed (c.next k' + ((ks.countP (· = k') + 1 : Nat) : Int)) := by
        rw [signed_signed_add]
        congr 1
        omega
      simp only [takeAll, List.zip_cons_cons, take_fst, List.filter_cons, List.countP_cons,
        decide_true, if_true, List.map_cons, countFrom_succ hc, hnums, hnext, hsum, and_self]
    · -- a call for another kind leaves this one alone
      obtain ⟨hnums, hnext⟩ := ih (c.take k').2 (by rw [take_next_of_ne c hk]; exact hc)
      rw [take_next_of_ne c hk] at hnums hnext
      simp only [takeAll, List.zip_cons_cons, List.filter_cons, List.countP_cons, hk,
        decide_false, Bool.false_eq_true, if_false, Nat.add_zero]
      exact ⟨hnums, hnext⟩

end ElementCounters

namespace PassStats

/-- **The totals of a pass are the true sums exactly when each fits a signed word**: the
warnings and the failures are the stored ones plus the pass's, the failures since the last
checkpoint are the pass's, and the input count is the stored one plus the records processed,
or the available records when that sum is zero. -/
theorem totals_exact_iff (s : PassStats) (base : ServiceTotals) {available : Int}
    (ha : isSigned available = true) :
    ((s.totals base available).warnings = base.warnings + s.warnings ↔
        isSigned (base.warnings + s.warnings) = true) ∧
      ((s.totals base available).errors = base.errors + s.errors ↔
        isSigned (base.errors + s.errors) = true) ∧
      ((s.totals base available).errorsPerCommit = s.errorsSinceCommit ↔
        isSigned s.errorsSinceCommit = true) ∧
      ((s.totals base available).inputRecordCount =
          (if base.inputRecordCount + s.processed = 0 then available
            else base.inputRecordCount + s.processed) ↔
        isSigned (base.inputRecordCount + s.processed) = true) := by
  simp only [totals]
  refine ⟨signed_add_eq_iff _ _, signed_add_eq_iff _ _, signed_eq_self_iff, ?_⟩
  rw [signed_add_signed]
  constructor
  · intro h
    refine Classical.byContradiction fun hout => ?_
    -- an out-of-range sum is not zero, and neither choice of the code reaches it
    have hne : base.inputRecordCount + s.processed ≠ 0 := fun h0 => hout (h0 ▸ by decide)
    rw [if_neg hne] at h
    split at h
    · exact hout (h ▸ ha)
    · exact hout (h ▸ isSigned_signed _)
  · intro hin
    rw [signed_eq_self hin]

end PassStats

/-- **Counting is exact exactly while it fits sixty-four bits.** An identifier generator made
from a stored number in range hands out the numbers counted from its first one, each as a signed
word, and is left at the next; the numbers handed out and the next one increase strictly exactly
when the first number plus the number of calls is below `2 ^ 63`. The element counter of a kind
does the same over the calls for that kind, whatever is counted in between. The totals of a pass
are the true sums exactly when each sum fits a signed word. -/
theorem counting_exact_iff_fits (domainName instanceName service : String) {start : Int}
    (hstart : isSigned start = true) (n : Nat) (c : ElementCounters) (ks : List ElementKind)
    {k : ElementKind} (hc : isSigned (c.next k) = true) (s : PassStats) (base : ServiceTotals)
    {available : Int} (ha : isSigned available = true) :
    (let g := OaiIds.new domainName instanceName service start;
      (g.takeMany n).1 = (countFrom g.next n).map (g.stem ++ toString ·) ∧
      (g.takeMany n).2.next = signed (g.next + n) ∧
      ((countFrom g.next n ++ [(g.takeMany n).2.next]).Pairwise (· < ·) ↔
        g.next + n < signedBound)) ∧
    (let numbers := ((ks.zip (c.takeAll ks).1).filter (·.1 = k)).map (·.2);
      numbers = countFrom (c.next k) (ks.countP (· = k)) ∧
      (c.takeAll ks).2.next k = signed (c.next k + ks.countP (· = k)) ∧
      ((numbers ++ [(c.takeAll ks).2.next k]).Pairwise (· < ·) ↔
        c.next k + ks.countP (· = k) < signedBound)) ∧
    (((s.totals base available).warnings = base.warnings + s.warnings ↔
        isSigned (base.warnings + s.warnings) = true) ∧
      ((s.totals base available).errors = base.errors + s.errors ↔
        isSigned (base.errors + s.errors) = true) ∧
      ((s.totals base available).errorsPerCommit = s.errorsSinceCommit ↔
        isSigned s.errorsSinceCommit = true) ∧
      ((s.totals base available).inputRecordCount =
          (if base.inputRecordCount + s.processed = 0 then available
            else base.inputRecordCount + s.processed) ↔
        isSigned (base.inputRecordCount + s.processed) = true)) := by
  refine ⟨?_, ?_, PassStats.totals_exact_iff s base ha⟩
  · -- the generator starts in range, at its stored number or at one
    have hg := OaiIds.isSigned_new_next domainName instanceName service hstart
    dsimp only
    rw [OaiIds.takeMany_eq hg]
    refine ⟨rfl, rfl, ?_⟩
    rw [← countFrom_succ_right]
    exact countFrom_increasing_iff hg n
  · obtain ⟨hnums, hnext⟩ := ElementCounters.takeAll_numbers c ks hc
    dsimp only
    refine ⟨hnums, hnext, ?_⟩
    rw [hnums, hnext, ← countFrom_succ_right]
    exact countFrom_increasing_iff hc _

/-- Counting from the largest word wraps everywhere: a generator resumed at the largest number
hands out that number and is left at the smallest, below it; an element counter at the largest
number is left at the smallest; and one warning added to a pass's largest count of warnings
gives the smallest total. -/
theorem counting_from_the_top_wraps :
    let g := OaiIds.new "localhost" "recflow" "" 9223372036854775807
    let c := (ElementCounters.new "svc").set .work 9223372036854775807
    let s : PassStats := { warnings := 9223372036854775807 }
    let base : ServiceTotals := { warnings := 1 }
    isSigned 9223372036854775807 = true ∧ isSigned (c.next .work) = true ∧ isSigned 0 = true ∧
      (g.takeMany 1).1 = ["oai:localhost:recflow//9223372036854775807"] ∧
      (g.takeMany 1).2.next = -9223372036854775808 ∧
      ¬ (countFrom g.next 1 ++ [(g.takeMany 1).2.next]).Pairwise (· < ·) ∧
      (c.takeAll [.work]).2.next .work = -9223372036854775808 ∧
      (s.totals base 0).warnings ≠ base.warnings + s.warnings := by
  intro g c s base
  have hstart : isSigned 9223372036854775807 = true := by decide
  have hc : isSigned (c.next .work) = true := by decide
  have ha : isSigned 0 = true := by decide
  obtain ⟨⟨hids, hnext, hinc⟩, ⟨-, hwork, -⟩, hwarn, -⟩ :=
    counting_exact_iff_fits "localhost" "recflow" "" hstart 1 c [.work] hc s base ha
  refine ⟨hstart, hc, ha, ?_, ?_, fun h => absurd (hinc.1 h) (by decide), ?_,
    fun h => absurd (hwarn.1 h) (by decide)⟩
  · rw [hids]
    decide +kernel
  · rw [hnext]
    decide +kernel
  · rw [hwork]
    decide +kernel

end Catalog.Pipeline
