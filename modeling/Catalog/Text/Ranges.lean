/-!
# Code point ranges

A character class given by the Unicode standard is stored as a list of closed ranges
`(first, last)` of code points, sorted and pairwise disjoint. A code point belongs to the
class when some range holds it.

Main statements:

* `inRanges_iff` — a code point is in the class exactly when some range holds it.
-/

namespace Catalog.Text

/-- Whether some range of `rs` holds the code point `n`. -/
def inRanges (rs : List (Nat × Nat)) (n : Nat) : Bool :=
  rs.any fun r => r.1 ≤ n && n ≤ r.2

/-- A code point is in a class exactly when some range of the class holds it. -/
theorem inRanges_iff (rs : List (Nat × Nat)) (n : Nat) :
    inRanges rs n = true ↔ ∃ r ∈ rs, r.1 ≤ n ∧ n ≤ r.2 := by
  simp [inRanges]

end Catalog.Text
