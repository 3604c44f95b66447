import Mathlib
import Catalog.Text.Case
import Catalog.Proofs.Text.Blanks

/-!
# Case mappings settle in one step

A case table maps a code point by its expansion, by the run that covers it, or to itself. The
tables of the library are *settled*: every code point a table produces from another is one that
the table leaves alone, is a character, and lies outside a few ranges that matter to the keys
built from case-mapped text. So lower-casing a lower-cased text changes nothing, upper-casing an
upper-cased one neither, and neither mapping makes a blank, a hyphen, a solidus or a capital
sigma (lower case), or a closing parenthesis (upper case), out of another character. The blanks
themselves have no case.

Whether a table is settled is decided once, by a check that runs over the runs of the table two
at a time (`Settled`): a run's images miss every other run and every expansion, first by the
bounds of the two runs, then by their parity, and only as a last resort point by point.

## Main results

* `mapCodePoint_settled`: what a settled table makes of a code point
* `lowerChar_lowerChar`, `upperChar_upperChar`: the images of a character are left alone
* `eq_of_mem_lowerChar`, `eq_of_mem_upperChar`: the characters the mappings never make
* `toLower_toLower`, `toUpper_toUpper`: case mapping settles in one step
* `count_toLower`, `trim_toUpper`: what case mapping keeps of a text
-/

namespace Catalog.Text

-- ---------------------------------------------------------------------------
-- The images of a run
-- ---------------------------------------------------------------------------

namespace CaseRun

/-- The number of strides from the first code point of a run to its last. -/
def steps (r : CaseRun) : Nat := (r.last - r.first) / r.stride

/-- The least code point a run maps to. -/
def low (r : CaseRun) : Nat := (r.first + r.delta).toNat

/-- A bound on the code points a run maps to. -/
def high (r : CaseRun) : Nat := (r.last + r.delta).toNat

/-- Whether every code point from `lo` to `hi` is the code point of a character. -/
def validSpan (lo hi : Nat) : Bool :=
  Nat.blt hi 0xD800 || (Nat.blt 0xDFFF lo && Nat.blt hi 0x110000)

/-- Whether a run has a stride and maps to code points of characters. -/
def wellFormed (r : CaseRun) : Bool :=
  0 < r.stride && decide (0 ≤ (r.first : Int) + r.delta) && validSpan r.low r.high

-- The checks below run in the kernel over every pair of runs; they compare with `Nat.blt`,
-- which it evaluates directly, so that each pair costs a few steps.

/-- Whether run `r'` covers none of the code points run `r` maps to: the two lie apart, or both
have stride two and opposite parity, or else no image is covered. -/
def imagesOff (r r' : CaseRun) : Bool :=
  Nat.blt r.high r'.first || Nat.blt r'.last r.low ||
    (r.stride == 2 && r'.stride == 2 && (r.low + r'.first) % 2 == 1) ||
    (List.range (r.steps + 1)).all fun k => !r'.covers (r.low + r.stride * k)

/-- Whether the code point `m` is none of the code points run `r` maps to. -/
def imagesMiss (r : CaseRun) (m : Nat) : Bool :=
  Nat.blt m r.low || Nat.blt r.high m || (m - r.low) % r.stride != 0

/-- Whether none of the code points run `r` maps to lies in `range`. -/
def imagesOutside (r : CaseRun) (range : Nat × Nat) : Bool :=
  Nat.blt range.2 r.low || Nat.blt r.high range.1 ||
    (List.range (r.steps + 1)).all fun k =>
      Nat.blt (r.low + r.stride * k) range.1 || Nat.blt range.2 (r.low + r.stride * k)

theorem isValidChar_of_validSpan {lo hi m : Nat} (h : validSpan lo hi = true) (hlo : lo ≤ m)
    (hhi : m ≤ hi) : m.isValidChar := by
  simp only [validSpan, Bool.or_eq_true, Bool.and_eq_true, Nat.blt_eq] at h
  simp only [Nat.isValidChar]
  omega

/-- A code point a run covers is the first plus a number of strides, and maps to the least
image plus as many strides. -/
theorem image_of_covers {r : CaseRun} {n : Nat} (hr : r.wellFormed = true)
    (hn : r.covers n = true) :
    ∃ k ≤ r.steps, ((n : Int) + r.delta).toNat = r.low + r.stride * k ∧
      r.low + r.stride * k ≤ r.high := by
  simp only [wellFormed, Bool.and_eq_true, decide_eq_true_eq] at hr
  obtain ⟨⟨hstride, hnonneg⟩, -⟩ := hr
  simp only [covers, Bool.and_eq_true, decide_eq_true_eq, beq_iff_eq] at hn
  obtain ⟨⟨hfirst, hlast⟩, hmod⟩ := hn
  -- the code point is `k` strides past the first one
  have hk : n - r.first = r.stride * ((n - r.first) / r.stride) :=
    (Nat.mul_div_cancel' (Nat.dvd_of_mod_eq_zero hmod)).symm
  have hsteps : (n - r.first) / r.stride ≤ r.steps :=
    Nat.div_le_div_right (by omega)
  have hspan : r.stride * ((n - r.first) / r.stride) ≤ r.last - r.first := by omega
  refine ⟨_, hsteps, ?_, ?_⟩ <;> simp only [low, high] <;> omega

theorem covers_eq_false_of_imagesOff {r r' : CaseRun} (h : r.imagesOff r' = true) {k : Nat}
    (hk : k ≤ r.steps) (hhigh : r.low + r.stride * k ≤ r.high) :
    r'.covers (r.low + r.stride * k) = false := by
  simp only [imagesOff, Bool.or_eq_true, Bool.and_eq_true, Nat.blt_eq, beq_iff_eq,
    List.all_eq_true, List.mem_range, Bool.not_eq_eq_eq_not, Bool.not_true] at h
  rcases h with ((h | h) | ⟨⟨h₁, h₂⟩, h₃⟩) | h
  · simp only [covers, Bool.and_eq_false_iff, decide_eq_false_iff_not]
    omega
  · simp only [covers, Bool.and_eq_false_iff, decide_eq_false_iff_not]
    omega
  · -- both strides are two and the parities differ
    rw [h₁] at hhigh ⊢
    simp only [covers, h₂, Bool.and_eq_false_iff, decide_eq_false_iff_not,
      beq_eq_false_iff_ne, ne_eq]
    omega
  · exact h k (by omega)

theorem ne_of_imagesMiss {r : CaseRun} {m : Nat} (h : r.imagesMiss m = true) (k : Nat)
    (hhigh : r.low + r.stride * k ≤ r.high) : r.low + r.stride * k ≠ m := by
  rintro rfl
  simp only [imagesMiss, Bool.or_eq_true, Nat.blt_eq, bne_iff_ne, ne_eq,
    Nat.add_sub_cancel_left, Nat.mul_mod_right, not_true_eq_false, or_false] at h
  omega

theorem not_mem_of_imagesOutside {r : CaseRun} {range : Nat × Nat}
    (h : r.imagesOutside range = true) {k : Nat} (hk : k ≤ r.steps)
    (hhigh : r.low + r.stride * k ≤ r.high) :
    ¬(range.1 ≤ r.low + r.stride * k ∧ r.low + r.stride * k ≤ range.2) := by
  simp only [imagesOutside, Bool.or_eq_true, Nat.blt_eq, List.all_eq_true,
    List.mem_range] at h
  rcases h with (h | h) | h
  · omega
  · omega
  · have := h k (by omega)
    omega

end CaseRun

-- ---------------------------------------------------------------------------
-- Settled tables
-- ---------------------------------------------------------------------------

section Settled

variable {es : List (Nat × List Nat)} {rs : List CaseRun} {avoid : List (Nat × Nat)}

/-- Whether a table leaves a code point alone: no expansion and no run maps it. -/
def unmapped (es : List (Nat × List Nat)) (rs : List CaseRun) (m : Nat) : Bool :=
  es.all (·.1 != m) && rs.all (!·.covers m)

/-- Whether every code point a run maps to is a character that the table leaves alone, outside
the ranges `avoid`. -/
def runSettled (es : List (Nat × List Nat)) (rs : List CaseRun) (avoid : List (Nat × Nat))
    (r : CaseRun) : Bool :=
  r.wellFormed && rs.all r.imagesOff && es.all (r.imagesMiss ·.1) && avoid.all r.imagesOutside

/-- Whether an expansion has characters, each a character that the table leaves alone, outside
the ranges `avoid`. -/
def expansionSettled (es : List (Nat × List Nat)) (rs : List CaseRun) (avoid : List (Nat × Nat))
    (e : Nat × List Nat) : Bool :=
  !e.2.isEmpty && e.2.all fun m =>
    unmapped es rs m && CaseRun.validSpan m m && !inRanges avoid m

/-- Whether a table is settled: what it makes of a code point, it leaves alone, and it makes
nothing in the ranges `avoid` out of another code point; and it leaves the blanks alone. -/
def Settled (es : List (Nat × List Nat)) (rs : List CaseRun) (avoid : List (Nat × Nat)) : Bool :=
  rs.all (runSettled es rs avoid) && es.all (expansionSettled es rs avoid) &&
    blankRanges.all fun b => (List.range (b.2 + 1 - b.1)).all fun i => unmapped es rs (b.1 + i)

theorem mapCodePoint_of_unmapped {m : Nat} (h : unmapped es rs m = true) :
    mapCodePoint es rs m = [m] := by
  simp only [unmapped, Bool.and_eq_true, List.all_eq_true, bne_iff_ne, ne_eq,
    Bool.not_eq_eq_eq_not, Bool.not_true] at h
  have hes : es.find? (·.1 == m) = none :=
    List.find?_eq_none.2 fun e he => by simpa using h.1 e he
  have hrs : rs.find? (·.covers m) = none :=
    List.find?_eq_none.2 fun r hr => by simp [h.2 r hr]
  simp [mapCodePoint, hes, hrs]

/-- The code points a run of a settled table maps to. -/
theorem runSettled_image {r : CaseRun} (hr : runSettled es rs avoid r = true) {n : Nat}
    (hn : r.covers n = true) :
    unmapped es rs ((n : Int) + r.delta).toNat = true ∧
      (((n : Int) + r.delta).toNat).isValidChar ∧
      inRanges avoid ((n : Int) + r.delta).toNat = false := by
  simp only [runSettled, Bool.and_eq_true, List.all_eq_true] at hr
  obtain ⟨⟨⟨hwf, hoff⟩, hmiss⟩, hout⟩ := hr
  obtain ⟨k, hk, himage, hhigh⟩ := CaseRun.image_of_covers hwf hn
  rw [himage]
  refine ⟨?_, ?_, ?_⟩
  · simp only [unmapped, Bool.and_eq_true, List.all_eq_true, bne_iff_ne, ne_eq,
      Bool.not_eq_eq_eq_not, Bool.not_true]
    exact ⟨fun e he h => CaseRun.ne_of_imagesMiss (hmiss e he) k hhigh h.symm,
      fun r' hr' => CaseRun.covers_eq_false_of_imagesOff (hoff r' hr') hk hhigh⟩
  · simp only [CaseRun.wellFormed, Bool.and_eq_true] at hwf
    exact CaseRun.isValidChar_of_validSpan hwf.2 (by omega) hhigh
  · refine Bool.eq_false_iff.2 fun hin => ?_
    obtain ⟨b, hb, hb₁, hb₂⟩ := (inRanges_iff _ _).1 hin
    exact CaseRun.not_mem_of_imagesOutside (hout b hb) hk hhigh ⟨hb₁, hb₂⟩

/-- **Settled tables.** What a settled table makes of a code point, it leaves alone; and it is
the code point itself, or a character outside the ranges `avoid`. -/
theorem mapCodePoint_settled (hs : Settled es rs avoid = true) {m n : Nat}
    (hm : m ∈ mapCodePoint es rs n) :
    mapCodePoint es rs m = [m] ∧ (m = n ∨ m.isValidChar ∧ inRanges avoid m = false) := by
  simp only [Settled, Bool.and_eq_true, List.all_eq_true] at hs
  obtain ⟨⟨hruns, hexps⟩, -⟩ := hs
  cases hes : es.find? (·.1 == n) with
  | some e =>
    -- an expansion: its characters were checked one by one
    simp only [mapCodePoint, hes] at hm
    have hcheck := hexps e (List.mem_of_find?_eq_some hes)
    simp only [expansionSettled, Bool.and_eq_true, List.all_eq_true, Bool.not_eq_eq_eq_not,
      Bool.not_true] at hcheck
    obtain ⟨⟨hu, hv⟩, ha⟩ := hcheck.2 m hm
    exact ⟨mapCodePoint_of_unmapped hu,
      .inr ⟨CaseRun.isValidChar_of_validSpan hv le_rfl le_rfl, ha⟩⟩
  | none =>
    cases hrs : rs.find? (·.covers n) with
    | some r =>
      -- a run: its images were checked against every run and expansion
      simp only [mapCodePoint, hes, hrs, List.mem_singleton] at hm
      subst hm
      obtain ⟨hu, hv, ha⟩ := runSettled_image (hruns r (List.mem_of_find?_eq_some hrs))
        (by simpa using List.find?_some hrs)
      exact ⟨mapCodePoint_of_unmapped hu, .inr ⟨hv, ha⟩⟩
    | none =>
      -- left alone
      simp only [mapCodePoint, hes, hrs, List.mem_singleton] at hm
      subst hm
      exact ⟨by simp [mapCodePoint, hes, hrs], .inl rfl⟩

theorem mapCodePoint_ne_nil (hs : Settled es rs avoid = true) (n : Nat) :
    mapCodePoint es rs n ≠ [] := by
  simp only [Settled, Bool.and_eq_true, List.all_eq_true] at hs
  cases hes : es.find? (·.1 == n) with
  | some e =>
    have hcheck := hs.1.2 e (List.mem_of_find?_eq_some hes)
    simp only [expansionSettled, Bool.and_eq_true, Bool.not_eq_eq_eq_not, Bool.not_true,
      List.isEmpty_eq_false_iff] at hcheck
    simpa [mapCodePoint, hes] using hcheck.1
  | none =>
    cases hrs : rs.find? (·.covers n) <;> simp [mapCodePoint, hes, hrs]

/-- A settled table leaves the blanks alone. -/
theorem mapCodePoint_of_isBlank (hs : Settled es rs avoid = true) {c : Char}
    (hc : isBlank c = true) : mapCodePoint es rs c.toNat = [c.toNat] := by
  simp only [Settled, Bool.and_eq_true, List.all_eq_true, List.mem_range] at hs
  obtain ⟨b, hb, hb₁, hb₂⟩ := (inRanges_iff _ _).1 hc
  have := hs.2 b hb (c.toNat - b.1) (by omega)
  rw [Nat.add_sub_cancel' hb₁] at this
  exact mapCodePoint_of_unmapped this

/-- The characters a settled table makes of a character: left alone by the table, and the
character itself or one outside the ranges `avoid`. -/
theorem charsOf_settled (hs : Settled es rs avoid = true) {c d : Char}
    (hd : d ∈ charsOf (mapCodePoint es rs c.toNat)) :
    charsOf (mapCodePoint es rs d.toNat) = [d] ∧ (d = c ∨ inRanges avoid d.toNat = false) := by
  simp only [charsOf, List.mem_map] at hd
  obtain ⟨m, hm, rfl⟩ := hd
  obtain ⟨hfix, hc | ⟨hvalid, havoid⟩⟩ := mapCodePoint_settled hs hm
  · -- the character is left alone
    subst hc
    simp [charsOf, hfix]
  · -- a new character: its code point reads back
    have hback : (Char.ofNat m).toNat = m := by simp [Char.toNat_ofNat, hvalid]
    simp [charsOf, hback, hfix, havoid]

end Settled

-- ---------------------------------------------------------------------------
-- The tables of the library
-- ---------------------------------------------------------------------------

/-- What lower-casing makes of no other character: the blanks, the hyphen, the solidus and the
capital sigma. -/
def lowerAvoid : List (Nat × Nat) := blankRanges ++ [(0x2D, 0x2D), (0x2F, 0x2F), (0x3A3, 0x3A3)]

/-- What upper-casing makes of no other character: the blanks and the closing parenthesis. -/
def upperAvoid : List (Nat × Nat) := blankRanges ++ [(0x29, 0x29)]

theorem lower_settled : Settled lowerExpansions lowerRuns lowerAvoid = true := by
  decide +kernel

theorem upper_settled : Settled upperExpansions upperRuns upperAvoid = true := by
  decide +kernel

theorem inRanges_lowerAvoid_of_isBlank {c : Char} (hc : isBlank c = true) :
    inRanges lowerAvoid c.toNat = true := by
  rw [lowerAvoid, inRanges, List.any_append, Bool.or_eq_true]
  exact .inl hc

theorem inRanges_upperAvoid_of_isBlank {c : Char} (hc : isBlank c = true) :
    inRanges upperAvoid c.toNat = true := by
  rw [upperAvoid, inRanges, List.any_append, Bool.or_eq_true]
  exact .inl hc

section Chars

variable {c d : Char}

theorem lowerChar_lowerChar (hd : d ∈ lowerChar c) : lowerChar d = [d] :=
  (charsOf_settled lower_settled hd).1

theorem upperChar_upperChar (hd : d ∈ upperChar c) : upperChar d = [d] :=
  (charsOf_settled upper_settled hd).1

/-- Lower-casing makes a blank, a hyphen, a solidus or a capital sigma only of itself. -/
theorem eq_of_mem_lowerChar (hd : d ∈ lowerChar c) (hav : inRanges lowerAvoid d.toNat = true) :
    d = c :=
  (charsOf_settled lower_settled hd).2.resolve_right (by simp [hav])

/-- Upper-casing makes a blank or a closing parenthesis only of itself. -/
theorem eq_of_mem_upperChar (hd : d ∈ upperChar c) (hav : inRanges upperAvoid d.toNat = true) :
    d = c :=
  (charsOf_settled upper_settled hd).2.resolve_right (by simp [hav])

theorem upperChar_ne_nil (c : Char) : upperChar c ≠ [] := by
  simpa [upperChar, charsOf] using mapCodePoint_ne_nil upper_settled c.toNat

theorem upperChar_of_isBlank (hc : isBlank c = true) : upperChar c = [c] := by
  simp [upperChar, charsOf, mapCodePoint_of_isBlank upper_settled hc]

theorem sigma_not_mem_lowerChar (c : Char) : 'Σ' ∉ lowerChar c := fun h => by
  have hc := eq_of_mem_lowerChar h (by decide)
  subst hc
  exact absurd h (by decide)

end Chars

-- ---------------------------------------------------------------------------
-- Lower-casing a text
-- ---------------------------------------------------------------------------

section Lower

/-- Lower-casing a text without a capital sigma maps each character on its own. -/
theorem toLower_go_of_not_sigma (before : List Char) {cs : List Char} (h : 'Σ' ∉ cs) :
    toLower.go before cs = cs.flatMap lowerChar := by
  induction cs generalizing before with
  | nil => rfl
  | cons c cs ih =>
    have hc : c ≠ 'Σ' := fun hc => h (hc ▸ List.mem_cons_self)
    rw [toLower.go, if_neg hc, ih _ fun h' => h (List.mem_cons_of_mem c h'), List.flatMap_cons]

/-- A character of a lower-cased text is the lower case of a character of the text, or a small
sigma in place of a capital one. -/
theorem mem_toLower_go {before cs : List Char} {d : Char} (hd : d ∈ toLower.go before cs) :
    ∃ c ∈ cs, d ∈ lowerChar c ∨ c = 'Σ' ∧ (d = 'ς' ∨ d = 'σ') := by
  induction cs generalizing before with
  | nil => simp [toLower.go] at hd
  | cons c cs ih =>
    rw [toLower.go, List.mem_append] at hd
    rcases hd with hd | hd
    · refine ⟨c, List.mem_cons_self, ?_⟩
      split at hd
      · rename_i hc
        split at hd <;> simp_all
      · exact .inl hd
    · obtain ⟨c', hc', h⟩ := ih hd
      exact ⟨c', List.mem_cons_of_mem c hc', h⟩

/-- Every character of a lower-cased text is left alone by lower-casing, and is no capital
sigma. -/
theorem lowerChar_of_mem_toLower {cs : List Char} {d : Char} (hd : d ∈ toLower cs) :
    lowerChar d = [d] ∧ d ≠ 'Σ' := by
  obtain ⟨c, -, h | ⟨-, rfl | rfl⟩⟩ := mem_toLower_go hd
  · exact ⟨lowerChar_lowerChar h, fun hσ => sigma_not_mem_lowerChar c (hσ ▸ h)⟩
  · exact ⟨by decide, by decide⟩
  · exact ⟨by decide, by decide⟩

/-- Lower-casing a text that lower-casing leaves alone character by character changes
nothing. -/
theorem toLower_eq_self {cs : List Char} (h : ∀ d ∈ cs, lowerChar d = [d] ∧ d ≠ 'Σ') :
    toLower cs = cs := by
  rw [toLower, toLower_go_of_not_sigma [] fun hσ => (h _ hσ).2 rfl]
  conv_rhs => rw [← List.flatMap_singleton' cs]
  exact List.flatMap_congr fun d hd => (h d hd).1

/-- **Lower case settles.** Lower-casing a lower-cased text changes nothing. -/
theorem toLower_toLower (cs : List Char) : toLower (toLower cs) = toLower cs :=
  toLower_eq_self fun _ hd => lowerChar_of_mem_toLower hd

/-- A blank, hyphen or solidus of a lower-cased text stood in the text. -/
theorem mem_of_mem_toLower {cs : List Char} {d : Char} (hd : d ∈ toLower cs)
    (hav : inRanges lowerAvoid d.toNat = true) : d ∈ cs := by
  obtain ⟨c, hc, h | ⟨-, rfl | rfl⟩⟩ := mem_toLower_go hd
  · exact eq_of_mem_lowerChar h hav ▸ hc
  · exact absurd hav (by decide)
  · exact absurd hav (by decide)

/-- Lower-casing keeps the hyphens of a text. -/
theorem count_toLower (cs : List Char) : (toLower cs).count '-' = cs.count '-' := by
  rw [toLower]
  generalize [] = before
  induction cs generalizing before with
  | nil => rfl
  | cons c cs ih =>
    rw [toLower.go, List.count_append, ih, List.count_cons]
    by_cases hc : c = '-'
    · subst hc
      have hself : lowerChar '-' = ['-'] := by decide
      simp [hself, Nat.add_comm]
    · -- the image of any other character holds no hyphen
      have himage : (if c = 'Σ' then [if endsWord before cs then 'ς' else 'σ'] else lowerChar c).count
          '-' = 0 := by
        refine List.count_eq_zero.2 fun hmem => ?_
        split at hmem
        · split at hmem <;> simp at hmem
        · exact hc (eq_of_mem_lowerChar hmem (by decide)).symm
      rw [himage]
      simp [hc]

end Lower

-- ---------------------------------------------------------------------------
-- Upper-casing a text
-- ---------------------------------------------------------------------------

section Upper

theorem upperChar_of_mem_toUpper {cs : List Char} {d : Char} (hd : d ∈ toUpper cs) :
    upperChar d = [d] := by
  obtain ⟨_, -, h⟩ := List.mem_flatMap.1 hd
  exact upperChar_upperChar h

/-- **Upper case settles.** Upper-casing an upper-cased text changes nothing. -/
theorem toUpper_toUpper (cs : List Char) : toUpper (toUpper cs) = toUpper cs := by
  rw [toUpper]
  conv_rhs => rw [← List.flatMap_singleton' (toUpper cs)]
  exact List.flatMap_congr fun d hd => upperChar_of_mem_toUpper hd

/-- A blank or closing parenthesis of an upper-cased text stood in the text. -/
theorem mem_of_mem_toUpper {cs : List Char} {d : Char} (hd : d ∈ toUpper cs)
    (hav : inRanges upperAvoid d.toNat = true) : d ∈ cs := by
  obtain ⟨c, hc, h⟩ := List.mem_flatMap.1 hd
  exact eq_of_mem_upperChar h hav ▸ hc

/-- Trimming and upper-casing commute: upper case keeps the blanks and makes no others. -/
theorem trim_toUpper (cs : List Char) : trim (toUpper cs) = toUpper (trim cs) :=
  trim_flatMap (fun _ hc => upperChar_of_isBlank hc) upperChar_ne_nil
    (fun _ _ hd hb => eq_of_mem_upperChar hd (inRanges_upperAvoid_of_isBlank hb) ▸ hb) cs

end Upper

end Catalog.Text
