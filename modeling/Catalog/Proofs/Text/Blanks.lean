import Catalog.Text.Blank

/-!
# Blanks at the ends of a text

The blank class leaves out every printable ASCII character but the space, so the digits, the
hyphen, the dot and the brackets of standard numbers and version numbers are never trimmed.
Trimming passes over a leading run of blanks, and a text whose characters are not blank trims
to itself.
-/

namespace Catalog.Text

/-- Printable ASCII characters other than the space are not blank. -/
theorem isBlank_of_visible {c : Char} (h₁ : 32 < c.toNat) (h₂ : c.toNat < 127) :
    isBlank c = false := by
  simp only [isBlank, inRanges, blankRanges, List.any_cons, List.any_nil, Bool.or_false,
    Bool.or_eq_false_iff, Bool.and_eq_false_iff, decide_eq_false_iff_not]
  omega

theorem isBlank_of_isDigit {c : Char} (h : c.isDigit = true) : isBlank c = false := by
  have h' := Char.isDigit_iff_toNat.1 h
  simp only [Char.reduceToNat] at h'
  exact isBlank_of_visible (by omega) (by omega)

theorem trimStart_cons_of_not_blank {c : Char} (cs : List Char) (hc : isBlank c = false) :
    trimStart (c :: cs) = c :: cs := by
  simp [trimStart, hc]

/-- Trimming passes over a leading run of blanks. -/
theorem trimStart_append_of_blank {ws : List Char} (rest : List Char)
    (hws : ∀ c ∈ ws, isBlank c = true) : trimStart (ws ++ rest) = trimStart rest := by
  induction ws with
  | nil => rfl
  | cons w ws ih =>
    rw [List.cons_append, trimStart, List.dropWhile_cons_of_pos (hws w (by simp))]
    exact ih fun c hc => hws c (List.mem_cons_of_mem w hc)

theorem trimStart_eq_self {cs : List Char} (h : ∀ c ∈ cs, isBlank c = false) :
    trimStart cs = cs := by
  cases cs with
  | nil => rfl
  | cons c cs => exact trimStart_cons_of_not_blank cs (h c (by simp))

theorem trimEnd_eq_self {cs : List Char} (h : ∀ c ∈ cs, isBlank c = false) :
    trimEnd cs = cs := by
  have hrev : trimStart cs.reverse = cs.reverse :=
    trimStart_eq_self fun c hc => h c (List.mem_reverse.1 hc)
  rw [trimEnd, ← trimStart, hrev, List.reverse_reverse]

/-- A text without blanks trims to itself. -/
theorem trim_eq_self {cs : List Char} (h : ∀ c ∈ cs, isBlank c = false) : trim cs = cs := by
  rw [trim, trimStart_eq_self h, trimEnd_eq_self h]

theorem trimEnd_eq_reverse (cs : List Char) : trimEnd cs = (trimStart cs.reverse).reverse := rfl

-- ---------------------------------------------------------------------------
-- The ends of a trimmed text
-- ---------------------------------------------------------------------------

theorem trimStart_eq_self_of_head {cs : List Char} (h : ∀ c ∈ cs.head?, isBlank c = false) :
    trimStart cs = cs := by
  cases cs with
  | nil => rfl
  | cons c cs => exact trimStart_cons_of_not_blank cs (h c rfl)

theorem trimEnd_eq_self_of_getLast {cs : List Char}
    (h : ∀ c ∈ cs.getLast?, isBlank c = false) : trimEnd cs = cs := by
  rw [trimEnd_eq_reverse, trimStart_eq_self_of_head (by simpa using h), List.reverse_reverse]

theorem head?_trimStart (cs : List Char) : ∀ c ∈ (trimStart cs).head?, isBlank c = false := by
  intro c hc
  have := List.head?_dropWhile_not isBlank cs
  rw [Option.mem_def] at hc
  rw [trimStart] at hc
  simpa [hc] using this

theorem getLast?_trimEnd (cs : List Char) : ∀ c ∈ (trimEnd cs).getLast?, isBlank c = false := by
  rw [trimEnd_eq_reverse, List.getLast?_reverse]
  exact head?_trimStart _

theorem trimStart_isSuffix_self (cs : List Char) : trimStart cs <:+ cs :=
  List.dropWhile_suffix _

theorem trimEnd_isPrefix_self (cs : List Char) : trimEnd cs <+: cs := by
  rw [trimEnd_eq_reverse, ← List.reverse_suffix, List.reverse_reverse]
  exact trimStart_isSuffix_self _

/-- A trimmed text begins with a character that is not blank. -/
theorem head?_trim (cs : List Char) : ∀ c ∈ (trim cs).head?, isBlank c = false := by
  intro c hc
  -- the trimmed text begins as the text without its leading blanks does
  obtain ⟨t, ht⟩ := trimEnd_isPrefix_self (trimStart cs)
  rw [trim] at hc
  have hhead : c ∈ (trimStart cs).head? := by
    rw [← ht, List.head?_append, Option.mem_def.1 hc]
    rfl
  exact head?_trimStart cs c hhead

/-- A trimmed text ends with a character that is not blank. -/
theorem getLast?_trim (cs : List Char) : ∀ c ∈ (trim cs).getLast?, isBlank c = false :=
  getLast?_trimEnd _

/-- A text whose ends are not blank trims to itself. -/
theorem trim_eq_self_of_ends {cs : List Char} (h₁ : ∀ c ∈ cs.head?, isBlank c = false)
    (h₂ : ∀ c ∈ cs.getLast?, isBlank c = false) : trim cs = cs := by
  rw [trim, trimStart_eq_self_of_head h₁, trimEnd_eq_self_of_getLast h₂]

theorem trim_trim (cs : List Char) : trim (trim cs) = trim cs :=
  trim_eq_self_of_ends (head?_trim cs) (getLast?_trim cs)

theorem trim_isInfix_self (cs : List Char) : trim cs <:+: cs :=
  (trimEnd_isPrefix_self _).isInfix.trans (trimStart_isSuffix_self cs).isInfix

/-- Trimming a text that begins with a blank shortens it. -/
theorem length_trim_lt {c : Char} (cs : List Char) (hc : isBlank c = true) :
    (trim (c :: cs)).length < (c :: cs).length := by
  have hstart : trimStart (c :: cs) = trimStart cs := by
    rw [trimStart, List.dropWhile_cons_of_pos hc, ← trimStart]
  have h₁ := (trimEnd_isPrefix_self (trimStart cs)).length_le
  have h₂ := (trimStart_isSuffix_self cs).length_le
  rw [trim, hstart]
  simp only [List.length_cons]
  omega

-- ---------------------------------------------------------------------------
-- Words
-- ---------------------------------------------------------------------------

theorem pieces_ne_nil (cs : List Char) : words.pieces cs ≠ [] := by
  cases cs with
  | nil => simp [words.pieces]
  | cons c cs =>
    rw [words.pieces]
    split
    · simp
    · split <;> simp

theorem pieces_cons_of_not_blank {c : Char} (cs : List Char) (hc : isBlank c = false) :
    ∃ w ws, words.pieces cs = w :: ws ∧ words.pieces (c :: cs) = (c :: w) :: ws := by
  obtain ⟨w, ws, h⟩ := List.exists_cons_of_ne_nil (pieces_ne_nil cs)
  exact ⟨w, ws, h, by rw [words.pieces, h]; simp [hc]⟩

theorem pieces_cons_of_blank {c : Char} (cs : List Char) (hc : isBlank c = true) :
    words.pieces (c :: cs) = [] :: words.pieces cs := by
  obtain ⟨w, ws, h⟩ := List.exists_cons_of_ne_nil (pieces_ne_nil cs)
  rw [words.pieces, h]
  simp [hc]

/-- A run without blanks is one piece. -/
theorem pieces_of_not_blank {w : List Char} (hw : ∀ c ∈ w, isBlank c = false) :
    words.pieces w = [w] := by
  induction w with
  | nil => rfl
  | cons c w ih =>
    obtain ⟨w', ws, h, hcons⟩ := pieces_cons_of_not_blank w (hw c List.mem_cons_self)
    rw [ih fun d hd => hw d (List.mem_cons_of_mem c hd)] at h
    injection h with h₁ h₂
    rw [hcons, h₁, h₂]

/-- A run without blanks followed by a blank is the first piece. -/
theorem pieces_append_blank {w : List Char} (hw : ∀ c ∈ w, isBlank c = false) {b : Char}
    (hb : isBlank b = true) (rest : List Char) :
    words.pieces (w ++ b :: rest) = w :: words.pieces rest := by
  induction w with
  | nil => exact pieces_cons_of_blank rest hb
  | cons c w ih =>
    obtain ⟨w', ws, h, hcons⟩ := pieces_cons_of_not_blank (w ++ b :: rest)
      (hw c List.mem_cons_self)
    rw [ih fun d hd => hw d (List.mem_cons_of_mem c hd)] at h
    injection h with h₁ h₂
    rw [List.cons_append, hcons, h₁, h₂]

/-- The pieces of a text are runs of its characters that are not blank. -/
theorem mem_of_mem_pieces {cs w : List Char} (hw : w ∈ words.pieces cs) :
    ∀ c ∈ w, isBlank c = false ∧ c ∈ cs := by
  induction cs generalizing w with
  | nil => simp [words.pieces] at hw; simp [hw]
  | cons d cs ih =>
    cases hd : isBlank d with
    | true =>
      rw [pieces_cons_of_blank cs hd, List.mem_cons] at hw
      rcases hw with rfl | hw
      · simp
      · exact fun c hc => ⟨(ih hw c hc).1, List.mem_cons_of_mem d (ih hw c hc).2⟩
    | false =>
      obtain ⟨w', ws, h, hcons⟩ := pieces_cons_of_not_blank cs hd
      rw [hcons, List.mem_cons] at hw
      have hw' : ∀ u ∈ w' :: ws, ∀ c ∈ u, isBlank c = false ∧ c ∈ cs :=
        fun u hu => ih (h ▸ hu)
      rcases hw with rfl | hw
      · intro c hc
        rcases List.mem_cons.1 hc with rfl | hc
        · exact ⟨hd, List.mem_cons_self⟩
        · exact ⟨(hw' w' List.mem_cons_self c hc).1,
            List.mem_cons_of_mem _ (hw' w' List.mem_cons_self c hc).2⟩
      · exact fun c hc => ⟨(hw' w (List.mem_cons_of_mem w' hw) c hc).1,
          List.mem_cons_of_mem d (hw' w (List.mem_cons_of_mem w' hw) c hc).2⟩

/-- The words of a text are non-empty runs of its characters that are not blank. -/
theorem mem_words {cs w : List Char} (hw : w ∈ words cs) :
    w ≠ [] ∧ ∀ c ∈ w, isBlank c = false ∧ c ∈ cs := by
  rw [words, List.mem_filter] at hw
  exact ⟨by simpa using hw.2, mem_of_mem_pieces hw.1⟩

-- ---------------------------------------------------------------------------
-- Trimming a mapped text
-- ---------------------------------------------------------------------------

section FlatMap

/- A map of characters to texts that leaves each blank as it is and makes of every other
character a non-empty text without blanks: case mappings are such maps. Trimming then commutes
with it. -/
variable {f : Char → List Char} (hblank : ∀ c, isBlank c = true → f c = [c])
  (hne : ∀ c, f c ≠ []) (hkeep : ∀ c, ∀ d ∈ f c, isBlank d = true → isBlank c = true)
include hblank hne hkeep

theorem trimStart_flatMap (cs : List Char) :
    trimStart (cs.flatMap f) = (trimStart cs).flatMap f := by
  induction cs with
  | nil => rfl
  | cons c cs ih =>
    by_cases hc : isBlank c = true
    · -- a blank stays a blank and is trimmed on both sides
      rw [List.flatMap_cons, hblank c hc, List.singleton_append, trimStart,
        List.dropWhile_cons_of_pos hc, ← trimStart, ih, trimStart, trimStart,
        List.dropWhile_cons_of_pos hc]
    · -- any other character starts its image with a character that is not blank
      obtain ⟨d, ds, hd⟩ := List.exists_cons_of_ne_nil (hne c)
      have hdb : isBlank d = false := by
        cases hb : isBlank d with
        | false => rfl
        | true => exact absurd (hkeep c d (by simp [hd]) hb) hc
      rw [List.flatMap_cons, hd, List.cons_append, trimStart_cons_of_not_blank _ hdb,
        trimStart_cons_of_not_blank _ (by simpa using hc), List.flatMap_cons, hd,
        List.cons_append]

theorem trimEnd_flatMap (cs : List Char) :
    trimEnd (cs.flatMap f) = (trimEnd cs).flatMap f := by
  -- trimming the end trims the start of the reversed text, mapped by the reversed images
  have hrev : trimStart (cs.reverse.flatMap (List.reverse ∘ f)) =
      (trimStart cs.reverse).flatMap (List.reverse ∘ f) :=
    trimStart_flatMap (f := List.reverse ∘ f) (fun c hc => by simp [hblank c hc])
      (fun c => by simpa using hne c)
      (fun c d hd => hkeep c d (by simpa using hd)) cs.reverse
  rw [trimEnd_eq_reverse, List.reverse_flatMap, hrev, List.reverse_flatMap, trimEnd_eq_reverse]
  simp [Function.comp_def]

/-- Trimming commutes with a map that keeps blanks and makes no blank of anything else. -/
theorem trim_flatMap (cs : List Char) : trim (cs.flatMap f) = (trim cs).flatMap f := by
  rw [trim, trimStart_flatMap hblank hne hkeep, trimEnd_flatMap hblank hne hkeep, trim]

end FlatMap

end Catalog.Text
