import Mathlib
import Catalog.Proofs.Matching.Keys
import Catalog.Proofs.Text.CaseStable

/-!
# Reading a key again

A key is the text a normalizer makes of a field. Read again as a field, an ISBN or ISSN key
gives itself back. The other keys give themselves back only when the first reading left
nothing in them that a second reading takes out:

* an LCCN key keeps the hyphens of the serial number after the first hyphen, and a second
  reading drops the first hyphen of the key;
* a control number key `(P)N` has at the head of its number whatever stood behind the leading
  zeros of the field, a blank or a marker (`ocm`, `ocn`, `on`) too, and a second reading drops
  these;
* a text key holds what lower case makes of letters and digits, which need not be letters or
  digits (`İ` becomes `i` and a combining dot), and a second reading blanks out every other
  character.

In each case the condition is exact: the key gives itself back exactly when it holds no such
remainder. What makes the rest read back is that case mapping settles in one step
(`Catalog.Text.toLower_toLower`, `Catalog.Text.toUpper_toUpper`).

## Main results

* `lccnKey_reread`: an LCCN key reads back exactly when it has no hyphen
* `controlNumberKey_reread`: a control number key reads back exactly when its number begins
  with neither a blank nor a marker
* `textKey_reread`: a text key reads back exactly when its characters are letters, digits and
  spaces
* `keys_reread`: the five normalizers on texts
-/

namespace Catalog.Matching

open Catalog.Text

-- ---------------------------------------------------------------------------
-- Splitting at the first separator
-- ---------------------------------------------------------------------------

theorem splitAtFirst_eq_none {sep : Char} {cs : List Char} :
    splitAtFirst sep cs = none ↔ sep ∉ cs := by
  induction cs with
  | nil => simp [splitAtFirst]
  | cons c cs ih =>
    by_cases hc : c = sep
    · subst hc
      simp [splitAtFirst]
    · simp [splitAtFirst, hc, ih, Ne.symm hc]

theorem eq_append_of_splitAtFirst {sep : Char} {cs a b : List Char}
    (h : splitAtFirst sep cs = some (a, b)) : cs = a ++ sep :: b ∧ sep ∉ a := by
  induction cs generalizing a b with
  | nil => simp [splitAtFirst] at h
  | cons c cs ih =>
    by_cases hc : c = sep
    · subst hc
      simp only [splitAtFirst, if_true, Option.some.injEq, Prod.mk.injEq] at h
      obtain ⟨rfl, rfl⟩ := h
      simp
    · simp only [splitAtFirst, hc, if_false, Option.map_eq_some_iff, Prod.exists,
        Prod.mk.injEq] at h
      obtain ⟨a', b', hsplit, rfl, rfl⟩ := h
      obtain ⟨rfl, hnot⟩ := ih hsplit
      exact ⟨rfl, by simp [Ne.symm hc, hnot]⟩

theorem splitAtFirst_append {sep : Char} {a : List Char} (h : sep ∉ a) (b : List Char) :
    splitAtFirst sep (a ++ sep :: b) = some (a, b) := by
  induction a with
  | nil => simp [splitAtFirst]
  | cons c a ih =>
    have hc : c ≠ sep := fun hc => h (hc ▸ List.mem_cons_self)
    rw [List.cons_append, splitAtFirst, if_neg hc, ih fun h' => h (List.mem_cons_of_mem c h')]
    rfl

-- ---------------------------------------------------------------------------
-- LCCN keys
-- ---------------------------------------------------------------------------

section Lccn

theorem joinSerial_of_not_mem {cs : List Char} (h : '-' ∉ cs) : joinSerial cs = cs := by
  simp [joinSerial, splitAtFirst_eq_none.2 h]

/-- Joining the serial number adds nothing but zeros. -/
theorem mem_joinSerial {cs : List Char} {d : Char} (hd : d ∈ joinSerial cs) :
    d ∈ cs ∨ d = '0' := by
  unfold joinSerial at hd
  cases hs : splitAtFirst '-' cs with
  | none =>
    simp only [hs] at hd
    exact .inl hd
  | some p =>
    obtain ⟨pre, serial⟩ := p
    obtain ⟨rfl, -⟩ := eq_append_of_splitAtFirst hs
    simp only [hs] at hd
    have hpart : d ∈ pre ∨ d ∈ serial ∨ d = '0' := by
      split at hd <;> simp only [padZeros, List.mem_append, List.mem_replicate] at hd <;> tauto
    rcases hpart with h | h | h
    · exact .inl (List.mem_append_left _ h)
    · exact .inl (List.mem_append_right _ (List.mem_cons_of_mem _ h))
    · exact .inr h

/-- Joining the serial number drops the first hyphen. -/
theorem count_joinSerial (cs : List Char) : (joinSerial cs).count '-' = cs.count '-' - 1 := by
  unfold joinSerial
  cases hs : splitAtFirst '-' cs with
  | none =>
    simp [List.count_eq_zero.2 (splitAtFirst_eq_none.1 hs)]
  | some p =>
    obtain ⟨pre, serial⟩ := p
    obtain ⟨rfl, hpre⟩ := eq_append_of_splitAtFirst hs
    have hpre0 : pre.count '-' = 0 := List.count_eq_zero.2 hpre
    -- the padding is zeros
    have hpad : (padZeros 6 serial).count '-' = serial.count '-' := by
      simp [padZeros, List.count_replicate]
    dsimp only
    split <;> simp [hpre0, hpad]

/-- The blanks are dropped from an LCCN and it is cut at the first solidus. -/
theorem mem_lccnCompact {raw : List Char} {d : Char}
    (hd : d ∈ (raw.filter fun c => !isBlank c).takeWhile (· ≠ '/')) :
    isBlank d = false ∧ d ≠ '/' := by
  have hcut := List.mem_takeWhile_imp hd
  have hfilter := List.mem_filter.1 ((List.takeWhile_sublist _).subset hd)
  simp only [ne_eq, decide_eq_true_eq] at hcut
  simp only [Bool.not_eq_eq_eq_not, Bool.not_true] at hfilter
  exact ⟨hfilter.2, hcut⟩

theorem lccnCompact_eq_self {cs : List Char} (h : ∀ d ∈ cs, isBlank d = false ∧ d ≠ '/') :
    (cs.filter fun c => !isBlank c).takeWhile (· ≠ '/') = cs := by
  rw [List.filter_eq_self.2 fun d hd => by simp [(h d hd).1],
    List.takeWhile_eq_self_iff.2 fun d hd => by simp [(h d hd).2]]

theorem lccnKey_eq_some {raw k : List Char} :
    lccnKey raw = some k ↔
      k = toLower (joinSerial ((raw.filter fun c => !isBlank c).takeWhile (· ≠ '/'))) ∧
        k ≠ [] := by
  unfold lccnKey
  dsimp only
  split
  · rename_i hempty
    simp only [reduceCtorEq, false_iff, not_and]
    rintro rfl
    simpa using hempty
  · rename_i hempty
    simp only [Option.some.injEq]
    constructor
    · rintro rfl
      exact ⟨rfl, by simpa using hempty⟩
    · rintro ⟨rfl, -⟩
      rfl

/-- **LCCN keys read back exactly when they have no hyphen.** A second reading drops the first
hyphen of the key, and lower case changes nothing more. -/
theorem lccnKey_reread {raw k : List Char} (h : lccnKey raw = some k) :
    lccnKey k = some k ↔ '-' ∉ k := by
  obtain ⟨hk, hne⟩ := lccnKey_eq_some.1 h
  -- lower case makes blanks and solidi only of themselves, and the compact text had none
  have hclean : ∀ d ∈ k, isBlank d = false ∧ d ≠ '/' := by
    intro d hd
    rw [hk] at hd
    have hsource : ∀ hav : inRanges lowerAvoid d.toNat = true,
        isBlank d = false ∧ d ≠ '/' := fun hav => by
      rcases mem_joinSerial (mem_of_mem_toLower hd hav) with hc | rfl
      · exact mem_lccnCompact hc
      · decide
    constructor
    · cases hb : isBlank d with
      | false => rfl
      | true => exact absurd hb (by simp [(hsource (inRanges_lowerAvoid_of_isBlank hb)).1])
    · rintro rfl
      exact (hsource (by decide)).2 rfl
  rw [lccnKey_eq_some, lccnCompact_eq_self hclean]
  constructor
  · rintro ⟨hk', -⟩ hmem
    -- the second reading has one hyphen less
    have hcount := congrArg (List.count '-') hk'
    rw [count_toLower, count_joinSerial] at hcount
    have hpos : 0 < k.count '-' := List.count_pos_iff.2 hmem
    omega
  · intro hnot
    refine ⟨?_, hne⟩
    rw [joinSerial_of_not_mem hnot, hk, toLower_toLower]

end Lccn

-- ---------------------------------------------------------------------------
-- Control number keys
-- ---------------------------------------------------------------------------

section ControlNumber

/-- The number of a control number is a part of the trimmed number. -/
theorem controlDigits_isSuffix (number : List Char) : controlDigits number <:+ trim number := by
  unfold controlDigits
  refine (List.dropWhile_suffix _).trans ?_
  split
  · exact (trimStart_isSuffix_self _).trans (List.drop_suffix _ _)
  · exact List.suffix_refl _

theorem getLast?_controlDigits (number : List Char) :
    ∀ c ∈ (controlDigits number).getLast?, isBlank c = false := by
  intro c hc
  obtain ⟨t, ht⟩ := controlDigits_isSuffix number
  have hlast : c ∈ (trim number).getLast? := by
    rw [← ht, List.getLast?_append, Option.mem_def.1 hc]
    rfl
  exact getLast?_trim number c hlast

theorem head?_dropWhile_zero (l : List Char) : ∀ c ∈ (l.dropWhile (· = '0')).head?, c ≠ '0' := by
  intro c hc
  have := List.head?_dropWhile_not (fun x => decide (x = '0')) l
  simp only [Option.mem_def.1 hc] at this
  simpa using this

/-- The number of a control number does not begin with a zero. -/
theorem head?_controlDigits (number : List Char) :
    ∀ c ∈ (controlDigits number).head?, c ≠ '0' :=
  head?_dropWhile_zero _

theorem length_controlDigits_le (number : List Char) :
    (controlDigits number).length ≤ (trim number).length :=
  (controlDigits_isSuffix number).length_le

theorem markers_length {m : List Char} (hm : m ∈ controlMarkers) : 2 ≤ m.length := by
  simp only [controlMarkers, List.mem_cons, List.not_mem_nil, or_false] at hm
  rcases hm with rfl | rfl | rfl <;> decide

/-- A trimmed number that begins with a marker loses at least the marker. -/
theorem length_controlDigits_of_marker {number m : List Char} (htrim : trim number = number)
    (hm : m ∈ controlMarkers) (hs : startsWithMarker number m = true) :
    (controlDigits number).length < number.length := by
  unfold controlDigits
  simp only [htrim]
  cases hfind : controlMarkers.find? (startsWithMarker number) with
  | none => exact absurd hs (by simpa using List.find?_eq_none.1 hfind m hm)
  | some m' =>
    have hlen := markers_length (List.mem_of_find?_eq_some hfind)
    have hs' := List.find?_some hfind
    simp only [startsWithMarker, Bool.and_eq_true, decide_eq_true_eq] at hs'
    have h₁ := (List.dropWhile_suffix (fun x : Char => decide (x = '0'))
      (l := trimStart (number.drop m'.length))).length_le
    have h₂ := (trimStart_isSuffix_self (number.drop m'.length)).length_le
    simp only [List.length_drop] at h₂
    simp only
    omega

/-- A number reads back as itself exactly when it begins with neither a blank nor a marker. -/
theorem controlDigits_eq_self_iff {number : List Char}
    (hlast : ∀ c ∈ number.getLast?, isBlank c = false) (hzero : ∀ c ∈ number.head?, c ≠ '0') :
    controlDigits number = number ↔ (∀ c ∈ number.head?, isBlank c = false) ∧
      ∀ m ∈ controlMarkers, startsWithMarker number m = false := by
  constructor
  · intro hself
    -- a number that begins with a blank or a marker loses it, and grows shorter
    have hhead : ∀ c ∈ number.head?, isBlank c = false := by
      intro c hc
      cases hb : isBlank c with
      | false => rfl
      | true =>
        obtain ⟨cs, rfl⟩ : ∃ cs, number = c :: cs := by
          cases number with
          | nil => simp at hc
          | cons d cs => exact ⟨cs, by simp_all⟩
        have := length_trim_lt cs hb
        have := length_controlDigits_le (c :: cs)
        rw [hself] at this
        omega
    refine ⟨hhead, fun m hm => ?_⟩
    cases hs : startsWithMarker number m with
    | false => rfl
    | true =>
      have := length_controlDigits_of_marker (trim_eq_self_of_ends hhead hlast) hm hs
      rw [hself] at this
      omega
  · rintro ⟨hhead, hmarkers⟩
    have htrim : trim number = number := trim_eq_self_of_ends hhead hlast
    have hfind : controlMarkers.find? (startsWithMarker number) = none :=
      List.find?_eq_none.2 fun m hm => by simp [hmarkers m hm]
    unfold controlDigits
    simp only [htrim, hfind]
    cases number with
    | nil => rfl
    | cons c cs => exact List.dropWhile_cons_of_neg (by simpa using hzero c rfl)

/-- A control number key is `(P)N`, with `P` the trimmed, upper-cased text before the first
closing parenthesis and `N` the number after it. -/
theorem exists_of_controlNumberKey {raw k : List Char} (h : controlNumberKey raw = some k) :
    ∃ pre number, trim raw = '(' :: pre ++ ')' :: number ∧ ')' ∉ pre ∧
      toUpper (trim pre) ≠ [] ∧ controlDigits number ≠ [] ∧
      k = '(' :: toUpper (trim pre) ++ ')' :: controlDigits number := by
  unfold controlNumberKey at h
  split at h
  · rename_i rest hraw
    cases hs : splitAtFirst ')' rest with
    | none => simp [hs] at h
    | some p =>
      obtain ⟨pre, number⟩ := p
      obtain ⟨rfl, hpre⟩ := eq_append_of_splitAtFirst hs
      simp only [hs, List.isEmpty_iff] at h
      split at h
      · simp at h
      · split at h
        · simp at h
        · rename_i hp hn
          exact ⟨pre, number, hraw, hpre, hp, hn, (Option.some.inj h).symm⟩
  · simp at h

/-- The key of a text that trims to `(P)N`, with no closing parenthesis in `P`. -/
theorem controlNumberKey_eq {raw pre number : List Char}
    (htrim : trim raw = '(' :: pre ++ ')' :: number) (hpre : ')' ∉ pre) :
    controlNumberKey raw =
      if toUpper (trim pre) = [] then none
      else if controlDigits number = [] then none
      else some ('(' :: toUpper (trim pre) ++ ')' :: controlDigits number) := by
  unfold controlNumberKey
  rw [htrim]
  split
  · rename_i rest hrest
    obtain rfl := (List.cons.inj hrest).2
    simp only [List.append_eq, splitAtFirst_append hpre, List.isEmpty_iff]
  · rename_i hnot
    exact absurd rfl (hnot (pre ++ ')' :: number))

/-- **Control number keys read back exactly when their number begins with neither a blank nor
a marker.** The prefix is trimmed and upper-cased already and reads back; a second reading of
the number drops a leading blank or marker. -/
theorem controlNumberKey_reread {raw k : List Char} (h : controlNumberKey raw = some k) :
    ∃ p n, k = '(' :: p ++ ')' :: n ∧ ')' ∉ p ∧
      (controlNumberKey k = some k ↔ (∀ c ∈ n.head?, isBlank c = false) ∧
        ∀ m ∈ controlMarkers, startsWithMarker n m = false) := by
  obtain ⟨pre, number, -, hpre, hp, hn, rfl⟩ := exists_of_controlNumberKey h
  -- upper case makes a closing parenthesis only of itself
  have hpclose : ')' ∉ toUpper (trim pre) := fun hmem =>
    hpre ((trim_isInfix_self pre).subset (mem_of_mem_toUpper hmem (by decide)))
  -- the prefix is trimmed and upper-cased already
  have hpsettled : toUpper (trim (toUpper (trim pre))) = toUpper (trim pre) := by
    rw [trim_toUpper, trim_trim, toUpper_toUpper]
  -- the key begins with a parenthesis and ends as its number does
  have hlast : ∀ c ∈ ('(' :: toUpper (trim pre) ++ ')' :: controlDigits number).getLast?,
      isBlank c = false := by
    obtain ⟨c, hc⟩ := Option.ne_none_iff_exists'.1
      (mt List.getLast?_eq_none_iff.1 hn)
    rw [show '(' :: toUpper (trim pre) ++ ')' :: controlDigits number =
        ('(' :: toUpper (trim pre) ++ [')']) ++ controlDigits number by simp,
      List.getLast?_append, hc, Option.some_or, ← hc]
    exact getLast?_controlDigits number
  have htrim := trim_eq_self_of_ends (by intro c hc; simp at hc; subst hc; decide) hlast
  refine ⟨_, _, rfl, hpclose, ?_⟩
  rw [controlNumberKey_eq htrim hpclose, hpsettled, if_neg hp,
    ← controlDigits_eq_self_iff (getLast?_controlDigits number) (head?_controlDigits number)]
  split
  · rename_i hnil
    simp only [reduceCtorEq, false_iff]
    intro hself
    exact hn (hself ▸ hnil)
  · simp

end ControlNumber

-- ---------------------------------------------------------------------------
-- Text keys
-- ---------------------------------------------------------------------------

section Text

theorem joinWords_cons_cons (w w' : List Char) (ws : List (List Char)) :
    joinWords (w :: w' :: ws) = w ++ ' ' :: joinWords (w' :: ws) := rfl

/-- A character of words joined by blanks is a character of a word, or a joining blank. -/
theorem mem_joinWords {ws : List (List Char)} {c : Char} (h : c ∈ joinWords ws) :
    (∃ w ∈ ws, c ∈ w) ∨ c = ' ' := by
  induction ws using joinWords.induct with
  | case1 => simp [joinWords] at h
  | case2 w => exact .inl ⟨w, List.mem_singleton_self w, by simpa [joinWords] using h⟩
  | case3 w ws hws ih =>
    obtain ⟨w', ws', rfl⟩ := List.exists_cons_of_ne_nil hws
    rw [joinWords_cons_cons, List.mem_append, List.mem_cons] at h
    rcases h with h | rfl | h
    · exact .inl ⟨w, List.mem_cons_self, h⟩
    · exact .inr rfl
    · rcases ih h with ⟨u, hu, hc⟩ | hc
      · exact .inl ⟨u, List.mem_cons_of_mem w hu, hc⟩
      · exact .inr hc

theorem pieces_joinWords {ws : List (List Char)} (h : ∀ w ∈ ws, ∀ c ∈ w, isBlank c = false)
    (hne : ws ≠ []) : words.pieces (joinWords ws) = ws := by
  induction ws using joinWords.induct with
  | case1 => exact absurd rfl hne
  | case2 w => exact pieces_of_not_blank (h w (List.mem_singleton_self w))
  | case3 w ws hws ih =>
    obtain ⟨w', ws', rfl⟩ := List.exists_cons_of_ne_nil hws
    rw [joinWords_cons_cons, pieces_append_blank (h w List.mem_cons_self) (by decide),
      ih (fun u hu => h u (List.mem_cons_of_mem w hu)) (List.cons_ne_nil _ _)]

/-- Non-empty words without blanks, joined by blanks, split back into themselves. -/
theorem words_joinWords {ws : List (List Char)}
    (h : ∀ w ∈ ws, w ≠ [] ∧ ∀ c ∈ w, isBlank c = false) : words (joinWords ws) = ws := by
  cases ws with
  | nil => rfl
  | cons w ws =>
    rw [words, pieces_joinWords (fun u hu => (h u hu).2) (List.cons_ne_nil _ _)]
    exact List.filter_eq_self.2 fun u hu => by simpa using (h u hu).1

theorem textKey_eq_some {raw k : List Char} :
    textKey raw = some k ↔
      words (toLower (raw.map fun c => if isAlphanumeric c then c else ' ')) ≠ [] ∧
        k = joinWords (words (toLower (raw.map fun c => if isAlphanumeric c then c else ' '))) := by
  unfold textKey
  dsimp only
  split
  · rename_i hempty
    simp only [reduceCtorEq, false_iff, not_and]
    intro hne
    exact absurd (List.isEmpty_iff.1 hempty) hne
  · rename_i hempty
    simp only [Option.some.injEq]
    constructor
    · rintro rfl
      exact ⟨by simpa using hempty, rfl⟩
    · rintro ⟨-, rfl⟩
      rfl

/-- Every character of a text key is left alone by lower-casing. -/
theorem lowerChar_of_mem_textKey {raw k : List Char} (h : textKey raw = some k) {d : Char}
    (hd : d ∈ k) : lowerChar d = [d] ∧ d ≠ 'Σ' := by
  obtain ⟨-, rfl⟩ := textKey_eq_some.1 h
  rcases mem_joinWords hd with ⟨w, hw, hdw⟩ | rfl
  · exact lowerChar_of_mem_toLower ((mem_words hw).2 d hdw).2
  · decide

/-- **Text keys read back exactly when their characters are letters, digits and spaces.** A
second reading blanks out every other character, and lower case changes nothing more. -/
theorem textKey_reread {raw k : List Char} (h : textKey raw = some k) :
    textKey k = some k ↔ ∀ c ∈ k, isAlphanumeric c = true ∨ c = ' ' := by
  have hlower : ∀ d ∈ k, lowerChar d = [d] ∧ d ≠ 'Σ' := fun _ hd => lowerChar_of_mem_textKey h hd
  -- the second reading cleans the key into characters that lower case leaves alone
  have hclean : toLower (k.map fun c => if isAlphanumeric c then c else ' ') =
      k.map fun c => if isAlphanumeric c then c else ' ' := by
    refine toLower_eq_self fun d hd => ?_
    obtain ⟨c, hc, rfl⟩ := List.mem_map.1 hd
    split
    · exact hlower c hc
    · decide
  rw [textKey_eq_some, hclean]
  constructor
  · rintro ⟨-, hk⟩ c hc
    rw [hk] at hc
    rcases mem_joinWords hc with ⟨w, hw, hcw⟩ | rfl
    · -- a character of a word is no blank, so it was kept as a letter or digit
      obtain ⟨hblank, hmem⟩ := (mem_words hw).2 c hcw
      obtain ⟨d, -, hdc⟩ := List.mem_map.1 hmem
      split at hdc
      · rename_i halnum
        exact .inl (hdc ▸ halnum)
      · exact absurd (hdc ▸ hblank) (by decide)
    · exact .inr rfl
  · intro hall
    have hmap : (k.map fun c => if isAlphanumeric c then c else ' ') = k := by
      refine (List.map_congr_left fun c hc => ?_).trans (List.map_id _)
      rcases hall c hc with halnum | rfl
      · simp [halnum]
      · exact ite_self _
    obtain ⟨hne, hk⟩ := textKey_eq_some.1 h
    -- the key splits back into the words it was joined from
    have hwords : words k = words (toLower (raw.map fun c => if isAlphanumeric c then c else ' ')) := by
      rw [hk]
      exact words_joinWords fun w hw => ⟨(mem_words hw).1, fun c hc => ((mem_words hw).2 c hc).1⟩
    rw [hmap, hwords]
    exact ⟨hne, hk⟩

end Text

-- ---------------------------------------------------------------------------
-- The five normalizers
-- ---------------------------------------------------------------------------

theorem map_ofList_eq_some {o : Option (List Char)} {k : String} :
    o.map String.ofList = some k ↔ o = some k.toList := by
  cases o with
  | none => simp
  | some l =>
    simp only [Option.map_some, Option.some.injEq]
    constructor
    · rintro rfl
      simp
    · rintro rfl
      simp

/-- **Reading a key again.** An ISBN or ISSN key is its own key. An LCCN key is its own key
exactly when it has no hyphen. A control number key `(P)N` is its own key exactly when its
number `N` begins with neither a blank nor a marker. A text key is its own key exactly when its
characters are letters, digits and spaces. -/
theorem keys_reread (raw k : String) :
    (Normalizer.isbn.apply raw = some k → Normalizer.isbn.apply k = some k) ∧
    (Normalizer.issn.apply raw = some k → Normalizer.issn.apply k = some k) ∧
    (Normalizer.lccn.apply raw = some k →
      (Normalizer.lccn.apply k = some k ↔ '-' ∉ k.toList)) ∧
    (Normalizer.controlNumber.apply raw = some k →
      ∃ p n, k.toList = '(' :: p ++ ')' :: n ∧ ')' ∉ p ∧
        (Normalizer.controlNumber.apply k = some k ↔ (∀ c ∈ n.head?, isBlank c = false) ∧
          ∀ m ∈ controlMarkers, startsWithMarker n m = false)) ∧
    (Normalizer.text.apply raw = some k →
      (Normalizer.text.apply k = some k ↔ ∀ c ∈ k.toList, isAlphanumeric c = true ∨ c = ' ')) := by
  simp only [Normalizer.apply, map_ofList_eq_some]
  exact ⟨isbnKey_idem, issnKey_idem, lccnKey_reread, controlNumberKey_reread, textKey_reread⟩

/-- An LCCN key with a hyphen: `ab--c` has the key `ab-c`, which is not its own key. -/
theorem lccn_key_with_hyphen :
    Normalizer.lccn.apply "ab--c" = some "ab-c" ∧ Normalizer.lccn.apply "ab-c" ≠ some "ab-c" := by
  have hkey : Normalizer.lccn.apply "ab--c" = some "ab-c" := by decide
  exact ⟨hkey, fun hself => ((keys_reread "ab--c" "ab-c").2.2.1 hkey).1 hself (by decide)⟩

/-- Keys that are not their own keys: the LCCN `ab--c`, the control number `(OCoLC)0 5`, whose
number keeps the blank behind its zero, and the text `İstanbul`, whose lower case has a
combining dot. -/
theorem keys_not_reread :
    Normalizer.lccn.apply "ab--c" = some "ab-c" ∧ Normalizer.lccn.apply "ab-c" = some "abc" ∧
    Normalizer.controlNumber.apply "(OCoLC)0 5" = some "(OCOLC) 5" ∧
    Normalizer.controlNumber.apply "(OCOLC) 5" = some "(OCOLC)5" ∧
    Normalizer.text.apply "İstanbul" = some "i\u0307stanbul" ∧
    Normalizer.text.apply "i\u0307stanbul" = some "i stanbul" :=
  ⟨by decide, by decide, by decide, by decide, by decide +kernel, by decide +kernel⟩

end Catalog.Matching
