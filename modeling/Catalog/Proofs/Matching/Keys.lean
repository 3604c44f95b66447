import Mathlib
import Catalog.Matching.Normalizer
import Catalog.Proofs.Text.Blanks

/-!
# Keys of standard numbers

An ISBN is read from the start of a field: after the leading blanks, the run of digits, `X`,
`x` and hyphens, up to the first character that cannot continue it, so a qualifier such as
`(pbk.)` after the number is ignored and hyphens may stand anywhere in the number. Ten
characters whose first nine are digits become the ISBN-13 `978`, those nine digits and the
EAN-13 check digit; thirteen digits stand as they are. So the ISBN-10 and the ISBN-13 forms of
a book share one key, and a key is its own key. The same holds of ISSN keys.

The EAN-13 check digit is stated here on its own (`eanCheck`): the weights 1 and 3 alternate
from the first digit, and the check digit is `(10 - sum mod 10) mod 10`.

## Main results

* `identifierChars_append`: the standard number at the start of a text
* `eanCheckDigit_eq`: the check digit the key computes is the EAN-13 check digit
* `isbnKey_of_ten`, `isbnKey_of_thirteen`: the keys of the two forms of an ISBN
* `isbn_ten_and_thirteen_share_key`: both forms, hyphenated and qualified anyhow, share a key
* `isbnKey_idem`, `issnKey_idem`: a key is its own key
-/

namespace Catalog.Matching

open Catalog.Text

-- ---------------------------------------------------------------------------
-- Identifier characters
-- ---------------------------------------------------------------------------

theorem isIdentifierChar_of_isDigit {c : Char} (h : c.isDigit = true) :
    isIdentifierChar c = true := by
  simp [isIdentifierChar, h]

theorem isBlank_of_isIdentifierChar {c : Char} (h : isIdentifierChar c = true) :
    isBlank c = false := by
  simp only [isIdentifierChar, Bool.or_eq_true, decide_eq_true_eq] at h
  rcases h with ((hd | rfl) | rfl) | rfl
  · exact isBlank_of_isDigit hd
  all_goals decide

theorem toUpper_of_isDigit {c : Char} (h : c.isDigit = true) : c.toUpper = c := by
  have h' := Char.isDigit_iff_toNat.1 h
  simp only [Char.reduceToNat] at h'
  refine Char.toUpper_eq_of_not_isLower fun hlow => ?_
  simp only [Char.isLower, Bool.and_eq_true, decide_eq_true_eq] at hlow
  have : (97 : Nat) ≤ c.toNat := UInt32.le_iff_toNat_le.1 hlow.1
  omega

/-- A run whose characters other than hyphens are identifier characters is made of identifier
characters. -/
theorem isIdentifierChar_of_filter {ident s : List Char} (h : ident.filter (· ≠ '-') = s)
    (hs : ∀ c ∈ s, isIdentifierChar c = true) : ∀ c ∈ ident, isIdentifierChar c = true := by
  intro c hc
  by_cases hd : c = '-'
  · subst hd
    rfl
  · exact hs c (h ▸ List.mem_filter.2 ⟨hc, by simpa using hd⟩)

/-- The standard number at the start of a text: after the leading blanks `ws`, the run `ident` of
identifier characters, which stops before a character that cannot continue it, read without
hyphens and in upper case. -/
theorem identifierChars_append {ws ident rest : List Char} (hws : ∀ c ∈ ws, isBlank c = true)
    (hident : ∀ c ∈ ident, isIdentifierChar c = true) (hne : ident ≠ [])
    (hrest : ∀ c ∈ rest.head?, isIdentifierChar c = false) :
    identifierChars (ws ++ ident ++ rest) = (ident.filter (· ≠ '-')).map Char.toUpper := by
  obtain ⟨c, cs, rfl⟩ := List.exists_cons_of_ne_nil hne
  have htrim : trimStart (ws ++ c :: cs ++ rest) = c :: cs ++ rest := by
    rw [List.append_assoc, trimStart_append_of_blank _ hws, List.cons_append,
      trimStart_cons_of_not_blank _ (isBlank_of_isIdentifierChar (hident c (by simp)))]
  -- the run ends where `rest` begins
  have htake : (c :: cs ++ rest).takeWhile isIdentifierChar = c :: cs := by
    rw [List.takeWhile_append_of_pos hident]
    cases rest with
    | nil => simp
    | cons d ds => simp [hrest d rfl]
  rw [identifierChars, htrim, htake]

/-- The characters of a standard number as read are digits and `X`. -/
theorem mem_identifierChars {raw : List Char} {c : Char} (h : c ∈ identifierChars raw) :
    c.isDigit = true ∨ c = 'X' := by
  simp only [identifierChars, List.mem_map, List.mem_filter] at h
  obtain ⟨d, ⟨hd, hne⟩, rfl⟩ := h
  have hid := List.mem_takeWhile_imp hd
  simp only [isIdentifierChar, Bool.or_eq_true, decide_eq_true_eq] at hid
  simp only [ne_eq, decide_not, Bool.not_eq_eq_eq_not, Bool.not_true,
    decide_eq_false_iff_not] at hne
  rcases hid with ((hdig | rfl) | rfl) | rfl
  · exact .inl ((toUpper_of_isDigit hdig).symm ▸ hdig)
  · exact .inr rfl
  · exact .inr rfl
  · exact absurd rfl hne

-- ---------------------------------------------------------------------------
-- The EAN-13 check digit
-- ---------------------------------------------------------------------------

/-- The EAN-13 weighted sum of a run of digits: the weights 1 and 3 alternate from the first
digit. -/
def eanSum : List Char → Nat
  | [] => 0
  | [a] => digitValue a
  | a :: b :: rest => digitValue a + 3 * digitValue b + eanSum rest

/-- The EAN-13 check digit of a run of digits: `(10 - sum mod 10) mod 10`. -/
def eanCheck (digits : List Char) : Char :=
  Nat.digitChar ((10 - eanSum digits % 10) % 10)

theorem foldl_zipIdx_weighted (l : List Char) (acc k : Nat) (hk : k % 2 = 0) :
    (l.zipIdx k).foldl
        (fun acc x => acc + digitValue x.fst * if x.snd % 2 = 0 then 1 else 3) acc =
      acc + eanSum l := by
  induction l using eanSum.induct generalizing acc k with
  | case1 => rfl
  | case2 a => simp [eanSum, hk]
  | case3 a b rest ih =>
    -- two digits at a time, so the next pair starts at an even index again
    have hk1 : (k + 1) % 2 = 1 := by omega
    rw [List.zipIdx_cons, List.zipIdx_cons, List.foldl_cons, List.foldl_cons,
      ih _ (k + 1 + 1) (by omega), eanSum]
    simp only [hk, hk1, if_true]
    simp
    omega

theorem ofNat_digit : ∀ x < 10, Char.ofNat ('0'.toNat + x) = Nat.digitChar x := by
  decide

/-- The check digit a key computes is the EAN-13 check digit. -/
theorem eanCheckDigit_eq (digits : List Char) : eanCheckDigit digits = eanCheck digits := by
  simp only [eanCheckDigit]
  rw [foldl_zipIdx_weighted digits 0 0 rfl, Nat.zero_add, eanCheck,
    ofNat_digit _ (Nat.mod_lt _ (by decide))]

theorem eanCheck_isDigit (digits : List Char) : (eanCheck digits).isDigit = true := by
  simp [eanCheck, Nat.mod_lt]

-- ---------------------------------------------------------------------------
-- ISBN keys
-- ---------------------------------------------------------------------------

section Isbn

variable {ws ident rest : List Char}

theorem map_toUpper_of_digits {t : List Char} (hdig : ∀ d ∈ t, d.isDigit = true) :
    t.map Char.toUpper = t := by
  rw [List.map_congr_left fun d hd => toUpper_of_isDigit (hdig d hd), List.map_id']

/-- Thirteen digits, hyphenated anyhow after leading blanks and before a qualifier, are their
own key. -/
theorem isbnKey_of_thirteen {t : List Char} (ht : t.length = 13)
    (hdig : ∀ d ∈ t, d.isDigit = true) (hws : ∀ c ∈ ws, isBlank c = true)
    (hident : ident.filter (· ≠ '-') = t) (hrest : ∀ c ∈ rest.head?, isIdentifierChar c = false) :
    isbnKey (ws ++ ident ++ rest) = some t := by
  have hne : ident ≠ [] := by
    rintro rfl
    simp [← hident] at ht
  have hchars : identifierChars (ws ++ ident ++ rest) = t := by
    rw [identifierChars_append hws
        (isIdentifierChar_of_filter hident fun c hc => isIdentifierChar_of_isDigit (hdig c hc))
        hne hrest, hident, map_toUpper_of_digits hdig]
  simp only [isbnKey, hchars]
  simp [ht, List.all_eq_true.2 hdig]

/-- Nine digits and a check character, hyphenated anyhow after leading blanks and before a
qualifier, have as key the ISBN-13 of the nine digits. -/
theorem isbnKey_of_ten {b : List Char} {c : Char} (hb : b.length = 9)
    (hdig : ∀ d ∈ b, d.isDigit = true) (hc : c.isDigit = true ∨ c = 'X' ∨ c = 'x')
    (hws : ∀ c ∈ ws, isBlank c = true) (hident : ident.filter (· ≠ '-') = b ++ [c])
    (hrest : ∀ c ∈ rest.head?, isIdentifierChar c = false) :
    isbnKey (ws ++ ident ++ rest) =
      some (['9', '7', '8'] ++ b ++ [eanCheck (['9', '7', '8'] ++ b)]) := by
  have hne : ident ≠ [] := by
    rintro rfl
    simp at hident
  have hid : ∀ d ∈ b ++ [c], isIdentifierChar d = true := by
    intro d hd
    rcases List.mem_append.1 hd with hd | hd
    · exact isIdentifierChar_of_isDigit (hdig d hd)
    · rw [List.mem_singleton.1 hd]
      rcases hc with hc | rfl | rfl
      · exact isIdentifierChar_of_isDigit hc
      all_goals rfl
  have hchars : identifierChars (ws ++ ident ++ rest) = b ++ [c.toUpper] := by
    rw [identifierChars_append hws (isIdentifierChar_of_filter hident hid) hne hrest, hident,
      List.map_append, map_toUpper_of_digits hdig, List.map_singleton]
  have htake : (b ++ [c.toUpper]).take 9 = b := by
    rw [List.take_append_of_le_length (by omega), List.take_of_length_le (by omega)]
  simp only [isbnKey, hchars]
  simp [hb, htake, List.all_eq_true.2 hdig, eanCheckDigit_eq]

end Isbn

-- ---------------------------------------------------------------------------
-- Keys are their own keys
-- ---------------------------------------------------------------------------

/-- An ISBN key is thirteen digits. -/
theorem isbnKey_digits {raw k : List Char} (h : isbnKey raw = some k) :
    k.length = 13 ∧ ∀ d ∈ k, d.isDigit = true := by
  simp only [isbnKey] at h
  split at h
  · rename_i hcs
    simp only [Bool.and_eq_true, decide_eq_true_eq, List.all_eq_true] at hcs
    cases h
    exact hcs
  · split at h
    · rename_i hcs
      simp only [Bool.and_eq_true, decide_eq_true_eq, List.all_eq_true] at hcs
      cases h
      refine ⟨by simp [hcs.1], fun d hd => ?_⟩
      rcases List.mem_append.1 hd with hd | hd
      · rcases List.mem_append.1 hd with hd | hd
        · simp only [List.mem_cons, List.not_mem_nil, or_false] at hd
          rcases hd with rfl | rfl | rfl <;> rfl
        · exact hcs.2 d hd
      · rw [List.mem_singleton.1 hd, eanCheckDigit_eq]
        exact eanCheck_isDigit _
    · cases h

/-- An ISBN key is its own key. -/
theorem isbnKey_idem {raw k : List Char} (h : isbnKey raw = some k) : isbnKey k = some k := by
  obtain ⟨hlen, hdig⟩ := isbnKey_digits h
  have hfilter : k.filter (· ≠ '-') = k := List.filter_eq_self.2 fun d hd => by
    have hd' := hdig d hd
    simp only [ne_eq, decide_eq_true_eq]
    rintro rfl
    exact absurd hd' (by decide)
  have hk : isbnKey ([] ++ k ++ []) = some k :=
    isbnKey_of_thirteen hlen hdig (by simp) hfilter (by simp)
  simpa using hk

/-- A standard number as read is read back as itself. -/
theorem identifierChars_idem (raw : List Char) :
    (identifierChars raw).filter (· ≠ '-') = identifierChars raw ∧
      (identifierChars raw).map Char.toUpper = identifierChars raw := by
  constructor
  · refine List.filter_eq_self.2 fun d hd => ?_
    rcases mem_identifierChars hd with hdig | rfl
    · simp only [ne_eq, decide_eq_true_eq]
      rintro rfl
      exact absurd hdig (by decide)
    · decide
  · refine (List.map_congr_left fun d hd => ?_).trans (List.map_id' _)
    rcases mem_identifierChars hd with hdig | rfl
    · exact toUpper_of_isDigit hdig
    · decide

/-- An ISSN key is its own key: its hyphen is dropped and put back in the same place. -/
theorem issnKey_idem {raw k : List Char} (h : issnKey raw = some k) : issnKey k = some k := by
  simp only [issnKey] at h
  split at h
  · rename_i hcs
    simp only [Bool.and_eq_true, decide_eq_true_eq] at hcs
    cases h
    set cs := identifierChars raw with hcs_def
    obtain ⟨hfilter, hupper⟩ := identifierChars_idem raw
    rw [← hcs_def] at hfilter hupper
    have hid : ∀ d ∈ cs, isIdentifierChar d = true := fun d hd => by
      rcases mem_identifierChars hd with hdig | rfl
      · exact isIdentifierChar_of_isDigit hdig
      · rfl
    have hidk : ∀ d ∈ cs.take 4 ++ '-' :: cs.drop 4, isIdentifierChar d = true := by
      intro d hd
      simp only [List.mem_append, List.mem_cons] at hd
      rcases hd with hd | rfl | hd
      · exact hid d (List.mem_of_mem_take hd)
      · rfl
      · exact hid d (List.mem_of_mem_drop hd)
    -- reading the key back drops its hyphen, which gives the number read at first
    have hread : identifierChars ([] ++ (cs.take 4 ++ '-' :: cs.drop 4) ++ []) = cs := by
      rw [identifierChars_append (by simp) hidk (by simp) (by simp)]
      rw [List.filter_append, List.filter_cons_of_neg (by simp), ← List.filter_append,
        List.take_append_drop, hfilter, hupper]
    simp only [List.nil_append, List.append_nil] at hread
    simp only [issnKey, hread]
    simp [hcs]
  · cases h

-- ---------------------------------------------------------------------------
-- The two forms of an ISBN
-- ---------------------------------------------------------------------------

theorem isbn_apply_ofList (l : List Char) :
    Normalizer.isbn.apply (String.ofList l) = (isbnKey l).map String.ofList := by
  simp [Normalizer.apply]

/-- **The two forms of an ISBN share a key.** Nine digits and a check character (a digit, `X` or
`x`), with hyphens anywhere, after leading blanks and before anything that cannot continue the
number, have as key `978`, the nine digits and their EAN-13 check digit, and that key is its
own key; thirteen digits written likewise have their digits as key. -/
theorem isbn_ten_and_thirteen_share_key :
    (∀ (b : List Char) (c : Char) (ws ident rest : List Char), b.length = 9 →
      (∀ d ∈ b, d.isDigit = true) → (c.isDigit = true ∨ c = 'X' ∨ c = 'x') →
      (∀ w ∈ ws, isBlank w = true) → ident.filter (· ≠ '-') = b ++ [c] →
      (∀ h ∈ rest.head?, isIdentifierChar h = false) →
      Normalizer.isbn.apply (String.ofList (ws ++ ident ++ rest)) =
          some (String.ofList (['9', '7', '8'] ++ b ++ [eanCheck (['9', '7', '8'] ++ b)])) ∧
        Normalizer.isbn.apply
            (String.ofList (['9', '7', '8'] ++ b ++ [eanCheck (['9', '7', '8'] ++ b)])) =
          some (String.ofList (['9', '7', '8'] ++ b ++ [eanCheck (['9', '7', '8'] ++ b)]))) ∧
    (∀ t ws ident rest : List Char, t.length = 13 → (∀ d ∈ t, d.isDigit = true) →
      (∀ w ∈ ws, isBlank w = true) → ident.filter (· ≠ '-') = t →
      (∀ h ∈ rest.head?, isIdentifierChar h = false) →
      Normalizer.isbn.apply (String.ofList (ws ++ ident ++ rest)) = some (String.ofList t)) := by
  refine ⟨fun b c ws ident rest hb hdig hc hws hident hrest => ?_,
    fun t ws ident rest ht hdig hws hident hrest => ?_⟩
  · have hkey := isbnKey_of_ten hb hdig hc hws hident hrest
    rw [isbn_apply_ofList, isbn_apply_ofList, hkey, isbnKey_idem hkey]
    exact ⟨rfl, rfl⟩
  · rw [isbn_apply_ofList, isbnKey_of_thirteen ht hdig hws hident hrest]
    rfl

/-- The ISBN-10 `0-306-40615-2 (pbk.)` and the ISBN-13 `978-0-306-40615-7` share the key
`9780306406157`. -/
theorem isbn_of_qualified_isbn10 :
    Normalizer.isbn.apply "0-306-40615-2 (pbk.)" = some "9780306406157" ∧
      Normalizer.isbn.apply "978-0-306-40615-7" = some "9780306406157" := by
  -- a bounded `∀ c ∈ l` over characters is decided through `List.all`, not by trying every
  -- character
  have h10 := (isbn_ten_and_thirteen_share_key.1 "030640615".toList '2' []
    "0-306-40615-2".toList " (pbk.)".toList (by decide) (List.all_eq_true.1 (by decide))
    (by decide) (List.all_eq_true.1 rfl) (by decide) (by rintro h ⟨⟩; rfl)).1
  have h13 := isbn_ten_and_thirteen_share_key.2 "9780306406157".toList [] "978-0-306-40615-7".toList
    [] (by decide) (List.all_eq_true.1 (by decide)) (List.all_eq_true.1 rfl) (by decide)
    (by rintro h ⟨⟩)
  have e10 : String.ofList ([] ++ "0-306-40615-2".toList ++ " (pbk.)".toList) =
      "0-306-40615-2 (pbk.)" := by decide
  have e13 : String.ofList ([] ++ "978-0-306-40615-7".toList ++ []) = "978-0-306-40615-7" := by
    decide
  have ekey : String.ofList (['9', '7', '8'] ++ "030640615".toList ++
      [eanCheck (['9', '7', '8'] ++ "030640615".toList)]) = "9780306406157" := by decide
  rw [e10, ekey] at h10
  rw [e13, String.ofList_toList] at h13
  exact ⟨h10, h13⟩

end Catalog.Matching
