import Catalog.Service.Normalize
import Catalog.Proofs.Matching.Rereading
import Catalog.Proofs.Engine.Outputs

/-!
# Cleaning a payload is a projection

Normalization cleans each string value of a payload's fields by cutting it into words at
blanks and joining the words with single spaces; a value with no words is dropped. This module
shows that the cleaning is a projection onto tidy payloads.

A tidy value is one a reader would call cleaned: it is not empty, it has no blank at either
end, and no two blanks stand next to each other. Every value that cleaning keeps is tidy, and
cleaning a tidy value that cleaning made gives it back, because its words are exactly the words
it was joined from. So cleaning a cleaned payload changes nothing and drops nothing, and the
number of values the first cleaning drops is the number of blank string values among the
fields.

## Main results

* `words_eq_nil_iff`: a text has no words exactly when it is blank
* `cleanValue_tidy`, `cleanValue_cleanValue`: a kept value is tidy and cleans to itself
* `cleanField_dropped`: a field drops exactly its blank string values
* `normalizePayload_normalizePayload`: cleaning a cleaned payload changes nothing
* `normalizePayload_projection`: the whole contract of cleaning a payload
-/

namespace Catalog.Text

/-- A text has no words exactly when all its characters are blank. -/
theorem words_eq_nil_iff {cs : List Char} : words cs = [] ↔ ∀ c ∈ cs, isBlank c = true := by
  induction cs with
  | nil => simp [words, words.pieces]
  | cons c cs ih =>
    cases hc : isBlank c with
    | true =>
      -- a leading blank only opens an empty piece, which `words` leaves out
      rw [words, pieces_cons_of_blank cs hc, List.filter_cons_of_neg (by simp), ← words, ih]
      simp [hc]
    | false =>
      obtain ⟨w, ws, -, h⟩ := pieces_cons_of_not_blank cs hc
      rw [words, h, List.filter_cons_of_pos (by simp)]
      simp [hc]

/-- The words of a text are non-empty and hold no blank. -/
theorem words_clean (cs : List Char) : ∀ w ∈ words cs, w ≠ [] ∧ ∀ c ∈ w, isBlank c = false :=
  fun _ hw => ⟨(mem_words hw).1, fun c hc => ((mem_words hw).2 c hc).1⟩

/-- A tidy text: not empty, with no blank at either end and no two blanks in a row. -/
structure Tidy (cs : List Char) : Prop where
  ne_nil : cs ≠ []
  head : ∀ c ∈ cs.head?, isBlank c = false
  last : ∀ c ∈ cs.getLast?, isBlank c = false
  spaced : cs.IsChain fun a b => isBlank a = false ∨ isBlank b = false

/-- A non-empty text without blanks is tidy. -/
theorem Tidy.of_not_blank {cs : List Char} (hne : cs ≠ []) (h : ∀ c ∈ cs, isBlank c = false) :
    Tidy cs where
  ne_nil := hne
  head c hc := h c (List.mem_of_mem_head? hc)
  last c hc := h c (List.mem_of_getLast? hc)
  spaced := (List.pairwise_of_forall_mem_list fun a ha _ _ => .inl (h a ha)).isChain

end Catalog.Text

namespace Catalog.Matching

open Catalog.Text

/-- Joining words with single spaces as texts joins their characters with spaces. -/
theorem intercalate_space_eq_joinWords (ws : List (List Char)) :
    [' '].intercalate ws = joinWords ws := by
  induction ws using joinWords.induct with
  | case1 => rfl
  | case2 w => exact List.intercalate_singleton
  | case3 w ws hws ih =>
    obtain ⟨w', ws', rfl⟩ := List.exists_cons_of_ne_nil hws
    rw [List.intercalate_cons_cons, ih, joinWords_cons_cons, List.append_assoc]
    rfl

theorem toList_intercalate_ofList (ws : List (List Char)) :
    (" ".intercalate (ws.map String.ofList)).toList = joinWords ws := by
  rw [String.toList_intercalate, List.map_map]
  simpa [Function.comp_def] using intercalate_space_eq_joinWords ws

/-- **Non-empty words without blanks, joined by single spaces, make a tidy text.** The only
blanks are the joining spaces, and each stands between two words. -/
theorem tidy_joinWords {ws : List (List Char)} (hne : ws ≠ [])
    (h : ∀ w ∈ ws, w ≠ [] ∧ ∀ c ∈ w, isBlank c = false) : Tidy (joinWords ws) := by
  induction ws using joinWords.induct with
  | case1 => exact absurd rfl hne
  | case2 w =>
    obtain ⟨hw, hc⟩ := h w (List.mem_singleton_self w)
    exact Tidy.of_not_blank hw hc
  | case3 w ws hws ih =>
    obtain ⟨w', ws', rfl⟩ := List.exists_cons_of_ne_nil hws
    obtain ⟨hw, hc⟩ := h w List.mem_cons_self
    have hrest := ih (List.cons_ne_nil _ _) fun u hu => h u (List.mem_cons_of_mem w hu)
    rw [joinWords_cons_cons]
    refine ⟨by simp, ?_, ?_, ?_⟩
    · -- the text begins with the first word
      rw [List.head?_append_of_ne_nil _ hw]
      exact fun c hc' => hc c (List.mem_of_mem_head? hc')
    · -- and ends with the rest, which is not empty
      rw [← List.singleton_append, ← List.append_assoc,
        List.getLast?_append_of_ne_nil _ hrest.ne_nil]
      exact hrest.last
    · -- a joining space stands between the last letter of a word and the first of the next
      refine List.isChain_append.2 ⟨(Tidy.of_not_blank hw hc).spaced,
        List.isChain_cons.2 ⟨fun y hy => .inr (hrest.head y hy), hrest.spaced⟩, ?_⟩
      exact fun x hx _ _ => .inl (hc x (List.mem_of_getLast? hx))

end Catalog.Matching

namespace Catalog.Service

open Catalog.Text Catalog.Matching

-- ---------------------------------------------------------------------------
-- Cleaning one value
-- ---------------------------------------------------------------------------

theorem cleanValue_eq (v : String) :
    cleanValue v = if words v.toList = [] then none
      else some (" ".intercalate ((words v.toList).map String.ofList)) := by
  unfold cleanValue
  split <;> simp_all

/-- A value is dropped exactly when it is blank. -/
theorem cleanValue_eq_none_iff {v : String} :
    cleanValue v = none ↔ ∀ c ∈ v.toList, isBlank c = true := by
  rw [cleanValue_eq, ← words_eq_nil_iff]
  split <;> simp_all

theorem cleanValue_eq_some_iff {v t : String} :
    cleanValue v = some t ↔
      words v.toList ≠ [] ∧ t = " ".intercalate ((words v.toList).map String.ofList) := by
  rw [cleanValue_eq]
  split
  · rename_i hnil
    simp [hnil]
  · rename_i hnil
    rw [Option.some.injEq]
    exact ⟨fun ht => ⟨hnil, ht.symm⟩, fun ⟨_, ht⟩ => ht.symm⟩

/-- A value that cleaning keeps is tidy. -/
theorem cleanValue_tidy {v t : String} (h : cleanValue v = some t) : Tidy t.toList := by
  obtain ⟨hne, rfl⟩ := cleanValue_eq_some_iff.1 h
  rw [toList_intercalate_ofList]
  exact tidy_joinWords hne (words_clean _)

/-- A value that cleaning keeps cleans to itself: its words are the words it was joined from. -/
theorem cleanValue_cleanValue {v t : String} (h : cleanValue v = some t) :
    cleanValue t = some t := by
  obtain ⟨hne, rfl⟩ := cleanValue_eq_some_iff.1 h
  have hwords : words (" ".intercalate ((words v.toList).map String.ofList)).toList =
      words v.toList := by
    rw [toList_intercalate_ofList]
    exact words_joinWords (words_clean _)
  rw [cleanValue_eq_some_iff, hwords]
  exact ⟨hne, rfl⟩

-- ---------------------------------------------------------------------------
-- Cleaning one field
-- ---------------------------------------------------------------------------

/-- Whether a string value is blank: cleaning drops exactly these. -/
def blankValue (s : String) : Bool :=
  s.toList.all isBlank

/-- A field drops exactly its blank string values. -/
theorem cleanField_dropped (name : String) (v : Json) :
    (cleanField name v).2 = (fieldValues v).countP blankValue := by
  -- the values kept and the values dropped split the field's string values
  have hsplit := List.length_eq_countP_add_countP (fun s => (cleanValue s).isSome)
    (l := fieldValues v)
  have hblank : (fieldValues v).countP (fun s => decide ¬(cleanValue s).isSome = true) =
      (fieldValues v).countP blankValue :=
    List.countP_congr fun s _ => by simp [blankValue, cleanValue_eq_none_iff]
  simp only [cleanField, List.length_filterMap_eq_countP]
  omega

/-- A field that cleaning keeps is a non-empty array of tidy values, each cleaning to itself. -/
theorem cleanField_kept {name : String} {v : Json} {m : String × Json}
    (h : (cleanField name v).1 = some m) :
    m.1 = name ∧ ∃ vs : List String, m.2 = .arr (vs.map .str) ∧ vs ≠ [] ∧
      ∀ s ∈ vs, Tidy s.toList ∧ cleanValue s = some s := by
  simp only [cleanField] at h
  split at h
  · cases h
  · rename_i hkept
    cases h
    refine ⟨rfl, _, rfl, by simpa using hkept, fun s hs => ?_⟩
    obtain ⟨u, -, hu⟩ := List.mem_filterMap.1 hs
    exact ⟨cleanValue_tidy hu, cleanValue_cleanValue hu⟩

/-- A field of values that clean to themselves is kept as it is, with nothing dropped. -/
theorem cleanField_of_clean (name : String) {vs : List String} (hne : vs ≠ [])
    (h : ∀ s ∈ vs, cleanValue s = some s) :
    cleanField name (.arr (vs.map .str)) = (some (name, .arr (vs.map .str)), 0) := by
  have hvalues : fieldValues (.arr (vs.map .str)) = vs := by
    simp [fieldValues, List.filterMap_map, Function.comp_def, Json.asString?]
  have hkept : vs.filterMap cleanValue = vs :=
    (List.filterMap_congr h).trans List.filterMap_some
  simp [cleanField, hvalues, hkept, hne]

-- ---------------------------------------------------------------------------
-- Cleaning a payload
-- ---------------------------------------------------------------------------

/-- The fields a payload keeps after cleaning. -/
theorem cleaned_of_mem {fields : List (String × Json)} {m : String × Json}
    (hm : m ∈ (fields.map fun (name, v) => cleanField name v).filterMap (·.1)) :
    cleanField m.1 m.2 = (some m, 0) ∧ ∃ vs : List String, m.2 = .arr (vs.map .str) ∧
      vs ≠ [] ∧ ∀ s ∈ vs, Tidy s.toList := by
  obtain ⟨c, hc, hcm⟩ := List.mem_filterMap.1 hm
  obtain ⟨⟨name, v⟩, -, rfl⟩ := List.mem_map.1 hc
  obtain ⟨hname, vs, hv, hne, hvs⟩ := cleanField_kept hcm
  obtain ⟨name', v'⟩ := m
  simp only at hname hv
  subst hname hv
  exact ⟨cleanField_of_clean _ hne fun s hs => (hvs s hs).2, vs, rfl, hne,
    fun s hs => (hvs s hs).1⟩

/-- The values a payload drops are the blank string values of its fields. -/
theorem dropped_eq_countP (fields : List (String × Json)) :
    ((fields.map fun (name, v) => cleanField name v).foldl (fun n c => n + c.2) 0) =
      (fields.flatMap fun m => fieldValues m.2).countP blankValue := by
  rw [List.countP_flatMap, List.foldl_map, ← List.foldl_map (g := fun n k => n + k),
    ← List.sum_eq_foldl]
  congr 1
  refine List.map_congr_left fun ⟨name, v⟩ _ => ?_
  exact cleanField_dropped name v

/-- Cleaning a payload whose fields form an object. -/
theorem normalizePayload_of_fields {members fields : List (String × Json)}
    (h : members.lookup "fields" = some (.obj fields)) :
    normalizePayload (.obj members) =
      some (.obj (Json.insertMember "fields"
          (.obj ((fields.map fun (name, v) => cleanField name v).filterMap (·.1))) members),
        (fields.flatMap fun m => fieldValues m.2).countP blankValue) := by
  simp only [normalizePayload, h, dropped_eq_countP]

/-- Cleaning a payload without an object of fields leaves it as it is. -/
theorem normalizePayload_of_not_fields {members : List (String × Json)}
    (h : ∀ fields, members.lookup "fields" ≠ some (.obj fields)) :
    normalizePayload (.obj members) = some (.obj members, 0) := by
  -- the match falls through to its last case, which `h` leaves open
  simp only [normalizePayload]

/-- The number of blank string values among the fields of a payload, a field's own string or the
strings of its array; a payload without an object of fields has none. -/
def blankCount (p : Json) : Nat :=
  match p.get? "fields" with
  | some (.obj fields) => (fields.flatMap fun m => fieldValues m.2).countP blankValue
  | _ => 0

/-- Cleaning a payload drops exactly its blank values. -/
theorem normalizePayload_dropped {p q : Json} {n : Nat} (h : normalizePayload p = some (q, n)) :
    n = blankCount p := by
  cases p with
  | obj members =>
    by_cases hf : ∃ fields, members.lookup "fields" = some (.obj fields)
    · obtain ⟨fields, hf⟩ := hf
      rw [normalizePayload_of_fields hf] at h
      cases h
      simp [blankCount, Json.get?, hf]
    · simp only [not_exists] at hf
      rw [normalizePayload_of_not_fields hf] at h
      cases h
      unfold blankCount
      split
      · rename_i fields hget
        exact absurd hget (hf fields)
      · rfl
  | _ => cases h

/-- Cleaning refuses exactly the payloads that are not objects. -/
theorem normalizePayload_eq_none_iff {p : Json} : normalizePayload p = none ↔ p.isObject = false := by
  cases p with
  | obj members =>
    simp only [normalizePayload]
    split <;> simp [Json.isObject]
  | _ => simp [normalizePayload, Json.isObject]

/-- Inserting a member twice under one key keeps the second value. -/
theorem insertMember_insertMember (k : String) (v v' : Json) (ms : List (String × Json)) :
    Json.insertMember k v (Json.insertMember k v' ms) = Json.insertMember k v ms := by
  induction ms with
  | nil => simp [Json.insertMember]
  | cons kv rest ih =>
    obtain ⟨k', x⟩ := kv
    by_cases hlt : k < k'
    · simp [Json.insertMember, hlt]
    by_cases heq : k = k'
    · subst heq
      simp [Json.insertMember]
    · simp [Json.insertMember, hlt, heq, ih]

/-- **Cleaning a cleaned payload changes nothing and drops nothing.** -/
theorem normalizePayload_normalizePayload {p q : Json} {n : Nat}
    (h : normalizePayload p = some (q, n)) : normalizePayload q = some (q, 0) := by
  cases p with
  | obj members =>
    by_cases hf : ∃ fields, members.lookup "fields" = some (.obj fields)
    · obtain ⟨fields, hf⟩ := hf
      rw [normalizePayload_of_fields hf] at h
      cases h
      set cleaned := (fields.map fun (name, v) => cleanField name v).filterMap (·.1)
      have hcleaned : ∀ m ∈ cleaned, cleanField m.1 m.2 = (some m, 0) :=
        fun m hm => (cleaned_of_mem hm).1
      -- the second cleaning keeps every cleaned field as it is
      have hsame : (cleaned.map fun (name, v) => cleanField name v).filterMap (·.1) = cleaned := by
        rw [List.filterMap_map]
        refine (List.filterMap_congr fun m hm => ?_).trans List.filterMap_some
        simp [hcleaned m hm]
      -- and finds no blank value in them
      have hnone : (cleaned.flatMap fun m => fieldValues m.2).countP blankValue = 0 := by
        rw [List.countP_flatMap]
        refine List.sum_eq_zero fun k hk => ?_
        obtain ⟨m, hm, rfl⟩ := List.mem_map.1 hk
        simpa [hcleaned m hm] using (cleanField_dropped m.1 m.2).symm
      rw [normalizePayload_of_fields (Engine.lookup_insertMember _ _ _), hsame, hnone,
        insertMember_insertMember]
    · simp only [not_exists] at hf
      rw [normalizePayload_of_not_fields hf] at h
      cases h
      exact normalizePayload_of_not_fields hf
  | _ => cases h

/-- **Cleaning a payload is a projection.** Cleaning refuses exactly the payloads that are not
objects. A cleaned payload cleans to itself with nothing dropped. When the payload's fields form
an object, every field left is a non-empty array of tidy strings, and the number of values
dropped is the number of blank string values among the fields, a field's own string or the
strings of its array; otherwise the payload is left as it is. -/
theorem normalizePayload_projection (p : Json) :
    (normalizePayload p = none ↔ p.isObject = false) ∧
    ∀ q n, normalizePayload p = some (q, n) →
      normalizePayload q = some (q, 0) ∧
      (∀ fields, p.get? "fields" = some (.obj fields) →
        (∃ cleaned, q.get? "fields" = some (.obj cleaned) ∧
          ∀ m ∈ cleaned, ∃ vs : List String, m.2 = .arr (vs.map .str) ∧ vs ≠ [] ∧
            ∀ s ∈ vs, Tidy s.toList) ∧
        n = (fields.flatMap fun m => fieldValues m.2).countP blankValue) ∧
      ((∀ fields, p.get? "fields" ≠ some (.obj fields)) → q = p ∧ n = 0) := by
  refine ⟨normalizePayload_eq_none_iff, fun q n h => ⟨normalizePayload_normalizePayload h, ?_, ?_⟩⟩
  · intro fields hf
    cases p with
    | obj members =>
      rw [normalizePayload_of_fields hf] at h
      cases h
      exact ⟨⟨_, Engine.lookup_insertMember _ _ _, fun m hm => (cleaned_of_mem hm).2⟩, rfl⟩
    | _ => cases hf
  · intro hf
    cases p with
    | obj members =>
      rw [normalizePayload_of_not_fields hf] at h
      cases h
      exact ⟨rfl, rfl⟩
    | _ => cases h

/-- The cleaning of a catalogue payload: blanks around and inside a title go, a blank value of
a field goes and is counted, and a field left without values goes too. -/
theorem normalizePayload_trims_and_drops :
    let p := Json.obj [("fields", .obj [("020a", .arr [.str "   ", .str "0306406152"]),
        ("245a", .arr [.str "  The   Hobbit "]), ("500a", .str "  ")]),
      ("leader", .str "00000nam")]
    let q := Json.obj [("fields", .obj [("020a", .arr [.str "0306406152"]),
        ("245a", .arr [.str "The Hobbit"])]), ("leader", .str "00000nam")]
    normalizePayload p = some (q, 2) ∧ normalizePayload q = some (q, 0) := by
  intro p q
  have h : normalizePayload p = some (q, 2) := by rfl
  exact ⟨h, ((normalizePayload_projection p).2 q 2 h).1⟩

end Catalog.Service
