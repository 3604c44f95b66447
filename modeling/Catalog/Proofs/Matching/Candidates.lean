import Catalog.Matching.Engine
import Catalog.Proofs.Matching.PointSet
import Catalog.Proofs.Outcome
import Mathlib.Data.List.Sort

/-!
# The candidates of a record

The match engine answers a record with its candidates: the ids its rules yield, each once, in
the order in which they first appear. This module says what that list is, against a
reference relation stated without the engine's loops. A single-matcher rule matches the
other records that share a key with the record under its matcher; an intersection rule, those
that share a key under every matcher it reads (`MatchEngine.RuleMatches`). Sharing a key
means that one of the keys a matcher reads off the record is paired with the other record's
id in the matcher's point set, in memory or in the store (`Matcher.SharesKey`).

For an engine whose rules read active matchers only, and at least one each, as building the
engine from names ensures (`MatchEngine.Configured`):

* the candidates are exactly the ids some rule matches, never the record's own id, and
  none twice;
* they are ordered by the first rule that matches them, ascending within a rule;
* indexing the record first changes nothing: indexing adds only points of the record's own
  id, and the rules leave that id out;
* two records whose points are exactly the keys their fields have now are each other's
  candidates alike.

## Main results

* `Rule.determineMatches_spec`: what one rule yields
* `MatchEngine.foldl_appendNew_spec`: the order in which the rules' answers are merged
* `MatchEngine.candidates_spec`: the candidates against the reference relation
* `MatchEngine.index_candidates`: indexing a record keeps its candidates
* `MatchEngine.mem_candidates_comm`: records indexed with their current fields match alike
* `MatchEngine.Configured.meetsReference`: all of it together
-/

namespace Catalog.Matching

open Catalog.SortedList

/-- Two strictly ascending lists of ids with the same elements are equal. -/
theorem sorted_eq_of_mem_iff {xs ys : List Int} (hx : Sorted xs) (hy : Sorted ys)
    (h : ∀ a, a ∈ xs ↔ a ∈ ys) : xs = ys := by
  have hlt : ∀ {zs : List Int}, Sorted zs → zs.Pairwise (· < ·) := fun hz =>
    hz.imp fun hab => Int.compare_eq_lt.1 hab
  exact List.Pairwise.eq_of_mem_iff (hlt hx) (hlt hy) h

namespace Matcher

/-- A record shares a key with the record of an id under a matcher: one of the keys the
matcher reads off the record is paired with the id in the matcher's point set. -/
def SharesKey (m : Matcher) (t : PointTable) (r : ParsedRecord) (id : Int) : Prop :=
  ∃ k ∈ m.extractKeys r, (⟨k, id⟩ : Point) ∈ m.pointSet t

instance (m : Matcher) (t : PointTable) (r : ParsedRecord) (id : Int) :
    Decidable (m.SharesKey t r id) :=
  inferInstanceAs (Decidable (∃ k ∈ m.extractKeys r, (⟨k, id⟩ : Point) ∈ m.pointSet t))

@[simp] theorem extractKeys_insertPoint (m : Matcher) (p : Point) :
    (m.insertPoint p).extractKeys = m.extractKeys := by
  unfold insertPoint; split <;> rfl

/-- Indexing a record keeps the fields a matcher reads and how it normalizes them. -/
@[simp] theorem add_extractKeys (m : Matcher) (r : ParsedRecord) :
    (m.add r).1.extractKeys = m.extractKeys := by
  rw [add_fst]
  exact foldl_insertPoint_induction (fun m' => m'.extractKeys = m.extractKeys)
    (fun m' p h => (extractKeys_insertPoint m' p).trans h) r.id _ rfl

/-- Indexing a record adds points of its own id only, and the lookup leaves that id out, so
the other records sharing a key with it are the same before and after. -/
theorem getMatchingIds_add (m : Matcher) (r : ParsedRecord) (t : PointTable) :
    (m.add r).1.getMatchingIds r t = m.getMatchingIds r t := by
  refine sorted_eq_of_mem_iff (sorted_getMatchingIds _ r t) (sorted_getMatchingIds m r t)
    fun id => ?_
  simp only [mem_getMatchingIds, pointSet_add, add_extractKeys, Finset.mem_union,
    List.mem_toFinset, List.mem_map]
  constructor
  · rintro ⟨hne, k, hk, hp | ⟨k', -, hk'⟩⟩
    · exact ⟨hne, k, hk, hp⟩
    · exact absurd (congrArg Point.recordId hk').symm hne
  · rintro ⟨hne, k, hk, hp⟩
    exact ⟨hne, k, hk, .inl hp⟩

end Matcher

-- ---------------------------------------------------------------------------
-- The reference relation
-- ---------------------------------------------------------------------------

namespace MatchEngine

variable {e : MatchEngine} {t : PointTable} {r : ParsedRecord}

/-- Under the active matcher of a name, a record shares a key with the record of an id. -/
def SharesKeyUnder (e : MatchEngine) (t : PointTable) (r : ParsedRecord) (name : String)
    (id : Int) : Prop :=
  ∃ m ∈ e.matcher? name, m.SharesKey t r id

instance (e : MatchEngine) (t : PointTable) (r : ParsedRecord) (name : String) (id : Int) :
    Decidable (e.SharesKeyUnder t r name id) :=
  inferInstanceAs (Decidable (∃ m ∈ e.matcher? name, m.SharesKey t r id))

/-- The ids a rule should match with a record: a single-matcher rule, the other records that
share a key with it under its matcher; an intersection rule, the other records that share a
key with it under each of its matchers. -/
def RuleMatches (e : MatchEngine) (t : PointTable) (r : ParsedRecord) : Rule → Int → Prop
  | .single name, id => id ≠ r.id ∧ e.SharesKeyUnder t r name id
  | .intersection _ names, id => id ≠ r.id ∧ ∀ name ∈ names, e.SharesKeyUnder t r name id

instance (e : MatchEngine) (t : PointTable) (r : ParsedRecord) :
    (rule : Rule) → (id : Int) → Decidable (e.RuleMatches t r rule id)
  | .single name, id => inferInstanceAs (Decidable (id ≠ r.id ∧ e.SharesKeyUnder t r name id))
  | .intersection _ names, id =>
    inferInstanceAs (Decidable (id ≠ r.id ∧ ∀ name ∈ names, e.SharesKeyUnder t r name id))

/-- The position among the rules of the first one that matches an id. -/
def firstRule (e : MatchEngine) (t : PointTable) (r : ParsedRecord) (id : Int) : Nat :=
  e.rules.findIdx fun rule => decide (e.RuleMatches t r rule id)

/-- One id comes before another when a rank puts it first, or ranks them alike and it is
smaller. -/
def Ranked (rank : Int → Nat) (a b : Int) : Prop :=
  rank a < rank b ∨ (rank a = rank b ∧ a < b)

/-- Candidates come ordered by the first rule that matches them, ascending within a rule. -/
def Precedes (e : MatchEngine) (t : PointTable) (r : ParsedRecord) : Int → Int → Prop :=
  Ranked (e.firstRule t r)

/-- Every rule reads at least one matcher, and every matcher it reads is active. -/
def Configured (e : MatchEngine) : Prop :=
  ∀ rule ∈ e.rules, rule.matchers ≠ [] ∧ ∀ name ∈ rule.matchers, (e.matcher? name).isSome

instance (e : MatchEngine) : Decidable e.Configured :=
  inferInstanceAs (Decidable (∀ rule ∈ e.rules,
    rule.matchers ≠ [] ∧ ∀ name ∈ rule.matchers, (e.matcher? name).isSome))

theorem sharesKeyUnder_of_matcher? {name : String} {m : Matcher} (hm : e.matcher? name = some m)
    {id : Int} : e.SharesKeyUnder t r name id ↔ m.SharesKey t r id := by
  simp [SharesKeyUnder, hm]

end MatchEngine

-- ---------------------------------------------------------------------------
-- What one rule yields
-- ---------------------------------------------------------------------------

namespace Rule

open MatchEngine

variable {e : MatchEngine} {t : PointTable} {r : ParsedRecord}

/-- A built-in rule reads at least one matcher. -/
theorem matchers_ne_nil_of_builtin? {name : String} {rule : Rule}
    (h : builtin? name = some rule) : rule.matchers ≠ [] := by
  unfold builtin? at h
  split_ifs at h <;> cases h <;> simp [matchers]

theorem activeMatcher_of_matcher? {name : String} {m : Matcher} (hm : e.matcher? name = some m) :
    activeMatcher e.matchers name = .ok m := by
  simp only [MatchEngine.matcher?] at hm
  simp [activeMatcher, hm]

/-- Narrowing by the matchers named, from the candidates so far (every id while there are
none yet), keeps the ids that share a key with the record under each of them. -/
theorem narrow_spec (names : List String) (hnames : ∀ name ∈ names, (e.matcher? name).isSome)
    (acc : Option (List Int)) (hacc : ∀ prev ∈ acc, Sorted prev) :
    ∃ ids, narrow e.matchers r t acc names = .ok ids ∧ Sorted ids ∧
      ∀ id, id ∈ ids ↔ (acc.isSome ∨ names ≠ []) ∧ (∀ prev ∈ acc, id ∈ prev) ∧
        ∀ name ∈ names, id ≠ r.id ∧ e.SharesKeyUnder t r name id := by
  induction names generalizing acc with
  | nil =>
    cases acc with
    | none => exact ⟨[], rfl, sorted_nil, by simp⟩
    | some prev => exact ⟨prev, rfl, hacc prev rfl, by simp⟩
  | cons name rest ih =>
    obtain ⟨m, hm⟩ := Option.isSome_iff_exists.1 (hnames name List.mem_cons_self)
    let ids := m.getMatchingIds r t
    let narrowed : List Int := (acc.map fun previous => previous.filter (contains · ids)).getD ids
    -- the ids kept at this matcher: those admitted so far that share a key under it
    have hmem : ∀ id, id ∈ narrowed ↔
        (∀ prev ∈ acc, id ∈ prev) ∧ id ≠ r.id ∧ e.SharesKeyUnder t r name id := by
      intro id
      rw [sharesKeyUnder_of_matcher? hm]
      cases acc with
      | none => simp [narrowed, ids, Matcher.SharesKey, Matcher.mem_getMatchingIds]
      | some prev => simp [narrowed, ids, Matcher.SharesKey, Matcher.mem_getMatchingIds]
    have hsorted : Sorted narrowed := by
      cases acc with
      | none => exact Matcher.sorted_getMatchingIds m r t
      | some prev => exact (hacc prev rfl).filter _
    have hstep : narrow e.matchers r t acc (name :: rest) =
        if narrowed.isEmpty then .ok [] else narrow e.matchers r t (some narrowed) rest := by
      cases acc <;> simp only [narrow, activeMatcher_of_matcher? hm] <;> rfl
    rw [hstep]
    by_cases hempty : narrowed.isEmpty
    · refine ⟨[], by rw [if_pos hempty], sorted_nil, fun id => ?_⟩
      have hnil : narrowed = [] := List.isEmpty_iff.1 hempty
      simp only [List.not_mem_nil, false_iff, not_and, List.mem_cons, forall_eq_or_imp]
      intro _ hprev ⟨hne, hshare⟩ _
      have := (hmem id).2 ⟨hprev, hne, hshare⟩
      rw [hnil] at this
      exact List.not_mem_nil this
    · rw [if_neg hempty]
      obtain ⟨out, hout, hsout, hmout⟩ := ih (fun n hn => hnames n (List.mem_cons_of_mem _ hn))
        (some narrowed) (fun prev hprev => by cases hprev; exact hsorted)
      refine ⟨out, hout, hsout, fun id => ?_⟩
      have hadmit : (∀ prev ∈ some narrowed, id ∈ prev) ↔ id ∈ narrowed := by simp
      rw [hmout id, hadmit, hmem id]
      simp only [Option.isSome_some, true_or, true_and, List.mem_cons, forall_eq_or_imp,
        ne_eq, reduceCtorEq, not_false_eq_true, or_true]
      tauto

/-- A rule that reads active matchers, at least one, yields the ids it matches, ascending. -/
theorem determineMatches_spec (rule : Rule)
    (hrule : rule.matchers ≠ [] ∧ ∀ name ∈ rule.matchers, (e.matcher? name).isSome) :
    ∃ ids, rule.determineMatches e.matchers r t = .ok ids ∧ Sorted ids ∧
      ∀ id, id ∈ ids ↔ e.RuleMatches t r rule id := by
  cases rule with
  | single name =>
    obtain ⟨m, hm⟩ := Option.isSome_iff_exists.1 (hrule.2 name List.mem_cons_self)
    refine ⟨SortedList.erase r.id (m.getMatchingIds r t), ?_,
      (Matcher.sorted_getMatchingIds m r t).erase r.id, fun id => ?_⟩
    · simp only [determineMatches, activeMatcher_of_matcher? hm]
      rfl
    · simp only [RuleMatches, mem_erase, Matcher.mem_getMatchingIds, sharesKeyUnder_of_matcher? hm,
        Matcher.SharesKey]
      tauto
  | intersection n names =>
    obtain ⟨ids, hids, hsorted, hmem⟩ := narrow_spec (e := e) (r := r) (t := t) names hrule.2
      none (fun _ h => absurd h (Option.not_mem_none _))
    refine ⟨SortedList.erase r.id ids, ?_, hsorted.erase r.id, fun id => ?_⟩
    · simp only [determineMatches, hids]
      rfl
    · have hne : names ≠ [] := hrule.1
      simp only [RuleMatches, mem_erase, hmem]
      constructor
      · rintro ⟨⟨-, -, hall⟩, hself⟩
        exact ⟨hself, fun name hn => (hall name hn).2⟩
      · rintro ⟨hself, hall⟩
        have hnone : ∀ prev ∈ (none : Option (List Int)), id ∈ prev :=
          fun _ h => absurd h (Option.not_mem_none _)
        exact ⟨⟨.inr hne, hnone, fun name hn => ⟨hself, hall name hn⟩⟩, hself⟩

end Rule

-- ---------------------------------------------------------------------------
-- Merging the answers of the rules
-- ---------------------------------------------------------------------------

namespace MatchEngine

variable {e : MatchEngine} {t : PointTable} {r : ParsedRecord}

/-- Building an engine from names checks that each rule's matchers are configured, so the
engine it builds has its rules read active matchers, at least one each. -/
theorem ofNames_configured {matcherNames ruleNames : List String} {scope : Option String}
    {e : MatchEngine} (h : ofNames matcherNames ruleNames scope = .ok e) : e.Configured := by
  simp only [ofNames, bind, Except.bind] at h
  split at h
  · exact nomatch h
  rename_i matchers _
  split at h
  · exact nomatch h
  rename_i rules hrules
  cases h
  intro rule hrule
  obtain ⟨name, -, hcheck⟩ := mem_of_mapM_ok hrules hrule
  -- the rule is built in, and the check found no matcher of it missing
  split at hcheck
  · exact nomatch hcheck
  rename_i found hfound
  split at hcheck
  · exact nomatch hcheck
  rename_i hnone
  cases hcheck
  refine ⟨Rule.matchers_ne_nil_of_builtin? hfound, fun n hn => ?_⟩
  have hany : matchers.any (·.name == n) = true := by
    simpa using List.find?_eq_none.1 hnone n hn
  obtain ⟨m, hm, hname⟩ := List.any_eq_true.1 hany
  exact List.find?_isSome.2 ⟨m, hm, hname⟩


/-- Appending the new ids of a list without repeats puts them after the old ones, in their
order. -/
theorem appendNew_eq (acc : List Int) {ids : List Int} (h : ids.Nodup) :
    appendNew acc ids = acc ++ ids.filter fun id => !acc.contains id := by
  induction ids generalizing acc with
  | nil => simp [appendNew]
  | cons x xs ih =>
    obtain ⟨hx, hxs⟩ := List.nodup_cons.1 h
    unfold appendNew at ih ⊢
    rw [List.foldl_cons]
    by_cases hin : acc.contains x
    · rw [if_pos hin, ih acc hxs, List.filter_cons_of_neg (by simpa using hin)]
    · rw [if_neg hin, ih (acc ++ [x]) hxs, List.filter_cons_of_pos (by simpa using hin),
        List.append_assoc, List.singleton_append]
      -- `x` is not among the later ids, so adding it changes none of their tests
      congr 2
      refine List.filter_congr fun y hy => ?_
      have hyx : y ≠ x := fun h => hx (h ▸ hy)
      simp [hyx]

/-- The position of the first of the lists that holds an id. -/
def firstHolding (ls : List (List Int)) (id : Int) : Nat :=
  ls.findIdx fun l => l.contains id

/-- Merging ascending lists one after another appends, after what the accumulator holds,
each id of theirs that it does not hold, ordered by the first list holding it and ascending
within a list. -/
theorem foldl_appendNew_spec (ls : List (List Int)) (hs : ∀ l ∈ ls, Sorted l)
    (acc : List Int) :
    ∃ rest, ls.foldl appendNew acc = acc ++ rest ∧
      (∀ id, id ∈ rest ↔ id ∉ acc ∧ ∃ l ∈ ls, id ∈ l) ∧
      rest.Pairwise (Ranked (firstHolding ls)) := by
  induction ls generalizing acc with
  | nil => exact ⟨[], by simp, by simp, List.Pairwise.nil⟩
  | cons l ls ih =>
    have hl : Sorted l := hs l List.mem_cons_self
    let new := l.filter fun id => !acc.contains id
    have hnew : ∀ id, id ∈ new ↔ id ∈ l ∧ id ∉ acc := fun id => by simp [new]
    obtain ⟨rest, hfold, hmem, hord⟩ :=
      ih (fun l' h => hs l' (List.mem_cons_of_mem _ h)) (acc ++ new)
    -- the later ids are new to the lists before, so the first list holding them is later
    have hrest : ∀ id ∈ rest, id ∉ l := fun id hid hl' => by
      have := (hmem id).1 hid
      simp only [List.mem_append, hnew] at this
      tauto
    have hrank_new : ∀ id ∈ new, firstHolding (l :: ls) id = 0 := fun id hid => by
      simp [firstHolding, List.findIdx_cons, ((hnew id).1 hid).1]
    have hrank_rest : ∀ id ∈ rest, firstHolding (l :: ls) id = firstHolding ls id + 1 :=
      fun id hid => by simp [firstHolding, List.findIdx_cons, hrest id hid]
    refine ⟨new ++ rest, ?_, fun id => ?_, ?_⟩
    · rw [List.foldl_cons, appendNew_eq acc hl.nodup, hfold, List.append_assoc]
    · simp only [List.mem_append, hmem, hnew, List.mem_cons, exists_eq_or_imp]
      tauto
    · refine List.pairwise_append.2 ⟨?_, ?_, ?_⟩
      · refine ((hl.filter _).imp_of_mem fun {a b} ha hb hab => ?_)
        exact .inr ⟨by rw [hrank_new a ha, hrank_new b hb], Int.compare_eq_lt.1 hab⟩
      · refine hord.imp_of_mem fun {a b} ha hb hab => ?_
        simp only [Ranked, hrank_rest a ha, hrank_rest b hb] at hab ⊢
        omega
      · intro a ha b hb
        exact .inl (by rw [hrank_new a ha, hrank_rest b hb]; omega)

/-- The first list holding an id is the first rule matching it, when each rule's list holds
exactly the ids it matches. -/
theorem firstHolding_map {rules : List Rule} {g : Rule → List Int}
    (hg : ∀ rule ∈ rules, ∀ id, id ∈ g rule ↔ e.RuleMatches t r rule id) (id : Int) :
    firstHolding (rules.map g) id = rules.findIdx fun rule => decide (e.RuleMatches t r rule id) := by
  induction rules with
  | nil => rfl
  | cons rule rules ih =>
    have hhead : (g rule).contains id = decide (e.RuleMatches t r rule id) := by
      simp [hg rule List.mem_cons_self]
    simp only [firstHolding, List.map_cons, List.findIdx_cons, hhead] at ih ⊢
    rw [ih fun rule' h => hg rule' (List.mem_cons_of_mem _ h)]

theorem RuleMatches.ne_self {rule : Rule} {id : Int} (h : e.RuleMatches t r rule id) :
    id ≠ r.id := by
  cases rule with
  | single name => exact h.1
  | intersection n names => exact h.1

theorem Ranked.ne {rank : Int → Nat} {a b : Int} (h : Ranked rank a b) : a ≠ b := by
  rintro rfl
  rcases h with h | ⟨-, h⟩ <;> omega

-- ---------------------------------------------------------------------------
-- The candidates against the reference relation
-- ---------------------------------------------------------------------------

/-- What the candidates of a record are: no id twice, never the record's own, exactly the ids
some rule matches, ordered by the first rule matching them and ascending within a rule. -/
structure CandidatesMeet (e : MatchEngine) (t : PointTable) (r : ParsedRecord) (c : List Int) :
    Prop where
  nodup : c.Nodup
  not_self : r.id ∉ c
  mem_iff : ∀ id, id ∈ c ↔ ∃ rule ∈ e.rules, e.RuleMatches t r rule id
  ordered : c.Pairwise (e.Precedes t r)

/-- The candidates of a record under an engine whose rules read active matchers. -/
theorem candidates_spec (he : e.Configured) (r : ParsedRecord) (t : PointTable) :
    ∃ c, e.candidates r t = .ok c ∧ e.CandidatesMeet t r c := by
  -- each rule's answer, read off its successful run
  let g : Rule → List Int := fun rule =>
    ((rule.determineMatches e.matchers r t).toOption).getD []
  have hg : ∀ rule ∈ e.rules, rule.determineMatches e.matchers r t = .ok (g rule) ∧
      Sorted (g rule) ∧ ∀ id, id ∈ g rule ↔ e.RuleMatches t r rule id := by
    intro rule hrule
    obtain ⟨ids, hids, hsorted, hmem⟩ := Rule.determineMatches_spec (r := r) (t := t) rule
      (he rule hrule)
    have hgr : g rule = ids := by simp [g, hids, Except.toOption]
    exact ⟨hids.trans (congrArg _ hgr.symm), hgr ▸ hsorted, hgr ▸ hmem⟩
  obtain ⟨rest, hfold, hmem, hord⟩ := foldl_appendNew_spec (e.rules.map g)
    (fun l hl => by
      obtain ⟨rule, hrule, rfl⟩ := List.mem_map.1 hl
      exact (hg rule hrule).2.1) []
  have hcands : e.candidates r t = .ok rest := by
    rw [candidates, foldlM_eq_ok_foldl (fun rule hrule => (hg rule hrule).1), hfold,
      List.nil_append]
  have hrank : firstHolding (e.rules.map g) = e.firstRule t r :=
    funext (firstHolding_map fun rule hrule => (hg rule hrule).2.2)
  have hmem' : ∀ id, id ∈ rest ↔ ∃ rule ∈ e.rules, e.RuleMatches t r rule id := by
    intro id
    simp only [hmem, List.not_mem_nil, not_false_eq_true, true_and, List.mem_map]
    constructor
    · rintro ⟨_, ⟨rule, hrule, rfl⟩, hid⟩
      exact ⟨rule, hrule, ((hg rule hrule).2.2 id).1 hid⟩
    · rintro ⟨rule, hrule, hmatch⟩
      exact ⟨g rule, ⟨rule, hrule, rfl⟩, ((hg rule hrule).2.2 id).2 hmatch⟩
  have hprec : e.Precedes t r = Ranked (firstHolding (e.rules.map g)) := by
    rw [hrank]; rfl
  refine ⟨rest, hcands, ⟨hord.imp Ranked.ne, fun hself => ?_, hmem', hprec ▸ hord⟩⟩
  obtain ⟨rule, -, hmatch⟩ := (hmem' r.id).1 hself
  exact hmatch.ne_self rfl

-- ---------------------------------------------------------------------------
-- Indexing a record first
-- ---------------------------------------------------------------------------

/-- The matchers of an engine after indexing a record. -/
theorem index_matchers (e : MatchEngine) (r : ParsedRecord) :
    (e.index r).matchers = e.matchers.map fun m => (m.add r).1 := rfl

/-- Indexing keeps the names of the matchers, so a name finds the same matcher, indexed. -/
theorem find?_map_add (active : List Matcher) (r : ParsedRecord) (name : String) :
    (active.map fun m => (m.add r).1).find? (·.name == name) =
      (active.find? (·.name == name)).map fun m => (m.add r).1 := by
  rw [List.find?_map]
  congr 2
  funext m
  simp

theorem matcher?_index (e : MatchEngine) (r : ParsedRecord) (name : String) :
    (e.index r).matcher? name = (e.matcher? name).map fun m => (m.add r).1 :=
  find?_map_add e.matchers r name

theorem activeMatcher_map_add (active : List Matcher) (r : ParsedRecord) (name : String) :
    Rule.activeMatcher (active.map fun m => (m.add r).1) name =
      (Rule.activeMatcher active name).map fun m => (m.add r).1 := by
  unfold Rule.activeMatcher
  rw [find?_map_add]
  cases active.find? (·.name == name) <;> rfl

theorem narrow_map_add (active : List Matcher) (r : ParsedRecord) (t : PointTable) :
    ∀ (acc : Option (List Int)) (names : List String),
      Rule.narrow (active.map fun m => (m.add r).1) r t acc names =
        Rule.narrow active r t acc names
  | _, [] => rfl
  | acc, name :: rest => by
    simp only [Rule.narrow, activeMatcher_map_add]
    cases Rule.activeMatcher active name with
    | error err => rfl
    | ok m =>
      simp only [Except.map, bind, Except.bind, Matcher.getMatchingIds_add,
        narrow_map_add active r t _ rest]

/-- Indexing a record changes no rule's answer for it. -/
theorem determineMatches_map_add (rule : Rule) (active : List Matcher) (r : ParsedRecord)
    (t : PointTable) :
    rule.determineMatches (active.map fun m => (m.add r).1) r t =
      rule.determineMatches active r t := by
  cases rule with
  | single name =>
    simp only [Rule.determineMatches, activeMatcher_map_add]
    cases Rule.activeMatcher active name with
    | error err => rfl
    | ok m => simp only [Except.map, bind, Except.bind, Matcher.getMatchingIds_add]
  | intersection n names => simp only [Rule.determineMatches, narrow_map_add]

/-- Indexing a record first does not change its candidates: indexing adds only points of its
own id, which no rule returns. -/
theorem index_candidates (e : MatchEngine) (r : ParsedRecord) (t : PointTable) :
    (e.index r).candidates r t = e.candidates r t := by
  simp only [candidates, index_matchers, determineMatches_map_add]
  rfl

/-- Matching a record indexes it and answers the candidates the indexed engine gives. -/
theorem determineMatches_eq (e : MatchEngine) (r : ParsedRecord) (t : PointTable) :
    e.determineMatches r t = (e.index r, ·) <$> (e.index r).candidates r t := by
  show ((e.index r).candidates r t >>= fun ids => pure (e.index r, ids)) = _
  cases (e.index r).candidates r t <;> rfl

theorem Configured.index (he : e.Configured) (r : ParsedRecord) : (e.index r).Configured := by
  intro rule hrule
  obtain ⟨hne, hall⟩ := he rule hrule
  refine ⟨hne, fun name hn => ?_⟩
  rw [matcher?_index, Option.isSome_map]
  exact hall name hn

-- ---------------------------------------------------------------------------
-- Records indexed with their current fields
-- ---------------------------------------------------------------------------

/-- A record is indexed with its current fields: under every active matcher, the keys paired
with its id are exactly the keys the matcher reads off its fields. -/
def Indexes (e : MatchEngine) (t : PointTable) (r : ParsedRecord) : Prop :=
  ∀ m ∈ e.matchers, ∀ k, (⟨k, r.id⟩ : Point) ∈ m.pointSet t ↔ k ∈ m.extractKeys r

/-- Indexing another record keeps a record indexed with its fields. -/
theorem Indexes.index {a : ParsedRecord} (ha : e.Indexes t a) (hne : a.id ≠ r.id) :
    (e.index r).Indexes t a := by
  intro m' hm' k
  obtain ⟨m, hm, rfl⟩ := List.mem_map.1 hm'
  simp [Matcher.pointSet_add, ha m hm k, Ne.symm hne]

section Symmetry

variable {a b : ParsedRecord}

theorem Indexes.sharesKey_comm (ha : e.Indexes t a) (hb : e.Indexes t b) {m : Matcher}
    (hm : m ∈ e.matchers) : m.SharesKey t a b.id ↔ m.SharesKey t b a.id := by
  -- both sides say that the two records have a key in common under the matcher
  simp only [Matcher.SharesKey, hb m hm, ha m hm]
  exact ⟨fun ⟨k, hka, hkb⟩ => ⟨k, hkb, hka⟩, fun ⟨k, hkb, hka⟩ => ⟨k, hka, hkb⟩⟩

theorem Indexes.sharesKeyUnder_comm (ha : e.Indexes t a) (hb : e.Indexes t b) (name : String) :
    e.SharesKeyUnder t a name b.id ↔ e.SharesKeyUnder t b name a.id := by
  unfold SharesKeyUnder
  constructor <;> rintro ⟨m, hm, h⟩ <;> refine ⟨m, hm, ?_⟩
  · exact (ha.sharesKey_comm hb (List.mem_of_find?_eq_some hm)).1 h
  · exact (ha.sharesKey_comm hb (List.mem_of_find?_eq_some hm)).2 h

theorem Indexes.ruleMatches_comm (ha : e.Indexes t a) (hb : e.Indexes t b) (rule : Rule) :
    e.RuleMatches t a rule b.id ↔ e.RuleMatches t b rule a.id := by
  have hne : b.id ≠ a.id ↔ a.id ≠ b.id := ne_comm
  cases rule with
  | single name => simp only [RuleMatches, hne, ha.sharesKeyUnder_comm hb]
  | intersection n names => simp only [RuleMatches, hne, ha.sharesKeyUnder_comm hb]

/-- Two records indexed with their current fields are each other's candidates alike. -/
theorem mem_candidates_comm (he : e.Configured) (ha : e.Indexes t a) (hb : e.Indexes t b)
    {ca cb : List Int} (hca : e.candidates a t = .ok ca) (hcb : e.candidates b t = .ok cb) :
    b.id ∈ ca ↔ a.id ∈ cb := by
  obtain ⟨ca', hca', hmeet_a⟩ := candidates_spec he a t
  obtain ⟨cb', hcb', hmeet_b⟩ := candidates_spec he b t
  obtain rfl : ca = ca' := Except.ok.inj (hca.symm.trans hca')
  obtain rfl : cb = cb' := Except.ok.inj (hcb.symm.trans hcb')
  rw [hmeet_a.mem_iff, hmeet_b.mem_iff]
  exact exists_congr fun rule => and_congr_right fun _ => ha.ruleMatches_comm hb rule

end Symmetry

-- ---------------------------------------------------------------------------
-- The reference, all together
-- ---------------------------------------------------------------------------

/-- The engine answers as the reference relation says: the candidates of every record meet
it, records indexed with their current fields match alike, and matching a record indexes it
and answers its candidates, the same before indexing and after. -/
structure MeetsReference (e : MatchEngine) (t : PointTable) : Prop where
  candidates : ∀ r, ∃ c, e.candidates r t = .ok c ∧ e.CandidatesMeet t r c
  symm : ∀ a b ca cb, e.Indexes t a → e.Indexes t b → e.candidates a t = .ok ca →
    e.candidates b t = .ok cb → (b.id ∈ ca ↔ a.id ∈ cb)
  determineMatches : ∀ r, e.determineMatches r t = (e.index r, ·) <$> (e.index r).candidates r t ∧
    (e.index r).candidates r t = e.candidates r t

/-- An engine whose rules read active matchers, at least one each, answers every record as the
reference relation says, whatever its matchers hold in memory and in the store. -/
theorem Configured.meetsReference (he : e.Configured) (t : PointTable) : e.MeetsReference t where
  candidates r := candidates_spec he r t
  symm _ _ _ _ ha hb hca hcb := mem_candidates_comm he ha hb hca hcb
  determineMatches r := ⟨determineMatches_eq e r t, index_candidates e r t⟩

/-- An engine with the ISBN rule and the rule pairing a standard recording number with a
title, after indexing two records that share an ISBN written in two forms, answers as the
reference relation says. -/
theorem isbn_and_recording_rules_meet_reference :
    let e : MatchEngine :=
      ⟨[{ name := "isbn", fields := ["020a"], normalizer := .isbn },
        { name := "x024a", fields := ["024a"], normalizer := .text },
        { name := "x245ah", fields := ["245a", "245h"], normalizer := .text }],
       [.single "isbn", .intersection "x024a_x245ah" ["x024a", "x245ah"]]⟩
    let a : ParsedRecord := ⟨1, [("020a", ["0306406152"])]⟩
    let b : ParsedRecord := ⟨2, [("020a", ["9780306406157"])]⟩
    ((e.index a).index b).Configured ∧ ((e.index a).index b).MeetsReference [] := by
  intro e a b
  have he : ((e.index a).index b).Configured := ((show e.Configured by decide).index a).index b
  exact ⟨he, he.meetsReference []⟩

end MatchEngine

end Catalog.Matching
