import Catalog.Store.Records

/-!
# Paging through a repository

A reader walks the records a filter selects page by page: it reads one page of at most
`size` records above its cursor, in ascending id order, moves the cursor to the id of the
last record of the page, and stops at the first empty page (`Store.pages`). The record
table keeps its rows in ascending id order (`KeyOrdered`), as its key orders them; a
repository's query takes the rows the filter selects in that order.

The walk is exact because the rows above a page's last id are exactly the selected rows
after that page: the page is a prefix of the rows in id order, so every row of it has an id
at most the last one and every later row a greater one. A page whose cursor has rows left
above it is never empty when its size is at least one, so the walk only stops when no row
is left, and each step leaves fewer rows above the cursor, which is why it ends.

## Main results

* `Filter.admits_iff`: what a filter selects, read as conditions on a row
* `pages_flatten`: the walk reads exactly the records the filter selects, in order, and
  fails exactly as reading them fails
* `pages_length_le`: every page of the walk holds at least one record and at most `size`
* `headers_ids`: the header page of a filter names the records of its record page
* `paging_reads_each_selected_record_once`: the walk over any contents, filter and page
  size yields each selected record once, in strictly ascending id order, in pages of at
  most the page size that a reader asks for (at least one), as many as the count, with
  header pages naming the same records
-/

namespace Catalog.Store

/-- The record table keeps its rows in ascending order of their ids. -/
def KeyOrdered (s : Store) : Prop :=
  s.records.Pairwise fun a b => a.id < b.id

instance : DecidablePred KeyOrdered := fun s =>
  inferInstanceAs (Decidable (s.records.Pairwise fun a b => a.id < b.id))

/-- What a filter selects, read as conditions on a row: a visible row of the repository
above the cursor, updated within the window, of the format and in the set, each bound only
when it is given. Times outside the representable range count as the epoch. -/
def Filter.Selects (f : Filter) (s : Store) (repo : String) (row : RecordRow) : Prop :=
  row.repo = repo ∧ row.visible = true ∧ f.after < row.id ∧
    (∀ t ∈ f.fromMs, Time.ofMillis t ≤ row.updatedAt) ∧
    (∀ t ∈ f.untilMs, row.updatedAt ≤ Time.ofMillis t) ∧
    (∀ format ∈ f.format, row.format = format) ∧
    (∀ spec ∈ f.setSpec, (row.id, spec) ∈ s.recordSets)

theorem Filter.admits_iff {f : Filter} {s : Store} {repo : String} {row : RecordRow} :
    f.admits s repo row = true ↔ f.Selects s repo row := by
  simp [Filter.admits, Filter.Selects, and_assoc, Option.all_eq_true]

variable {s : Store} {repo : String} {size : Nat}

-- ---------------------------------------------------------------------------
-- One page
-- ---------------------------------------------------------------------------

theorem selectRows_keyOrdered (hk : s.KeyOrdered) (f : Filter) :
    (s.selectRows repo f).Pairwise fun a b => a.id < b.id :=
  hk.sublist List.filter_sublist

theorem page_eq (ht : s.hasTable "records" = true) (f : Filter) :
    s.page repo f size = ((s.selectRows repo f).take size).mapM s.view := by
  simp only [page, needTable, ht, if_true]
  rfl

theorem page_of_no_table (ht : s.hasTable "records" = false) (f : Filter) :
    s.page repo f size = .error (.storage (.noSuchTable "records")) := by
  simp only [page, needTable, ht]
  rfl

/-- The rows above the id of the last row of a page are the rows after the page. -/
theorem selectRows_after_page (hk : s.KeyOrdered) {f : Filter} {row : RecordRow}
    (hlast : ((s.selectRows repo f).take size).getLast? = some row) :
    s.selectRows repo { f with after := row.id } = (s.selectRows repo f).drop size := by
  have hrows : (s.selectRows repo f).Pairwise fun a b => a.id < b.id :=
    selectRows_keyOrdered hk f
  have hrow : row ∈ s.selectRows repo f := List.mem_of_mem_take (List.mem_of_getLast? hlast)
  have hafter : f.after < row.id := ((Filter.admits_iff).1 (List.mem_filter.1 hrow).2).2.2.1
  rw [selectRows_after (Int.le_of_lt hafter)]
  rw [← List.take_append_drop size (s.selectRows repo f)] at hrows
  obtain ⟨hpre, -, hcross⟩ := List.pairwise_append.1 hrows
  -- every row of the page is at most its last row, every later row above it
  have hle : ∀ x ∈ (s.selectRows repo f).take size, x.id ≤ row.id := by
    intro x hx
    obtain ⟨pre, hpre_eq⟩ := List.getLast?_eq_some_iff.1 hlast
    rw [hpre_eq] at hx hpre
    rcases List.mem_append.1 hx with hx | hx
    · exact Int.le_of_lt
        (List.pairwise_append.1 hpre |>.2.2 x hx row (List.mem_singleton_self row))
    · exact Int.le_of_eq (congrArg RecordRow.id (List.mem_singleton.1 hx))
  calc (s.selectRows repo f).filter (row.id < ·.id)
      = ((s.selectRows repo f).take size ++ (s.selectRows repo f).drop size).filter
          (row.id < ·.id) := by rw [List.take_append_drop]
    _ = [] ++ (s.selectRows repo f).drop size := by
      rw [List.filter_append, List.filter_eq_nil_iff.2 fun x hx => by simpa using hle x hx]
      exact congrArg _ (List.filter_eq_self.2 fun x hx => by
        simpa using hcross row (List.mem_of_getLast? hlast) x hx)
    _ = (s.selectRows repo f).drop size := List.nil_append _

/-- The header page of a filter names the records of its record page. -/
theorem headers_ids {f : Filter} {rs : List Record} (h : s.page repo f size = .ok rs) :
    ∃ hs, s.headers repo f size = .ok hs ∧ rs.map (·.id) = hs.map (some ·.id) := by
  cases ht : s.hasTable "records"
  · rw [page_of_no_table ht] at h
    cases h
  · rw [page_eq ht] at h
    refine ⟨_, by simp only [headers, needTable, ht, if_true]; rfl, ?_⟩
    rw [mapM_view_ids h, List.map_map]
    rfl

/-- A fallible read of rows gives one record per row. -/
theorem length_of_mapM_view {rows : List RecordRow} {rs : List Record}
    (h : rows.mapM s.view = .ok rs) : rs.length = rows.length := by
  simpa using congrArg List.length (mapM_view_ids h)

/-- The last record of a page is read from the last row of the page. -/
theorem lastRow_of_page {rows : List RecordRow} {pg : List Record} {last : Int}
    (h : rows.mapM s.view = .ok pg) (hlast : pg.getLast?.bind (·.id) = some last) :
    ∃ row, rows.getLast? = some row ∧ row.id = last := by
  obtain ⟨r, hr, hid⟩ := Option.bind_eq_some_iff.1 hlast
  have hids := congrArg List.getLast? (mapM_view_ids h)
  rw [List.getLast?_map, List.getLast?_map, hr, Option.map_some, hid] at hids
  obtain ⟨row, hrow, hrid⟩ := Option.map_eq_some_iff.1 hids.symm
  exact ⟨row, hrow, Option.some.inj hrid⟩

/-- A page read from rows whose last record has no id is empty. -/
theorem eq_nil_of_page {rows : List RecordRow} {pg : List Record}
    (h : rows.mapM s.view = .ok pg) (hnone : pg.getLast?.bind (·.id) = none) : rows = [] := by
  have hids := congrArg List.getLast? (mapM_view_ids h)
  rw [List.getLast?_map, List.getLast?_map] at hids
  cases hr : rows.getLast? with
  | none => exact List.getLast?_eq_none_iff.1 hr
  | some row =>
    rw [hr, Option.map_some] at hids
    obtain ⟨r, hpg, hrid⟩ := Option.map_eq_some_iff.1 hids
    rw [hpg, Option.bind_some, hrid] at hnone
    cases hnone

-- ---------------------------------------------------------------------------
-- The walk
-- ---------------------------------------------------------------------------

theorem pages_of_error {f : Filter} {e : Error} (h : s.page repo f size = .error e) :
    s.pages repo size f = .error e := by
  rw [pages]
  split
  · rename_i e' h'
    rw [h] at h'
    cases h'
    rfl
  · rename_i pg h'
    rw [h] at h'
    cases h'

theorem pages_of_none {f : Filter} {pg : List Record} (h : s.page repo f size = .ok pg)
    (hnone : pg.getLast?.bind (·.id) = none) : s.pages repo size f = .ok [] := by
  rw [pages]
  split
  · rename_i e h'
    rw [h] at h'
    cases h'
  · rename_i pg' h'
    rw [h] at h'
    cases h'
    split
    · rfl
    · rename_i last hlast
      rw [hnone] at hlast
      cases hlast

theorem pages_of_some {f : Filter} {pg : List Record} {last : Int}
    (h : s.page repo f size = .ok pg) (hlast : pg.getLast?.bind (·.id) = some last) :
    s.pages repo size f = (pg :: ·) <$> s.pages repo size { f with after := last } := by
  rw [pages]
  split
  · rename_i e h'
    rw [h] at h'
    cases h'
  · rename_i pg' h'
    rw [h] at h'
    cases h'
    split
    · rename_i hnone
      rw [hlast] at hnone
      cases hnone
    · rename_i last' hlast'
      rw [hlast] at hlast'
      cases hlast'
      rfl

/-- The walk reads exactly the records the filter selects, in order; it fails where reading
them fails, with the same error. -/
theorem pages_flatten (hk : s.KeyOrdered) (ht : s.hasTable "records" = true) (hsize : 0 < size)
    (f : Filter) : (s.pages repo size f).map List.flatten = (s.selectRows repo f).mapM s.view := by
  induction f using pages.induct s repo size with
  | case1 f e h =>
    -- the page fails, and reading all the rows fails there first
    rw [pages_of_error h]
    rw [page_eq ht] at h
    rw [← List.take_append_drop size (s.selectRows repo f), List.mapM_append, h]
    rfl
  | case2 f pg h hnone =>
    -- an empty page: no row is selected at all, since a page holds at least one row
    rw [pages_of_none h hnone]
    rw [page_eq ht] at h
    have hnil := eq_nil_of_page h hnone
    rw [List.take_eq_nil_iff] at hnil
    rcases hnil with hzero | hnil
    · omega
    · rw [hnil]
      rfl
  | case3 f pg h last hlast _ ih =>
    -- the page, then the rows after it, which are the rows above its last id
    rw [pages_of_some h hlast]
    rw [page_eq ht] at h
    obtain ⟨row, hrow, rfl⟩ := lastRow_of_page h hlast
    rw [selectRows_after_page hk hrow] at ih
    rw [← List.take_append_drop size (s.selectRows repo f), List.mapM_append, h, ← ih]
    cases s.pages repo size { f with after := row.id } <;> rfl

/-- Every page of the walk holds at least one record and at most `size`. -/
theorem pages_length_le (f : Filter) :
    ∀ ps, s.pages repo size f = .ok ps → ∀ pg ∈ ps, 0 < pg.length ∧ pg.length ≤ size := by
  induction f using pages.induct s repo size with
  | case1 f e h =>
    intro ps hps
    rw [pages_of_error h] at hps
    cases hps
  | case2 f pg h hnone =>
    intro ps hps
    rw [pages_of_none h hnone] at hps
    cases hps
    intro pg hpg
    cases hpg
  | case3 f pg h last hlast _ ih =>
    intro ps hps
    rw [pages_of_some h hlast] at hps
    rcases hrest : s.pages repo size { f with after := last } with e | ps' <;>
      rw [hrest] at hps <;> cases hps
    intro pg' hpg'
    rcases List.mem_cons.1 hpg' with rfl | hpg'
    · cases ht : s.hasTable "records"
      · rw [page_of_no_table ht] at h
        cases h
      · rw [page_eq ht] at h
        obtain ⟨row, hrow, -⟩ := lastRow_of_page h hlast
        have hne : (s.selectRows repo f).take size ≠ [] := fun hnil => by
          rw [hnil] at hrow
          cases hrow
        rw [length_of_mapM_view h]
        exact ⟨List.length_pos_iff.2 hne, List.length_take_le _ _⟩
    · exact ih ps' hrest pg' hpg'

/-- Paging through any repository contents with any filter, at the page size a reader asks
for (at least one): the rows the filter selects are the rows that meet its conditions, in
strictly ascending id order; the walk yields the records of exactly these rows, each once
and in that order, and fails exactly where reading them fails; every page holds between
one record and the page size; the records yielded are as many as the count; and at every
cursor the header page names the records of the record page. -/
theorem paging_reads_each_selected_record_once (hk : s.KeyOrdered) (repo : String)
    (f : Filter) (requested : Int) :
    let size := (max 1 requested).toNat
    (∀ row, row ∈ s.selectRows repo f ↔ row ∈ s.records ∧ f.Selects s repo row) ∧
      (s.selectRows repo f).Pairwise (fun a b => a.id < b.id) ∧
      (s.pages repo size f).map List.flatten =
        (do s.needTable "records"; (s.selectRows repo f).mapM s.view) ∧
      (∀ ps, s.pages repo size f = .ok ps →
        (∀ pg ∈ ps, 0 < pg.length ∧ pg.length ≤ size) ∧
          s.count repo f = .ok ps.flatten.length) ∧
      ∀ g rs, s.page repo g size = .ok rs →
        ∃ hs, s.headers repo g size = .ok hs ∧ rs.map (·.id) = hs.map (some ·.id) := by
  intro size
  have hsize : 0 < size := by
    have : (1 : Int) ≤ max 1 requested := Int.le_max_left _ _
    omega
  refine ⟨fun row => ?members, selectRows_keyOrdered hk f, ?walk,
    fun ps hps => ⟨pages_length_le f ps hps, ?count⟩, fun g rs h => headers_ids h⟩
  case members => simp [selectRows, Filter.admits_iff]
  case walk =>
    cases ht : s.hasTable "records"
    · rw [pages_of_error (page_of_no_table ht f)]
      simp only [needTable, ht]
      rfl
    · rw [pages_flatten hk ht hsize f]
      simp only [needTable, ht, if_true]
      rfl
  case count =>
    cases ht : s.hasTable "records"
    · rw [pages_of_error (page_of_no_table ht f)] at hps
      cases hps
    · -- the walk read one record per selected row
      have hflat : (s.pages repo size f).map List.flatten = (s.selectRows repo f).mapM s.view :=
        pages_flatten hk ht hsize f
      rw [hps] at hflat
      have hlen := length_of_mapM_view hflat.symm
      simp only [count, needTable, ht, if_true, hlen]
      rfl

/-- Three records of one repository, read two at a time. -/
theorem paging_three_records_by_two :
    let row (id : Int) (oai : String) : RecordRow :=
      { id, repo := "r", oaiId := oai, format := "marc21", recordType := none,
        status := .active, payload := .obj [], visible := true, batch := none, updatedAt := 0 }
    let s₀ : Store := { records := [row 1 "a", row 2 "b", row 3 "c"] }
    s₀.KeyOrdered ∧
      let size := (max 1 (2 : Int)).toNat
      (∀ row, row ∈ s₀.selectRows "r" {} ↔ row ∈ s₀.records ∧ Filter.Selects {} s₀ "r" row) ∧
        (s₀.selectRows "r" {}).Pairwise (fun a b => a.id < b.id) ∧
        (s₀.pages "r" size {}).map List.flatten =
          (do s₀.needTable "records"; (s₀.selectRows "r" {}).mapM s₀.view) ∧
        (∀ ps, s₀.pages "r" size {} = .ok ps →
          (∀ pg ∈ ps, 0 < pg.length ∧ pg.length ≤ size) ∧
            s₀.count "r" {} = .ok ps.flatten.length) ∧
        ∀ g rs, s₀.page "r" g size = .ok rs →
          ∃ hs, s₀.headers "r" g size = .ok hs ∧ rs.map (·.id) = hs.map (some ·.id) := by
  intro row s₀
  have hk : s₀.KeyOrdered := by decide
  exact ⟨hk, paging_reads_each_selected_record_once hk "r" {} 2⟩

end Catalog.Store
