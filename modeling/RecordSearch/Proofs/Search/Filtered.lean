/-
  RecordSearch.Proofs.Search.Filtered
  ───────────────────────────────────
  **Filtering alone is a search that asks for nothing else.**

  A source can be filtered without the counts, the sort and the page of a search.  This is written
  apart from the search, and it agrees with it: the rows are those of the search for the same
  filters alone, and so is the error.  A sort moves these rows and does nothing else to them:

      SearchDefinition.unarranged  — the definition without a sort and without a page
      filterRowsOnly_eq_default    — no definition is one that asks for nothing
      exists_found_of_searchRows   — a search without a page, against filtering alone
      filterRowsOnly_eq_search     — both
-/
import RecordSearch.Proofs.Search.Merged
import RecordSearch.Proofs.Search.Paging

namespace RecordSearch

variable {α : Type} [Searchable α] (config : SearchConfig)

/-- The definition without a sort and without a page. -/
def SearchDefinition.unarranged (d : SearchDefinition) : SearchDefinition :=
  { d.unpaged with sort := none }

theorem SearchDefinition.isUnarranged_unarranged (d : SearchDefinition) :
    d.unarranged.IsUnarranged := ⟨nofun, rfl⟩

/-- Without a definition all rows are fetched at once, as they are for one without filters. -/
theorem filterRowsOnly_eq_default (definition : Option SearchDefinition) (rows : List α) :
    filterRowsOnly config definition rows =
      filterRowsOnly config (some (definition.getD {})) rows := by
  cases definition with
  | none =>
      rw [filterRowsOnly_eq_stages]
      rfl
  | some d => rfl

/-- **The rows of a search without a page are those that filtering finds**, in another order. -/
theorem exists_found_of_searchRows {d : SearchDefinition} {rows : List α} {r : SearchResult α}
    (h : searchRows config (some d.unpaged) rows = .ok r) :
    ∃ found, filterRowsOnly config (some d) rows = .ok found ∧ r.rows.Perm found ∧
      r.filtered = UInt64.ofNat found.length ∧ found.length ≤ rows.length := by
  rw [searchRows_eq_of_counts] at h
  obtain ⟨kept, hkept, h⟩ := bind_eq_ok_iff.mp h
  obtain ⟨found, hfound, h⟩ := bind_eq_ok_iff.mp h
  have hle : found.length ≤ rows.length :=
    Nat.le_trans (length_narrowedRows_le config hfound) (length_narrowedRows_le config hkept)
  refine ⟨found, ?_, ?_⟩
  · rw [filterRowsOnly_eq_stages]
    exact bind_eq_ok_iff.mpr ⟨kept, hkept, hfound⟩
  · -- Where nothing was found, nothing is sorted.
    by_cases hfiltered : 0 < UInt64.ofNat found.length
    · rw [if_pos hfiltered] at h
      obtain ⟨sorted, hsorted, h⟩ := bind_eq_ok_iff.mp h
      cases h
      exact ⟨orderedRows_perm config hsorted, rfl, hle⟩
    · rw [if_neg hfiltered] at h
      cases h
      exact ⟨.refl _, rfl, hle⟩

/-- **Filtering alone agrees with searching.**  It gives the rows, or the error, of the search for
the definition without its sort and page; and where the search for the definition without its page
succeeds, the rows of that search are those that filtering gives, in another order, and are counted
as found.  Counts are words of 64 bits, which hold the count of any rows that fit in memory. -/
theorem filterRowsOnly_eq_search (config : SearchConfig) (definition : Option SearchDefinition)
    (rows : List α) :
    filterRowsOnly config definition rows =
      SearchResult.rows <$> searchRows config (definition.map (·.unarranged)) rows ∧
    ∀ r, searchRows config (definition.map (·.unpaged)) rows = .ok r →
      ∃ found, filterRowsOnly config definition rows = .ok found ∧ r.rows.Perm found ∧
        r.filtered = UInt64.ofNat found.length ∧
        (rows.length < UInt64.size → r.filtered.toNat = found.length) := by
  -- No definition is the one that asks for nothing, in a search as in filtering alone.
  have hsearch : ∀ change : SearchDefinition → SearchDefinition, change {} = {} →
      searchRows config (definition.map change) rows =
        searchRows config (some (change (definition.getD {}))) rows := by
    intro change hchange
    cases definition with
    | none =>
        rw [Option.getD_none, hchange]
        rfl
    | some d => rfl
  rw [filterRowsOnly_eq_default, hsearch _ rfl, hsearch _ rfl]
  generalize definition.getD {} = d
  refine ⟨?_, fun r hr => ?_⟩
  · have hcounted := searchRows_of_isUnarranged config d.isUnarranged_unarranged rows
    calc filterRowsOnly config (some d) rows
        = Prod.snd <$> ((fun found => (UInt64.ofNat found.length, found)) <$>
            filterRowsOnly config (some d.unarranged) rows) := by
          rw [Functor.map_map]
          exact (id_map _).symm
      _ = Prod.snd <$> ((fun r => (r.filtered, r.rows)) <$>
            searchRows config (some d.unarranged) rows) := by rw [hcounted]
      _ = SearchResult.rows <$> searchRows config (some d.unarranged) rows := Functor.map_map _ _ _
  · obtain ⟨found, hfound, hperm, hfiltered, hle⟩ := exists_found_of_searchRows config hr
    refine ⟨found, hfound, hperm, hfiltered, fun hrows => ?_⟩
    rw [hfiltered, UInt64.toNat_ofNat_of_lt' (Nat.lt_of_le_of_lt hle hrows)]

/-- The filter keeps three of the four rows, which the search puts in descending order. -/
theorem filterRowsOnly_eq_search_sorted :
    let row := fun n : Int64 => ([("n", .value (.int n))] : Record)
    let d : SearchDefinition := {
      page := some 1
      pageSize := some 2
      sort := some ⟨[⟨"n", .descending⟩]⟩
      filter := some ⟨[.ofSingle .and ⟨"n", .notEquals, .int 2, [], .other⟩]⟩ }
    let rows := [row 3, row 1, row 2, row 4]
    filterRowsOnly {} (some d) rows = .ok [row 3, row 1, row 4] ∧
      SearchResult.rows <$> searchRows {} (some d.unarranged) rows =
        .ok [row 3, row 1, row 4] ∧
      searchRows {} (some d.unpaged) rows = .ok ⟨none, none, 4, 3, [row 4, row 3, row 1]⟩ ∧
      [row 4, row 3, row 1].Perm [row 3, row 1, row 4] ∧
      rows.length < UInt64.size ∧ UInt64.toNat 3 = [row 3, row 1, row 4].length := by
  intro row d rows
  have hfiltered : filterRowsOnly {} (some d) rows = .ok [row 3, row 1, row 4] := by rfl
  have hsorted : searchRows {} (some d.unpaged) rows =
      .ok ⟨none, none, 4, 3, [row 4, row 3, row 1]⟩ := by rfl
  have hrows : rows.length < UInt64.size := by decide
  obtain ⟨hunarranged, hunpaged⟩ := filterRowsOnly_eq_search {} (some d) rows
  obtain ⟨found, hfound, hperm, -, hcount⟩ := hunpaged _ hsorted
  obtain rfl : [row 3, row 1, row 4] = found := Except.ok.inj (hfiltered.symm.trans hfound)
  exact ⟨hfiltered, hunarranged.symm.trans hfiltered, hsorted, hperm, hrows, hcount hrows⟩

end RecordSearch
