/-
  RecordSearch.Proofs.Search.Stages
  ─────────────────────────────────
  **The stages of a search over rows, as functions on lists.**

  A source of rows in memory is changed stage by stage.  What each stage does to the rows is a
  function on lists, which may fail, and a search is these functions one after the other:

      narrowedRows   — the rows that a filter's predicate leaves
      orderedRows    — the rows in the order of a sort's clause
      cutRows        — the rows of the page
      fetchedRows    — the last two; without rows there is nothing to sort or cut

      searchRows_eq_stages       — a search, with its two counts
      filterRowsOnly_eq_stages   — filtering alone

  The functions go through the text that criteria compile to, so nothing is asked of the criteria
  here.  Filters add no rows (`length_narrowedRows_le`), so where 64 bits count the rows that a
  search starts with, its counts are exact (`exists_of_searchRows`).
-/
import RecordSearch.Search
import RecordSearch.Proofs.Outcome
import RecordSearch.Proofs.Search.Calls

namespace RecordSearch

variable {α : Type} [Searchable α] (config : SearchConfig)

/-! ## §1. Outcomes. -/

/-- What an action comes to: its result and the state behind it, or its failure. -/
def Action.outcome {σ β : Type} (p : Action σ β) (s : σ) : Except SearchError (β × σ) :=
  match p.run s with
  | (.ok b, s') => .ok (b, s')
  | (.error e, _) => .error e

theorem Action.outcome_bind {σ β γ : Type} (p : Action σ β) (k : β → Action σ γ) (s : σ) :
    (p >>= k).outcome s = (p.outcome s >>= fun (b, s') => (k b).outcome s') := by
  unfold Action.outcome
  cases hp : p.run s with
  | mk result s' =>
      cases result with
      | error e => rw [Action.run_bind_error hp]; rfl
      | ok b => rw [Action.run_bind_ok hp]; rfl

theorem Action.fst_run {σ β : Type} (p : Action σ β) (s : σ) :
    (p.run s).1 = Prod.fst <$> p.outcome s := by
  unfold Action.outcome
  rcases p.run s with ⟨e | b, s'⟩ <;> rfl

theorem Source.outcome_change {σ : Type} (f : σ → Except SearchError σ) (s : σ) :
    (Source.change f).outcome s = ((), ·) <$> f s := by
  unfold Source.change
  rw [Action.outcome_bind]
  show (((liftM (f s) : Action σ σ) >>= fun s' => set s').outcome s) = _
  cases f s <;> rfl

/-! ## §2. Stages. -/

/-- The rows that a filter's predicate leaves; all rows where there is nothing to filter by. -/
def narrowedRows (criteria : Option FilterCriteria) (rows : List α) :
    Except SearchError (List α) :=
  match criteria with
  | none => .ok rows
  | some f => do
    match ← f.compile config.dialect with
    | none => .ok rows
    | some p => filterRows p rows

/-- The rows in the order of a sort's clause. -/
def orderedRows (sort : Option SortCriteria) (rows : List α) : Except SearchError (List α) :=
  match sort with
  | none => .ok rows
  | some s => do
    match ← s.compile config.dialect with
    | none => .ok rows
    | some clause => orderRows clause rows

/-- The rows of the page. -/
def cutRows {α : Type} (d : SearchDefinition) (rows : List α) : List α :=
  match d.window with
  | none => rows
  | some (skip, take) => takeRows take (skipRows skip rows)

/-- The rows of the page, in the order of the sort.  Where no row was found, nothing is sorted. -/
def fetchedRows (d : SearchDefinition) (found : List α) : Except SearchError (List α) :=
  if found.isEmpty then .ok [] else cutRows d <$> orderedRows config d.sort found

theorem outcome_applyFilter (stage : FilterStage) (criteria : Option FilterCriteria)
    (rows : List α) :
    (applyFilter config Source.rows stage criteria).outcome rows =
      ((), ·) <$> narrowedRows config criteria rows := by
  cases criteria with
  | none => rfl
  | some f =>
      simp only [applyFilter, narrowedRows]
      cases f.compile config.dialect with
      | error e => rfl
      | ok compiled =>
          cases compiled with
          | none => rfl
          | some p =>
              have hfilter := Source.outcome_change (filterRows p (α := α)) rows
              cases config.logPredicates <;> exact hfilter

theorem outcome_applySort (sort : Option SortCriteria) (rows : List α) :
    (applySort config Source.rows sort).outcome rows =
      ((), ·) <$> orderedRows config sort rows := by
  cases sort with
  | none => rfl
  | some s =>
      simp only [applySort, orderedRows]
      cases s.compile config.dialect with
      | error e => rfl
      | ok compiled =>
          cases compiled with
          | none => rfl
          | some clause =>
              have horder := Source.outcome_change (orderRows (α := α) clause) rows
              cases config.logPredicates <;> exact horder

theorem outcome_applyWindow (d : SearchDefinition) (rows : List α) :
    (applyWindow Source.rows d.window).outcome rows = .ok ((), cutRows d rows) := by
  unfold cutRows
  cases d.window <;> rfl

/-! ## §3. Counts. -/

theorem length_keepRows_le {values : List Value} {e : Expr} :
    ∀ {rows kept : List α}, keepRows values e rows = .ok kept → kept.length ≤ rows.length
  | [], kept, h => by
      obtain rfl : [] = kept := Except.ok.inj h
      exact Nat.le_refl 0
  | row :: rows, kept, h => by
      rw [keepRows] at h
      obtain ⟨holds, -, h⟩ := bind_eq_ok_iff.mp h
      cases holds with
      | false => exact Nat.le_succ_of_le (length_keepRows_le h)
      | true =>
          obtain ⟨rest, hrest, h⟩ := bind_eq_ok_iff.mp h
          obtain rfl := Except.ok.inj h
          exact Nat.succ_le_succ (length_keepRows_le hrest)

/-- **A filter adds no rows.** -/
theorem length_narrowedRows_le {criteria : Option FilterCriteria} {rows kept : List α}
    (h : narrowedRows config criteria rows = .ok kept) : kept.length ≤ rows.length := by
  cases criteria with
  | none =>
      obtain rfl : rows = kept := Except.ok.inj h
      exact Nat.le_refl _
  | some f =>
      obtain ⟨compiled, -, h⟩ := bind_eq_ok_iff.mp h
      cases compiled with
      | none =>
          obtain rfl : rows = kept := Except.ok.inj h
          exact Nat.le_refl _
      | some p =>
          simp only [filterRows] at h
          split at h
          · exact length_keepRows_le h
          · cases h

/-! ## §4. Searches. -/

/-- A search asks its second count whether there is anything to sort and cut. -/
theorem searchRows_eq_of_counts (definition : Option SearchDefinition) (rows : List α) :
    searchRows config definition rows = (do
      let d := definition.getD {}
      let kept ← narrowedRows config d.preFilter rows
      let found ← narrowedRows config d.filter kept
      let filtered := UInt64.ofNat found.length
      if 0 < filtered then
        let sorted ← orderedRows config d.sort found
        return ⟨d.page, d.pageSize, UInt64.ofNat kept.length, filtered, cutRows d sorted⟩
      else return ⟨d.page, d.pageSize, UInt64.ofNat kept.length, filtered, found⟩) := by
  have hnote : ∀ n, (liftM ((Source.rows (α := α)).note n) : Action (List α) Unit) = pure () :=
    fun _ => rfl
  have hcount : ∀ rows : List α,
      Source.rows.count.outcome rows = .ok (UInt64.ofNat rows.length, rows) := fun _ => rfl
  unfold searchRows search
  simp only [Action.fst_run, hnote, hcount, pure_bind, ok_bind, bind_map_left,
    Action.outcome_bind, outcome_applyFilter, map_bind]
  -- Up to the second count both sides do the same; behind it, the count decides.
  refine bind_congr fun kept => bind_congr fun found => ?_
  by_cases hfiltered : 0 < UInt64.ofNat found.length
  · simp only [if_pos hfiltered, ok_bind, bind_map_left, Action.outcome_bind, outcome_applySort,
      outcome_applyWindow, map_bind]
    rfl
  · simp only [if_neg hfiltered]
    rfl

/-- **A search over rows, stage by stage**, where 64 bits count the rows. -/
theorem searchRows_eq_stages (definition : Option SearchDefinition) {rows : List α}
    (hrows : rows.length < UInt64.size) :
    searchRows config definition rows = (do
      let d := definition.getD {}
      let kept ← narrowedRows config d.preFilter rows
      let found ← narrowedRows config d.filter kept
      let fetched ← fetchedRows config d found
      return ⟨d.page, d.pageSize, UInt64.ofNat kept.length, UInt64.ofNat found.length,
        fetched⟩) := by
  rw [searchRows_eq_of_counts]
  generalize definition.getD {} = d
  dsimp only
  cases hkept : narrowedRows config d.preFilter rows with
  | error e => rfl
  | ok kept =>
      simp only [ok_bind]
      cases hfound : narrowedRows config d.filter kept with
      | error e => rfl
      | ok found =>
          have hkept_le := length_narrowedRows_le config hkept
          have hfound_le := length_narrowedRows_le config hfound
          have hcount : (UInt64.ofNat found.length).toNat = found.length :=
            UInt64.toNat_ofNat_of_lt' (by omega)
          simp only [ok_bind, fetchedRows, UInt64.lt_iff_toNat_lt, hcount]
          cases found with
          | nil => rfl
          | cons row found =>
              rw [if_pos (show UInt64.toNat 0 < (row :: found).length from Nat.succ_pos _)]
              show (orderedRows config d.sort (row :: found)).bind _ =
                (cutRows d <$> orderedRows config d.sort (row :: found)).bind _
              cases orderedRows config d.sort (row :: found) <;> rfl

/-- **What a search that succeeds comes to**: its stages succeed, and its counts are the numbers of
the rows that they leave. -/
theorem exists_of_searchRows {definition : Option SearchDefinition} {rows : List α}
    {r : SearchResult α} (hrows : rows.length < UInt64.size)
    (h : searchRows config definition rows = .ok r) :
    ∃ kept found, narrowedRows config (definition.getD {}).preFilter rows = .ok kept ∧
      narrowedRows config (definition.getD {}).filter kept = .ok found ∧
      fetchedRows config (definition.getD {}) found = .ok r.rows ∧
      r.total.toNat = kept.length ∧ r.filtered.toNat = found.length ∧
      found.length ≤ rows.length ∧ r.page = (definition.getD {}).page ∧
      r.pageSize = (definition.getD {}).pageSize := by
  rw [searchRows_eq_stages config definition hrows] at h
  generalize definition.getD {} = d at h ⊢
  obtain ⟨kept, hkept, h⟩ := bind_eq_ok_iff.mp h
  obtain ⟨found, hfound, h⟩ := bind_eq_ok_iff.mp h
  obtain ⟨fetched, hfetched, h⟩ := bind_eq_ok_iff.mp h
  have hkept_le := length_narrowedRows_le config hkept
  have hfound_le := length_narrowedRows_le config hfound
  cases h
  exact ⟨kept, found, hkept, hfound, hfetched, UInt64.toNat_ofNat_of_lt' (by omega),
    UInt64.toNat_ofNat_of_lt' (by omega), by omega, rfl, rfl⟩

/-- **Filtering alone is two stages.** -/
theorem filterRowsOnly_eq_stages (d : SearchDefinition) (rows : List α) :
    filterRowsOnly config (some d) rows =
      (narrowedRows config d.preFilter rows >>= narrowedRows config d.filter) := by
  have hfetch : ∀ rows : List α, Source.rows.materialize.outcome rows = .ok (rows, rows) :=
    fun _ => rfl
  unfold filterRowsOnly filterOnly
  simp only [Action.fst_run, Action.outcome_bind, outcome_applyFilter, bind_map_left, map_bind,
    hfetch]
  exact bind_congr fun kept => bind_pure _

end RecordSearch
