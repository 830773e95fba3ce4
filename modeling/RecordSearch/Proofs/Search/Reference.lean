/-
  RecordSearch.Proofs.Search.Reference
  ────────────────────────────────────
  **A search over rows is a pipeline on lists.**

  What a search over rows in memory does, said with lists alone:

      keptRows         — the rows for which the criteria hold; all rows without criteria
      sortedRows       — the rows in the order of the sort keys
      windowRows       — the rows of the page
      referenceSearch  — the stages in turn: two counts, and the rows unless none are left

  Nothing is compiled to text here but to find the error of malformed criteria, which comes before
  that of any row: rows are tried by the meaning of the criteria (`Proofs.Criteria.Meaning`), and
  the first failure in this order is that of the search.

  Rows whose keys are in an order are sorted by the library's merge sort (`referenceSort`).  Keys of
  several kinds may be in none; what becomes of them is left open (`UnsettledSort`), but that each
  row is kept, and that what becomes of them depends on their comparison alone.
-/
import RecordSearch.Search
import RecordSearch.Proofs.Criteria.Evaluated
import RecordSearch.Proofs.Criteria.Ordered
import RecordSearch.Proofs.Rows.SortKeys
import RecordSearch.Proofs.Search.Stages
import RecordSearch.Proofs.Sorting.Runs

namespace RecordSearch

variable {α : Type} [Searchable α] (config : SearchConfig)

/-! ## §1. The pipeline. -/

/-- The rows for which the criteria hold. -/
def keptRows (criteria : Option FilterCriteria) (rows : List α) : Except SearchError (List α) :=
  match criteria with
  | none => .ok rows
  | some f =>
    if f.isEmpty then .ok rows
    else do
      let _ ← f.compile config.dialect
      rows.filterM fun row => f.meaning (Searchable.record row)

/-- The value that a row is sorted by. -/
def SortCriterion.value (item : SortCriterion) (r : Record) : Except SearchError Value := do
  (← r.follow item.field).plain item.field

/-- The order of rows with the values of their keys. -/
def SortCriteria.order (s : SortCriteria) (a b : List Value × α) : Ordering :=
  compareKeys (s.items.map (·.direction)) a.1 b.1

/-- **What is known of sorting elements that are in no order**: it keeps every element, or it gives
up. -/
structure UnsettledSort where
  sort {β : Type} : (β → β → Ordering) → List β → Option (List β)
  perm {β : Type} {order : β → β → Ordering} {xs ys : List β} :
    sort order xs = some ys → ys.Perm xs

/-- **The sorted list**, by the library's merge sort where there is an order. -/
def referenceSort (unsettled : UnsettledSort) {β : Type} (order : β → β → Ordering)
    (xs : List β) : Option (List β) :=
  if Consistent order xs then some (xs.mergeSort fun a b => order a b ≠ .gt)
  else unsettled.sort order xs

/-- The rows in the order of the sort keys, whose values are found row by row before any of them
are compared. -/
def sortedRows (unsettled : UnsettledSort) (sort : Option SortCriteria) (rows : List α) :
    Except SearchError (List α) :=
  match sort with
  | none => .ok rows
  | some s =>
    if s.isEmpty then .ok rows
    else do
      let _ ← s.compile config.dialect
      let keyed ← rows.mapM fun row => do
        return (← s.items.mapM (·.value (Searchable.record row)), row)
      (referenceSort unsettled s.order keyed).elim (.error .disordered) fun sorted =>
        .ok (sorted.map (·.2))

/-- The rows of the page.  The number of rows in front of it wraps around like every product of 64
bits; a negative number of rows is none, as `Int.toNat` has it. -/
def windowRows (d : SearchDefinition) (rows : List α) : List α :=
  match d.page, d.pageSize with
  | some page, some size =>
    (rows.drop (Int.bmod (page.toInt * size.toInt) UInt64.size).toNat).take size.toInt.toNat
  | _, _ => rows

/-- The page, the page size, the two counts as plain numbers, and the rows. -/
abbrev PlainResult (α : Type) := Option Int64 × Option Int64 × Nat × Nat × List α

def SearchResult.plain (r : SearchResult α) : PlainResult α :=
  (r.page, r.pageSize, r.total.toNat, r.filtered.toNat, r.rows)

/-- **The stages of a search in turn.**  Where nothing is left, nothing is sorted or cut. -/
def referenceSearch (unsettled : UnsettledSort) (d : SearchDefinition) (rows : List α) :
    Except SearchError (PlainResult α) := do
  let kept ← keptRows config d.preFilter rows
  let found ← keptRows config d.filter kept
  if found.length = 0 then return (d.page, d.pageSize, kept.length, 0, [])
  else
    let sorted ← sortedRows config unsettled d.sort found
    return (d.page, d.pageSize, kept.length, found.length, windowRows d sorted)

/-! ## §2. Filters. -/

theorem filterAuxM_eq {β : Type} (test : β → Except SearchError Bool) (xs acc : List β) :
    xs.filterAuxM test acc = (xs.filterAuxM test []).map (· ++ acc) := by
  induction xs generalizing acc with
  | nil => rfl
  | cons x xs ih =>
      show (test x).bind _ = ((test x).bind _).map _
      cases test x with
      | error _ => rfl
      | ok passes =>
          show xs.filterAuxM test (cond passes (x :: acc) acc) =
            (xs.filterAuxM test (cond passes [x] [])).map _
          rw [ih, ih (cond passes [x] [])]
          cases xs.filterAuxM test [] with
          | error _ => rfl
          | ok kept => cases passes <;> simp [Except.map]

/-- Filtering element by element, from the front. -/
theorem filterM_cons {β : Type} (test : β → Except SearchError Bool) (x : β) (xs : List β) :
    (x :: xs).filterM test = (do
      if ← test x then return x :: (← xs.filterM test) else xs.filterM test) := by
  show ((test x).bind _).bind _ = (test x).bind _
  cases test x with
  | error _ => rfl
  | ok passes =>
      show (xs.filterAuxM test (cond passes [x] [])).bind _ = _
      rw [filterAuxM_eq]
      unfold List.filterM
      -- The library collects what passes from the back, and turns it round at the end.
      cases passes <;> cases xs.filterAuxM test [] <;>
        simp [bind, Except.bind, Except.map, pure, Except.pure]

theorem keepRows_eq_filterM {values : List Value} {e : Expr}
    {test : α → Except SearchError Bool}
    (h : ∀ row : α, e.holds values (Searchable.record row) = test row) (rows : List α) :
    keepRows values e rows = rows.filterM test := by
  induction rows with
  | nil => rfl
  | cons row rows ih => rw [keepRows, filterM_cons, h, ih]

/-- The predicate of a filter keeps the rows for which the filter holds. -/
theorem filterRows_of_compile {words : List String} {f : FilterCriteria} {p : Predicate}
    (h : f.compile (.ofWords words) = .ok (some p)) (hsize : p.parameters.length ≤ UInt64.size)
    (rows : List α) :
    filterRows p rows = rows.filterM fun row => f.meaning (Searchable.record row) := by
  unfold filterRows
  rw [FilterCriteria.parsePredicate_of_compile h hsize]
  apply keepRows_eq_filterM
  intro row
  rw [FilterCriteria.parameters_of_compile h]
  exact f.holds_tree (Searchable.record row)

/-! ## §3. Sorts. -/

theorem referenceSort_of_consistent (unsettled : UnsettledSort) {β : Type}
    {order : β → β → Ordering} {xs : List β} (h : Consistent order xs) :
    referenceSort unsettled order xs = some (stableSort order xs) := by
  rw [referenceSort, if_pos h, stableSort_eq_mergeSort h]

/-- What the sort of a search makes of elements that are in no order. -/
def UnsettledSort.actual : UnsettledSort where
  sort := trySort
  perm := fun {_ order xs ys} h => (sorts_trySort order xs).perm ys h

theorem referenceSort_actual {β : Type} (order : β → β → Ordering) (xs : List β) :
    referenceSort .actual order xs = trySort order xs := by
  by_cases h : Consistent order xs
  · rw [referenceSort_of_consistent .actual h, (sorts_trySort order xs).sorts h]
  · exact if_neg h

theorem SortCriterion.value_key (item : SortCriterion) (r : Record) :
    item.key.expr.value [] r = item.value r := by
  show (Expr.ofPath item.field).value [] r = _
  unfold Expr.value SortCriterion.value
  rw [Expr.eval_ofPath, Expr.path_ofPath]

/-- The keys of a sort yield the values of its paths. -/
theorem SortCriteria.withKeys_map_key (s : SortCriteria) (row : α) :
    withKeys (s.items.map SortCriterion.key) row = (do
      return (← s.items.mapM (·.value (Searchable.record row)), row)) := by
  have hvalues : (fun key : OrderingKey => key.expr.value [] (Searchable.record row)) ∘
      SortCriterion.key = (·.value (Searchable.record row)) :=
    funext fun item => item.value_key (Searchable.record row)
  unfold withKeys
  rw [List.mapM_map, hvalues]

/-- The clause of a sort orders the rows by the values of its paths. -/
theorem orderRows_of_compile {words : List String} {s : SortCriteria} {clause : String}
    (h : s.compile (.ofWords words) = .ok (some clause)) (rows : List α) :
    orderRows clause rows = (do
      let keyed ← rows.mapM fun row => do
        return (← s.items.mapM (·.value (Searchable.record row)), row)
      (referenceSort .actual s.order keyed).elim (.error .disordered) fun sorted =>
        .ok (sorted.map (·.2))) := by
  have hsort (keyed : List (List Value × α)) :
      (referenceSort .actual s.order keyed).elim (.error .disordered) (fun sorted =>
        .ok (sorted.map (·.2))) = (sortOrEnd s.order keyed).map (·.map (·.2)) := by
    rw [referenceSort_actual, sortOrEnd]
    cases trySort s.order keyed <;> rfl
  have hdirections : (s.items.map SortCriterion.key).map (·.direction) =
      s.items.map (·.direction) := by
    rw [List.map_map]
    rfl
  unfold orderRows
  rw [SortCriteria.parseOrdering_of_compile h]
  simp only [funext s.withKeys_map_key, hdirections, hsort]
  rfl

/-! ## §4. Stages. -/

/-- The stage of a filter keeps the rows for which the criteria hold. -/
theorem narrowedRows_eq_keptRows {criteria : Option FilterCriteria}
    (hsize : ∀ f, criteria = some f → (operandsOfAll f.containers).length ≤ UInt64.size)
    (rows : List α) : narrowedRows config criteria rows = keptRows config criteria rows := by
  cases criteria with
  | none => rfl
  | some f =>
      simp only [narrowedRows, keptRows]
      by_cases hempty : f.isEmpty = true
      · rw [FilterCriteria.compile_eq_none_iff.mpr hempty, if_pos hempty]
        rfl
      · rw [if_neg hempty]
        cases hcompile : f.compile config.dialect with
        | error e => rfl
        | ok compiled =>
            cases compiled with
            | none => exact absurd (FilterCriteria.compile_eq_none_iff.mp hcompile) hempty
            | some p =>
                have hbound := hsize f rfl
                rw [← FilterCriteria.parameters_of_compile hcompile] at hbound
                exact filterRows_of_compile hcompile hbound rows

theorem orderedRows_eq_sortedRows (sort : Option SortCriteria) (rows : List α) :
    orderedRows config sort rows = sortedRows config .actual sort rows := by
  cases sort with
  | none => rfl
  | some s =>
      simp only [orderedRows, sortedRows]
      by_cases hempty : s.isEmpty = true
      · rw [SortCriteria.compile_eq_none_iff.mpr hempty, if_pos hempty]
        rfl
      · rw [if_neg hempty]
        cases hcompile : s.compile config.dialect with
        | error e => rfl
        | ok compiled =>
            cases compiled with
            | none => exact absurd (SortCriteria.compile_eq_none_iff.mp hcompile) hempty
            | some clause => exact orderRows_of_compile hcompile rows

theorem cutRows_eq_windowRows {α : Type} (d : SearchDefinition) (rows : List α) :
    cutRows d rows = windowRows d rows := by
  unfold cutRows SearchDefinition.window windowRows
  cases d.page with
  | none => rfl
  | some page =>
      cases d.pageSize with
      | none => rfl
      | some size =>
          simp only [takeRows, skipRows]
          rw [Int64.toInt_mul]

/-! ## §5. Searches. -/

/-- A search over rows is the pipeline on lists, with its own sort of what is in no order. -/
theorem searchRows_eq_referenceSearch (definition : Option SearchDefinition) {rows : List α}
    (hrows : rows.length < UInt64.size)
    (hsize : ∀ f, (definition.getD {}).preFilter = some f ∨ (definition.getD {}).filter = some f →
      (operandsOfAll f.containers).length ≤ UInt64.size) :
    SearchResult.plain <$> searchRows config definition rows =
      referenceSearch config .actual (definition.getD {}) rows := by
  rw [searchRows_eq_stages config definition hrows]
  unfold referenceSearch
  generalize definition.getD {} = d at hsize ⊢
  have hpreFilter := narrowedRows_eq_keptRows (α := α) config fun f hf => hsize f (.inl hf)
  have hfilter := narrowedRows_eq_keptRows (α := α) config fun f hf => hsize f (.inr hf)
  simp only [map_bind, ← hpreFilter, ← hfilter, ← orderedRows_eq_sortedRows,
    ← cutRows_eq_windowRows]
  cases hkept : narrowedRows config d.preFilter rows with
  | error e => rfl
  | ok kept =>
      simp only [ok_bind]
      cases hfound : narrowedRows config d.filter kept with
      | error e => rfl
      | ok found =>
          -- Filters add no rows, so both counts are those of 64 bits.
          have hkept_le := length_narrowedRows_le config hkept
          have hfound_le := length_narrowedRows_le config hfound
          have htotal : (UInt64.ofNat kept.length).toNat = kept.length :=
            UInt64.toNat_ofNat_of_lt' (by omega)
          have hfiltered : (UInt64.ofNat found.length).toNat = found.length :=
            UInt64.toNat_ofNat_of_lt' (by omega)
          have hplain : ∀ fetched : List α, SearchResult.plain ⟨d.page, d.pageSize,
              UInt64.ofNat kept.length, UInt64.ofNat found.length, fetched⟩ =
                (d.page, d.pageSize, kept.length, found.length, fetched) := by
            intro fetched
            rw [SearchResult.plain, htotal, hfiltered]
          simp only [ok_bind, map_pure, hplain, fetchedRows]
          cases found with
          | nil => rfl
          | cons row found =>
              rw [if_neg (show ¬(row :: found).length = 0 from Nat.succ_ne_zero _)]
              show (cutRows d <$> orderedRows config d.sort (row :: found)).bind _ =
                (orderedRows config d.sort (row :: found)).bind _
              cases orderedRows config d.sort (row :: found) <;> rfl

/-- **A search over rows is the pipeline on lists**, in success and in error, with one sort of what
is in no order for all searches.  Keys of one kind put the rows in an order; then the sort is the
stable one, which is what the library's merge sort gives. -/
theorem searchRows_eq_reference :
    ∃ unsettled : UnsettledSort, ∀ {α : Type} [Searchable α] (config : SearchConfig)
      (definition : Option SearchDefinition) (rows : List α), rows.length < UInt64.size →
      (∀ f, (definition.getD {}).preFilter = some f ∨ (definition.getD {}).filter = some f →
        (operandsOfAll f.containers).length ≤ UInt64.size) →
      SearchResult.plain <$> searchRows config definition rows =
          referenceSearch config unsettled (definition.getD {}) rows ∧
        ∀ (s : SortCriteria) (keyed : List (List Value × α)),
          ((∀ a ∈ keyed, ∀ b ∈ keyed, KeysAlike a.1 b.1) → Consistent s.order keyed) ∧
          (Consistent s.order keyed → ∃ sorted,
            referenceSort unsettled s.order keyed = some sorted ∧
            IsStableSort s.order keyed sorted ∧
            sorted = keyed.mergeSort fun a b => s.order a b ≠ .gt) := by
  refine ⟨.actual, fun config definition rows hrows hsize => ⟨?_, fun s keyed => ⟨?_, ?_⟩⟩⟩
  · exact searchRows_eq_referenceSearch config definition hrows hsize
  · exact fun halike => consistent_compareKeys halike _
  · exact fun hkeys => ⟨_, referenceSort_of_consistent .actual hkeys, isStableSort_stableSort hkeys,
      stableSort_eq_mergeSort hkeys⟩

/-- The rows 1, 3, 4, 5 are left by both filters.  In descending order null comes first and 9 next,
which fills the page in front of this one; the two ties are in the order in which they came. -/
theorem searchRows_eq_reference_paged :
    let row := fun (id : Int64) (rank : Value) =>
      ([("id", .value (.int id)), ("rank", .value rank)] : Record)
    let d : SearchDefinition := {
      page := some 1
      pageSize := some 2
      sort := some ⟨[⟨"rank", .descending⟩]⟩
      filter := some ⟨[.ofSingle .and ⟨"id", .lessThan, .int 6, [], .other⟩]⟩
      preFilter := some ⟨[.ofSingle .and ⟨"id", .notEquals, .int 2, [], .other⟩]⟩ }
    SearchResult.plain <$> searchRows {} (some d)
        [row 1 (.int 7), row 2 (.int 0), row 3 .null, row 4 (.int 9), row 5 (.int 7),
          row 6 (.int 1)] =
      .ok (some 1, some 2, 5, 4, [row 1 (.int 7), row 5 (.int 7)]) := by
  intro row d
  obtain ⟨unsettled, hreference⟩ := searchRows_eq_reference
  let kept := [row 1 (.int 7), row 3 .null, row 4 (.int 9), row 5 (.int 7), row 6 (.int 1)]
  let found := [row 1 (.int 7), row 3 .null, row 4 (.int 9), row 5 (.int 7)]
  have hsearch := (hreference {} (some d) [row 1 (.int 7), row 2 (.int 0), row 3 .null,
    row 4 (.int 9), row 5 (.int 7), row 6 (.int 1)] (by decide) (by
      rintro f (hf | hf) <;> cases hf <;> decide)).1
  have hkept : keptRows {} d.preFilter [row 1 (.int 7), row 2 (.int 0), row 3 .null,
    row 4 (.int 9), row 5 (.int 7), row 6 (.int 1)] = .ok kept := by rfl
  have hfound : keptRows {} d.filter kept = .ok found := by rfl
  -- The keys of the rows that are left are in an order, so it does not matter what is left open.
  have hsorted : sortedRows {} unsettled d.sort found =
      .ok [row 3 .null, row 4 (.int 9), row 1 (.int 7), row 5 (.int 7)] := by
    let s : SortCriteria := ⟨[⟨"rank", .descending⟩]⟩
    let keyed : List (List Value × Record) := [([.int 7], row 1 (.int 7)), ([.null], row 3 .null),
      ([.int 9], row 4 (.int 9)), ([.int 7], row 5 (.int 7))]
    have hkeyed : sortedRows {} unsettled d.sort found =
        (referenceSort unsettled s.order keyed).elim (.error .disordered) fun sorted =>
          .ok (sorted.map (·.2)) := by rfl
    rw [hkeyed, referenceSort_of_consistent unsettled (by decide)]
    rfl
  rw [hsearch, Option.getD_some, referenceSearch, hkept, ok_bind, hfound, ok_bind, hsorted]
  rfl

end RecordSearch
