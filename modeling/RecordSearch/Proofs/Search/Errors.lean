/-
  RecordSearch.Proofs.Search.Errors
  ─────────────────────────────────
  **Where the error of a search comes from.**

  A search over rows can fail in three of its stages: while the pre-filter or the filter narrows
  the rows, and while the sort orders them.  A stage is reached when those in front of it succeed,
  and a sort is, when a row was counted besides:

      Reached d rows stage reached   — the rows that reach a stage
      Malformed, CompileFails        — the criteria of the stage have a fault; it is the error
      RowFails                       — the predicate or a sort key fails on a row with the error
      GivesUp                        — the sort keys put the rows in no order

  The error of a search is one of a stage that was reached (`searchRows_eq_error_iff`).  It is
  about the criteria exactly where they are malformed; otherwise it is one of `RecordFailure`, on
  one of the rows that reached the stage.  A sort that gives up reports no error: it ends the
  search.
-/
import RecordSearch.Proofs.Criteria.Failing
import RecordSearch.Proofs.Criteria.Faults
import RecordSearch.Proofs.Rows.Ordered
import RecordSearch.Proofs.Search.Reference

namespace RecordSearch

variable {α : Type} [Searchable α] (config : SearchConfig)

/-! ## §1. Stages. -/

/-- A stage of a search that can fail. -/
inductive SearchStage where
  | narrow (stage : FilterStage)
  | sort

namespace SearchDefinition

variable (d : SearchDefinition)

/-- What a filter stage filters by. -/
def criteria : FilterStage → Option FilterCriteria
  | .preFilter => d.preFilter
  | .filter => d.filter

/-- What a stage makes of the rows that reach it. -/
def stageRows : SearchStage → List α → Except SearchError (List α)
  | .narrow stage, rows => narrowedRows config (d.criteria stage) rows
  | .sort, rows => orderedRows config d.sort rows

/-- **The rows that reach a stage.** -/
inductive Reached (rows : List α) : SearchStage → List α → Prop where
  | preFilter : Reached rows (.narrow .preFilter) rows
  | filter {kept : List α} (hkept : narrowedRows config d.preFilter rows = .ok kept) :
      Reached rows (.narrow .filter) kept
  | sort {kept found : List α} (hkept : narrowedRows config d.preFilter rows = .ok kept)
      (hfound : narrowedRows config d.filter kept = .ok found)
      (hcount : 0 < UInt64.ofNat found.length) : Reached rows .sort found

/-- The criteria of the stage are malformed: some container is, or some sort key has no path. -/
def Malformed : SearchStage → Prop
  | .narrow stage => ∃ f, d.criteria stage = some f ∧ f.containers ≠ [] ∧ ¬f.WellFormed
  | .sort => ∃ s, d.sort = some s ∧ ∃ item ∈ s.items, ¬IsPath item.field

/-- The criteria of the stage fail to compile with the error. -/
def CompileFails (e : SearchError) : SearchStage → Prop
  | .narrow stage => ∃ f, d.criteria stage = some f ∧ f.compile config.dialect = .error e
  | .sort => ∃ s, d.sort = some s ∧ s.compile config.dialect = .error e

/-- What the criteria of the stage compile to fails on the row with the error. -/
def RowFails (e : SearchError) (row : α) : SearchStage → Prop
  | .narrow stage => ∃ f p, d.criteria stage = some f ∧ f.compile config.dialect = .ok (some p) ∧
      evaluate p.text p.parameters (Searchable.record row) = .error e
  | .sort => ∃ s clause keys, d.sort = some s ∧ s.compile config.dialect = .ok (some clause) ∧
      parseOrdering clause = .ok keys ∧ withKeys keys row = .error e

/-- The sort gives up: there are many rows, and the keys put them in no order. -/
def GivesUp (rows : List α) : Prop :=
  ∃ s, d.sort = some s ∧ 20 < rows.length ∧
    ¬Consistent (rowOrder (s.items.map SortCriterion.key)) rows

/-- The paths of the criteria, or of the sort keys, of the stage. -/
def paths : SearchStage → List String
  | .narrow stage => (d.criteria stage).elim [] FilterCriteria.paths
  | .sort => d.sort.elim [] fun s => s.items.map (·.field)

end SearchDefinition

/-! ## §2. Criteria that do not compile. -/

namespace SearchDefinition

variable {config} {d : SearchDefinition} {stage : SearchStage} {e : SearchError}

theorem malformed_iff (config : SearchConfig) :
    d.Malformed stage ↔ ∃ e, d.CompileFails config e stage := by
  cases stage with
  | narrow stage =>
      simp only [Malformed, CompileFails, ← FilterCriteria.exists_compile_eq_error_iff
        (d := config.dialect)]
      tauto
  | sort =>
      simp only [Malformed, CompileFails, ← SortCriteria.exists_compile_eq_error_iff
        (d := config.dialect)]
      tauto

theorem CompileFails.isConfiguration_eq (h : d.CompileFails config e stage) :
    e.isConfiguration = true := by
  cases stage with
  | narrow stage =>
      obtain ⟨f, -, he⟩ := h
      obtain ⟨_, _, _, -, -, hc⟩ := FilterCriteria.compile_eq_error_iff.mp he
      rcases hc.shape with ⟨fault, rfl⟩ | ⟨n, -, rfl⟩ <;> rfl
  | sort =>
      obtain ⟨s, -, he⟩ := h
      obtain ⟨_, _, _, -, -, fault, -, rfl⟩ := SortCriteria.compile_eq_error_iff.mp he
      rfl

/-- Criteria that do not compile fail with any rows. -/
theorem CompileFails.stageRows_eq (h : d.CompileFails config e stage) (rows : List α) :
    d.stageRows config stage rows = .error e := by
  cases stage with
  | narrow stage =>
      obtain ⟨f, hf, he⟩ := h
      simp only [stageRows, narrowedRows, hf, he]
      rfl
  | sort =>
      obtain ⟨s, hs, he⟩ := h
      simp only [stageRows, orderedRows, hs, he]
      rfl

end SearchDefinition

/-! ## §3. Rows that fail. -/

/-- **Filtering fails on the first row on which the expression fails.** -/
theorem keepRows_eq_error_iff {values : List Value} {e : Expr} {error : SearchError}
    {rows : List α} : keepRows values e rows = .error error ↔
      FirstAtFault (fun row => ∃ b, e.holds values (Searchable.record row) = .ok b)
        (fun row => e.holds values (Searchable.record row) = .error error) rows := by
  induction rows with
  | nil => exact iff_of_false nofun not_firstAtFault_nil
  | cons row rows ih =>
      rw [keepRows, firstAtFault_cons_iff, ← ih, bind_eq_error_iff]
      refine or_congr_right ?_
      constructor
      · rintro ⟨b, hb, hrows⟩
        refine ⟨⟨b, hb⟩, ?_⟩
        cases b with
        | false => exact hrows
        | true => simpa [bind_eq_error_iff, pure, Except.pure] using hrows
      · rintro ⟨⟨b, hb⟩, hrows⟩
        refine ⟨b, hb, ?_⟩
        cases b with
        | false => exact hrows
        | true => simpa [bind_eq_error_iff, pure, Except.pure] using hrows

/-- Filtering fails where the predicate does on a row. -/
theorem filterRows_eq_error {p : Predicate} {e : SearchError} {rows : List α}
    (hparse : ∃ tree, parsePredicate p.text = .ok tree) (h : filterRows p rows = .error e) :
    ∃ row ∈ rows, evaluate p.text p.parameters (Searchable.record row) = .error e := by
  obtain ⟨tree, htree⟩ := hparse
  simp only [filterRows, htree] at h
  obtain ⟨before, row, after, hrows, -, hrow⟩ := keepRows_eq_error_iff.mp h
  refine ⟨row, by rw [hrows]; simp, ?_⟩
  simp only [evaluate, htree]
  exact hrow

/-- Ordering fails where a key does on a row; otherwise the sort gives up. -/
theorem orderRows_eq_error {clause : String} {keys : List OrderingKey} {e : SearchError}
    {rows : List α} (hclause : parseOrdering clause = .ok keys)
    (h : orderRows clause rows = .error e) : (∃ row ∈ rows, withKeys keys row = .error e) ∨
      e = .disordered ∧ 20 < rows.length ∧ ¬Consistent (rowOrder keys) rows := by
  rcases (orderRows_eq_error_iff hclause).mp h with hkeyed | ⟨-, hsort⟩
  · obtain ⟨before, row, after, hrows, -, hrow⟩ := mapM_eq_error_iff.mp hkeyed
    exact .inl ⟨row, by rw [hrows]; simp, hrow⟩
  · have hunsettled : ¬(rows.length ≤ 20 ∨ Consistent (rowOrder keys) rows) := by
      intro hsettled
      rw [sortOrEnd_eq_stableSort hsettled] at hsort
      cases hsort
    obtain ⟨hmany, hkeys⟩ := not_or.mp hunsettled
    exact .inr ⟨(sortOrEnd_eq_error_iff.mp hsort).1, Nat.lt_of_not_le hmany, hkeys⟩

theorem SortCriterion.value_fails (item : SortCriterion) (r : Record) :
    FailsOnly (RecordFailure [item.field]) (item.value r) := by
  refine (r.follow_fails item.field).bind fun m => ?_
  cases m with
  | value v => exact .ok v
  | record _ | records _ => exact .error (.unfit nofun)

namespace SearchDefinition

variable {config} {d : SearchDefinition} {stage : SearchStage} {e : SearchError}

/-- Where nothing is wrong with the criteria, a row is what a stage fails on, unless it is the sort
and gives up. -/
theorem stageRows_eq_error
    (hsize : ∀ stage f, d.criteria stage = some f →
      (operandsOfAll f.containers).length ≤ UInt64.size)
    {rows : List α} (h : d.stageRows config stage rows = .error e) :
    d.CompileFails config e stage ∨ (∃ row ∈ rows, d.RowFails config e row stage) ∨
      stage = .sort ∧ e = .disordered ∧ d.GivesUp rows := by
  cases stage with
  | narrow stage =>
      simp only [stageRows, narrowedRows] at h
      split at h
      · cases h
      · next f hf =>
          rcases bind_eq_error_iff.mp h with he | ⟨outcome, hcompile, hrows⟩
          · exact .inl ⟨f, hf, he⟩
          · cases outcome with
            | none => cases hrows
            | some p =>
                have hlength := hsize stage f hf
                rw [← FilterCriteria.parameters_of_compile hcompile] at hlength
                have hparse := FilterCriteria.parsePredicate_of_compile hcompile hlength
                obtain ⟨row, hmem, hrow⟩ := filterRows_eq_error ⟨_, hparse⟩ hrows
                exact .inr (.inl ⟨row, hmem, f, p, hf, hcompile, hrow⟩)
  | sort =>
      simp only [stageRows, orderedRows] at h
      split at h
      · cases h
      · next s hs =>
          rcases bind_eq_error_iff.mp h with he | ⟨outcome, hcompile, hrows⟩
          · exact .inl ⟨s, hs, he⟩
          · cases outcome with
            | none => cases hrows
            | some clause =>
                have hclause := SortCriteria.parseOrdering_of_compile hcompile
                rcases orderRows_eq_error hclause hrows with ⟨row, hmem, hrow⟩ | ⟨rfl, hgivesUp⟩
                · exact .inr (.inl ⟨row, hmem, s, clause, _, hs, hcompile, hclause, hrow⟩)
                · exact .inr (.inr ⟨rfl, rfl, s, hs, hgivesUp⟩)

/-- **A row fails along the paths of the stage.** -/
theorem RowFails.recordFailure
    (hsize : ∀ stage f, d.criteria stage = some f →
      (operandsOfAll f.containers).length ≤ UInt64.size)
    {row : α} (h : d.RowFails config e row stage) : RecordFailure (d.paths stage) e := by
  cases stage with
  | narrow stage =>
      obtain ⟨f, p, hf, hcompile, he⟩ := h
      have hlength := hsize stage f hf
      rw [← FilterCriteria.parameters_of_compile hcompile] at hlength
      rw [FilterCriteria.evaluate_of_compile hcompile hlength] at he
      show RecordFailure ((d.criteria stage).elim [] _) e
      rw [hf]
      exact f.meaning_fails _ e he
  | sort =>
      obtain ⟨s, clause, keys, hs, hcompile, hparse, he⟩ := h
      rw [SortCriteria.parseOrdering_of_compile hcompile] at hparse
      cases hparse
      rw [s.withKeys_map_key] at he
      show RecordFailure (d.sort.elim [] _) e
      rw [hs]
      rcases bind_eq_error_iff.mp he with hvalues | ⟨values, -, hrow⟩
      · obtain ⟨before, item, after, hitems, -, hitem⟩ := mapM_eq_error_iff.mp hvalues
        refine (item.value_fails _ e hitem).mono ?_
        simp [hitems]
      · cases hrow

end SearchDefinition

/-! ## §4. Searches. -/

/-- **The error of a search is that of a stage that was reached.** -/
theorem searchRows_eq_error_iff {definition : Option SearchDefinition} {rows : List α}
    {e : SearchError} : searchRows config definition rows = .error e ↔
      ∃ stage reached, (definition.getD {}).Reached config rows stage reached ∧
        (definition.getD {}).stageRows config stage reached = .error e := by
  rw [searchRows_eq_of_counts]
  generalize definition.getD {} = d
  dsimp only
  constructor
  · intro h
    rcases bind_eq_error_iff.mp h with h | ⟨kept, hkept, h⟩
    · exact ⟨_, rows, .preFilter, h⟩
    rcases bind_eq_error_iff.mp h with h | ⟨found, hfound, h⟩
    · exact ⟨_, kept, .filter hkept, h⟩
    split at h
    · next hcount =>
        rcases bind_eq_error_iff.mp h with h | ⟨sorted, -, h⟩
        · exact ⟨_, found, .sort hkept hfound hcount, h⟩
        · cases h
    · cases h
  · rintro ⟨stage, reached, hreached, h⟩
    cases hreached with
    | preFilter =>
        have h : narrowedRows config d.preFilter rows = .error e := h
        rw [h]
        rfl
    | filter hkept =>
        have h : narrowedRows config d.filter reached = .error e := h
        simp only [hkept, ok_bind, h]
        rfl
    | sort hkept hfound hcount =>
        have h : orderedRows config d.sort reached = .error e := h
        simp only [hkept, hfound, ok_bind, if_pos hcount, h]
        rfl

/-- **How a search over rows fails.**  Its error is about criteria exactly where the criteria of a
stage that was reached are malformed, and then it is the one that they fail to compile with.
Otherwise it is raised by a row that reached a stage: a start of one of the paths of the stage
leads nowhere on it, or something on it does not fit; never is the text unreadable or a parameter
unbound.  A search that ends without an answer has reached its sort, whose keys put the rows in no
order. -/
theorem searchRows_fails (config : SearchConfig) (definition : Option SearchDefinition)
    (rows : List α) (e : SearchError)
    (hsize : ∀ f, (definition.getD {}).preFilter = some f ∨ (definition.getD {}).filter = some f →
      (operandsOfAll f.containers).length ≤ UInt64.size)
    (h : searchRows config definition rows = .error e) :
    let d := definition.getD {}
    (e.isConfiguration = true ↔
      ∃ stage reached, d.Reached config rows stage reached ∧ d.Malformed stage) ∧
    (e.isConfiguration = true → ∃ stage reached, d.Reached config rows stage reached ∧
      d.Malformed stage ∧ d.CompileFails config e stage) ∧
    (e.isConfiguration = false → e ≠ .disordered →
      ∃ stage reached, d.Reached config rows stage reached ∧
        ∃ row ∈ reached, d.RowFails config e row stage ∧ RecordFailure (d.paths stage) e) ∧
    (e = .disordered → ∃ reached, d.Reached config rows .sort reached ∧ d.GivesUp reached) := by
  intro d
  have hsize : ∀ stage f, d.criteria stage = some f →
      (operandsOfAll f.containers).length ≤ UInt64.size := by
    rintro (_ | _) f hf
    · exact hsize f (.inl hf)
    · exact hsize f (.inr hf)
  obtain ⟨stage, reached, hreached, hstage⟩ := (searchRows_eq_error_iff config).mp h
  have hfails := SearchDefinition.stageRows_eq_error hsize hstage
  have hcompile : e.isConfiguration = true → d.CompileFails config e stage := by
    intro he
    refine hfails.resolve_right ?_
    rintro (⟨row, -, hrow⟩ | ⟨-, rfl, -⟩)
    · rw [(hrow.recordFailure hsize).isConfiguration_eq] at he
      cases he
    · cases he
  refine ⟨⟨fun he => ?_, ?_⟩, fun he => ?_, fun he hends => ?_, ?_⟩
  · exact ⟨stage, reached, hreached, (SearchDefinition.malformed_iff config).mpr ⟨e, hcompile he⟩⟩
  · -- A malformed stage that was reached fails whatever the rows, so its error is the search's.
    rintro ⟨stage', reached', hreached', hmalformed⟩
    obtain ⟨e', he'⟩ := (SearchDefinition.malformed_iff config).mp hmalformed
    have h' := (searchRows_eq_error_iff config).mpr
      ⟨stage', reached', hreached', he'.stageRows_eq reached'⟩
    cases h.symm.trans h'
    exact he'.isConfiguration_eq
  · exact ⟨stage, reached, hreached, (SearchDefinition.malformed_iff config).mpr
      ⟨e, hcompile he⟩, hcompile he⟩
  · rcases hfails with hfails | ⟨row, hrow, hfails⟩ | ⟨-, hdisordered, -⟩
    · rw [hfails.isConfiguration_eq] at he
      cases he
    · exact ⟨stage, reached, hreached, row, hrow, hfails, hfails.recordFailure hsize⟩
    · exact absurd hdisordered hends
  · rintro rfl
    rcases hfails with hfails | ⟨row, -, hfails⟩ | ⟨rfl, -, hgivesUp⟩
    · cases hfails.isConfiguration_eq
    · exact absurd rfl (hfails.recordFailure hsize).ne_disordered
    · exact ⟨reached, hreached, hgivesUp⟩

/-- The second part has no weight, so a start of the path leads nowhere; the sort, whose key has no
path, is not reached. -/
theorem searchRows_fails_unresolved :
    let d : SearchDefinition := {
      sort := some ⟨[⟨"", .ascending⟩]⟩
      filter := some ⟨[
        .ofSingle .and ⟨"size.weight.net", .greaterThan, .int 3, ["parts"], .other⟩]⟩ }
    let part := fun size : Record => ([("size", .record size)] : Record)
    let rows : List Record := [[("parts", .records [part [("weight", .value .null)], part []])]]
    searchRows {} (some d) rows = .error (.resolution "size.weight") ∧
      (¬∃ stage reached, d.Reached {} rows stage reached ∧ d.Malformed stage) ∧
      ∃ stage reached, d.Reached {} rows stage reached ∧ ∃ row ∈ reached,
        d.RowFails {} (.resolution "size.weight") row stage ∧
          RecordFailure (d.paths stage) (.resolution "size.weight") := by
  intro d part rows
  have h : searchRows {} (some d) rows = .error (.resolution "size.weight") := by rfl
  obtain ⟨hiff, -, hrow, -⟩ := searchRows_fails {} (some d) rows _ (by
    rintro f (hf | hf) <;> cases hf
    decide) h
  exact ⟨h, fun hmalformed => absurd (hiff.mpr hmalformed) (by decide), hrow rfl nofun⟩

end RecordSearch
