/-
  RecordSearch.Proofs.Search.Configured
  ─────────────────────────────────────
  **What a configuration cannot change.**

  A configuration reserves words, which changes the text that criteria compile to: any name on a
  path can be written behind the escape mark.  The stages of a search do not depend on how the text
  is written, since what is read back are the names, and since the faults of criteria are known
  without a dialect:

      keptRows_config, sortedRows_config          — the pipeline on lists
      narrowedRows_config, orderedRows_config     — the stages that go through the text

  So the words choose which text is written, never what is found or what goes wrong.
-/
import RecordSearch.Proofs.Criteria.Faults
import RecordSearch.Proofs.Search.Reference

namespace RecordSearch

variable {α : Type} [Searchable α] (config config' : SearchConfig)

/-! ## §1. Criteria. -/

/-- Whether a filter compiles, and with which fault it does not, is the same in all dialects. -/
theorem FilterCriteria.compile_const_congr (d d' : Dialect) (f : FilterCriteria) {β : Type}
    (k : Except SearchError β) : (do let _ ← f.compile d; k) = (do let _ ← f.compile d'; k) :=
  bind_const_congr (fun _ => compile_eq_error_iff.trans compile_eq_error_iff.symm) k

/-- Whether a sort compiles, and with which fault it does not, is the same in all dialects. -/
theorem SortCriteria.compile_const_congr (d d' : Dialect) (s : SortCriteria) {β : Type}
    (k : Except SearchError β) : (do let _ ← s.compile d; k) = (do let _ ← s.compile d'; k) :=
  bind_const_congr (fun _ => compile_eq_error_iff.trans compile_eq_error_iff.symm) k

/-! ## §2. Stages. -/

theorem keptRows_config (criteria : Option FilterCriteria) (rows : List α) :
    keptRows config criteria rows = keptRows config' criteria rows := by
  cases criteria with
  | none => rfl
  | some f =>
      simp only [keptRows]
      rw [f.compile_const_congr config.dialect config'.dialect]

theorem sortedRows_config (unsettled : UnsettledSort) (sort : Option SortCriteria)
    (rows : List α) :
    sortedRows config unsettled sort rows = sortedRows config' unsettled sort rows := by
  cases sort with
  | none => rfl
  | some s =>
      simp only [sortedRows]
      rw [s.compile_const_congr config.dialect config'.dialect]

theorem narrowedRows_config {criteria : Option FilterCriteria}
    (hsize : ∀ f, criteria = some f → (operandsOfAll f.containers).length ≤ UInt64.size)
    (rows : List α) : narrowedRows config criteria rows = narrowedRows config' criteria rows := by
  rw [narrowedRows_eq_keptRows config hsize, narrowedRows_eq_keptRows config' hsize,
    keptRows_config config config']

theorem orderedRows_config (sort : Option SortCriteria) (rows : List α) :
    orderedRows config sort rows = orderedRows config' sort rows := by
  rw [orderedRows_eq_sortedRows config, orderedRows_eq_sortedRows config',
    sortedRows_config config config']

/-! ## §3. Searches. -/

/-- **A configuration never changes what is found.**  Under any two configurations, a search over
rows has the same result or the same error, and so has filtering alone. -/
theorem searchRows_config_irrelevant (definition : Option SearchDefinition) (rows : List α)
    (hsize : ∀ f, (definition.getD {}).preFilter = some f ∨ (definition.getD {}).filter = some f →
      (operandsOfAll f.containers).length ≤ UInt64.size) :
    searchRows config definition rows = searchRows config' definition rows ∧
      filterRowsOnly config definition rows = filterRowsOnly config' definition rows := by
  have hpreFilter := narrowedRows_config (α := α) config config' fun f hf => hsize f (.inl hf)
  have hfilter := narrowedRows_config (α := α) config config' fun f hf => hsize f (.inr hf)
  constructor
  · simp only [searchRows_eq_of_counts, hpreFilter, hfilter, orderedRows_config config config']
  · cases definition with
    | none => rfl
    | some d =>
        simp only [Option.getD_some] at hpreFilter hfilter
        rw [filterRowsOnly_eq_stages, filterRowsOnly_eq_stages, hpreFilter]
        exact bind_congr fun kept => hfilter kept

/-- All names of the definition are reserved: one that is a direction, one that is a method and one
that is a word of the language.  The rows are still those of the default configuration. -/
theorem searchRows_config_irrelevant_reserved :
    let config : SearchConfig := { reservedWords := ["DESC", "startsWith"], logPredicates := false }
    let d : SearchDefinition := {
      sort := some ⟨[⟨"desc", .descending⟩]⟩
      filter := some ⟨[.ofSingle .and ⟨"StartsWith", .startsWith, .text "a", ["any"], .text⟩]⟩ }
    let row := fun (rank : Int64) (name : String) => ([("desc", .value (.int rank)),
      ("any", .records [[("StartsWith", .value (.text name))]])] : Record)
    searchRows config (some d) [row 1 "ab", row 2 "b", row 3 "a"] =
        .ok ⟨none, none, 3, 2, [row 3 "a", row 1 "ab"]⟩ ∧
      filterRowsOnly config (some d) [row 1 "ab", row 2 "b", row 3 "a"] =
        .ok [row 1 "ab", row 3 "a"] := by
  intro config d row
  obtain ⟨hsearch, hfilter⟩ := searchRows_config_irrelevant config {} (some d)
    [row 1 "ab", row 2 "b", row 3 "a"] (by
      rintro f (hf | hf) <;> cases hf
      decide)
  exact ⟨hsearch.trans rfl, hfilter.trans rfl⟩

end RecordSearch
