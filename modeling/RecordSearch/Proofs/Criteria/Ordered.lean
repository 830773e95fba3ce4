/-
  RecordSearch.Proofs.Criteria.Ordered
  ────────────────────────────────────
  **What compiled sorts are read as.**

  A sort compiles to a clause with one key for each of its paths, and the clause is read as these
  keys, in their order and each with its direction:

      SortCriterion.key                        — a path's key
      SortCriteria.parseOrdering_of_compile    — a sort's clause is read as the keys of its paths
-/
import RecordSearch.Proofs.Criteria.Compiled
import RecordSearch.Proofs.Expr.Clause

namespace RecordSearch

/-- The key of a path. -/
def SortCriterion.key (item : SortCriterion) : OrderingKey := ⟨.ofPath item.field, item.direction⟩

/-- The text of a path's key. -/
def Dialect.keyText (d : Dialect) (item : SortCriterion) : String :=
  d.pathText item.field ++ " " ++ item.direction.word

theorem writtenClause_keys (words : List String) :
    ∀ {items : List SortCriterion}, items ≠ [] → (∀ item ∈ items, IsPath item.field) →
      WrittenClause (", ".intercalate (items.map (Dialect.ofWords words).keyText))
        (items.map SortCriterion.key)
  | [], hne, _ => absurd rfl hne
  | [item], _, h => by
      have hpath := writtenPath_ofPath words (h item (by simp))
      rw [List.map_singleton, String.intercalate_singleton]
      exact hpath.key item.direction
  | item :: next :: items, _, h => by
      have hpath := writtenPath_ofPath words (h item (by simp))
      have hrest := writtenClause_keys words (List.cons_ne_nil next items)
        fun x hx => h x (List.mem_cons_of_mem _ hx)
      rw [List.map_cons, List.map_cons, String.intercalate_cons_cons]
      exact hpath.keys item.direction hrest

/-- The text of a path's key, or why there is none. -/
def SortCriterion.render (d : Dialect) (item : SortCriterion) : Except SearchError String := do
  let field ← d.renderPath .sort item.field
  return field ++ " " ++ item.direction.word

theorem SortCriterion.render_of_isPath (d : Dialect) {item : SortCriterion}
    (h : IsPath item.field) : item.render d = .ok (d.keyText item) := by
  rw [SortCriterion.render, d.renderPath_of_isPath .sort h]
  rfl

theorem SortCriterion.isPath_of_render {d : Dialect} {item : SortCriterion} {text : String}
    (h : item.render d = .ok text) : IsPath item.field := by
  obtain ⟨path, hpath, -⟩ := bind_eq_ok_iff.mp h
  exact Dialect.isPath_of_renderPath hpath

theorem SortCriteria.compile_of_ne_nil (d : Dialect) {s : SortCriteria} (hne : s.items ≠ []) :
    s.compile d = (s.items.mapM (SortCriterion.render d)).map fun keys =>
      some (", ".intercalate keys) := by
  obtain ⟨items⟩ := s
  cases items with
  | nil => exact absurd rfl hne
  | cons item items =>
      show ((item :: items).mapM (SortCriterion.render d)).bind _ = _
      cases (item :: items).mapM (SortCriterion.render d) <;> rfl

/-- Only without a path to sort by there is no clause. -/
theorem SortCriteria.compile_eq_none_iff {d : Dialect} {s : SortCriteria} :
    s.compile d = .ok none ↔ s.isEmpty = true := by
  constructor
  · intro h
    by_contra hempty
    have hne : s.items ≠ [] := fun hnil => hempty (List.isEmpty_iff.mpr hnil)
    rw [SortCriteria.compile_of_ne_nil d hne] at h
    cases hkeys : s.items.mapM (SortCriterion.render d) <;> rw [hkeys] at h <;> cases h
  · intro h
    obtain ⟨items⟩ := s
    obtain rfl : items = [] := List.isEmpty_iff.mp h
    rfl

/-- **A sort with paths of names compiles** to a clause that writes its keys. -/
theorem SortCriteria.compile_eq_ok (words : List String) {s : SortCriteria} (hne : s.items ≠ [])
    (h : ∀ item ∈ s.items, IsPath item.field) :
    ∃ clause, s.compile (.ofWords words) = .ok (some clause) ∧
      WrittenClause clause (s.items.map SortCriterion.key) := by
  refine ⟨_, ?_, writtenClause_keys words hne h⟩
  rw [SortCriteria.compile_of_ne_nil _ hne,
    mapM_eq_ok fun item hitem => SortCriterion.render_of_isPath _ (h item hitem)]
  rfl

theorem SortCriteria.isPath_of_compile {d : Dialect} {s : SortCriteria} {clause : String}
    (h : s.compile d = .ok (some clause)) :
    s.items ≠ [] ∧ ∀ item ∈ s.items, IsPath item.field := by
  have hne : s.items ≠ [] := by
    intro hnil
    rw [SortCriteria.compile_eq_none_iff.mpr (List.isEmpty_iff.mpr hnil)] at h
    cases h
  rw [SortCriteria.compile_of_ne_nil d hne] at h
  cases hkeys : s.items.mapM (SortCriterion.render d) with
  | error e => rw [hkeys] at h; cases h
  | ok texts =>
      refine ⟨hne, fun item hitem => ?_⟩
      obtain ⟨text, htext⟩ := exists_ok_of_mapM hkeys item hitem
      exact SortCriterion.isPath_of_render htext

/-- **The clause of a sort is read as the keys of its paths.** -/
theorem SortCriteria.parseOrdering_of_compile {words : List String} {s : SortCriteria}
    {clause : String} (h : s.compile (.ofWords words) = .ok (some clause)) :
    parseOrdering clause = .ok (s.items.map SortCriterion.key) := by
  obtain ⟨hne, hpaths⟩ := SortCriteria.isPath_of_compile h
  obtain ⟨clause', hcompile, hwritten⟩ := SortCriteria.compile_eq_ok words hne hpaths
  rw [h] at hcompile
  cases hcompile
  exact parseOrdering_of_written hwritten

end RecordSearch
