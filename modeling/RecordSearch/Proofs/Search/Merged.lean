/-
  RecordSearch.Proofs.Search.Merged
  ─────────────────────────────────
  **Two filters mean the same as one that holds both.**

  A definition with a pre-filter and a filter can be written with one filter, a group of the first
  and, behind `And`, a group of the second.  The two stages are compiled apart, each with
  placeholders from zero on, and go over the rows one after the other; the one stage has a single
  row of placeholders, and asks the second group of the rows that pass the first.

      SearchDefinition.merged  — the definition with one filter
      Slot.shifted             — placeholders behind those of the group in front
      filterM_both             — two passes over a list against one

  Which row an error is about may differ, so what agrees is success, and the rows in their order
  (`filterRowsOnly_merged`).
-/
import RecordSearch.Proofs.Search.Reference

namespace RecordSearch

variable {α : Type} [Searchable α] (config : SearchConfig)

/-! ## §1. One filter for two. -/

/-- A group of each of two filters, joined by `And`.  The connective of the first has no meaning. -/
def FilterCriteria.merge (logic : Connective) (p f : FilterCriteria) : FilterCriteria :=
  ⟨[.ofGroup logic p.containers, .ofGroup .and f.containers]⟩

/-- The definition with no pre-filter and another filter. -/
def SearchDefinition.narrowedOnceBy (d : SearchDefinition) (f : FilterCriteria) :
    SearchDefinition :=
  { d with preFilter := none, filter := some f }

/-- The definition neither sorts nor pages. -/
def SearchDefinition.IsUnarranged (d : SearchDefinition) : Prop :=
  (∀ s, d.sort = some s → s.isEmpty = true) ∧ d.window = none

/-- The slots of a tree that stands behind others, which have so many operands. -/
def Slot.shifted (slot : Slot) (offset : Nat) : Slot := fun index v => slot (offset + index) v

/-! ## §2. The tree of both. -/

mutual

theorem Container.tree_shifted (slot : Slot) (offset : Nat) : ∀ (c : Container) (next : Nat),
    c.tree (slot.shifted offset) next = c.tree slot (offset + next)
  | ⟨_, some _, none, none⟩, _ | ⟨_, none, some _, none⟩, _ => rfl
  | ⟨_, none, none, some containers⟩, next => by
      simp only [Container.tree]
      rw [treesOfAll_shifted slot offset containers next]
  | ⟨_, none, none, none⟩, _ | ⟨_, some _, some _, _⟩, _ | ⟨_, some _, none, some _⟩, _
  | ⟨_, none, some _, some _⟩, _ => rfl

theorem treesOfAll_shifted (slot : Slot) (offset : Nat) : ∀ (cs : List Container) (next : Nat),
    treesOfAll (slot.shifted offset) next cs = treesOfAll slot (offset + next) cs
  | [], _ => rfl
  | c :: cs, next => by
      simp only [treesOfAll]
      rw [c.tree_shifted slot offset next, treesOfAll_shifted slot offset cs, Nat.add_assoc]

end

namespace FilterCriteria

variable {p f : FilterCriteria} {logic : Connective}

/-- **The second group's operands are those of its own tree, behind the operands of the first.** -/
theorem tree_merge (slot : Slot) :
    (merge logic p f).tree slot =
      .and (p.tree slot) (f.tree (slot.shifted (operandsOfAll p.containers).length)) := by
  have hsecond := treesOfAll_shifted slot (operandsOfAll p.containers).length f.containers 0
  show Expr.ofRuns [(logic, .ofRuns (treesOfAll slot 0 p.containers)), (.and, .ofRuns
    (treesOfAll slot (0 + (operandsOfAll p.containers).length) f.containers))] = _
  rw [FilterCriteria.tree, FilterCriteria.tree, hsecond, Nat.add_comm 0, Expr.ofRuns_cons]
  rfl

theorem operands_merge :
    operandsOfAll (merge logic p f).containers =
      operandsOfAll p.containers ++ operandsOfAll f.containers := by
  show operandsOfAll p.containers ++ (operandsOfAll f.containers ++ []) = _
  rw [List.append_nil]

theorem wellFormed_merge_iff :
    (merge logic p f).WellFormed ↔ p.WellFormed ∧ f.WellFormed := by
  constructor
  · rintro ⟨-, hcontainers⟩
    exact ⟨Container.wellFormed_ofGroup_iff.mp (hcontainers _ (.head _)),
      Container.wellFormed_ofGroup_iff.mp (hcontainers _ (.tail _ (.head _)))⟩
  · rintro ⟨hp, hf⟩
    refine ⟨List.cons_ne_nil _ _, fun c hc => ?_⟩
    simp only [merge, List.mem_cons, List.not_mem_nil, or_false] at hc
    rcases hc with rfl | rfl
    · exact Container.wellFormed_ofGroup_iff.mpr hp
    · exact Container.wellFormed_ofGroup_iff.mpr hf

/-- Both hold, and the second is asked only where the first holds. -/
theorem meaning_merge (r : Record) :
    (merge logic p f).meaning r = (do
      if ← p.meaning r then f.meaning r else return false) := by
  show someRun [(logic, p.meaning r), (.and, f.meaning r)] = _
  rw [someRun, runs_cons]
  show (([[p.meaning r, f.meaning r]] : List _).anyM fun run => run.allM id) = _
  simp only [List.anyM, List.allM, id_eq]
  rcases p.meaning r with e | _ | _
  · rfl
  · rfl
  · rcases f.meaning r with e | _ | _ <;> rfl

end FilterCriteria

/-! ## §3. The rows of both. -/

/-- **Two passes over a list succeed together where one pass asks both tests of each element**, and
leave the same elements. -/
theorem filterM_both {β : Type} (first second : β → Except SearchError Bool) (xs : List β) :
    (xs.filterM first >>= (·.filterM second)).toOption =
      (xs.filterM fun x => do if ← first x then second x else return false).toOption := by
  -- The first element goes in front of what both ways leave of the others.
  have hcons : ∀ (x : β) {a b : Except SearchError (List β)}, a.toOption = b.toOption →
      (do return x :: (← a)).toOption = (do return x :: (← b)).toOption := by
    intro x a b hab
    cases a <;> cases b <;> cases hab <;> rfl
  induction xs with
  | nil => rfl
  | cons x xs ih =>
      rw [filterM_cons, filterM_cons]
      rcases first x with e | _ | _
      · rfl
      · exact ih
      · generalize (xs.filterM fun x => do if ← first x then second x else return false) = both
          at ih
        cases hkept : xs.filterM first with
        | error e =>
            -- The first pass fails behind `x`, whatever the second test of `x` comes to.
            rw [hkept] at ih
            rcases second x with e | _ | _
            · rfl
            · exact ih
            · exact hcons x ih
        | ok kept =>
            rw [hkept] at ih
            show ((x :: kept).filterM second).toOption = _
            rw [filterM_cons]
            rcases second x with e | _ | _
            · rfl
            · exact ih
            · exact hcons x ih

/-! ## §4. The stages of both. -/

theorem narrowedRows_of_wellFormed {f : FilterCriteria} (h : f.WellFormed)
    (hsize : (operandsOfAll f.containers).length ≤ UInt64.size) (rows : List α) :
    narrowedRows config (some f) rows =
      rows.filterM fun row => f.meaning (Searchable.record row) := by
  obtain ⟨text, hcompile, -⟩ := h.compile_eq_ok config.reservedWords
  simp only [narrowedRows]
  rw [show f.compile config.dialect = _ from hcompile, ok_bind]
  exact filterRows_of_compile hcompile hsize rows

/-- Malformed criteria fail before any row is tried. -/
theorem exists_narrowedRows_eq_error {f : FilterCriteria} (hne : f.isEmpty = false)
    (h : ¬f.WellFormed) :
    ∃ e, ∀ rows : List α, narrowedRows config (some f) rows = .error e := by
  cases hcompile : f.compile config.dialect with
  | error e =>
      refine ⟨e, fun rows => ?_⟩
      simp only [narrowedRows]
      rw [hcompile]
      rfl
  | ok compiled =>
      cases compiled with
      | none => exact absurd (FilterCriteria.compile_eq_none_iff.mp hcompile) (by simp [hne])
      | some p => exact absurd (FilterCriteria.wellFormed_of_compile hcompile) h

theorem toOption_narrowedRows_merge {p f : FilterCriteria} (hp : p.isEmpty = false)
    (hf : f.isEmpty = false) (logic : Connective)
    (hsize : (operandsOfAll p.containers).length + (operandsOfAll f.containers).length ≤
      UInt64.size) (rows : List α) :
    (narrowedRows config (some p) rows >>= narrowedRows config (some f)).toOption =
      (narrowedRows config (some (p.merge logic f)) rows).toOption := by
  have hmerge : (p.merge logic f).WellFormed ↔ _ := FilterCriteria.wellFormed_merge_iff
  by_cases hwf : p.WellFormed ∧ f.WellFormed
  · rw [narrowedRows_of_wellFormed config hwf.1 (by omega),
      funext (narrowedRows_of_wellFormed config hwf.2 (by omega)),
      narrowedRows_of_wellFormed config (hmerge.mpr hwf) (by
        rw [FilterCriteria.operands_merge, List.length_append]
        exact hsize), filterM_both]
    simp only [FilterCriteria.meaning_merge]
  · -- One of the two is malformed, and then so is the one filter.
    obtain ⟨e, hmerged⟩ := exists_narrowedRows_eq_error (α := α) config
      (f := p.merge logic f) rfl (mt hmerge.mp hwf)
    rw [hmerged]
    show _ = none
    by_cases hpwf : p.WellFormed
    · obtain ⟨e', hsecond⟩ := exists_narrowedRows_eq_error (α := α) config hf
        fun hfwf => hwf ⟨hpwf, hfwf⟩
      cases narrowedRows config (some p) rows with
      | error _ => rfl
      | ok kept => exact congrArg Except.toOption (hsecond kept)
    · obtain ⟨e', hfirst⟩ := exists_narrowedRows_eq_error (α := α) config hp hpwf
      rw [hfirst]
      rfl

/-! ## §5. Searches. -/

/-- **A search that neither sorts nor pages is filtering alone**, with counts. -/
theorem searchRows_of_isUnarranged {d : SearchDefinition} (h : d.IsUnarranged) (rows : List α) :
    ((fun r => (r.filtered, r.rows)) <$> searchRows config (some d) rows) =
      (fun found => (UInt64.ofNat found.length, found)) <$>
        filterRowsOnly config (some d) rows := by
  have hsorted : ∀ found : List α, orderedRows config d.sort found = .ok found := by
    intro found
    rw [orderedRows_eq_sortedRows]
    cases hsort : d.sort with
    | none => rfl
    | some s => rw [sortedRows, if_pos (h.1 s hsort)]
  have hcut : ∀ found : List α, cutRows d found = found := by
    intro found
    rw [cutRows, h.2]
  rw [searchRows_eq_of_counts, filterRowsOnly_eq_stages]
  simp only [Option.getD_some, hsorted, hcut, ok_bind, map_bind]
  refine bind_congr fun kept => ?_
  cases narrowedRows config d.filter kept with
  | error e => rfl
  | ok found =>
      simp only [ok_bind]
      split <;> rfl

theorem toOption_searchRows_of_isUnarranged {d : SearchDefinition} (h : d.IsUnarranged)
    (rows : List α) :
    ((fun r => (r.filtered, r.rows)) <$> searchRows config (some d) rows).toOption =
      (filterRowsOnly config (some d) rows).toOption.map fun found =>
        (UInt64.ofNat found.length, found) := by
  rw [searchRows_of_isUnarranged config h]
  cases filterRowsOnly config (some d) rows <;> rfl

/-- **Two filters one after the other succeed where the one filter does, and leave the same rows in
the same order**; a search that neither sorts nor pages counts them alike.  The one predicate binds
the parameters of both, and is the `And` of the two, the placeholders of the second shifted by the
number of the first's parameters. -/
theorem filterRowsOnly_merged (config : SearchConfig) {d : SearchDefinition}
    {p f : FilterCriteria} (hpre : d.preFilter = some p) (hfilter : d.filter = some f)
    (hp : p.isEmpty = false) (hf : f.isEmpty = false) (logic : Connective)
    (hsize : (operandsOfAll p.containers).length + (operandsOfAll f.containers).length ≤
      UInt64.size) :
    (∀ rows : List α, (filterRowsOnly config (some d) rows).toOption =
      (filterRowsOnly config (some (d.narrowedOnceBy (p.merge logic f))) rows).toOption) ∧
    (d.IsUnarranged → ∀ rows : List α,
      ((fun r => (r.filtered, r.rows)) <$> searchRows config (some d) rows).toOption =
        ((fun r => (r.filtered, r.rows)) <$>
          searchRows config (some (d.narrowedOnceBy (p.merge logic f))) rows).toOption) ∧
    ∀ P F, p.compile config.dialect = .ok (some P) → f.compile config.dialect = .ok (some F) →
      parsePredicate P.text = .ok (p.tree .numbered) ∧
      parsePredicate F.text = .ok (f.tree .numbered) ∧
      ∃ M, (p.merge logic f).compile config.dialect = .ok (some M) ∧
        M.parameters = P.parameters ++ F.parameters ∧
        parsePredicate M.text = .ok (.and (p.tree .numbered)
          (f.tree (Slot.numbered.shifted P.parameters.length))) := by
  have hfiltering : ∀ rows : List α, (filterRowsOnly config (some d) rows).toOption =
      (filterRowsOnly config (some (d.narrowedOnceBy (p.merge logic f))) rows).toOption := by
    intro rows
    rw [filterRowsOnly_eq_stages, filterRowsOnly_eq_stages, hpre, hfilter,
      toOption_narrowedRows_merge config hp hf logic hsize]
    rfl
  refine ⟨hfiltering, fun hd rows => ?_, fun P F hP hF => ?_⟩
  · have hmerged : (d.narrowedOnceBy (p.merge logic f)).IsUnarranged := hd
    rw [toOption_searchRows_of_isUnarranged config hd,
      toOption_searchRows_of_isUnarranged config hmerged, hfiltering]
  · have hPlength := FilterCriteria.parameters_of_compile hP
    have hFlength := FilterCriteria.parameters_of_compile hF
    have hwf : (p.merge logic f).WellFormed := FilterCriteria.wellFormed_merge_iff.mpr
      ⟨FilterCriteria.wellFormed_of_compile hP, FilterCriteria.wellFormed_of_compile hF⟩
    obtain ⟨text, hM, -⟩ := hwf.compile_eq_ok config.reservedWords
    have hparse := FilterCriteria.parsePredicate_of_compile hM
    generalize Predicate.mk text _ = M at hM hparse
    have hMparameters : M.parameters = P.parameters ++ F.parameters := by
      rw [FilterCriteria.parameters_of_compile hM, FilterCriteria.operands_merge, hPlength,
        hFlength]
    rw [← hPlength, ← hFlength] at hsize
    refine ⟨FilterCriteria.parsePredicate_of_compile hP (by omega),
      FilterCriteria.parsePredicate_of_compile hF (by omega), M, hM, hMparameters, ?_⟩
    rw [hparse (by rwa [hMparameters, List.length_append]), FilterCriteria.tree_merge, hPlength]

/-- The pre-filter drops the row whose rank is text, so the filter is not asked to compare it with
a number; behind two operands, the filter's placeholder is `@2`. -/
theorem filterRowsOnly_merged_alternatives :
    let row := fun (id : Int64) (rank : Value) =>
      ([("id", .value (.int id)), ("rank", .value rank)] : Record)
    let p : FilterCriteria := ⟨[.ofSingle .and ⟨"id", .lessThan, .int 3, [], .other⟩,
      .ofSingle .or ⟨"id", .equals, .int 4, [], .other⟩]⟩
    let f : FilterCriteria := ⟨[.ofSingle .or ⟨"rank", .greaterThan, .int 5, [], .other⟩]⟩
    let d : SearchDefinition := { preFilter := some p, filter := some f }
    let merged := d.narrowedOnceBy (p.merge .or f)
    let rows := [row 1 (.int 7), row 2 (.int 0), row 3 (.text "a"), row 4 (.int 9)]
    p.isEmpty = false ∧ f.isEmpty = false ∧ d.IsUnarranged ∧
      (filterRowsOnly {} (some merged) rows).toOption = some [row 1 (.int 7), row 4 (.int 9)] ∧
      ((fun r => (r.filtered, r.rows)) <$> searchRows {} (some merged) rows).toOption =
        some (2, [row 1 (.int 7), row 4 (.int 9)]) ∧
      (f.tree (Slot.numbered.shifted 2)).placeholders = [2] := by
  intro row p f d merged rows
  have hd : d.IsUnarranged := ⟨nofun, rfl⟩
  obtain ⟨hfiltering, hsearch, -⟩ :=
    filterRowsOnly_merged {} (d := d) (α := Record) rfl rfl rfl rfl .or (by decide)
  refine ⟨rfl, rfl, hd, ?_, ?_, by decide⟩
  · exact (hfiltering rows).symm.trans rfl
  · exact (hsearch hd rows).symm.trans rfl

end RecordSearch
