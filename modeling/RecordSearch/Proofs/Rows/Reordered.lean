/-
  RecordSearch.Proofs.Rows.Reordered
  ──────────────────────────────────
  **Filters can be moved in front of sorts.**

  Rows in memory are filtered and sorted step after step.  A stable sort puts the rows that a filter
  keeps in the order in which it would put them alone, so it makes no difference which of the two
  comes first.  A run of any length comes to all its filters, in whatever order, and then its sorts
  in turn:

      RowStep, runSteps      — steps on rows, one after the other
      RowStep.SettledOn      — the step has an answer on each of the rows, the others left aside
      filter_stableSort      — filtering a sorted list is sorting a filtered one
      runSteps_eq_arranged   — a run filters once, by all its filters, and then sorts
      runSteps_filtersFirst  — the same run with its filters in front
-/
import RecordSearch.Proofs.Rows.Ordered

namespace RecordSearch

/-! ## §1. Filters and sorts. -/

/-- **Filtering a sorted list is sorting a filtered one.**  Both are stable sorts of the elements
that pass, and there is only one. -/
theorem filter_stableSort {β : Type} {order : β → β → Ordering} {xs : List β}
    (h : Consistent order xs) (p : β → Bool) :
    (stableSort order xs).filter p = stableSort order (xs.filter p) := by
  have hpassing : Consistent order (xs.filter p) := h.subset fun y hy => List.mem_of_mem_filter hy
  have hsorted := isStableSort_stableSort h
  refine IsStableSort.unique hpassing ?_ (isStableSort_stableSort hpassing)
  refine ⟨hsorted.perm.filter p, hsorted.sorted.filter p, fun a ha => ?_⟩
  rw [List.filter_comm, hsorted.stable a (List.mem_of_mem_filter ha), List.filter_comm]

/-! ## §2. Steps. -/

/-- A step on rows in memory. -/
inductive RowStep where
  /-- Keeps the rows that match. -/
  | filter (p : Predicate)
  /-- Puts the rows in the order of a clause. -/
  | orderBy (clause : String)

def RowStep.isFilter : RowStep → Bool
  | .filter _ => true
  | .orderBy _ => false

variable {α : Type} [Searchable α]

namespace RowStep

/-- The rows behind the step. -/
def apply (step : RowStep) (rows : List α) : Except SearchError (List α) :=
  match step with
  | .filter p => filterRows p rows
  | .orderBy clause => orderRows clause rows

/-- **The step can be done on any of these rows.**  The text of a filter is read, and its predicate
has an answer on each row; the text of a sort is read, each of its keys has a value on each row, and
the values of a key are of one type, nulls aside. -/
def SettledOn (rows : List α) : RowStep → Prop
  | .filter p => ∃ e, parsePredicate p.text = .ok e ∧
      ∀ row ∈ rows, ∃ answer, e.holds p.parameters (Searchable.record row) = .ok answer
  | .orderBy clause => ∃ keys, parseOrdering clause = .ok keys ∧
      (∀ row ∈ rows, HasKeys keys row) ∧ ∀ key ∈ keys, ∀ a ∈ rows, ∀ b ∈ rows, key.Alike a b

/-- Does a filter keep the row?  A sort keeps all rows. -/
def keeps (step : RowStep) (row : α) : Bool :=
  match step with
  | .filter p =>
    match parsePredicate p.text with
    | .ok e => (e.holds p.parameters (Searchable.record row)).toOption = some true
    | .error _ => false
  | .orderBy _ => true

/-- The rows in the order of a sort.  A filter leaves them as they are. -/
def arrange (step : RowStep) (rows : List α) : List α :=
  match step with
  | .filter _ => rows
  | .orderBy clause =>
    match parseOrdering clause with
    | .ok keys => stableSort (rowOrder keys) rows
    | .error _ => rows

end RowStep

/-- Rows on which the expression has an answer are filtered by it. -/
theorem keepRows_eq_filter {values : List Value} {e : Expr} {rows : List α}
    (h : ∀ row ∈ rows, ∃ answer, e.holds values (Searchable.record row) = .ok answer) :
    keepRows values e rows = .ok (rows.filter fun row =>
      (e.holds values (Searchable.record row)).toOption = some true) := by
  induction rows with
  | nil => rfl
  | cons row rows ih =>
      obtain ⟨⟨answer, hanswer⟩, hrows⟩ := List.forall_mem_cons.mp h
      rw [keepRows, hanswer, ok_bind, ih hrows]
      cases answer with
      | true => rw [List.filter_cons_of_pos (by simp [hanswer, Except.toOption])]; rfl
      | false => rw [List.filter_cons_of_neg (by simp [hanswer, Except.toOption])]; rfl

namespace RowStep

variable {step : RowStep} {source rows : List α}

theorem mem_arrange_iff {row : α} : row ∈ step.arrange rows ↔ row ∈ rows := by
  cases step with
  | filter p => rfl
  | orderBy clause =>
      simp only [arrange]
      cases parseOrdering clause with
      | ok keys => exact (stableSort_perm _ rows).mem_iff
      | error e => exact Iff.rfl

/-- **A step filters and then sorts**, one of which does nothing. -/
theorem SettledOn.apply_eq (h : step.SettledOn source) (hrows : ∀ row ∈ rows, row ∈ source) :
    step.apply rows = .ok (step.arrange (rows.filter step.keeps)) := by
  cases step with
  | filter p =>
      obtain ⟨e, hread, hanswers⟩ := h
      have hkeeps : (RowStep.filter p).keeps = fun row : α =>
          decide ((e.holds p.parameters (Searchable.record row)).toOption = some true) := by
        funext row
        simp only [keeps, hread]
      show filterRows p rows = .ok (rows.filter _)
      rw [hkeeps, ← keepRows_eq_filter fun row hrow => hanswers row (hrows row hrow)]
      simp only [filterRows, hread]
  | orderBy clause =>
      obtain ⟨keys, hread, hkeys, halike⟩ := h
      have hconsistent : Consistent (rowOrder keys) rows :=
        (consistent_rowOrder hkeys halike).subset hrows
      have hall : rows.filter (RowStep.orderBy clause).keeps = rows :=
        List.filter_eq_self.mpr fun row _ => rfl
      rw [hall]
      show orderRows clause rows = _
      rw [orderRows_eq_stableSort hread (fun row hrow => hkeys row (hrows row hrow))
        (.inr hconsistent)]
      simp only [arrange, hread]

/-- What a step does to the order of rows, it does to those that pass a test alone. -/
theorem SettledOn.filter_arrange (h : step.SettledOn source) (hrows : ∀ row ∈ rows, row ∈ source)
    (p : α → Bool) : (step.arrange rows).filter p = step.arrange (rows.filter p) := by
  cases step with
  | filter _ => rfl
  | orderBy clause =>
      obtain ⟨keys, hread, hkeys, halike⟩ := h
      have hconsistent : Consistent (rowOrder keys) rows :=
        (consistent_rowOrder hkeys halike).subset hrows
      simp only [arrange, hread]
      exact filter_stableSort hconsistent p

end RowStep

/-! ## §3. Runs. -/

/-- **The rows behind all steps**, one after the other. -/
def runSteps (steps : List RowStep) (rows : List α) : Except SearchError (List α) :=
  steps.foldlM (fun rows step => step.apply rows) rows

/-- The row is kept by all filters among the steps. -/
def keptByAll (steps : List RowStep) (row : α) : Bool := steps.all (·.keeps row)

/-- The rows in the order of each sort among the steps, one after the other. -/
def arrangeAll (steps : List RowStep) (rows : List α) : List α :=
  steps.foldl (fun rows step => step.arrange rows) rows

variable {steps filters : List RowStep} {source rows : List α}

/-- **A run filters once, by all its filters, and then sorts.**  The induction is on the steps: the
later filters move in front of the first step. -/
theorem runSteps_eq_arranged (h : ∀ step ∈ steps, step.SettledOn source)
    (hrows : ∀ row ∈ rows, row ∈ source) :
    runSteps steps rows = .ok (arrangeAll steps (rows.filter (keptByAll steps))) := by
  induction steps generalizing rows with
  | nil => exact congrArg Except.ok (List.filter_eq_self.mpr fun _ _ => rfl).symm
  | cons step steps ih =>
      obtain ⟨hstep, hsteps⟩ := List.forall_mem_cons.mp h
      have hkept : ∀ row ∈ rows.filter step.keeps, row ∈ source :=
        fun row hrow => hrows row (List.mem_of_mem_filter hrow)
      have hfirst : ∀ row ∈ step.arrange (rows.filter step.keeps), row ∈ source :=
        fun row hrow => hkept row (RowStep.mem_arrange_iff.mp hrow)
      calc runSteps (step :: steps) rows
          = (step.apply rows >>= runSteps steps) := List.foldlM_cons
        _ = runSteps steps (step.arrange (rows.filter step.keeps)) := by
            rw [hstep.apply_eq hrows, ok_bind]
        _ = .ok (arrangeAll steps
              ((step.arrange (rows.filter step.keeps)).filter (keptByAll steps))) :=
            ih hsteps hfirst
        -- The filters of all later steps move in front of what the first one arranges.
        _ = .ok (arrangeAll steps
              (step.arrange ((rows.filter step.keeps).filter (keptByAll steps)))) := by
            rw [hstep.filter_arrange hkept]
        _ = .ok (arrangeAll (step :: steps) (rows.filter (keptByAll (step :: steps)))) := by
            rw [List.filter_filter]
            simp only [keptByAll, Bool.and_comm]
            rfl

theorem arrangeAll_filters (h : ∀ step ∈ filters, step.isFilter = true) (rows : List α) :
    arrangeAll filters rows = rows := by
  induction filters with
  | nil => rfl
  | cons step filters ih =>
      obtain ⟨hstep, hfilters⟩ := List.forall_mem_cons.mp h
      cases step with
      | filter p => exact ih hfilters
      | orderBy clause => cases hstep

/-- Only the sorts among the steps arrange anything. -/
theorem arrangeAll_sorts (steps : List RowStep) (rows : List α) :
    arrangeAll (steps.filter (!·.isFilter)) rows = arrangeAll steps rows := by
  induction steps generalizing rows with
  | nil => rfl
  | cons step steps ih =>
      cases step with
      | filter p => exact ih rows
      | orderBy clause => exact ih _

/-- **Filtering and sorting commute over whole runs.**  Where the predicate of each filter has an
answer on all rows, and the keys of each sort have values of one type on them, the run succeeds, and
it ends with the same rows, in the same order, if all its filters are done first, in any order, and
then its sorts in the order in which they were. -/
theorem runSteps_filtersFirst (h : ∀ step ∈ steps, step.SettledOn rows) :
    ∃ ended, runSteps steps rows = .ok ended ∧
      ∀ filters, filters.Perm (steps.filter (·.isFilter)) →
        runSteps (filters ++ steps.filter (!·.isFilter)) rows = .ok ended := by
  refine ⟨_, runSteps_eq_arranged h fun _ => id, fun filters hperm => ?_⟩
  have hall : (filters ++ steps.filter (!·.isFilter)).Perm steps :=
    (hperm.append_right _).trans (List.filter_append_perm _ steps)
  have hsettled : ∀ step ∈ filters ++ steps.filter (!·.isFilter), step.SettledOn rows :=
    fun step hstep => h step (hall.mem_iff.mp hstep)
  have hkept : keptByAll (filters ++ steps.filter (!·.isFilter)) = keptByAll (α := α) steps :=
    funext fun row => hall.all_eq
  have hfilters : ∀ step ∈ filters, step.isFilter = true :=
    fun step hstep => (List.mem_filter.mp (hperm.mem_iff.mp hstep)).2
  -- Both runs filter by the same filters; they are left with the same sorts, in the same order.
  rw [runSteps_eq_arranged hsettled fun _ => id, hkept, arrangeAll, List.foldl_append]
  show Except.ok (arrangeAll _ (arrangeAll filters _)) = _
  rw [arrangeAll_filters hfilters, arrangeAll_sorts]

/-- One filter stands between two sorts and one behind them; in front they change places.  Both ways
drop the highest and the lowest rank, and then sort by team. -/
theorem runSteps_filtersFirst_teams :
    let row := fun (team : String) (rank : Value) =>
      ([("team", .value (.text team)), ("rank", .value rank)] : Record)
    let rows := [row "b" (.int 7), row "a" (.int 2), row "a" .null, row "c" (.uint 9)]
    let notC := RowStep.filter ⟨"(team < @0)", [.text "c"]⟩
    let notTwo := RowStep.filter ⟨"(rank != @0)", [.int 2]⟩
    let byRank := RowStep.orderBy "rank DESC"
    let byTeam := RowStep.orderBy "team"
    let ended := [row "a" .null, row "b" (.int 7)]
    (∀ step ∈ [byRank, notC, byTeam, notTwo], step.SettledOn rows) ∧
      runSteps [byRank, notC, byTeam, notTwo] rows = .ok ended ∧
      runSteps [notTwo, notC, byRank, byTeam] rows = .ok ended := by
  intro row rows notC notTwo byRank byTeam ended
  have hnotC : notC.SettledOn rows := by
    refine ⟨_, by rfl, ?_⟩
    simp only [rows, List.forall_mem_cons]
    exact ⟨⟨_, rfl⟩, ⟨_, rfl⟩, ⟨_, rfl⟩, ⟨_, rfl⟩, by simp⟩
  have hnotTwo : notTwo.SettledOn rows := by
    refine ⟨_, by rfl, ?_⟩
    simp only [rows, List.forall_mem_cons]
    exact ⟨⟨_, rfl⟩, ⟨_, rfl⟩, ⟨_, rfl⟩, ⟨_, rfl⟩, by simp⟩
  have hbyRank : byRank.SettledOn rows := by
    refine ⟨[⟨.name "rank", .descending⟩], by rfl, ?_, ?_⟩
    · simp only [rows, HasKeys, List.forall_mem_singleton, List.forall_mem_cons]
      exact ⟨⟨_, rfl⟩, ⟨_, rfl⟩, ⟨_, rfl⟩, ⟨_, rfl⟩⟩
    · simp only [rows, List.mem_cons, List.not_mem_nil, or_false]
      rintro _ rfl _ (rfl | rfl | rfl | rfl) _ (rfl | rfl | rfl | rfl) v w hv hw <;>
        cases hv <;> cases hw <;> rfl
  have hbyTeam : byTeam.SettledOn rows := by
    refine ⟨[⟨.name "team", .ascending⟩], by rfl, ?_, ?_⟩
    · simp only [rows, HasKeys, List.forall_mem_singleton, List.forall_mem_cons]
      exact ⟨⟨_, rfl⟩, ⟨_, rfl⟩, ⟨_, rfl⟩, ⟨_, rfl⟩⟩
    · simp only [rows, List.mem_cons, List.not_mem_nil, or_false]
      rintro _ rfl _ (rfl | rfl | rfl | rfl) _ (rfl | rfl | rfl | rfl) v w hv hw <;>
        cases hv <;> cases hw <;> rfl
  have hsettled : ∀ step ∈ [byRank, notC, byTeam, notTwo], step.SettledOn rows := by
    simp only [List.forall_mem_cons]
    exact ⟨hbyRank, hnotC, hbyTeam, hnotTwo, by simp⟩
  have hrun : runSteps [byRank, notC, byTeam, notTwo] rows = .ok ended := by rfl
  obtain ⟨ended', hended, hfirst⟩ := runSteps_filtersFirst hsettled
  obtain rfl : ended = ended' := Except.ok.inj (hrun.symm.trans hended)
  exact ⟨hsettled, hrun, hfirst [notTwo, notC] (.swap notC notTwo [])⟩

end RecordSearch
