/-
  RecordSearch.Proofs.Search.Extended
  ───────────────────────────────────
  **One more condition narrows or widens a search.**

  A container behind a list of containers joins the last run of the list (`And`) or starts a run of
  its own (`Or`), whatever connectives the list has.  Where both filters can be evaluated, the rows
  of the one are among those of the other, in the same order:

      meaning_of_push_and  — a longer last run holds less often
      meaning_push_or      — one more run holds more often
      filterM_eq_ok        — rows that are tried without a failure are filtered
      rowsKept_push        — the rows that are kept

  The connective of a first container joins it to nothing, so an `Or` narrows the filter that has
  no container, which keeps all rows.
-/
import RecordSearch.Proofs.Criteria.Connectives
import RecordSearch.Proofs.Search.Merged

namespace RecordSearch

variable {α : Type} [Searchable α]

/-! ## §1. Answers. -/

/-- **A run that goes on holds less often.**  The induction is on the runs in front of the last
one, which are answered as before. -/
theorem someRunFrom_of_append_and {run x : Answer} {parts : List (Connective × Answer)}
    (h : someRunFrom run (parts ++ [(.and, x)]) = .ok true) : someRunFrom run parts = .ok true := by
  induction parts generalizing run with
  | nil => exact (bothHold_eq_true_iff.mp h).1
  | cons part parts ih =>
      obtain ⟨logic, y⟩ := part
      cases logic with
      | and => exact ih h
      | or =>
          refine eitherHolds_eq_true_iff.mpr ((eitherHolds_eq_true_iff.mp h).imp_right ?_)
          exact And.imp_right ih

/-- One more run is tried behind all the others. -/
theorem someRunFrom_append_or (run x : Answer) (parts : List (Connective × Answer)) :
    someRunFrom run (parts ++ [(.or, x)]) = eitherHolds (someRunFrom run parts) x :=
  someRunFrom_append (.inr fun part hpart => by cases hpart; rfl) run

namespace FilterCriteria

variable {f : FilterCriteria} {c : Container} {r : Record}

/-- The answers of a filter with one more container, computed from the front. -/
theorem exists_meaning_push (hne : f.containers ≠ []) (r : Record) :
    ∃ run parts, f.meaning r = someRunFrom run parts ∧
      ∀ logic (c : Container), (f.push (c.joinedBy logic)).meaning r =
        someRunFrom run (parts ++ [(logic, c.meaning r)]) := by
  obtain ⟨containers⟩ := f
  cases containers with
  | nil => exact absurd rfl hne
  | cons first rest =>
      let answer := fun c : Container => (c.logic, c.meaning r)
      refine ⟨first.meaning r, rest.map answer, ?_, fun logic c => ?_⟩
      · rw [meaning, meaningsOfAll_eq_map, List.map_cons, someRun_cons]
      · rw [push, meaning, meaningsOfAll_eq_map, List.cons_append, List.map_cons, someRun_cons,
          List.map_append, List.map_singleton, c.meaning_joinedBy]
        rfl

theorem meaning_of_push_and (hne : f.containers ≠ [])
    (h : (f.push (c.joinedBy .and)).meaning r = .ok true) : f.meaning r = .ok true := by
  obtain ⟨run, parts, hf, hpush⟩ := exists_meaning_push hne r
  rw [hf]
  exact someRunFrom_of_append_and ((hpush .and c).symm.trans h)

theorem meaning_push_or (hne : f.containers ≠ []) :
    (f.push (c.joinedBy .or)).meaning r = eitherHolds (f.meaning r) (c.meaning r) := by
  obtain ⟨run, parts, hf, hpush⟩ := exists_meaning_push hne r
  rw [hpush, hf, someRunFrom_append_or]

theorem WellFormed.push (hf : ∀ x ∈ f.containers, x.WellFormed) (hc : c.WellFormed)
    (logic : Connective) : (f.push (c.joinedBy logic)).WellFormed := by
  refine ⟨by simp [FilterCriteria.push], List.forall_mem_append.mpr ⟨hf, ?_⟩⟩
  exact List.forall_mem_singleton.mpr (hc.joinedBy logic)

theorem operands_push (logic : Connective) :
    operandsOfAll (f.push (c.joinedBy logic)).containers =
      operandsOfAll f.containers ++ c.operands := by
  rw [push, operandsOfAll_append, operandsOfAll, c.operands_joinedBy, operandsOfAll,
    List.append_nil]

end FilterCriteria

/-! ## §2. Rows. -/

/-- Elements that are tried without a failure are filtered. -/
theorem filterM_eq_ok {β : Type} {test : β → Except SearchError Bool} {xs kept : List β}
    (h : xs.filterM test = .ok kept) :
    kept = xs.filter fun x => (test x).toOption = some true := by
  induction xs generalizing kept with
  | nil => exact (Except.ok.inj h).symm
  | cons x xs ih =>
      rw [filterM_cons] at h
      obtain ⟨passes, hx, h⟩ := bind_eq_ok_iff.mp h
      cases passes with
      | false =>
          rw [List.filter_cons_of_neg (by simp [hx, Except.toOption])]
          exact ih h
      | true =>
          obtain ⟨rest, hrest, h⟩ := bind_eq_ok_iff.mp h
          rw [List.filter_cons_of_pos (by simp [hx, Except.toOption]), ← ih hrest]
          exact (Except.ok.inj h).symm

/-- A test that passes more often leaves more elements. -/
theorem sublist_of_filterM {β : Type} {test weaker : β → Except SearchError Bool}
    {xs kept more : List β} (himp : ∀ x, test x = .ok true → weaker x = .ok true)
    (hkept : xs.filterM test = .ok kept) (hmore : xs.filterM weaker = .ok more) :
    kept.Sublist more := by
  rw [filterM_eq_ok hkept, filterM_eq_ok hmore]
  refine List.monotone_filter_right xs fun x => ?_
  simpa [toOption_eq_some_iff] using himp x

/-! ## §3. Searches. -/

namespace FilterCriteria

/-- **The rows that a filter keeps** when nothing else is asked for. -/
def rowsKept (config : SearchConfig) (f : FilterCriteria) (rows : List α) :
    Except SearchError (List α) :=
  filterRowsOnly config (some { filter := some f }) rows

theorem rowsKept_of_isEmpty (config : SearchConfig) {f : FilterCriteria} (h : f.isEmpty = true)
    (rows : List α) : f.rowsKept config rows = .ok rows := by
  rw [rowsKept, filterRowsOnly_eq_stages]
  show (f.compile config.dialect).bind _ = _
  rw [compile_eq_none_iff.mpr h]
  rfl

theorem WellFormed.rowsKept_eq_filterM (config : SearchConfig) {f : FilterCriteria}
    (h : f.WellFormed) (hsize : (operandsOfAll f.containers).length ≤ UInt64.size)
    (rows : List α) :
    f.rowsKept config rows = rows.filterM fun row => f.meaning (Searchable.record row) := by
  rw [rowsKept, filterRowsOnly_eq_stages]
  exact narrowedRows_of_wellFormed config h hsize rows

/-- **One more condition narrows or widens.**  Let a filter have any containers, joined in any way.
Where it and the filter with one more container can be evaluated on the rows, a container behind
`And` leaves some of the rows that the filter keeps, in their order, and a container behind `Or`
leaves all of them and maybe others, if it has something in front of it to be joined to. -/
theorem rowsKept_push (config : SearchConfig) {f : FilterCriteria} {c : Container}
    (hf : ∀ x ∈ f.containers, x.WellFormed) (hc : c.WellFormed)
    (hsize : (operandsOfAll f.containers).length + c.operands.length ≤ UInt64.size)
    {rows kept : List α} (hkept : f.rowsKept config rows = .ok kept) :
    (∀ fewer, (f.push (c.joinedBy .and)).rowsKept config rows = .ok fewer →
      fewer.Sublist kept) ∧
    (f.containers ≠ [] → ∀ more, (f.push (c.joinedBy .or)).rowsKept config rows = .ok more →
      kept.Sublist more) := by
  have hpush (logic : Connective) : (f.push (c.joinedBy logic)).rowsKept config rows =
      rows.filterM fun row => (f.push (c.joinedBy logic)).meaning (Searchable.record row) := by
    refine (WellFormed.push hf hc logic).rowsKept_eq_filterM config ?_ rows
    rwa [operands_push, List.length_append]
  have hfilter (hne : f.containers ≠ []) :
      rows.filterM (fun row => f.meaning (Searchable.record row)) = .ok kept := by
    rw [← WellFormed.rowsKept_eq_filterM config ⟨hne, hf⟩ (by omega) rows]
    exact hkept
  refine ⟨fun fewer hfewer => ?_, fun hne more hmore => ?_⟩
  · rw [hpush] at hfewer
    by_cases hne : f.containers = []
    · -- All rows are kept without a condition.
      rw [rowsKept_of_isEmpty config (List.isEmpty_iff.mpr hne)] at hkept
      obtain rfl := Except.ok.inj hkept
      rw [filterM_eq_ok hfewer]
      exact List.filter_sublist
    · exact sublist_of_filterM (fun row => meaning_of_push_and hne) hfewer (hfilter hne)
  · rw [hpush] at hmore
    refine sublist_of_filterM (fun row hrow => ?_) (hfilter hne) hmore
    rw [meaning_push_or hne]
    exact eitherHolds_eq_true_iff.mpr (.inl hrow)

/-- Behind alternatives, `And` drops a row that the last alternative keeps but not one that the
first keeps, and `Or` brings a row in between two others. -/
theorem rowsKept_push_alternatives :
    let asks := fun (logic : Connective) (field : String) (n : Int64) =>
      Container.ofSingle logic ⟨field, .equals, .int n, [], .other⟩
    let row := fun a b : Int64 => ([("a", .value (.int a)), ("b", .value (.int b))] : Record)
    let f : FilterCriteria := ⟨[asks .and "a" 1, asks .or "a" 2]⟩
    let rows := [row 1 0, row 3 5, row 2 0, row 2 5]
    f.rowsKept {} rows = .ok [row 1 0, row 2 0, row 2 5] ∧
      [row 1 0, row 2 5].Sublist [row 1 0, row 2 0, row 2 5] ∧
      [row 1 0, row 2 0, row 2 5].Sublist [row 1 0, row 3 5, row 2 0, row 2 5] := by
  intro asks row f rows
  have hpaths : ∀ field ∈ ["a", "b"], IsPath field := by decide
  have hasks : ∀ logic n, ∀ field ∈ ["a", "b"], (asks logic field n).WellFormed :=
    fun logic n field hfield => .single _ _ (hpaths field hfield) nofun
  have hf : ∀ x ∈ f.containers, x.WellFormed := by
    simp only [f, List.forall_mem_cons]
    exact ⟨hasks _ _ _ (by simp), hasks _ _ _ (by simp), by simp⟩
  have hb : (asks .and "b" 5).WellFormed := hasks .and 5 "b" (by simp)
  have hkept : f.rowsKept {} rows = .ok [row 1 0, row 2 0, row 2 5] :=
    (WellFormed.rowsKept_eq_filterM {} ⟨List.cons_ne_nil _ _, hf⟩ (by decide) rows).trans rfl
  have hpush := fun logic => (WellFormed.push hf hb logic).rowsKept_eq_filterM (α := Record) {}
  have h := rowsKept_push {} hf hb (by decide) hkept
  exact ⟨hkept, h.1 _ ((hpush .and (by decide) rows).trans rfl),
    h.2 (List.cons_ne_nil _ _) _ ((hpush .or (by decide) rows).trans rfl)⟩

/-- The first container of a filter has nothing to be joined to: without it all rows are kept, and
with it those of which it holds, also behind `Or`. -/
theorem rowsKept_push_or_first :
    let f : FilterCriteria := {}
    let c := Container.ofSingle .or ⟨"x", .equals, .int 1, [], .other⟩
    let rows : List Record := [[("x", .value (.int 2))]]
    (∀ x ∈ f.containers, x.WellFormed) ∧ c.WellFormed ∧
      f.rowsKept {} rows = .ok rows ∧ (f.push (c.joinedBy .or)).rowsKept {} rows = .ok [] ∧
      ¬rows.Sublist [] := by
  intro f c rows
  have hpath : IsPath "x" := by decide
  have hc : c.WellFormed := .single _ _ hpath nofun
  have hf : ∀ x ∈ f.containers, x.WellFormed := by simp [f]
  have hpush : (f.push (c.joinedBy .or)).WellFormed := .push hf hc .or
  exact ⟨hf, hc, rfl, (hpush.rowsKept_eq_filterM {} (by decide) rows).trans rfl,
    by simp [rows]⟩

end FilterCriteria

end RecordSearch
