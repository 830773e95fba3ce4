/-
  RecordSearch.Proofs.Search.Calls
  ────────────────────────────────
  **The calls that a search makes.**

  Whatever a source answers, and whichever of its operations fails, a search makes the calls of its
  plan, in order and each once, up to the first step that fails:

      SearchDefinition.plan    — the steps of a search: calls, or the failure to compile one
      Trace source steps …     — the steps done in turn, up to the first that fails
      Performs source steps p  — from every state, the program `p` does the steps on the source

  The plan depends on one answer, the second count: nothing is ordered or cut where nothing is
  left.  Programs that perform steps are put together with `Performs.bind`, so what a search
  performs follows its text.
-/
import RecordSearch.Search
import RecordSearch.Proofs.Criteria.Compiled

namespace RecordSearch

variable {σ α β γ : Type}

/-! ## §1. Plans. -/

/-- A call to be made, or the reason why there is none to make. -/
abbrev Step := Except SearchError SourceCall

/-- The step for what was compiled, if there is anything to do. -/
def stepOf {δ : Type} (call : δ → SourceCall) : Except SearchError (Option δ) → List Step
  | .ok none => []
  | .ok (some compiled) => [.ok (call compiled)]
  | .error e => [.error e]

/-- The step of one of the filters: its criteria are compiled by themselves. -/
def filterSteps (config : SearchConfig) : Option FilterCriteria → List Step
  | none => []
  | some criteria => stepOf .filter (criteria.compile config.dialect)

/-- The step of the sort. -/
def sortSteps (config : SearchConfig) : Option SortCriteria → List Step
  | none => []
  | some sort => stepOf .orderBy (sort.compile config.dialect)

/-- The steps of the page. -/
def windowSteps (d : SearchDefinition) : List Step :=
  match d.page, d.pageSize with
  | some page, some size => [.ok (.skip (page * size)), .ok (.take size)]
  | _, _ => []

/-- The steps up to the second count. -/
def SearchDefinition.narrowing (config : SearchConfig) (d : SearchDefinition) : List Step :=
  filterSteps config d.preFilter ++ [.ok .count] ++ filterSteps config d.filter ++ [.ok .count]

/-- The steps behind the second count, when it is `filtered`. -/
def SearchDefinition.fetching (config : SearchConfig) (d : SearchDefinition) (filtered : UInt64) :
    List Step :=
  (if 0 < filtered then sortSteps config d.sort ++ windowSteps d else []) ++ [.ok .materialize]

/-- **The steps of a search** whose second count is `filtered`. -/
def SearchDefinition.plan (config : SearchConfig) (d : SearchDefinition) (filtered : UInt64) :
    List Step :=
  d.narrowing config ++ d.fetching config filtered

/-- **The steps of filtering alone.** -/
def filterPlan (config : SearchConfig) : Option SearchDefinition → List Step
  | none => [.ok .materialize]
  | some d => filterSteps config d.preFilter ++ filterSteps config d.filter ++ [.ok .materialize]

/-! ## §2. Traces. -/

/-- What a source answers to a call. -/
inductive Reply (α : Type) where
  | done
  | count (n : UInt64)
  | rows (rows : List α)

/-- Makes a call. -/
def Source.perform (source : Source σ α) : SourceCall → Action σ (Reply α)
  | .filter p => do source.filter p; return .done
  | .count => return .count (← source.count)
  | .orderBy clause => do source.orderBy clause; return .done
  | .skip count => do source.skip count; return .done
  | .take count => do source.take count; return .done
  | .materialize => return .rows (← source.materialize)

/-- **Steps are done in turn, up to the first that fails.**  In order: the steps, the state at the
start, the calls that were made, the replies to those that did not fail, the failure if there is
one, and the state at the end. -/
inductive Trace (source : Source σ α) :
    List Step → σ → List SourceCall → List (Reply α) → Option SearchError → σ → Prop where
  | done (s : σ) : Trace source [] s [] [] none s
  /-- There is no call to make. -/
  | noCall (e : SearchError) (steps : List Step) (s : σ) :
      Trace source (.error e :: steps) s [] [] (some e) s
  /-- The call was made, and failed. -/
  | failed {c : SourceCall} {e : SearchError} {s s' : σ} (steps : List Step)
      (h : (source.perform c).run s = (.error e, s')) :
      Trace source (.ok c :: steps) s [c] [] (some e) s'
  | step {c : SourceCall} {reply : Reply α} {s s' s'' : σ} {steps : List Step}
      {calls : List SourceCall} {replies : List (Reply α)} {stop : Option SearchError}
      (h : (source.perform c).run s = (.ok reply, s'))
      (hrest : Trace source steps s' calls replies stop s'') :
      Trace source (.ok c :: steps) s (c :: calls) (reply :: replies) stop s''

namespace Trace

variable {source : Source σ α} {steps steps' : List Step} {s s' s'' : σ}
  {calls calls' : List SourceCall} {replies replies' : List (Reply α)}
  {stop : Option SearchError} {e : SearchError}

/-- The calls are a prefix of the plan. -/
theorem isPrefix (h : Trace source steps s calls replies stop s') :
    calls.map .ok <+: steps := by
  induction h with
  | done s => exact List.nil_prefix
  | noCall e steps s => exact List.nil_prefix
  | failed steps h => exact ⟨steps, rfl⟩
  | step h hrest ih => exact (List.prefix_cons_inj _).mpr ih

/-- Without a failure all calls of the plan were made. -/
theorem eq_of_none (h : Trace source steps s calls replies none s') : steps = calls.map .ok := by
  generalize hstop : none = stop at h
  induction h with
  | done s => rfl
  | noCall e steps s => cases hstop
  | failed steps h => cases hstop
  | step h hrest ih => rw [ih hstop]; rfl

theorem append (h : Trace source steps s calls replies none s')
    (h' : Trace source steps' s' calls' replies' stop s'') :
    Trace source (steps ++ steps') s (calls ++ calls') (replies ++ replies') stop s'' := by
  generalize hstop : none = stop₁ at h
  induction h with
  | done s => exact h'
  | noCall e steps s => cases hstop
  | failed steps h => cases hstop
  | step h hrest ih => exact .step h (ih h' hstop)

/-- Nothing is done behind a failure. -/
theorem append_of_some (h : Trace source steps s calls replies (some e) s') (steps' : List Step) :
    Trace source (steps ++ steps') s calls replies (some e) s' := by
  generalize hstop : some e = stop at h
  induction h with
  | done s => cases hstop
  | noCall e steps s => exact .noCall e _ s
  | failed steps h => exact .failed _ h
  | step h hrest ih => exact .step h (ih hstop)

end Trace

/-! ## §3. Programs that perform steps. -/

/-- The source, with nothing done about notes: its operations are all there is to it. -/
def Source.quiet (source : Source σ α) : Source σ α := { source with note := fun _ => pure () }

/-- **From every state, the program does the steps on the source** and keeps the calls.  Stopped by
a failure it has that error; otherwise it returns what `read` allows for the replies. -/
def Performs (source : Source σ α) (steps : List Step)
    (program : Action (σ × List SourceCall) β) (read : List (Reply α) → β → Prop) : Prop :=
  ∀ s before, ∃ calls replies stop s', Trace source steps s calls replies stop s' ∧
    match stop with
    | some e => program.run (s, before) = (.error e, (s', before ++ calls))
    | none => ∃ b, read replies b ∧ program.run (s, before) = (.ok b, (s', before ++ calls))

theorem Action.run_bind_ok {p : Action σ β} {k : β → Action σ γ} {s s' : σ} {b : β}
    (h : p.run s = (.ok b, s')) : (p >>= k).run s = (k b).run s' := by
  show ExceptT.bindCont k (p.run s).1 (p.run s).2 = _
  rw [h]
  rfl

theorem Action.run_bind_error {p : Action σ β} {s s' : σ} {e : SearchError}
    (h : p.run s = (.error e, s')) (k : β → Action σ γ) :
    (p >>= k).run s = (.error e, s') := by
  show ExceptT.bindCont k (p.run s).1 (p.run s).2 = _
  rw [h]
  rfl

namespace Performs

variable {source : Source σ α} {steps steps' : List Step}

theorem pure {read : List (Reply α) → β → Prop} {b : β} (h : read [] b) :
    Performs source [] (Pure.pure b) read := by
  intro s before
  exact ⟨[], [], none, s, .done s, b, h, by rw [List.append_nil]; rfl⟩

/-- **One program after the other.** -/
theorem bind {p : Action (σ × List SourceCall) β} {k : β → Action (σ × List SourceCall) γ}
    {read : List (Reply α) → β → Prop} {read' : List (Reply α) → γ → Prop}
    (hp : Performs source steps p read)
    (hk : ∀ replies b, read replies b →
      Performs source steps' (k b) fun replies' c => read' (replies ++ replies') c) :
    Performs source (steps ++ steps') (p >>= k) read' := by
  intro s before
  obtain ⟨calls, replies, stop, s₁, htrace, hrun⟩ := hp s before
  cases stop with
  | some e =>
      -- The first program has failed, and so has the whole.
      exact ⟨calls, replies, some e, s₁, htrace.append_of_some steps',
        Action.run_bind_error hrun k⟩
  | none =>
      obtain ⟨b, hb, hrun⟩ := hrun
      obtain ⟨calls', replies', stop', s₂, htrace', hrun'⟩ := hk replies b hb s₁ (before ++ calls)
      refine ⟨calls ++ calls', replies ++ replies', stop', s₂, htrace.append htrace', ?_⟩
      rw [List.append_assoc] at hrun'
      rw [Action.run_bind_ok hrun]
      exact hrun'

/-- A call that is recorded is made. -/
theorem calling {c : SourceCall} {action : Action σ β} {reply : β → Reply α}
    (h : source.perform c = (do return reply (← action))) :
    Performs source [.ok c] (Source.recorded.calling c action) fun replies b =>
      replies = [reply b] := by
  intro s before
  have hrun : (Source.recorded.calling c action).run (s, before) =
      ((action.run s).1, ((action.run s).2, before ++ [c])) := rfl
  have hperform : (source.perform c).run s =
      (do return reply (← action) : Action σ (Reply α)).run s := by rw [h]
  cases hresult : action.run s with
  | mk outcome s' =>
      rw [hresult] at hrun
      cases outcome with
      | error e =>
          rw [Action.run_bind_error hresult] at hperform
          exact ⟨[c], [], some e, s', .failed [] hperform, hrun⟩
      | ok b =>
          rw [Action.run_bind_ok hresult] at hperform
          exact ⟨[c], [reply b], none, s', .step hperform (.done s'), b, rfl, hrun⟩

theorem congr {p q : Action (σ × List SourceCall) β} {read : List (Reply α) → β → Prop}
    (h : ∀ st, p.run st = q.run st) (hq : Performs source steps q read) :
    Performs source steps p read := by
  intro s before
  rw [h]
  exact hq s before

theorem mono {p : Action (σ × List SourceCall) β} {read read' : List (Reply α) → β → Prop}
    (hp : Performs source steps p read) (h : ∀ replies b, read replies b → read' replies b) :
    Performs source steps p read' := by
  intro s before
  obtain ⟨calls, replies, stop, s', htrace, hrun⟩ := hp s before
  refine ⟨calls, replies, stop, s', htrace, ?_⟩
  cases stop with
  | some e => exact hrun
  | none =>
      obtain ⟨b, hb, hrun⟩ := hrun
      exact ⟨b, h replies b hb, hrun⟩

/-- What was compiled is called for; what cannot be compiled ends the program. -/
theorem compiled {δ : Type} {call : δ → SourceCall} {outcome : Except SearchError (Option δ)}
    {p : Action (σ × List SourceCall) Unit} {k : δ → Action (σ × List SourceCall) Unit}
    {read : List (Reply α) → Unit → Prop}
    (hrun : ∀ st, p.run st = match outcome with
      | .error e => (.error e, st)
      | .ok none => (.ok (), st)
      | .ok (some x) => (k x).run st)
    (hnone : read [] ()) (hcall : ∀ x, Performs source [.ok (call x)] (k x) read) :
    Performs source (stepOf call outcome) p read := by
  cases outcome with
  | error e =>
      intro s before
      exact ⟨[], [], some e, s, .noCall e [] s, by rw [List.append_nil]; exact hrun _⟩
  | ok x =>
      cases x with
      | none => exact .congr hrun (.pure hnone)
      | some x => exact .congr hrun (hcall x)

end Performs

/-! ## §4. The stages of a search. -/

/-- The counts among the replies. -/
def countsOf (replies : List (Reply α)) : List UInt64 :=
  replies.filterMap fun reply => match reply with
    | .count n => some n
    | _ => none

theorem countsOf_append (replies replies' : List (Reply α)) :
    countsOf (replies ++ replies') = countsOf replies ++ countsOf replies' :=
  List.filterMap_append

section Stages

variable (config : SearchConfig) (source : Source σ α)

theorem performs_applyFilter (stage : FilterStage) (criteria : Option FilterCriteria) :
    Performs source (filterSteps config criteria)
      (applyFilter config source.quiet.recorded stage criteria)
      fun replies _ => countsOf replies = [] := by
  cases criteria with
  | none => exact .pure rfl
  | some f =>
      have hcall : ∀ p, Performs source [.ok (.filter p)] (source.quiet.recorded.filter p)
          fun replies _ => countsOf replies = [] := by
        intro p
        have hreplies : Performs source [.ok (.filter p)] (source.quiet.recorded.filter p)
            fun replies _ => replies = [.done] := .calling rfl
        exact hreplies.mono fun replies _ h => by rw [h]; rfl
      refine .compiled (fun st => ?_) rfl hcall
      simp only [applyFilter]
      rcases f.compile config.dialect with e | _ | p
      · rfl
      · rfl
      · cases config.logPredicates <;> rfl

theorem performs_applySort (sort : Option SortCriteria) :
    Performs source (sortSteps config sort) (applySort config source.quiet.recorded sort)
      fun replies _ => countsOf replies = [] := by
  cases sort with
  | none => exact .pure rfl
  | some sort =>
      have hcall : ∀ clause, Performs source [.ok (.orderBy clause)]
          (source.quiet.recorded.orderBy clause) fun replies _ => countsOf replies = [] := by
        intro clause
        have hreplies : Performs source [.ok (.orderBy clause)]
            (source.quiet.recorded.orderBy clause) fun replies _ => replies = [.done] :=
          .calling rfl
        exact hreplies.mono fun replies _ h => by rw [h]; rfl
      refine .compiled (fun st => ?_) rfl hcall
      simp only [applySort]
      rcases sort.compile config.dialect with e | _ | clause
      · rfl
      · rfl
      · cases config.logPredicates <;> rfl

theorem performs_applyWindow (d : SearchDefinition) :
    Performs source (windowSteps d) (applyWindow source.quiet.recorded d.window)
      fun replies _ => countsOf replies = [] := by
  unfold windowSteps SearchDefinition.window
  cases d.page with
  | none => exact .pure rfl
  | some page =>
      cases d.pageSize with
      | none => exact .pure rfl
      | some size =>
          have hskip : Performs source [.ok (.skip (page * size))]
              (source.quiet.recorded.skip (page * size)) fun replies _ => replies = [.done] :=
            .calling rfl
          have htake : Performs source [.ok (.take size)] (source.quiet.recorded.take size)
              fun replies _ => replies = [.done] := .calling rfl
          have hboth : Performs source ([.ok (.skip (page * size))] ++ [.ok (.take size)])
              (do source.quiet.recorded.skip (page * size); source.quiet.recorded.take size)
              fun replies _ => countsOf replies = [] :=
            hskip.bind fun replies _ hreplies => htake.mono fun replies' _ hreplies' => by
              rw [hreplies, hreplies']
              rfl
          exact .congr (fun st => rfl) hboth

theorem performs_count :
    Performs source [.ok .count] source.quiet.recorded.count
      fun replies n => replies = [.count n] := .calling rfl

theorem performs_materialize :
    Performs source [.ok .materialize] source.quiet.recorded.materialize
      fun replies rows => replies = [.rows rows] := .calling rfl

/-- The first half of a search: both filters, and what they leave. -/
def countBoth (d : SearchDefinition) (source : Source σ α) : Action σ (UInt64 × UInt64) := do
  applyFilter config source .preFilter d.preFilter
  let total ← source.count
  applyFilter config source .filter d.filter
  let filtered ← source.count
  return (total, filtered)

/-- The second half of a search: the order, the page and the rows. -/
def fetchPage (d : SearchDefinition) (source : Source σ α) (filtered : UInt64) :
    Action σ (List α) := do
  if 0 < filtered then
    applySort config source d.sort
    applyWindow source d.window
  source.materialize

theorem note_quiet (n : Note) :
    (liftM (source.quiet.recorded.note n) : Action (σ × List SourceCall) Unit) = pure () := rfl

theorem search_eq_halves (definition : Option SearchDefinition) :
    search config source.quiet.recorded definition = (do
      let d := definition.getD {}
      let counts ← countBoth config d source.quiet.recorded
      let rows ← fetchPage config d source.quiet.recorded counts.2
      return ⟨d.page, d.pageSize, counts.1, counts.2, rows⟩) := by
  unfold search countBoth fetchPage
  simp only [note_quiet, pure_bind, bind_assoc]
  refine bind_congr fun _ => bind_congr fun total => bind_congr fun _ =>
    bind_congr fun filtered => ?_
  split <;> simp only [bind_assoc]

theorem performs_countBoth (d : SearchDefinition) :
    Performs source (d.narrowing config) (countBoth config d source.quiet.recorded)
      fun replies counts => countsOf replies = [counts.1, counts.2] := by
  have hsteps : d.narrowing config = filterSteps config d.preFilter ++ ([.ok .count] ++
      (filterSteps config d.filter ++ ([.ok .count] ++ []))) := by
    unfold SearchDefinition.narrowing
    simp only [List.append_assoc, List.append_nil]
  rw [hsteps]
  refine (performs_applyFilter config source .preFilter d.preFilter).bind fun before _ hbefore => ?_
  refine (performs_count source).bind fun first total hfirst => ?_
  refine (performs_applyFilter config source .filter d.filter).bind fun between _ hbetween => ?_
  refine (performs_count source).bind fun second filtered hsecond => ?_
  refine .pure ?_
  rw [countsOf_append, countsOf_append, countsOf_append, hbefore, hbetween, hfirst, hsecond]
  rfl

theorem performs_fetchPage (d : SearchDefinition) (filtered : UInt64) :
    Performs source (d.fetching config filtered)
      (fetchPage config d source.quiet.recorded filtered)
      fun replies rows => countsOf replies = [] ∧ replies.getLast? = some (.rows rows) := by
  have hrows : ∀ before : List (Reply α), countsOf before = [] →
      Performs source [.ok .materialize] source.quiet.recorded.materialize fun replies rows =>
        countsOf (before ++ replies) = [] ∧ (before ++ replies).getLast? = some (.rows rows) := by
    intro before hbefore
    refine (performs_materialize source).mono fun replies rows hreplies => ?_
    rw [countsOf_append, hbefore, hreplies]
    exact ⟨rfl, List.getLast?_concat⟩
  unfold SearchDefinition.fetching fetchPage
  by_cases hfiltered : 0 < filtered
  · simp only [hfiltered, if_true, List.append_assoc]
    refine (performs_applySort config source d.sort).bind fun first _ hfirst => ?_
    refine (performs_applyWindow source d).bind fun second _ hsecond => ?_
    refine (hrows (first ++ second) ?_).mono fun replies rows h => ?_
    · rw [countsOf_append, hfirst, hsecond]
      rfl
    · rwa [List.append_assoc] at h
  · simp only [hfiltered, if_false]
    exact hrows [] rfl

theorem performs_filterOnly (definition : Option SearchDefinition) :
    Performs source (filterPlan config definition)
      (filterOnly config source.quiet.recorded definition)
      fun replies rows => replies.getLast? = some (.rows rows) := by
  cases definition with
  | none =>
      refine (performs_materialize source).mono fun replies rows hreplies => ?_
      rw [hreplies]
      rfl
  | some d =>
      rw [filterPlan, List.append_assoc]
      refine (performs_applyFilter config source .preFilter d.preFilter).bind fun first _ _ => ?_
      refine (performs_applyFilter config source .filter d.filter).bind fun second _ _ => ?_
      refine (performs_materialize source).mono fun replies rows hreplies => ?_
      rw [hreplies, ← List.append_assoc]
      exact List.getLast?_concat

end Stages

/-! ## §5. The predicates that are called for. -/

theorem mem_stepOf {δ : Type} {call : δ → SourceCall} {outcome : Except SearchError (Option δ)}
    {c : SourceCall} (h : .ok c ∈ stepOf call outcome) :
    ∃ x, outcome = .ok (some x) ∧ c = call x := by
  rcases outcome with e | _ | x
  · simp [stepOf] at h
  · simp [stepOf] at h
  · exact ⟨x, rfl, by simpa [stepOf] using h⟩

/-- A predicate that is called for was compiled from one of the filters, alone. -/
theorem SearchDefinition.compile_of_mem_plan {config : SearchConfig} {d : SearchDefinition}
    {filtered : UInt64} {p : Predicate} (h : .ok (.filter p) ∈ d.plan config filtered) :
    ∃ f : FilterCriteria, (d.preFilter = some f ∨ d.filter = some f) ∧
      f.compile config.dialect = .ok (some p) := by
  have hfilter : ∀ {criteria : Option FilterCriteria},
      .ok (.filter p) ∈ filterSteps config criteria →
        ∃ f, criteria = some f ∧ f.compile config.dialect = .ok (some p) := by
    intro criteria hmem
    cases criteria with
    | none => simp [filterSteps] at hmem
    | some f =>
        obtain ⟨x, hx, hp⟩ := mem_stepOf hmem
        cases hp
        exact ⟨f, rfl, hx⟩
  -- The other steps call for something else.
  have hsort : ¬.ok (.filter p) ∈ sortSteps config d.sort := by
    intro hmem
    cases hd : d.sort with
    | none => simp [hd, sortSteps] at hmem
    | some sort =>
        rw [hd] at hmem
        obtain ⟨x, _, hp⟩ := mem_stepOf hmem
        cases hp
  have hwindow : ¬.ok (.filter p) ∈ windowSteps d := by
    unfold windowSteps
    split <;> simp
  unfold SearchDefinition.plan SearchDefinition.narrowing SearchDefinition.fetching at h
  simp only [List.mem_append, List.mem_singleton, Except.ok.injEq, reduceCtorEq, or_false] at h
  rcases h with (hpre | hmain) | hrest
  · obtain ⟨f, hf, hcompile⟩ := hfilter hpre
    exact ⟨f, .inl hf, hcompile⟩
  · obtain ⟨f, hf, hcompile⟩ := hfilter hmain
    exact ⟨f, .inr hf, hcompile⟩
  · split at hrest
    · rcases List.mem_append.mp hrest with hmem | hmem
      · exact absurd hmem hsort
      · exact absurd hmem hwindow
    · simp at hrest

/-- **The placeholders of a predicate that is called for** are numbered from zero. -/
theorem SearchDefinition.placeholders_of_mem_plan {config : SearchConfig} {d : SearchDefinition}
    {filtered : UInt64} {p : Predicate} (h : .ok (.filter p) ∈ d.plan config filtered)
    (hlength : p.parameters.length ≤ UInt64.size) :
    ∃ e, parsePredicate p.text = .ok e ∧ e.placeholders = List.range p.parameters.length := by
  obtain ⟨f, -, hcompile⟩ := SearchDefinition.compile_of_mem_plan h
  refine ⟨f.tree .numbered, FilterCriteria.parsePredicate_of_compile hcompile hlength, ?_⟩
  rw [FilterCriteria.parameters_of_compile hcompile]
  exact f.placeholders_tree

/-! ## §6. Searches. -/

section Searches

variable (config : SearchConfig) (source : Source σ α) (definition : Option SearchDefinition)
  (s : σ)

/-- A search does the steps of its plan: the second count is known before the plan goes on as it
says. -/
theorem trace_search :
    let d := definition.getD {}
    ∃ filtered calls replies stop s',
      Trace source (d.plan config filtered) s calls replies stop s' ∧
      calls.map .ok <+: d.plan config filtered ∧
      (∀ n, (countsOf replies)[1]? = some n → n = filtered) ∧
      match stop with
      | some e =>
          (search config source.quiet.recorded definition).run (s, []) = (.error e, (s', calls))
      | none => d.plan config filtered = calls.map .ok ∧ ∃ total rows,
          countsOf replies = [total, filtered] ∧ replies.getLast? = some (.rows rows) ∧
          (search config source.quiet.recorded definition).run (s, []) =
            (.ok ⟨d.page, d.pageSize, total, filtered, rows⟩, (s', calls)) := by
  intro d
  rw [search_eq_halves]
  obtain ⟨calls, replies, stop, s₁, htrace, hrun⟩ := performs_countBoth config source d s []
  cases stop with
  | some e =>
      -- The plan up to the second count is the same for every second count.
      have hplan := htrace.append_of_some (d.fetching config ((countsOf replies)[1]?.getD 0))
      refine ⟨(countsOf replies)[1]?.getD 0, calls, replies, some e, s₁, hplan, hplan.isPrefix,
        fun n hn => ?_, Action.run_bind_error hrun _⟩
      rw [hn]
      rfl
  | none =>
      -- Both counts are known, and the plan goes on as the second one says.
      obtain ⟨⟨total, filtered⟩, hcounts, hrun⟩ := hrun
      obtain ⟨calls', replies', stop', s₂, htrace', hrun'⟩ :=
        performs_fetchPage config source d filtered s₁ calls
      have hplan := htrace.append htrace'
      refine ⟨filtered, calls ++ calls', replies ++ replies', stop', s₂, hplan, hplan.isPrefix,
        fun n hn => ?_, ?_⟩
      · rw [countsOf_append, hcounts] at hn
        exact (Option.some.inj hn).symm
      · cases stop' with
        | some e => exact (Action.run_bind_ok hrun).trans (Action.run_bind_error hrun' _)
        | none =>
            obtain ⟨rows, ⟨hcounts', hlast⟩, hrun'⟩ := hrun'
            refine ⟨hplan.eq_of_none, total, rows, ?_, ?_, ?_⟩
            · rw [countsOf_append, hcounts, hcounts']
              rfl
            · rw [List.getLast?_append, hlast]
              rfl
            · exact (Action.run_bind_ok hrun).trans (Action.run_bind_ok hrun')

/-- Filtering alone does the steps of its plan. -/
theorem trace_filterOnly :
    ∃ calls replies stop s', Trace source (filterPlan config definition) s calls replies stop s' ∧
      calls.map .ok <+: filterPlan config definition ∧
      match stop with
      | some e =>
          (filterOnly config source.quiet.recorded definition).run (s, []) = (.error e, (s', calls))
      | none => filterPlan config definition = calls.map .ok ∧ ∃ rows,
          replies.getLast? = some (.rows rows) ∧
          (filterOnly config source.quiet.recorded definition).run (s, []) =
            (.ok rows, (s', calls)) := by
  obtain ⟨calls, replies, stop, s', htrace, hrun⟩ :=
    performs_filterOnly config source definition s []
  refine ⟨calls, replies, stop, s', htrace, htrace.isPrefix, ?_⟩
  cases stop with
  | some e => exact hrun
  | none => exact ⟨htrace.eq_of_none, hrun⟩

end Searches

/-- **The calls of a search.**  Whatever the source answers and wherever it fails, a search does
the steps of its plan in turn, up to the first that fails: its calls are a prefix of the plan, and
the failure is that of the search.  Without a failure the calls are the whole plan, and the result
consists of the two counts and the rows that were answered.  Filtering alone does likewise with its
own plan.  The placeholders of each predicate that is called for are numbered from zero. -/
theorem search_performs_plan (config : SearchConfig) (source : Source σ α)
    (definition : Option SearchDefinition) (s : σ) :
    let d := definition.getD {}
    (∃ filtered calls replies stop s',
      Trace source (d.plan config filtered) s calls replies stop s' ∧
      calls.map .ok <+: d.plan config filtered ∧
      (∀ n, (countsOf replies)[1]? = some n → n = filtered) ∧
      match stop with
      | some e =>
          (search config source.quiet.recorded definition).run (s, []) = (.error e, (s', calls))
      | none => d.plan config filtered = calls.map .ok ∧ ∃ total rows,
          countsOf replies = [total, filtered] ∧ replies.getLast? = some (.rows rows) ∧
          (search config source.quiet.recorded definition).run (s, []) =
            (.ok ⟨d.page, d.pageSize, total, filtered, rows⟩, (s', calls))) ∧
    (∃ calls replies stop s', Trace source (filterPlan config definition) s calls replies stop s' ∧
      calls.map .ok <+: filterPlan config definition ∧
      match stop with
      | some e =>
          (filterOnly config source.quiet.recorded definition).run (s, []) = (.error e, (s', calls))
      | none => filterPlan config definition = calls.map .ok ∧ ∃ rows,
          replies.getLast? = some (.rows rows) ∧
          (filterOnly config source.quiet.recorded definition).run (s, []) =
            (.ok rows, (s', calls))) ∧
    (∀ filtered p, .ok (.filter p) ∈ d.plan config filtered → p.parameters.length ≤ UInt64.size →
      ∃ e, parsePredicate p.text = .ok e ∧ e.placeholders = List.range p.parameters.length) := by
  intro d
  exact ⟨trace_search config source definition s, trace_filterOnly config source definition s,
    fun _ _ => SearchDefinition.placeholders_of_mem_plan⟩

end RecordSearch
