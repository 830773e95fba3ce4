/-
  RecordSearch.Proofs.Criteria.Failing
  ────────────────────────────────────
  **What can go wrong on a record.**

  Criteria without a fault can still be asked of a record that lacks what they look for.  Then a
  path leads nowhere, or what it leads to does not fit the question; nothing else can happen:

      IsStartOf path full    — `path` is one or more of the names of `full`, from the first one on
      RecordFailure paths    — a start of one of the paths leads nowhere, or something found does
                               not fit; placeholders are never to blame

      Record.follow_fails    — paths
      SingleCriterion.asks_fails, RangeCriterion.asks_fails, insideAll_fails
                             — what criteria ask, inside of their collections
      FilterCriteria.meaning_fails
                             — filters, along the paths of the criteria at their leaves
-/
import RecordSearch.Proofs.Criteria.Leaves
import RecordSearch.Proofs.Criteria.Meaning
import RecordSearch.Proofs.Outcome

namespace RecordSearch

/-! ## §1. Failures. -/

/-- The path is a start of the other one: one or more of its names, from the first one on. -/
def IsStartOf (path full : String) : Prop :=
  ∃ names, names ≠ [] ∧ names <+: pathNames full ∧ path = ".".intercalate names

/-- **What can go wrong on a record** along the paths. -/
inductive RecordFailure (paths : List String) : SearchError → Prop where
  /-- A start of one of the paths leads nowhere. -/
  | unresolved {path full : String} (hfull : full ∈ paths) (hpath : IsStartOf path full) :
      RecordFailure paths (.resolution path)
  /-- What was found does not fit what is asked of it. -/
  | unfit {fault : EvaluationFault} (hfault : ∀ index, fault ≠ .unboundParameter index) :
      RecordFailure paths (.evaluation fault)

theorem RecordFailure.mono {paths paths' : List String} {e : SearchError}
    (h : RecordFailure paths e) (hsubset : paths ⊆ paths') : RecordFailure paths' e := by
  cases h with
  | unresolved hfull hpath => exact .unresolved (hsubset hfull) hpath
  | unfit hfault => exact .unfit hfault

/-- Malformed criteria are no failure of a record. -/
theorem RecordFailure.isConfiguration_eq {paths : List String} {e : SearchError}
    (h : RecordFailure paths e) : e.isConfiguration = false := by
  cases h <;> rfl

/-- Nor is keys in no order. -/
theorem RecordFailure.ne_disordered {paths : List String} {e : SearchError}
    (h : RecordFailure paths e) : e ≠ .disordered := by
  cases h <;> nofun

/-! ## §2. Paths. -/

/-- `visited` are the names on the way to the member. -/
theorem Member.follow_fails (full : String) : ∀ {names visited : List String} (m : Member),
    visited ≠ [] → pathNames full = visited ++ names →
      FailsOnly (RecordFailure [full]) (m.follow (".".intercalate visited) names)
  | [], _, m, _, _ => by
      rw [Member.follow]
      exact .ok m
  | n :: names, visited, m, hvisited, hnames => by
      have hpath : ".".intercalate visited ++ "." ++ n = ".".intercalate (visited ++ [n]) := by
        rw [String.intercalate_append_of_ne_nil hvisited (List.cons_ne_nil _ _),
          String.intercalate_singleton]
      have hnames' : pathNames full = (visited ++ [n]) ++ names := by
        rw [hnames, List.append_assoc, List.singleton_append]
      cases m with
      | value v =>
          cases v with
          | null => exact .ok _
          | _ => exact .error (.unfit nofun)
      | records elements => exact .error (.unfit nofun)
      | record r =>
          rw [Member.follow, hpath]
          cases Record.member? r n with
          | none =>
              exact .error (.unresolved (List.mem_singleton_self _)
                ⟨_, by simp, ⟨names, hnames'.symm⟩, rfl⟩)
          | some m => exact m.follow_fails full (by simp) hnames'

/-- **A path can only fail to lead somewhere**, and then a start of it is named. -/
theorem Record.follow_fails (r : Record) (path : String) :
    FailsOnly (RecordFailure [path]) (r.follow path) := by
  unfold Record.follow
  cases hnames : pathNames path with
  | nil => exact .ok _
  | cons n names =>
      have hpath : ".".intercalate [n] = n := String.intercalate_singleton
      dsimp only
      split
      · next m _ =>
          rw [← hpath]
          exact m.follow_fails path (List.cons_ne_nil n []) hnames
      · exact .error (.unresolved (List.mem_singleton_self _)
          ⟨[n], by simp, ⟨names, hnames.symm⟩, hpath.symm⟩)

/-! ## §3. Comparisons. -/

section Answers

variable {paths : List String}

theorem Value.ordering_fails (a b : Value) : FailsOnly (RecordFailure paths) (a.ordering b) := by
  unfold Value.ordering
  split
  · exact .ok _
  · exact .error (.unfit nofun)

theorem Value.isEqual_fails (a b : Value) : FailsOnly (RecordFailure paths) (a.isEqual b) := by
  unfold Value.isEqual
  split
  · exact .ok _
  · exact .ok _
  · exact .ok _
  · exact (a.ordering_fails b).bind fun _ => .ok _

theorem Value.isOrdered_fails (orders : List Ordering) (a b : Value) :
    FailsOnly (RecordFailure paths) (a.isOrdered orders b) := by
  unfold Value.isOrdered
  split
  · exact .ok _
  · exact (a.ordering_fails b).bind fun _ => .ok _

theorem Member.compareWith_fails {test : Value → Value → Except SearchError Bool} {b : Value}
    (htest : ∀ a, FailsOnly (RecordFailure paths) (test a b)) (m : Member) :
    FailsOnly (RecordFailure paths) (m.compareWith test b) := by
  unfold Member.compareWith
  split
  · exact htest _
  · exact .ok _
  · exact .error (.unfit nofun)

theorem Member.isEqual_fails (m : Member) (b : Value) :
    FailsOnly (RecordFailure paths) (m.isEqual b) :=
  compareWith_fails (fun a => a.isEqual_fails b) m

theorem Member.isOrdered_fails (orders : List Ordering) (m : Member) (b : Value) :
    FailsOnly (RecordFailure paths) (m.isOrdered orders b) :=
  compareWith_fails (fun a => a.isOrdered_fails orders b) m

theorem Pattern.matchesValue_fails (p : Pattern) (v operand : Value) :
    FailsOnly (RecordFailure paths) (p.matchesValue v operand) := by
  unfold Pattern.matchesValue
  split
  · exact .ok _
  · exact .anyM fun item _ => item.isEqual_fails operand
  · exact .error (.unfit nofun)

/-! ## §4. Criteria. -/

namespace SingleCriterion

variable (c : SingleCriterion)

theorem matchesPattern_fails (p : Pattern) (m : Member) :
    FailsOnly (RecordFailure paths) (c.matchesPattern p m) := by
  unfold matchesPattern
  split
  · exact p.matchesValue_fails _ _
  · exact p.matchesValue_fails _ _
  · exact .error (.unfit nofun)
  · exact p.matchesValue_fails _ _
  · exact .error (.unfit nofun)

theorem isAmongItems_fails (m : Member) : FailsOnly (RecordFailure paths) (c.isAmongItems m) := by
  unfold isAmongItems
  split
  · exact .anyM fun item _ => Value.isEqual_fails _ item
  · exact .error (.unfit nofun)

/-- What an operator asks is answered, or what was found does not fit it. -/
theorem asks_fails (m : Member) : FailsOnly (RecordFailure paths) (c.asks m) := by
  unfold asks
  cases c.operator with
  | equals => exact m.isEqual_fails _
  | notEquals => exact (m.isEqual_fails _).map _
  | greaterThan | greaterThanOrEqualTo | lessThan | lessThanOrEqualTo =>
      exact m.isOrdered_fails _ _
  | isNull => exact m.isEqual_fails _
  | isNotNull => exact (m.isEqual_fails _).map _
  | startsWith | endsWith | contains => exact c.matchesPattern_fails _ m
  | doesNotStartWith | doesNotEndWith | doesNotContain => exact (c.matchesPattern_fails _ m).map _
  | isIn => exact c.isAmongItems_fails m
  | isNotIn => exact (c.isAmongItems_fails m).map _

end SingleCriterion

theorem RangeCriterion.asks_fails (c : RangeCriterion) (m : Member) :
    FailsOnly (RecordFailure paths) (c.asks m) := by
  unfold RangeCriterion.asks
  cases c.operator with
  | between =>
      refine (m.isOrdered_fails _ _).bind fun above => ?_
      cases above with
      | true => exact m.isOrdered_fails _ _
      | false => exact .ok false
  | notBetween =>
      refine (m.isOrdered_fails _ _).bind fun below => ?_
      cases below with
      | true => exact .ok true
      | false => exact m.isOrdered_fails _ _

end Answers

/-- A test inside of collections fails along their paths, or as it does on some element. -/
theorem insideAll_fails {test : Record → Except SearchError Bool} {paths : List String}
    (htest : ∀ r, FailsOnly (RecordFailure paths) (test r)) : ∀ (collection : List String)
      (r : Record), FailsOnly (RecordFailure (paths ++ collection)) (insideAll test collection r)
  | [], r => by
      rw [insideAll, List.append_nil]
      exact htest r
  | path :: collection, r => by
      have hpath : [path] ⊆ paths ++ path :: collection := by simp
      have hbehind : paths ++ collection ⊆ paths ++ path :: collection :=
        List.append_subset.mpr ⟨List.subset_append_left _ _, List.subset_append_of_subset_right _
          (List.subset_cons_self _ _)⟩
      rw [insideAll]
      refine ((r.follow_fails path).mono fun e he => he.mono hpath).bind fun m => ?_
      split
      · exact .anyM fun element _ =>
          (insideAll_fails htest collection element).mono fun e he => he.mono hbehind
      · exact .ok false
      · exact .error (.unfit nofun)

/-- The field of a criterion is looked for inside of its collections. -/
theorem insideAll_follow_fails (field : String) {asks : Member → Except SearchError Bool}
    (hasks : ∀ m, FailsOnly (RecordFailure [field]) (asks m)) (collection : List String)
    (r : Record) : FailsOnly (RecordFailure (field :: collection))
      (insideAll (fun r => r.follow field >>= asks) collection r) :=
  insideAll_fails (fun r => (r.follow_fails field).bind hasks) collection r

/-! ## §5. Filters. -/

theorem FailsOnly.someRun {P : SearchError → Prop}
    {outcomes : List (Connective × Except SearchError Bool)}
    (h : ∀ part ∈ outcomes, FailsOnly P part.2) : FailsOnly P (someRun outcomes) := by
  refine .anyM fun run hrun => .allM fun outcome houtcome => ?_
  obtain ⟨logic, hmem⟩ := mem_of_mem_runs hrun houtcome
  exact h _ hmem

/-- The paths that the criteria of a filter look along. -/
def FilterCriteria.paths (f : FilterCriteria) : List String := f.criteria.flatMap Criterion.paths

mutual

theorem Container.meaning_fails (r : Record) : ∀ c : Container,
    FailsOnly (RecordFailure (c.criteria.flatMap Criterion.paths)) (c.meaning r)
  | ⟨_, some c, none, none⟩ => by
      have h := insideAll_follow_fails c.field (fun m => c.asks_fails m) c.collection r
      simpa [Container.criteria, Criterion.paths, Container.meaning] using h
  | ⟨_, none, some c, none⟩ => by
      have h := insideAll_follow_fails c.field (fun m => c.asks_fails m) c.collection r
      simpa [Container.criteria, Criterion.paths, Container.meaning] using h
  | ⟨_, none, none, some containers⟩ => by
      rw [Container.meaning]
      exact .someRun (meaningsOfAll_fails r containers)
  | ⟨_, none, none, none⟩ | ⟨_, some _, some _, none⟩ | ⟨_, some _, some _, some _⟩
  | ⟨_, some _, none, some _⟩ | ⟨_, none, some _, some _⟩ => .ok false

theorem meaningsOfAll_fails (r : Record) : ∀ cs : List Container, ∀ part ∈ meaningsOfAll r cs,
    FailsOnly (RecordFailure ((criteriaOfAll cs).flatMap Criterion.paths)) part.2
  | [], part, hpart => by
      rw [meaningsOfAll] at hpart
      cases hpart
  | c :: cs, part, hpart => by
      rw [criteriaOfAll, List.flatMap_append]
      rw [meaningsOfAll] at hpart
      rcases List.mem_cons.mp hpart with rfl | hpart
      · exact (c.meaning_fails r).mono fun e he => he.mono (List.subset_append_left _ _)
      · exact (meaningsOfAll_fails r cs part hpart).mono fun e he =>
          he.mono (List.subset_append_right _ _)

end

/-- **On a record, a filter can only fail along the paths of its criteria.** -/
theorem FilterCriteria.meaning_fails (f : FilterCriteria) (r : Record) :
    FailsOnly (RecordFailure f.paths) (f.meaning r) :=
  .someRun (meaningsOfAll_fails r f.containers)

end RecordSearch
