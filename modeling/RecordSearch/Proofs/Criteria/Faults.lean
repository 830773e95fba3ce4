/-
  RecordSearch.Proofs.Criteria.Faults
  ───────────────────────────────────
  **What is wrong with criteria.**

  Criteria can come from outside, so any slots of a container can be populated and any text can
  stand for a path.  The first thing that is wrong is found by looking through the containers from
  the left, into each group before going on behind it, and along a criterion's field before its
  collections:

      PathFault.OfPath             — what is wrong with a path
      Container.FirstFault         — what is wrong with a container; all before it is well-formed
      FilterCriteria.FirstFault    — the same for a filter
      SortCriteria.FirstFault      — and for a sort

  Nothing of this depends on a dialect, and it is what compiling reports
  (`renderOthers_eq_error_iff`, `SortCriteria.compile_eq_error_iff`): criteria without a fault
  compile, sorts to clauses that are read back (`SortCriteria.compile_orders`).
-/
import RecordSearch.Proofs.Criteria.Ordered
import RecordSearch.Proofs.Outcome

namespace RecordSearch

/-! ## §1. Faults. -/

/-- **What is wrong with a path**: it is blank, or else this is its first segment that is no
name. -/
inductive PathFault.OfPath (path : String) : PathFault → Prop where
  | empty (hblank : path.toList.all Text.isBlank = true) : OfPath path .empty
  | notName {before after : List (List Char)} {segment : List Char}
      (hblank : path.toList.all Text.isBlank = false)
      (hsegments : Dialect.segments path = before ++ segment :: after)
      (hbefore : ∀ s ∈ before, isName s = true) (hsegment : isName segment = false) :
      OfPath path (.notName (String.ofList segment) path)

/-- What is wrong with the first of the paths that is wrong. -/
def PathFault.OfPaths (paths : List String) (fault : PathFault) : Prop :=
  FirstAtFault IsPath (fault.OfPath ·) paths

/-- **What is wrong with a container**, the first fault from the left.  A criterion's field is
looked at before its collections, and these from the outermost on. -/
inductive Container.FirstFault : Container → SearchError → Prop where
  /-- Not exactly one slot is populated. -/
  | slots {c : Container} (h : c.populated ≠ 1) :
      FirstFault c (.unsupportedCondition c.populated)
  /-- A group without containers counts as an empty slot. -/
  | emptyGroup (logic : Connective) : FirstFault (.ofGroup logic []) (.unsupportedCondition 0)
  | single (logic : Connective) {c : SingleCriterion} {fault : PathFault}
      (h : fault.OfPaths (c.field :: c.collection)) :
      FirstFault (.ofSingle logic c) (.missingIdentifier .filter fault)
  | range (logic : Connective) {c : RangeCriterion} {fault : PathFault}
      (h : fault.OfPaths (c.field :: c.collection)) :
      FirstFault (.ofRange logic c) (.missingIdentifier .filter fault)
  | group (logic : Connective) {containers before after : List Container} {c : Container}
      {e : SearchError} (hcontainers : containers = before ++ c :: after)
      (hbefore : ∀ x ∈ before, x.WellFormed) (h : FirstFault c e) :
      FirstFault (.ofGroup logic containers) e

/-- What is wrong with the first of the containers that is wrong. -/
def FirstFaultOfAll (cs : List Container) (e : SearchError) : Prop :=
  FirstAtFault Container.WellFormed (·.FirstFault e) cs

/-- **What is wrong with a filter**, the first fault from the left. -/
def FilterCriteria.FirstFault (f : FilterCriteria) (e : SearchError) : Prop :=
  FirstFaultOfAll f.containers e

/-- **What is wrong with a sort**, the first fault from the left. -/
def SortCriteria.FirstFault (s : SortCriteria) (e : SearchError) : Prop :=
  FirstAtFault (IsPath ·.field)
    (fun item => ∃ fault : PathFault, fault.OfPath item.field ∧ e = .missingIdentifier .sort fault)
    s.items

/-! ## §2. Paths. -/

variable {d : Dialect} {context : PathContext} {e : SearchError}

theorem Dialect.renderSegment_eq_error_iff {path : String} {segment : List Char} :
    d.renderSegment context path segment = .error e ↔ isName segment = false ∧
      e = .missingIdentifier context (.notName (String.ofList segment) path) := by
  unfold Dialect.renderSegment
  cases isName segment <;> simp [eq_comm]

theorem Dialect.exists_renderSegment_iff {path : String} {segment : List Char} :
    (∃ text, d.renderSegment context path segment = .ok text) ↔ isName segment = true := by
  unfold Dialect.renderSegment
  cases isName segment <;> simp

/-- **A path without a text is reported by what is wrong with it.** -/
theorem Dialect.renderPath_eq_error_iff {path : String} :
    d.renderPath context path = .error e ↔
      ∃ fault : PathFault, fault.OfPath path ∧ e = .missingIdentifier context fault := by
  unfold Dialect.renderPath
  cases hblank : path.toList.all Text.isBlank with
  | true =>
      rw [if_pos rfl]
      constructor
      · intro h
        exact ⟨.empty, .empty hblank, (Except.error.inj h).symm⟩
      · rintro ⟨fault, hfault, rfl⟩
        cases hfault with
        | empty => rfl
        | notName hvisible => rw [hvisible] at hblank; cases hblank
  | false =>
      rw [if_neg (by decide), bind_eq_error_iff, mapM_eq_error_iff]
      simp only [Dialect.renderSegment_eq_error_iff, Dialect.exists_renderSegment_iff]
      constructor
      · rintro (⟨before, segment, after, hsegments, hbefore, hsegment, rfl⟩ | ⟨written, -, h⟩)
        · exact ⟨_, .notName hblank hsegments hbefore hsegment, rfl⟩
        · cases h
      · rintro ⟨fault, hfault, rfl⟩
        cases hfault with
        | empty hall => rw [hall] at hblank; cases hblank
        | notName _ hsegments hbefore hsegment =>
            exact .inl ⟨_, _, _, hsegments, hbefore, hsegment, rfl⟩

theorem Dialect.exists_renderPath_iff {path : String} :
    (∃ text, d.renderPath context path = .ok text) ↔ IsPath path :=
  ⟨fun ⟨_, h⟩ => d.isPath_of_renderPath h, fun h => ⟨_, d.renderPath_of_isPath context h⟩⟩

/-- The paths are written one after the other. -/
theorem Dialect.mapM_renderPath_eq_error_iff {paths : List String} :
    paths.mapM (d.renderPath context) = .error e ↔
      ∃ fault : PathFault, fault.OfPaths paths ∧ e = .missingIdentifier context fault := by
  rw [mapM_eq_error_iff]
  simp only [Dialect.renderPath_eq_error_iff, Dialect.exists_renderPath_iff]
  constructor
  · rintro ⟨before, path, after, hpaths, hbefore, fault, hfault, rfl⟩
    exact ⟨fault, ⟨before, path, after, hpaths, hbefore, hfault⟩, rfl⟩
  · rintro ⟨fault, ⟨before, path, after, hpaths, hbefore, hfault⟩, rfl⟩
    exact ⟨before, path, after, hpaths, hbefore, fault, hfault, rfl⟩

/-- The field is written before the collections. -/
theorem renderCriterion_eq_error_iff {field : String} {collection : List String}
    {clause : String → String} :
    renderCriterion d field collection clause = .error e ↔
      ∃ fault : PathFault, fault.OfPaths (field :: collection) ∧
        e = .missingIdentifier .filter fault := by
  rw [← Dialect.mapM_renderPath_eq_error_iff (d := d), List.mapM_cons]
  unfold renderCriterion
  simp only [bind_eq_error_iff]
  simp [pure, Except.pure]

/-! ## §3. What is at fault is malformed. -/

theorem PathFault.OfPath.not_isPath {path : String} {fault : PathFault} (h : fault.OfPath path) :
    ¬IsPath path := by
  intro hpath
  cases h with
  | empty hblank =>
      rw [not_all_isBlank_of_isPath hpath] at hblank
      cases hblank
  | notName _ hsegments _ hsegment =>
      rw [hpath _ (by rw [hsegments]; simp)] at hsegment
      cases hsegment

theorem PathFault.OfPaths.not_forall_isPath {paths : List String} {fault : PathFault}
    (h : fault.OfPaths paths) : ¬∀ path ∈ paths, IsPath path := by
  obtain ⟨before, path, after, rfl, -, hfault⟩ := h
  exact fun hpaths => hfault.not_isPath (hpaths path (by simp))

theorem Container.FirstFault.not_wellFormed {c : Container} (h : c.FirstFault e) :
    ¬c.WellFormed := by
  induction h with
  | slots h =>
      rintro (_ | _ | _)
      all_goals exact h rfl
  | emptyGroup logic =>
      rintro (_ | _ | ⟨_, _, hne, _⟩)
      exact hne rfl
  | single logic h =>
      rintro (⟨_, _, hfield, hcollection⟩ | _ | _)
      exact h.not_forall_isPath (List.forall_mem_cons.mpr ⟨hfield, hcollection⟩)
  | range logic h =>
      rintro (_ | ⟨_, _, hfield, hcollection⟩ | _)
      exact h.not_forall_isPath (List.forall_mem_cons.mpr ⟨hfield, hcollection⟩)
  | group logic hcontainers hbefore _ ih =>
      rintro (_ | _ | ⟨_, _, _, h⟩)
      exact ih (h _ (by rw [hcontainers]; simp))

/-- **The faults of criteria** are paths that cannot be read and containers with a number of
populated slots other than one. -/
theorem Container.FirstFault.shape {c : Container} (h : c.FirstFault e) :
    (∃ fault, e = .missingIdentifier .filter fault) ∨
      ∃ n ∈ [0, 2, 3], e = .unsupportedCondition n := by
  induction h with
  | @slots c h =>
      have hle : c.populated ≤ 3 := by
        have hbit := Bool.toNat_le
        unfold Container.populated
        have := hbit c.single.isSome
        have := hbit c.range.isSome
        have := hbit c.group.isSome
        omega
      refine .inr ⟨c.populated, ?_, rfl⟩
      simp only [List.mem_cons, List.not_mem_nil, or_false]
      omega
  | emptyGroup logic => exact .inr ⟨0, by simp, rfl⟩
  | single logic h => exact .inl ⟨_, rfl⟩
  | range logic h => exact .inl ⟨_, rfl⟩
  | group logic hcontainers hbefore _ ih => exact ih

/-! ## §4. Containers. -/

/-- What fails with its faults succeeds where it has none. -/
theorem Container.exists_render_iff {c : Container} {next : Nat}
    (h : ∀ e, c.render d next = .error e ↔ c.FirstFault e) :
    (∃ text, c.render d next = .ok text) ↔ c.WellFormed := by
  constructor
  · rintro ⟨text, htext⟩
    exact c.wellFormed_of_render next text htext
  · intro hwf
    cases hrender : c.render d next with
    | ok text => exact ⟨text, rfl⟩
    | error e => exact absurd hwf ((h e).mp hrender).not_wellFormed

theorem Container.error_populated_iff {c : Container} (h : c.populated ≠ 1) :
    Except.error (.unsupportedCondition c.populated) = (.error e : Except SearchError String) ↔
      c.FirstFault e := by
  rw [Except.error.injEq]
  constructor
  · rintro rfl
    exact .slots h
  · rintro (_ | _ | _ | _ | _)
    · rfl
    all_goals exact absurd rfl h

mutual

/-- **A container without a text is reported by its first fault**, in every dialect. -/
theorem Container.render_eq_error_iff : ∀ (c : Container) (next : Nat) (e : SearchError),
    c.render d next = .error e ↔ c.FirstFault e
  | ⟨logic, some c, none, none⟩, next, e => by
      rw [Container.render, renderCriterion_eq_error_iff]
      constructor
      · rintro ⟨fault, hfault, rfl⟩
        exact .single logic hfault
      · rintro (h | _ | ⟨_, h⟩ | _ | _)
        · exact absurd rfl h
        · exact ⟨_, h, rfl⟩
  | ⟨logic, none, some c, none⟩, next, e => by
      rw [Container.render, renderCriterion_eq_error_iff]
      constructor
      · rintro ⟨fault, hfault, rfl⟩
        exact .range logic hfault
      · rintro (h | _ | _ | ⟨_, h⟩ | _)
        · exact absurd rfl h
        · exact ⟨_, h, rfl⟩
  | ⟨logic, none, none, some []⟩, next, e => by
      rw [Container.render, Except.error.injEq]
      constructor
      · rintro rfl
        exact .emptyGroup logic
      · rintro (h | _ | _ | _ | ⟨-, hcontainers⟩)
        · exact absurd rfl h
        · rfl
        · simp at hcontainers
  | ⟨logic, none, none, some (c :: cs)⟩, next, e => by
      have hall := renderOthers_eq_error_iff (c :: cs) next e
      have hgroup : (Container.ofGroup logic (c :: cs)).FirstFault e ↔
          FirstFaultOfAll (c :: cs) e := by
        constructor
        · rintro (h | _ | _ | _ | ⟨-, hcontainers, hbefore, h⟩)
          · exact absurd rfl h
          · exact ⟨_, _, _, hcontainers, hbefore, h⟩
        · rintro ⟨before, x, after, hcontainers, hbefore, h⟩
          exact .group logic hcontainers hbefore h
      -- A group writes its containers in turn, as a list of others does.
      rw [renderOthers] at hall
      rw [Container.render]
      refine Iff.trans ?_ (hall.trans hgroup.symm)
      simp only [bind_eq_error_iff]
      simp [pure, Except.pure]
  | ⟨_, none, none, none⟩, _, e | ⟨_, some _, some _, none⟩, _, e
  | ⟨_, some _, some _, some _⟩, _, e | ⟨_, some _, none, some _⟩, _, e
  | ⟨_, none, some _, some _⟩, _, e => by
      exact Container.error_populated_iff (by simp [Container.populated])

/-- The containers are written one after the other. -/
theorem renderOthers_eq_error_iff : ∀ (cs : List Container) (next : Nat) (e : SearchError),
    renderOthers d next cs = .error e ↔ FirstFaultOfAll cs e
  | [], next, e => by
      refine iff_of_false ?_ not_firstAtFault_nil
      rintro ⟨⟩
  | c :: cs, next, e => by
      have hc := c.render_eq_error_iff next
      have hcs := renderOthers_eq_error_iff cs (next + c.operands.length) e
      rw [renderOthers, FirstFaultOfAll, firstAtFault_cons_iff, ← Container.exists_render_iff hc,
        ← hc e, ← FirstFaultOfAll, ← hcs]
      simp only [bind_eq_error_iff]
      simp [pure, Except.pure]

end

/-! ## §5. Filters and sorts. -/

/-- **A filter that does not compile is reported by its first fault**, in every dialect. -/
theorem FilterCriteria.compile_eq_error_iff {f : FilterCriteria} :
    f.compile d = .error e ↔ f.FirstFault e := by
  obtain ⟨containers⟩ := f
  cases containers with
  | nil =>
      refine iff_of_false ?_ not_firstAtFault_nil
      rintro ⟨⟩
  | cons c cs =>
      have hall := renderOthers_eq_error_iff (d := d) (c :: cs) 0 e
      rw [renderOthers, Nat.zero_add] at hall
      refine Iff.trans ?_ hall
      simp only [FilterCriteria.compile, bind_eq_error_iff]
      simp [pure, Except.pure]

theorem FilterCriteria.FirstFault.not_wellFormed {f : FilterCriteria} (h : f.FirstFault e) :
    ¬f.WellFormed := by
  obtain ⟨before, c, after, hcontainers, -, hc⟩ := h
  exact fun hf => hc.not_wellFormed (hf.containers c (by rw [hcontainers]; simp))

/-- **A filter has a predicate where it is well-formed.** -/
theorem FilterCriteria.exists_compile_iff {f : FilterCriteria} :
    (∃ p, f.compile d = .ok (some p)) ↔ f.WellFormed := by
  constructor
  · rintro ⟨p, hp⟩
    exact wellFormed_of_compile hp
  · intro hwf
    cases hcompile : f.compile d with
    | error e => exact absurd hwf (compile_eq_error_iff.mp hcompile).not_wellFormed
    | ok outcome =>
        cases outcome with
        | none =>
            have hempty := List.isEmpty_iff.mp (compile_eq_none_iff.mp hcompile)
            exact absurd hempty hwf.nonempty
        | some p => exact ⟨p, rfl⟩

/-- **A filter does not compile where it is malformed.** -/
theorem FilterCriteria.exists_compile_eq_error_iff {f : FilterCriteria} :
    (∃ e, f.compile d = .error e) ↔ f.containers ≠ [] ∧ ¬f.WellFormed := by
  constructor
  · rintro ⟨e, he⟩
    have hfault := compile_eq_error_iff.mp he
    refine ⟨fun hnil => ?_, hfault.not_wellFormed⟩
    unfold FirstFault at hfault
    rw [hnil] at hfault
    exact not_firstAtFault_nil hfault
  · rintro ⟨hne, hwf⟩
    cases hcompile : f.compile d with
    | error e => exact ⟨e, rfl⟩
    | ok outcome =>
        cases outcome with
        | none => exact absurd (List.isEmpty_iff.mp (compile_eq_none_iff.mp hcompile)) hne
        | some p => exact absurd (wellFormed_of_compile hcompile) hwf

theorem SortCriterion.render_eq_error_iff {item : SortCriterion} :
    item.render d = .error e ↔
      ∃ fault : PathFault, fault.OfPath item.field ∧ e = .missingIdentifier .sort fault := by
  rw [← Dialect.renderPath_eq_error_iff (d := d), SortCriterion.render, bind_eq_error_iff]
  simp [pure, Except.pure]

theorem SortCriterion.exists_render_iff {item : SortCriterion} :
    (∃ text, item.render d = .ok text) ↔ IsPath item.field :=
  ⟨fun ⟨_, h⟩ => isPath_of_render h, fun h => ⟨_, render_of_isPath d h⟩⟩

/-- **A sort that does not compile is reported by its first fault**, in every dialect. -/
theorem SortCriteria.compile_eq_error_iff {s : SortCriteria} :
    s.compile d = .error e ↔ s.FirstFault e := by
  unfold SortCriteria.FirstFault
  by_cases hnil : s.items = []
  · rw [SortCriteria.compile_eq_none_iff.mpr (List.isEmpty_iff.mpr hnil), hnil]
    exact iff_of_false nofun not_firstAtFault_nil
  · have hmap : (s.items.mapM (SortCriterion.render d)).map (fun keys =>
        some (", ".intercalate keys)) = .error e ↔
          s.items.mapM (SortCriterion.render d) = .error e := by
      cases s.items.mapM (SortCriterion.render d) <;> simp [Except.map]
    rw [SortCriteria.compile_of_ne_nil d hnil, hmap, mapM_eq_error_iff]
    simp only [SortCriterion.render_eq_error_iff, SortCriterion.exists_render_iff]

/-- **A sort does not compile where some key has no path.** -/
theorem SortCriteria.exists_compile_eq_error_iff {s : SortCriteria} :
    (∃ e, s.compile d = .error e) ↔ ∃ item ∈ s.items, ¬IsPath item.field := by
  constructor
  · rintro ⟨e, he⟩
    obtain ⟨_, item, _, hitems, -, fault, hfault, -⟩ := compile_eq_error_iff.mp he
    exact ⟨item, by rw [hitems]; simp, hfault.not_isPath⟩
  · rintro ⟨item, hitem, hpath⟩
    cases hcompile : s.compile d with
    | error e => exact ⟨e, rfl⟩
    | ok outcome =>
        cases outcome with
        | none =>
            have hempty := List.isEmpty_iff.mp (compile_eq_none_iff.mp hcompile)
            rw [hempty] at hitem
            cases hitem
        | some clause => exact absurd ((isPath_of_compile hcompile).2 item hitem) hpath

/-- **What compiling a sort comes to.**  There is no clause where there is nothing to sort by.  Where
all fields are paths there is one, and it is read as one key for each of them, in their order, also
if they are named like directions or keywords.  Otherwise the first field that is no path is
reported. -/
theorem SortCriteria.compile_orders (words : List String) (s : SortCriteria) :
    (s.compile (.ofWords words) = .ok none ↔ s.items = []) ∧
    (s.items ≠ [] → (∀ item ∈ s.items, IsPath item.field) →
      ∃ clause, s.compile (.ofWords words) = .ok (some clause) ∧
        parseOrdering clause =
          .ok (s.items.map fun item => ⟨.ofPath item.field, item.direction⟩)) ∧
    ((∃ item ∈ s.items, ¬IsPath item.field) →
      ∃ before item after fault, s.items = before ++ item :: after ∧
        (∀ x ∈ before, IsPath x.field) ∧ PathFault.OfPath item.field fault ∧
        s.compile (.ofWords words) = .error (.missingIdentifier .sort fault)) := by
  refine ⟨compile_eq_none_iff.trans List.isEmpty_iff, fun hne hpaths => ?_, fun hbad => ?_⟩
  · obtain ⟨clause, hcompile, hwritten⟩ := compile_eq_ok words hne hpaths
    exact ⟨clause, hcompile, parseOrdering_of_written hwritten⟩
  · obtain ⟨e, he⟩ := exists_compile_eq_error_iff.mpr hbad
    obtain ⟨before, item, after, hitems, hbefore, fault, hfault, rfl⟩ :=
      compile_eq_error_iff.mp he
    exact ⟨before, item, after, fault, hitems, hbefore, hfault, he⟩

/-- Fields named like directions, one of them a reserved word here, and like a keyword. -/
theorem SortCriteria.compile_orders_directions :
    ∃ clause, SortCriteria.compile (.ofWords ["ASC"])
        ⟨[⟨"desc", .descending⟩, ⟨"a.asc", .ascending⟩, ⟨"null", .ascending⟩]⟩ =
          .ok (some clause) ∧
      parseOrdering clause = .ok [⟨.name "desc", .descending⟩,
        ⟨.member (.name "a") "asc", .ascending⟩, ⟨.name "null", .ascending⟩] :=
  (SortCriteria.compile_orders ["ASC"]
    ⟨[⟨"desc", .descending⟩, ⟨"a.asc", .ascending⟩, ⟨"null", .ascending⟩]⟩).2.1
      (by simp) (by decide)

/-- An operator that is no check for null and no membership is a comparison or a pattern. -/
theorem Operator.isSome_comparison?_or_pattern? {o : Operator}
    (ho : o ∉ [.isNull, .isNotNull, .isIn, .isNotIn]) :
    o.comparison?.isSome ∨ o.pattern?.isSome := by
  revert ho
  cases o <;> decide

/-- **What compiling a filter comes to.**  There is no predicate where there is no container, and
there is one where all containers are well-formed; otherwise the first fault is reported: a path
that cannot be read, or a container with none, two or three populated slots.  One populated slot is
never reported, since every operator has a clause. -/
theorem FilterCriteria.compile_reports_firstFault (d : Dialect) (f : FilterCriteria) :
    (f.compile d = .ok none ↔ f.containers = []) ∧
    ((∃ p, f.compile d = .ok (some p)) ↔ f.WellFormed) ∧
    (∀ e, f.compile d = .error e ↔ f.FirstFault e) ∧
    (∀ e, f.compile d = .error e → (∃ fault, e = .missingIdentifier .filter fault) ∨
      ∃ n ∈ [0, 2, 3], e = .unsupportedCondition n) ∧
    f.compile d ≠ .error (.unsupportedCondition 1) ∧
    ∀ o : Operator, o ∉ [.isNull, .isNotNull, .isIn, .isNotIn] →
      o.comparison?.isSome ∨ o.pattern?.isSome := by
  have hshape : ∀ e, f.compile d = .error e → (∃ fault, e = .missingIdentifier .filter fault) ∨
      ∃ n ∈ [0, 2, 3], e = .unsupportedCondition n := by
    intro e he
    obtain ⟨_, _, _, -, -, hc⟩ := compile_eq_error_iff.mp he
    exact hc.shape
  refine ⟨compile_eq_none_iff.trans List.isEmpty_iff, exists_compile_iff,
    fun e => compile_eq_error_iff, hshape, fun hone => ?_,
    fun o ho => Operator.isSome_comparison?_or_pattern? ho⟩
  rcases hshape _ hone with ⟨fault, h⟩ | ⟨n, hn, h⟩
  · cases h
  · cases h
    simp at hn

/-- The empty segment of a field in a group is reported, not the collection of that criterion or the
container without a slot behind the group. -/
example :
    let f : FilterCriteria := ⟨[
      .ofGroup .and [
        .ofRange .and ⟨"a", .between, .null, .null, ["b.c"]⟩,
        .ofSingle .or ⟨"d..e", .isNull, .null, ["1"], .other⟩],
      ⟨.and, none, none, none⟩]⟩
    f.compile default = .error (.missingIdentifier .filter (.notName "" "d..e")) := by
  rfl

end RecordSearch
