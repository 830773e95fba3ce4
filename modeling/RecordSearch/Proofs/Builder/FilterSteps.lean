/-
  RecordSearch.Proofs.Builder.FilterSteps
  ───────────────────────────────────────
  **What steps build has the right shape.**

  A container has a slot for each thing that it can hold, and nothing but its constructors keeps it
  from holding none or two.  Steps go through the constructors at every depth: each adds one
  container at the end, and a group is the filter of its own steps.  So the shape is right wherever
  one looks, and what can be wrong with a built filter was wrong with a step:

      FilterStep.OccursIn  — a step among others, or in a group among them
      Container.OccursIn   — the same for containers
      addCriteria_build    — criteria that were built before are added like a group
      OccursIn.exists_step — whatever occurs in a built filter was added by a step
      FilterStep.FaultIn   — what can be wrong: a path, or a group without steps
      FirstFault.faultIn   — nothing else is found when a built filter is compiled
      build_compiles       — the shape of a built filter, and what compiling it comes to
-/
import RecordSearch.Builder
import RecordSearch.Proofs.Criteria.Faults
import RecordSearch.Proofs.Criteria.Leaves

namespace RecordSearch

/-! ## §1. Steps. -/

/-- The target that is reached from the record through collections, by going on from each to a field
of its elements. -/
def Target.through : List Field → Field → Target
  | [], f => ⟨f, []⟩
  | c :: cs, f => (cs ++ [f]).foldl Target.inside ⟨c, []⟩

namespace FilterStep

/-- The word that a step starts with. -/
def opening : FilterStep → Opening
  | .condition opening _ _ => opening
  | .group opening _ => opening

/-- The paths that a step brings along itself. -/
def paths : FilterStep → List String
  | .condition _ target _ => target.field.path :: target.collections
  | .group _ _ => []

/-- A step is one of the steps, or it occurs in the steps of a group among them. -/
inductive OccursIn (s : FilterStep) : List FilterStep → Prop where
  | here {steps : List FilterStep} (h : s ∈ steps) : OccursIn s steps
  | inside {steps inner : List FilterStep} {opening : Opening}
      (hgroup : FilterStep.group opening inner ∈ steps) (h : OccursIn s inner) : OccursIn s steps

/-- **What can be wrong with steps**, at whatever depth. -/
inductive FaultIn (steps : List FilterStep) : SearchError → Prop where
  | path {s : FilterStep} {path : String} {fault : PathFault} (hs : s.OccursIn steps)
      (hpath : path ∈ s.paths) (hfault : fault.OfPath path) :
      FaultIn steps (.missingIdentifier .filter fault)
  | emptyGroup {opening : Opening} (h : (FilterStep.group opening []).OccursIn steps) :
      FaultIn steps (.unsupportedCondition 0)

end FilterStep

/-- A container is one of the containers, or it occurs in the group that one of them holds. -/
inductive Container.OccursIn (c : Container) : List Container → Prop where
  | here {containers : List Container} (h : c ∈ containers) : OccursIn c containers
  | inside {containers inner : List Container} {g : Container} (hg : g ∈ containers)
      (hgroup : g.group = some inner) (h : OccursIn c inner) : OccursIn c containers

/-! ## §2. One step. -/

/-- However far the chain of collections has come. -/
theorem Target.foldl_inside (t : Target) (cs : List Field) (f : Field) :
    (cs ++ [f]).foldl Target.inside t = ⟨f, t.collections ++ t.field.path :: cs.map (·.path)⟩ := by
  induction cs generalizing t with
  | nil => rfl
  | cons c cs ih =>
      calc (c :: cs ++ [f]).foldl Target.inside t
          = (cs ++ [f]).foldl Target.inside (t.inside c) := rfl
        _ = ⟨f, (t.inside c).collections ++ c.path :: cs.map (·.path)⟩ := ih _
        _ = ⟨f, t.collections ++ t.field.path :: (c :: cs).map (·.path)⟩ := by
            rw [Target.inside, List.append_assoc]
            rfl

/-- **The collections stand in the order in which they were gone through.** -/
theorem Target.through_eq (cs : List Field) (f : Field) :
    Target.through cs f = ⟨f, cs.map (·.path)⟩ := by
  cases cs with
  | nil => rfl
  | cons c cs => exact Target.foldl_inside ⟨c, []⟩ cs f

/-- A condition has one criterion, with the paths of its target. -/
theorem Condition.criteria_container (condition : Condition) (logic : Connective) (t : Target) :
    ∃ criterion, (condition.container logic t).criteria = [criterion] ∧
      criterion.paths = t.field.path :: t.collections := by
  cases condition with
  | single operator value => exact ⟨.single _, rfl, rfl⟩
  | range operator start stop => exact ⟨.range _, rfl, rfl⟩

theorem containersOf_eq_map (steps : List FilterStep) :
    containersOf steps = steps.map FilterStep.container := by
  induction steps with
  | nil => rfl
  | cons s steps ih => rw [containersOf, ih, List.map_cons]

namespace FilterStep

theorem logic_container (s : FilterStep) : s.container.logic = s.opening.logic := by
  cases s with
  | condition opening target condition => cases condition <;> rfl
  | group opening steps => rfl

/-- **A step populates one slot.** -/
theorem populated_container (s : FilterStep) : s.container.populated = 1 := by
  cases s with
  | condition opening target condition => cases condition <;> rfl
  | group opening steps => rfl

theorem paths_of_ofSingle {s : FilterStep} {logic : Connective} {c : SingleCriterion}
    (h : s.container = .ofSingle logic c) : s.paths = c.field :: c.collection := by
  cases s with
  | group opening steps => cases h
  | condition opening target condition => cases condition <;> cases h; rfl

theorem paths_of_ofRange {s : FilterStep} {logic : Connective} {c : RangeCriterion}
    (h : s.container = .ofRange logic c) : s.paths = c.field :: c.collection := by
  cases s with
  | group opening steps => cases h
  | condition opening target condition => cases condition <;> cases h; rfl

/-- Of all steps, groups alone add a container that holds one. -/
theorem exists_group {s : FilterStep} {containers : List Container}
    (h : s.container.group = some containers) :
    ∃ opening inner, s = .group opening inner ∧ inner.map container = containers := by
  cases s with
  | condition opening target condition => cases condition <;> cases h
  | group opening inner =>
      have hinner : containersOf inner = containers := Option.some.inj h
      exact ⟨opening, inner, rfl, (containersOf_eq_map inner).symm.trans hinner⟩

/-- A step brings no other paths along than its container looks along. -/
theorem isPath_of_wellFormed {s : FilterStep} (h : s.container.WellFormed) :
    ∀ path ∈ s.paths, IsPath path := by
  generalize hc : s.container = c at h
  cases h with
  | single logic c hfield hcollection =>
      rw [paths_of_ofSingle hc]
      exact List.forall_mem_cons.mpr ⟨hfield, hcollection⟩
  | range logic c hfield hcollection =>
      rw [paths_of_ofRange hc]
      exact List.forall_mem_cons.mpr ⟨hfield, hcollection⟩
  | group logic containers hne hcontainers =>
      obtain ⟨opening, inner, rfl, -⟩ := exists_group (congrArg (·.group) hc)
      exact nofun

end FilterStep

/-! ## §3. All steps. -/

variable {steps : List FilterStep} {e : SearchError}

/-- Whatever is there already stays in front. -/
theorem FilterCriteria.containers_foldl_add (f : FilterCriteria) (steps : List FilterStep) :
    (steps.foldl add f).containers = f.containers ++ steps.map FilterStep.container := by
  induction steps generalizing f with
  | nil => exact (List.append_nil _).symm
  | cons s steps ih =>
      calc ((s :: steps).foldl add f).containers
          = (f.add s).containers ++ steps.map FilterStep.container := ih _
        _ = f.containers ++ (s :: steps).map FilterStep.container := List.append_assoc ..

/-- **A filter has one container for each step**, in their order. -/
theorem FilterCriteria.containers_build (steps : List FilterStep) :
    (build steps).containers = steps.map FilterStep.container :=
  containers_foldl_add {} steps

/-- **Adding criteria that were built before** is the step that opens a group and builds it with
their steps. -/
theorem FilterCriteria.addCriteria_build (f : FilterCriteria) (opening : Opening)
    (inner : List FilterStep) :
    f.addCriteria opening (build inner) = f.add (.group opening inner) := by
  rw [addCriteria, add, FilterStep.container, containersOf_eq_map, containers_build]

/-- **Whatever occurs in a built filter was added by a step**, be it one in a group. -/
theorem Container.OccursIn.exists_step {c : Container} {containers : List Container}
    (h : c.OccursIn containers) (hbuilt : containers = steps.map FilterStep.container) :
    ∃ s : FilterStep, s.OccursIn steps ∧ s.container = c := by
  induction h generalizing steps with
  | here h =>
      obtain ⟨s, hs, hc⟩ := List.mem_map.mp (hbuilt ▸ h)
      exact ⟨s, .here hs, hc⟩
  | inside hg hgroup _ ih =>
      obtain ⟨s, hs, rfl⟩ := List.mem_map.mp (hbuilt ▸ hg)
      obtain ⟨opening, inner, rfl, hinner⟩ := FilterStep.exists_group hgroup
      obtain ⟨x, hx, hc⟩ := ih hinner.symm
      exact ⟨x, .inside hs hx, hc⟩

/-! ## §4. What is wrong. -/

namespace FilterStep

theorem FaultIn.inside {inner : List FilterStep} {opening : Opening}
    (hgroup : FilterStep.group opening inner ∈ steps) (h : FaultIn inner e) : FaultIn steps e := by
  cases h with
  | path hs hpath hfault => exact .path (.inside hgroup hs) hpath hfault
  | emptyGroup h => exact .emptyGroup (.inside hgroup h)

/-- What is wrong with one of the paths is wrong with the step. -/
theorem FaultIn.of_paths {s : FilterStep} {fault : PathFault} (hs : s ∈ steps)
    (h : fault.OfPaths s.paths) : FaultIn steps (.missingIdentifier .filter fault) := by
  obtain ⟨before, path, after, hpaths, -, hfault⟩ := h
  exact .path (.here hs) (by rw [hpaths]; simp) hfault

end FilterStep

/-- **What is wrong with the container of a step** is wrong with the step, or with one in its
group. -/
theorem Container.FirstFault.faultIn {c : Container} (h : c.FirstFault e) {s : FilterStep}
    (hc : s.container = c) (hs : s ∈ steps) : FilterStep.FaultIn steps e := by
  induction h generalizing s steps with
  -- The number of slots is never wrong, as a step has populated one.
  | slots h => exact absurd (hc ▸ s.populated_container) h
  | single logic h => exact .of_paths hs (FilterStep.paths_of_ofSingle hc ▸ h)
  | range logic h => exact .of_paths hs (FilterStep.paths_of_ofRange hc ▸ h)
  | emptyGroup logic =>
      obtain ⟨opening, inner, rfl, hinner⟩ := FilterStep.exists_group (congrArg (·.group) hc)
      rw [List.map_eq_nil_iff.mp hinner] at hs
      exact .emptyGroup (.here hs)
  | @group logic containers before after x e hcontainers _ _ ih =>
      obtain ⟨opening, inner, rfl, hinner⟩ := FilterStep.exists_group (congrArg (·.group) hc)
      have hmem : x ∈ inner.map FilterStep.container := by
        rw [hinner, hcontainers]
        simp
      obtain ⟨y, hy, hyx⟩ := List.mem_map.mp hmem
      exact .inside hs (ih hyx hy)

/-- A well-formed container has no other containers in its group. -/
theorem FilterStep.OccursIn.wellFormed {s : FilterStep} (h : s.OccursIn steps)
    (hwf : ∀ c ∈ steps.map FilterStep.container, c.WellFormed) : s.container.WellFormed := by
  induction h with
  | here h => exact hwf _ (List.mem_map.mpr ⟨_, h, rfl⟩)
  | inside hgroup _ ih =>
      obtain _ | _ | ⟨_, _, -, hinner⟩ := hwf _ (List.mem_map.mpr ⟨_, hgroup, rfl⟩)
      exact ih (containersOf_eq_map _ ▸ hinner)

namespace FilterCriteria

/-- Steps with something wrong build no well-formed filter. -/
theorem not_wellFormed_build (h : (∃ s path, FilterStep.OccursIn s steps ∧ path ∈ s.paths ∧
      ¬IsPath path) ∨ ∃ opening, (FilterStep.group opening []).OccursIn steps) :
    ¬(build steps).WellFormed := by
  intro hwf
  have hall : ∀ c ∈ steps.map FilterStep.container, c.WellFormed := by
    rw [← containers_build]
    exact hwf.containers
  rcases h with ⟨s, path, hs, hpath, hbad⟩ | ⟨opening, hempty⟩
  · exact hbad (FilterStep.isPath_of_wellFormed (hs.wellFormed hall) path hpath)
  · obtain _ | _ | ⟨_, _, hne, -⟩ := hempty.wellFormed hall
    exact hne rfl

variable {d : Dialect}

theorem faultIn_of_compile (h : (build steps).compile d = .error e) :
    FilterStep.FaultIn steps e := by
  obtain ⟨before, c, after, hcontainers, -, hc⟩ := compile_eq_error_iff.mp h
  rw [containers_build] at hcontainers
  have hmem : c ∈ steps.map FilterStep.container := by
    rw [hcontainers]
    simp
  obtain ⟨s, hs, hsc⟩ := List.mem_map.mp hmem
  exact hc.faultIn hsc hs

theorem build_eq_nil_iff : (build steps).containers = [] ↔ steps = [] := by
  rw [containers_build, List.map_eq_nil_iff]

/-- **A built filter fails to compile where a step has no path or a group no steps.** -/
theorem exists_compile_build_eq_error_iff :
    (∃ e, (build steps).compile d = .error e) ↔
      (∃ s path, FilterStep.OccursIn s steps ∧ path ∈ s.paths ∧ ¬IsPath path) ∨
        ∃ opening, (FilterStep.group opening []).OccursIn steps := by
  constructor
  · rintro ⟨e, he⟩
    cases faultIn_of_compile he with
    | path hs hpath hfault => exact .inl ⟨_, _, hs, hpath, hfault.not_isPath⟩
    | emptyGroup h => exact .inr ⟨_, h⟩
  · intro h
    refine exists_compile_eq_error_iff.mpr ⟨fun hnil => ?_, not_wellFormed_build h⟩
    -- In no steps nothing occurs, so nothing can be wrong with them.
    have hnone : ∀ s : FilterStep, ¬s.OccursIn steps := by
      rw [build_eq_nil_iff.mp hnil]
      rintro s (h | ⟨h, -⟩) <;> cases h
    rcases h with ⟨s, _, hs, -⟩ | ⟨_, hempty⟩
    · exact hnone s hs
    · exact hnone _ hempty

/-- **What steps build**, with groups to any depth.  A step adds one container behind all others,
joined as its opening says, and one that opens a group adds the filter that the group's own steps
build.  Every container that occurs has one populated slot and was added by a step that occurs; and
a condition on a field that was reached through collections looks along just these.  So there is a
predicate unless there are no steps, some path does not consist of names, or some group has no
steps; of the last two, compiling reports one that occurs. -/
theorem build_compiles (d : Dialect) (steps : List FilterStep) :
    (∀ (f : FilterCriteria) (s : FilterStep),
      (f.add s).containers = f.containers ++ [s.container] ∧
        s.container.logic = s.opening.logic) ∧
    (build steps).containers = steps.map FilterStep.container ∧
    (∀ (opening : Opening) (inner : List FilterStep),
      (FilterStep.group opening inner).container =
        .ofGroup opening.logic (build inner).containers) ∧
    (∀ (opening : Opening) (collections : List Field) (field : Field) (condition : Condition),
      ∃ criterion,
        (FilterStep.condition opening (.through collections field) condition).container.criteria =
          [criterion] ∧
        criterion.paths = field.path :: collections.map (·.path)) ∧
    (∀ c : Container, c.OccursIn (build steps).containers →
      c.populated = 1 ∧ ∃ s : FilterStep, s.OccursIn steps ∧ s.container = c) ∧
    ((build steps).compile d = .ok none ↔ steps = []) ∧
    ((∃ e, (build steps).compile d = .error e) ↔
      (∃ s path, FilterStep.OccursIn s steps ∧ path ∈ s.paths ∧ ¬IsPath path) ∨
        ∃ opening, (FilterStep.group opening []).OccursIn steps) ∧
    ∀ e, (build steps).compile d = .error e → FilterStep.FaultIn steps e := by
  refine ⟨fun f s => ⟨rfl, s.logic_container⟩, containers_build steps, fun opening inner => ?_,
    fun opening collections field condition => ?_, fun c hc => ?_, ?_,
    exists_compile_build_eq_error_iff, fun e => faultIn_of_compile⟩
  · rw [containers_build, FilterStep.container, containersOf_eq_map]
  · rw [Target.through_eq]
    exact condition.criteria_container opening.logic ⟨field, collections.map (·.path)⟩
  · obtain ⟨s, hs, rfl⟩ := hc.exists_step (containers_build steps)
    exact ⟨s.populated_container, s, hs, rfl⟩
  · exact compile_eq_none_iff.trans (List.isEmpty_iff.trans build_eq_nil_iff)

/-- The group without steps lies two groups deep, behind a condition on collections. -/
example :
    (build [
      .condition .first (.through [⟨"kids", .skipped⟩, ⟨"pets", .skipped⟩] ⟨"name", .skipped⟩)
        (.isEqualTo (.text "Rex")),
      .group .or [.group .and []]]).compile (.ofWords []) = .error (.unsupportedCondition 0) := by
  rfl

end FilterCriteria

end RecordSearch
