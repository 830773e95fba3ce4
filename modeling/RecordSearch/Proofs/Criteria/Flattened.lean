/-
  RecordSearch.Proofs.Criteria.Flattened
  ──────────────────────────────────────
  **Groups that need no parentheses.**

  A group inside a list of containers is an operand of its own, since its text stands in
  parentheses.  Two things make the parentheses redundant: all that is in the group is one run, so
  that it joins whatever run it comes to stand in, or the group is a run by itself.  The list in
  which the containers of such a group stand in its place (`startedBy`) answers the same on every
  record, which of several errors surfaces included, and binds the same operands:

      someRun_flattened   — the law for lists of answers
      meaning_flattened   — the same for what filters mean
      evaluate_flattened  — the same for the predicates that filters compile to
-/
import RecordSearch.Proofs.Criteria.Connectives
import RecordSearch.Proofs.Criteria.Evaluated

namespace RecordSearch

variable {logic : Connective} {before group after : List Container}

/-! ## §1. Answers. -/

/-- **A list inside a list can be flattened** where it is one run, or a run by itself. -/
theorem someRun_flattened {before inner after : List (Connective × Answer)}
    (h : (∀ part ∈ inner, part.1 = .and) ∨
      (before = [] ∨ logic = .or) ∧ ∀ part ∈ after.head?, part.1 = .or)
    (first : Connective) (x : Answer) :
    someRun (before ++ (logic, someRun ((first, x) :: inner)) :: after) =
      someRun (before ++ (logic, x) :: (inner ++ after)) := by
  have happend := someRunFrom_append (h.imp_right And.right) x
  rw [someRun_cons first]
  cases before with
  | nil =>
      rw [List.nil_append, List.nil_append, someRun_cons, someRun_cons]
      exact happend.symm
  | cons part before =>
      obtain ⟨start, y⟩ := part
      rw [List.cons_append, List.cons_append, someRun_cons, someRun_cons]
      refine someRunFrom_append_congr (fun run => ?_) before y
      cases logic with
      | and =>
          -- The run goes on in front of the list, so the list is one run itself.
          have hand : ∀ part ∈ inner, part.1 = .and := by simpa using h
          show someRunFrom (bothHold run (someRunFrom x inner)) after =
            someRunFrom (bothHold run x) (inner ++ after)
          rw [bothHold_someRunFrom hand, someRunFrom_append (.inl hand)]
      | or => exact congrArg (eitherHolds run) happend.symm

/-! ## §2. Containers. -/

/-- The containers, the first of them joined to what is in front of it by another connective. -/
def startedBy (logic : Connective) : List Container → List Container
  | [] => []
  | c :: cs => c.joinedBy logic :: cs

theorem operandsOfAll_startedBy (logic : Connective) (cs : List Container) :
    operandsOfAll (startedBy logic cs) = operandsOfAll cs := by
  cases cs with
  | nil => rfl
  | cons c cs =>
      show (c.joinedBy logic).operands ++ operandsOfAll cs = c.operands ++ operandsOfAll cs
      rw [c.operands_joinedBy]

theorem forall_mem_startedBy {logic : Connective} {cs : List Container}
    (h : ∀ c ∈ cs, c.WellFormed) : ∀ c ∈ startedBy logic cs, c.WellFormed := by
  cases cs with
  | nil => exact h
  | cons c cs =>
      obtain ⟨hc, hcs⟩ := List.forall_mem_cons.mp h
      exact List.forall_mem_cons.mpr ⟨hc.joinedBy logic, hcs⟩

/-! ## §3. Filters. -/

namespace FilterCriteria

theorem operands_flattened :
    operandsOfAll (before ++ startedBy logic group ++ after) =
      operandsOfAll (before ++ .ofGroup logic group :: after) := by
  rw [operandsOfAll_append, operandsOfAll_append, operandsOfAll_startedBy, operandsOfAll_append,
    List.append_assoc]
  rfl

theorem WellFormed.flattened (h : WellFormed ⟨before ++ .ofGroup logic group :: after⟩) :
    WellFormed ⟨before ++ startedBy logic group ++ after⟩ := by
  obtain ⟨hbefore, hrest⟩ := List.forall_mem_append.mp h.containers
  obtain ⟨hgroup, hafter⟩ := List.forall_mem_cons.mp hrest
  obtain ⟨hne, hcontainers⟩ : WellFormed ⟨group⟩ := Container.wellFormed_ofGroup_iff.mp hgroup
  refine ⟨?_, ?_⟩
  · cases group with
    | nil => exact absurd rfl hne
    | cons c cs => simp [startedBy]
  · refine List.forall_mem_append.mpr ⟨List.forall_mem_append.mpr ⟨hbefore, ?_⟩, hafter⟩
    exact forall_mem_startedBy hcontainers

/-- **A filter means the same with a redundant group flattened.** -/
theorem meaning_flattened (hne : group ≠ [])
    (h : (∀ c ∈ group.tail, c.logic = .and) ∨
      (before = [] ∨ logic = .or) ∧ ∀ c ∈ after.head?, c.logic = .or) (r : Record) :
    meaning ⟨before ++ startedBy logic group ++ after⟩ r =
      meaning ⟨before ++ .ofGroup logic group :: after⟩ r := by
  cases group with
  | nil => exact absurd rfl hne
  | cons c cs =>
      let answer := fun c : Container => (c.logic, c.meaning r)
      have hanswers : (∀ part ∈ cs.map answer, part.1 = .and) ∨
          (before.map answer = [] ∨ logic = .or) ∧
            ∀ part ∈ (after.map answer).head?, part.1 = .or := by
        simpa [answer] using h
      have hflat := someRun_flattened hanswers c.logic (c.meaning r)
      unfold meaning
      rw [meaningsOfAll_eq_map, meaningsOfAll_eq_map, startedBy, List.append_assoc,
        List.map_append, List.cons_append, List.map_cons, List.map_append, List.map_append,
        List.map_cons, c.meaning_joinedBy]
      refine hflat.symm.trans ?_
      show _ = someRun (_ ++ (logic, someRun (meaningsOfAll r (c :: cs))) :: _)
      rw [meaningsOfAll_eq_map]
      rfl

/-- **A redundant group may be flattened.**  Where all containers of a group behind its first are
joined by `And`, or the group is a run by itself, the filter compiles with and without the group's
parentheses, to predicates that bind the same parameters in the same order and give the same truth
value, or the same error, on every record. -/
theorem WellFormed.evaluate_flattened (words : List String)
    (h : WellFormed ⟨before ++ .ofGroup logic group :: after⟩)
    (hredundant : (∀ c ∈ group.tail, c.logic = .and) ∨
      (before = [] ∨ logic = .or) ∧ ∀ c ∈ after.head?, c.logic = .or) :
    ∃ nested flat,
      compile (.ofWords words) ⟨before ++ .ofGroup logic group :: after⟩ = .ok (some nested) ∧
      compile (.ofWords words) ⟨before ++ startedBy logic group ++ after⟩ = .ok (some flat) ∧
      flat.parameters = nested.parameters ∧
      (nested.parameters.length ≤ UInt64.size → ∀ r,
        evaluate flat.text flat.parameters r = evaluate nested.text nested.parameters r) := by
  have hgroup : WellFormed ⟨group⟩ :=
    Container.wellFormed_ofGroup_iff.mp (h.containers (.ofGroup logic group) (by simp))
  obtain ⟨nested, hnested, -⟩ := h.compile_eq_ok words
  obtain ⟨flat, hflat, -⟩ := h.flattened.compile_eq_ok words
  refine ⟨_, _, hnested, hflat, operands_flattened, fun hsize r => ?_⟩
  rw [evaluate_of_compile hflat (by rwa [show _ = _ from operands_flattened]),
    evaluate_of_compile hnested hsize]
  exact meaning_flattened hgroup.nonempty hredundant r

/-- A conjunction in the middle of a run, where a text is compared with a number, and alternatives
that are a run by themselves, behind which nothing is asked any more. -/
theorem WellFormed.evaluate_flattened_mismatch :
    let asks := fun (logic : Connective) (field : String) (v : Value) =>
      Container.ofSingle logic ⟨field, .equals, v, [], .other⟩
    let r : Record := [("a", .value (.int 1)), ("b", .value (.int 2)), ("c", .value (.text "x"))]
    let conjunction := [asks .or "b" (.int 2), asks .and "c" (.int 3)]
    let alternatives := [asks .and "b" (.int 3), asks .or "c" (.text "x")]
    let first := asks .or "a" (.int 1)
    let last := asks .or "d" (.int 4)
    (WellFormed ⟨[first] ++ .ofGroup .and conjunction :: [last]⟩ ∧
      ∃ flat, compile (.ofWords []) ⟨[first] ++ startedBy .and conjunction ++ [last]⟩ =
          .ok (some flat) ∧
        evaluate flat.text flat.parameters r =
          .error (.evaluation (.incomparable .text .number))) ∧
    (WellFormed ⟨[] ++ .ofGroup .and alternatives :: [last]⟩ ∧
      ∃ flat, compile (.ofWords []) ⟨[] ++ startedBy .and alternatives ++ [last]⟩ =
          .ok (some flat) ∧
        evaluate flat.text flat.parameters r = .ok true) := by
  intro asks r conjunction alternatives first last
  have hpaths : ∀ field ∈ ["a", "b", "c", "d"], IsPath field := by decide
  have hasks : ∀ logic v, ∀ field ∈ ["a", "b", "c", "d"], (asks logic field v).WellFormed :=
    fun logic v field hfield => .single _ _ (hpaths field hfield) nofun
  constructor
  · have h : WellFormed ⟨[first] ++ .ofGroup .and conjunction :: [last]⟩ := by
      refine ⟨by simp, ?_⟩
      simp only [List.singleton_append, List.forall_mem_cons]
      refine ⟨hasks _ _ _ (by simp), .group _ _ (by simp [conjunction]) ?_,
        hasks _ _ _ (by simp), by simp⟩
      simp only [conjunction, List.forall_mem_cons]
      exact ⟨hasks _ _ _ (by simp), hasks _ _ _ (by simp), by simp⟩
    obtain ⟨nested, flat, hnested, hflat, -, hsame⟩ :=
      h.evaluate_flattened [] (.inl (by decide))
    have hsize : nested.parameters.length ≤ UInt64.size := by
      rw [parameters_of_compile hnested]
      decide
    refine ⟨h, flat, hflat, (hsame hsize r).trans ?_⟩
    exact (evaluate_of_compile hnested hsize r).trans rfl
  · have h : WellFormed ⟨[] ++ .ofGroup .and alternatives :: [last]⟩ := by
      refine ⟨by simp, ?_⟩
      simp only [List.nil_append, List.forall_mem_cons]
      refine ⟨.group _ _ (by simp [alternatives]) ?_, hasks _ _ _ (by simp), by simp⟩
      simp only [alternatives, List.forall_mem_cons]
      exact ⟨hasks _ _ _ (by simp), hasks _ _ _ (by simp), by simp⟩
    obtain ⟨nested, flat, hnested, hflat, -, hsame⟩ :=
      h.evaluate_flattened [] (.inr (by decide))
    have hsize : nested.parameters.length ≤ UInt64.size := by
      rw [parameters_of_compile hnested]
      decide
    refine ⟨h, flat, hflat, (hsame hsize r).trans ?_⟩
    exact (evaluate_of_compile hnested hsize r).trans rfl

end FilterCriteria

end RecordSearch
