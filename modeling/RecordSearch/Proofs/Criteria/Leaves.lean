/-
  RecordSearch.Proofs.Criteria.Leaves
  ───────────────────────────────────
  **The criteria at the leaves of a filter, and the values that they bind.**

  A filter is a tree of groups with criteria at its leaves.  Of a criterion, the text of the
  predicate shows everything but its values, which are bound to the placeholders of the criterion:

      FilterCriteria.criteria        — the criteria at the leaves, from left to right
      FilterCriteria.bindings        — for each placeholder, the criterion that it belongs to and
                                       the operand that is bound to it
      FilterCriteria.withoutValues   — the filter with null for all values

  A filter and the same filter without its values have the same text, or the same fault
  (`FilterCriteria.text_compile_withoutValues`), so no value can reach the text.
-/
import RecordSearch.Proofs.Criteria.Compiled
import Mathlib.Data.List.Forall2

namespace RecordSearch

/-! ## §1. Leaves. -/

/-- A criterion of either kind. -/
inductive Criterion where
  | single (c : SingleCriterion)
  | range (c : RangeCriterion)

namespace Criterion

/-- The paths that a criterion looks along: its field, and the collections around it. -/
def paths : Criterion → List String
  | .single c => c.field :: c.collection
  | .range c => c.field :: c.collection

/-- The values that the criterion was given. -/
def values : Criterion → List Value
  | .single c => [c.value]
  | .range c => [c.start, c.stop]

/-- The values that the criterion binds. -/
def operands : Criterion → List Value
  | .single c => c.operands
  | .range c => c.operands

end Criterion

mutual

/-- The criteria at the leaves of a container.  One that is malformed has none. -/
def Container.criteria : Container → List Criterion
  | ⟨_, some c, none, none⟩ => [.single c]
  | ⟨_, none, some c, none⟩ => [.range c]
  | ⟨_, none, none, some containers⟩ => criteriaOfAll containers
  | _ => []

/-- The criteria at the leaves of containers. -/
def criteriaOfAll : List Container → List Criterion
  | [] => []
  | c :: cs => c.criteria ++ criteriaOfAll cs

end

/-- **The criteria at the leaves of a filter**, from left to right. -/
def FilterCriteria.criteria (f : FilterCriteria) : List Criterion := criteriaOfAll f.containers

/-- The operands of a criterion, each with the criterion. -/
def Criterion.bindings (c : Criterion) : List (Criterion × Value) := c.operands.map (c, ·)

/-- **What is bound to the placeholders of a filter**, in the order of their numbers: the operand,
and the criterion that it comes from. -/
def FilterCriteria.bindings (f : FilterCriteria) : List (Criterion × Value) :=
  f.criteria.flatMap Criterion.bindings

mutual

theorem Container.operands_eq_flatMap : ∀ c : Container,
    c.operands = c.criteria.flatMap Criterion.operands
  | ⟨_, some c, none, none⟩ => by simp [Container.operands, Container.criteria, Criterion.operands]
  | ⟨_, none, some c, none⟩ => by simp [Container.operands, Container.criteria, Criterion.operands]
  | ⟨_, none, none, some containers⟩ => operandsOfAll_eq_flatMap containers
  | ⟨_, none, none, none⟩ | ⟨_, some _, some _, _⟩ | ⟨_, some _, none, some _⟩
  | ⟨_, none, some _, some _⟩ => rfl

theorem operandsOfAll_eq_flatMap : ∀ cs : List Container,
    operandsOfAll cs = (criteriaOfAll cs).flatMap Criterion.operands
  | [] => rfl
  | c :: cs => by
      rw [operandsOfAll, criteriaOfAll, List.flatMap_append, c.operands_eq_flatMap,
        operandsOfAll_eq_flatMap cs]

end

/-- The parameters of a predicate are what is bound to the placeholders of its filter. -/
theorem FilterCriteria.parameters_eq_bindings {d : Dialect} {f : FilterCriteria} {p : Predicate}
    (h : f.compile d = .ok (some p)) : p.parameters = f.bindings.map (·.2) := by
  rw [parameters_of_compile h, operandsOfAll_eq_flatMap, bindings, List.map_flatMap]
  simp only [Criterion.bindings, List.map_map, Function.comp_def, List.map_id']
  rfl

/-! ## §2. Criteria without their values. -/

/-- The criterion with null for its value. -/
def SingleCriterion.withoutValue (c : SingleCriterion) : SingleCriterion :=
  { c with value := .null }

/-- The criterion with null for both bounds. -/
def RangeCriterion.withoutValues (c : RangeCriterion) : RangeCriterion :=
  { c with start := .null, stop := .null }

/-- The criterion with null for its values. -/
def Criterion.withoutValues : Criterion → Criterion
  | .single c => .single c.withoutValue
  | .range c => .range c.withoutValues

mutual

/-- The container with null for the values of all criteria in its slots. -/
def Container.withoutValues : Container → Container
  | ⟨logic, single, range, none⟩ =>
      ⟨logic, single.map (·.withoutValue), range.map (·.withoutValues), none⟩
  | ⟨logic, single, range, some containers⟩ =>
      ⟨logic, single.map (·.withoutValue), range.map (·.withoutValues),
        some (withoutValuesOfAll containers)⟩

/-- The containers with null for the values of all criteria. -/
def withoutValuesOfAll : List Container → List Container
  | [] => []
  | c :: cs => c.withoutValues :: withoutValuesOfAll cs

end

/-- **The filter with null for all values.** -/
def FilterCriteria.withoutValues (f : FilterCriteria) : FilterCriteria :=
  ⟨withoutValuesOfAll f.containers⟩

/-! ## §3. The text without values. -/

/-- How many operands there are depends on the operator alone. -/
theorem SingleCriterion.length_operands_withoutValue (c : SingleCriterion) :
    c.withoutValue.operands.length = c.operands.length := by
  obtain ⟨field, operator, value, collection, kind⟩ := c
  cases operator <;> rfl

mutual

theorem Container.length_operands_withoutValues : ∀ c : Container,
    c.withoutValues.operands.length = c.operands.length
  | ⟨_, some c, none, none⟩ => c.length_operands_withoutValue
  | ⟨_, none, some _, none⟩ => rfl
  | ⟨_, none, none, some containers⟩ => length_operands_withoutValuesOfAll containers
  | ⟨_, none, none, none⟩ | ⟨_, some _, some _, none⟩ | ⟨_, some _, some _, some _⟩
  | ⟨_, some _, none, some _⟩ | ⟨_, none, some _, some _⟩ => rfl

theorem length_operands_withoutValuesOfAll : ∀ cs : List Container,
    (operandsOfAll (withoutValuesOfAll cs)).length = (operandsOfAll cs).length
  | [] => rfl
  | c :: cs => by
      rw [withoutValuesOfAll, operandsOfAll, operandsOfAll, List.length_append,
        List.length_append, c.length_operands_withoutValues, length_operands_withoutValuesOfAll cs]

end

variable (d : Dialect)

mutual

/-- **A container without values has the same text**, or the same fault. -/
theorem Container.render_withoutValues : ∀ (c : Container) (next : Nat),
    c.withoutValues.render d next = c.render d next
  | ⟨_, some c, none, none⟩, next => rfl
  | ⟨_, none, some c, none⟩, next => rfl
  | ⟨_, none, none, some []⟩, _ => rfl
  | ⟨_, none, none, some (c :: cs)⟩, next => by
      show Container.render d next ⟨_, none, none, some (withoutValuesOfAll (c :: cs))⟩ = _
      rw [withoutValuesOfAll, Container.render, Container.render, c.render_withoutValues next,
        c.length_operands_withoutValues, renderOthers_withoutValues cs]
  | ⟨_, none, none, none⟩, _ | ⟨_, some _, some _, none⟩, _ | ⟨_, some _, some _, some _⟩, _
  | ⟨_, some _, none, some _⟩, _ | ⟨_, none, some _, some _⟩, _ => rfl

theorem renderOthers_withoutValues : ∀ (cs : List Container) (next : Nat),
    renderOthers d next (withoutValuesOfAll cs) = renderOthers d next cs
  | [], _ => rfl
  | c :: cs, next => by
      have hlogic : c.withoutValues.logic = c.logic := by
        obtain ⟨logic, single, range, group⟩ := c
        cases group <;> rfl
      rw [withoutValuesOfAll, renderOthers, renderOthers, c.render_withoutValues next, hlogic,
        c.length_operands_withoutValues, renderOthers_withoutValues cs]

end

theorem FilterCriteria.text_compile_withoutValues (f : FilterCriteria) :
    Option.map Predicate.text <$> f.withoutValues.compile d =
      Option.map Predicate.text <$> f.compile d := by
  obtain ⟨containers⟩ := f
  cases containers with
  | nil => rfl
  | cons c cs =>
      simp only [FilterCriteria.withoutValues, withoutValuesOfAll, FilterCriteria.compile]
      rw [c.render_withoutValues d 0, c.length_operands_withoutValues,
        renderOthers_withoutValues d cs]
      cases c.render d 0 with
      | error e => rfl
      | ok first => cases renderOthers d c.operands.length cs <;> rfl

/-! ## §4. The bindings of filters that differ in values alone. -/

mutual

theorem Container.criteria_withoutValues : ∀ c : Container,
    c.withoutValues.criteria = c.criteria.map Criterion.withoutValues
  | ⟨_, some _, none, none⟩ | ⟨_, none, some _, none⟩ => rfl
  | ⟨_, none, none, some containers⟩ => criteriaOfAll_withoutValues containers
  | ⟨_, none, none, none⟩ | ⟨_, some _, some _, none⟩ | ⟨_, some _, some _, some _⟩
  | ⟨_, some _, none, some _⟩ | ⟨_, none, some _, some _⟩ => rfl

theorem criteriaOfAll_withoutValues : ∀ cs : List Container,
    criteriaOfAll (withoutValuesOfAll cs) = (criteriaOfAll cs).map Criterion.withoutValues
  | [] => rfl
  | c :: cs => by
      rw [withoutValuesOfAll, criteriaOfAll, criteriaOfAll, List.map_append,
        c.criteria_withoutValues, criteriaOfAll_withoutValues cs]

end

/-- The two bindings are those of one place: the criteria differ in their values alone, and with
the same values they bind the same operand. -/
def BoundAlike (b b' : Criterion × Value) : Prop :=
  b.1.withoutValues = b'.1.withoutValues ∧ (b.1.values = b'.1.values → b.2 = b'.2)

theorem Criterion.boundAlike {c c' : Criterion} (h : c.withoutValues = c'.withoutValues) :
    List.Forall₂ BoundAlike c.bindings c'.bindings := by
  cases c with
  | single c =>
      cases c' with
      | range c' => cases h
      | single c' =>
          have hsingle : c.withoutValue = c'.withoutValue := by injection h
          have hoperator : c.operator = c'.operator := congrArg (·.operator) hsingle
          have hvalue : [c.value] = [c'.value] → c.value = c'.value := fun h => (List.cons.inj h).1
          show List.Forall₂ BoundAlike (c.operands.map _) (c'.operands.map _)
          unfold SingleCriterion.operands
          rw [← hoperator]
          cases c.operator.test with
          | isNull => exact .nil
          | membership => exact .cons ⟨h, fun hvalues => by rw [hvalue hvalues]⟩ .nil
          | comparison | pattern => exact .cons ⟨h, hvalue⟩ .nil
  | range c =>
      cases c' with
      | single c' => cases h
      | range c' =>
          have hstart : [c.start, c.stop] = [c'.start, c'.stop] → c.start = c'.start :=
            fun h => (List.cons.inj h).1
          have hstop : [c.start, c.stop] = [c'.start, c'.stop] → c.stop = c'.stop :=
            fun h => (List.cons.inj (List.cons.inj h).2).1
          exact .cons ⟨h, hstart⟩ (.cons ⟨h, hstop⟩ .nil)

/-- **Filters that differ in values alone bind alike**, placeholder by placeholder. -/
theorem FilterCriteria.boundAlike {f f' : FilterCriteria}
    (h : f.withoutValues = f'.withoutValues) :
    List.Forall₂ BoundAlike f.bindings f'.bindings := by
  have hcriteria : f.criteria.map Criterion.withoutValues =
      f'.criteria.map Criterion.withoutValues := by
    rw [criteria, criteria, ← criteriaOfAll_withoutValues, ← criteriaOfAll_withoutValues]
    exact congrArg (criteriaOfAll ·.containers) h
  have halike : List.Forall₂ (fun c c' => c.withoutValues = c'.withoutValues) f.criteria
      f'.criteria := by
    refine List.forall₂_map_right_iff.mp (List.forall₂_map_left_iff.mp ?_)
    rw [hcriteria]
    exact List.forall₂_same.mpr fun _ _ => rfl
  exact List.rel_flatMap halike fun _ _ => Criterion.boundAlike

/-- **No value reaches the text.**  Two filters that differ in their values alone fail alike, or
their predicates have the same text and as many parameters; and where two parameters of one number
differ, they belong to criteria of the same place whose values differ. -/
theorem FilterCriteria.compile_of_withoutValues_eq {f f' : FilterCriteria}
    (h : f.withoutValues = f'.withoutValues) :
    (∃ e, f.compile d = .error e ∧ f'.compile d = .error e) ∨
    (f.compile d = .ok none ∧ f'.compile d = .ok none) ∨
    ∃ p p', f.compile d = .ok (some p) ∧ f'.compile d = .ok (some p') ∧ p.text = p'.text ∧
      p.parameters.length = p'.parameters.length ∧
      ∀ (k : Nat) (v v' : Value), p.parameters[k]? = some v → p'.parameters[k]? = some v' → v ≠ v' →
        ∃ c c' : Criterion, f.bindings[k]? = some (c, v) ∧ f'.bindings[k]? = some (c', v') ∧
          c.withoutValues = c'.withoutValues ∧ c.values ≠ c'.values := by
  have htext := f.text_compile_withoutValues d
  rw [h, f'.text_compile_withoutValues d] at htext
  rcases hp : f.compile d with e | _ | p <;> rcases hp' : f'.compile d with e' | _ | p' <;>
    rw [hp, hp'] at htext
  case error.error => exact .inl ⟨e, rfl, by rw [Except.error.inj htext]⟩
  case ok.none.ok.none => exact .inr (.inl ⟨rfl, rfl⟩)
  case ok.some.ok.some =>
    have halike := boundAlike h
    have hparameters := parameters_eq_bindings hp
    have hparameters' := parameters_eq_bindings hp'
    refine .inr (.inr ⟨p, p', rfl, rfl, (Option.some.inj (Except.ok.inj htext)).symm, ?_, ?_⟩)
    · rw [hparameters, hparameters', List.length_map, List.length_map, halike.length_eq]
    · intro k v v' hv hv' hne
      rw [hparameters, List.getElem?_map, Option.map_eq_some_iff] at hv
      rw [hparameters', List.getElem?_map, Option.map_eq_some_iff] at hv'
      obtain ⟨⟨c, _⟩, hb, rfl⟩ := hv
      obtain ⟨⟨c', _⟩, hb', rfl⟩ := hv'
      obtain ⟨hk, hget⟩ := List.getElem?_eq_some_iff.mp hb
      obtain ⟨hk', hget'⟩ := List.getElem?_eq_some_iff.mp hb'
      have hplace : BoundAlike f.bindings[k] f'.bindings[k] := halike.get hk hk'
      rw [hget, hget'] at hplace
      exact ⟨c, c', hb, hb', hplace.1, fun hvalues => hne (hplace.2 hvalues)⟩
  all_goals cases htext

/-- A text that looks like predicate text, and one item in the place of a list: neither reaches the
text, and what is bound to the bounds between them stays where it is. -/
theorem FilterCriteria.compile_of_withoutValues_eq_quoted :
    let filter := fun (name items : Value) => (⟨[
      .ofSingle .and ⟨"name", .equals, name, [], .other⟩,
      .ofGroup .or [
        .ofRange .and ⟨"age", .between, .int 1, .int 5, []⟩,
        .ofSingle .and ⟨"id", .isNotIn, items, ["kids"], .other⟩]]⟩ : FilterCriteria)
    let f := filter (.text "x") (.list [.int 1, .int 2])
    let f' := filter (.text "\") Or (@1 == @1") (.int 3)
    f.withoutValues = f'.withoutValues ∧
      ∃ p p', f.compile (.ofWords []) = .ok (some p) ∧ f'.compile (.ofWords []) = .ok (some p') ∧
        p'.text =
          "(name == @0) Or (((age >= @1) And (age <= @2)) And kids.Any((Not (id In @3))))" ∧
        p'.parameters.length = 4 ∧
        ∀ (k : Nat) (v v' : Value), p.parameters[k]? = some v → p'.parameters[k]? = some v' →
          v ≠ v' → k ≠ 1 ∧ k ≠ 2 := by
  intro filter f f'
  have hf : f.compile (.ofWords []) = .ok (some ⟨
      "(name == @0) Or (((age >= @1) And (age <= @2)) And kids.Any((Not (id In @3))))",
      [.text "x", .int 1, .int 5, .list [.int 1, .int 2]]⟩) := by rfl
  have halike : f.withoutValues = f'.withoutValues := rfl
  refine ⟨halike, ?_⟩
  rcases compile_of_withoutValues_eq (.ofWords []) halike with
    ⟨e, he, -⟩ | ⟨hnone, -⟩ | ⟨p, p', hp, hp', htext, hlength, hplaces⟩
  · rw [hf] at he
    cases he
  · rw [hf] at hnone
    cases hnone
  · have hpf := Option.some.inj (Except.ok.inj (hp.symm.trans hf))
    refine ⟨p, p', hp, hp', by rw [← htext, hpf], by rw [← hlength, hpf]; rfl, ?_⟩
    intro k v v' hv hv' hne
    obtain ⟨c, c', hb, hb', -, hvalues⟩ := hplaces k v v' hv hv' hne
    -- Both bounds belong to the range, which is the same in both filters.
    refine ⟨?_, ?_⟩ <;>
    · rintro rfl
      cases hb
      cases hb'
      exact hvalues rfl

end RecordSearch
