/-
  RecordSearch.Proofs.Criteria.Membership
  ───────────────────────────────────────
  **Membership is a chain of equalities.**

  To ask whether a field holds one of several values is one criterion with a list, or one criterion
  for each of the values.  The first is a walk along the list that stops at the first value that is
  equal or cannot be compared; the second is a group, read by its connectives (`chain`).  Where the
  field holds a value, both come to the same, which error surfaces included:

      meaning_equals_chain      — one of the values, as a group joined by `Or`
      meaning_notEquals_chain   — none of the values, as a group joined by `And`
      answer_membership         — both as filters; one value without a list; no values at all
-/
import RecordSearch.Proofs.Criteria.Connectives
import RecordSearch.Proofs.Criteria.Negated

namespace RecordSearch

variable {r : Record} {c : SingleCriterion} {values : List Value}

/-! ## §1. Lists of answers. -/

/-- None of the questions holds if all of their contraries do, and asking stops at the same one. -/
theorem allM_map_not (xs : List Answer) :
    (xs.map (Except.map (!·))).allM id = (xs.anyM id).map (!·) := by
  induction xs with
  | nil => rfl
  | cons x xs ih =>
      rw [List.map_cons, allM_cons, anyM_cons, ih]
      rcases x with e | _ | _ <;> rfl

/-- Questions about one thing fail together where there is no such thing. -/
theorem anyM_bind {α β : Type} (found : Except SearchError α) (question : β → α → Answer)
    {xs : List β} (hne : xs ≠ []) :
    xs.anyM (fun x => found >>= question x) =
      found >>= fun a => xs.anyM fun x => question x a := by
  cases found with
  | ok a => rfl
  | error e =>
      cases xs with
      | nil => exact absurd rfl hne
      | cons x xs => rfl

/-! ## §2. Chains. -/

/-- Containers with at most one operand each have no more operands than there are of them. -/
theorem length_operandsOfAll_le {cs : List Container} (h : ∀ c ∈ cs, c.operands.length ≤ 1) :
    (operandsOfAll cs).length ≤ cs.length := by
  induction cs with
  | nil => exact Nat.le_refl 0
  | cons c cs ih =>
      obtain ⟨hc, hcs⟩ := List.forall_mem_cons.mp h
      rw [operandsOfAll, List.length_append, List.length_cons, Nat.add_comm]
      exact Nat.add_le_add (ih hcs) hc

namespace SingleCriterion

/-- The criterion with another operator and another value. -/
def asking (c : SingleCriterion) (operator : Operator) (value : Value) : SingleCriterion :=
  { c with operator, value }

/-- **A criterion for each of the values**, all joined by `joint`; the connective of the first one
has nothing to join. -/
def chain (c : SingleCriterion) (operator : Operator) (joint first : Connective) :
    List Value → List Container
  | [] => []
  | v :: vs =>
      .ofSingle first (c.asking operator v) :: vs.map fun v => .ofSingle joint (c.asking operator v)

variable {operator : Operator} {joint first : Connective}

theorem forall_mem_chain {P : Container → Prop}
    (h : ∀ logic v, P (.ofSingle logic (c.asking operator v))) :
    ∀ x ∈ c.chain operator joint first values, P x := by
  intro x hx
  cases values with
  | nil => cases hx
  | cons v vs =>
      obtain rfl | hx := List.mem_cons.mp hx
      · exact h first v
      · obtain ⟨w, -, rfl⟩ := List.mem_map.mp hx
        exact h joint w

theorem wellFormed_chain (hc : c.collection = []) (hfield : IsPath c.field) (hne : values ≠ [])
    (logic : Connective) :
    (Container.ofGroup logic (c.chain operator joint first values)).WellFormed := by
  refine .group logic _ ?_ (forall_mem_chain fun logic v => ?_)
  · cases values with
    | nil => exact absurd rfl hne
    | cons v vs => exact List.cons_ne_nil _ _
  · refine .single logic (c.asking operator v) hfield ?_
    rw [asking, hc]
    exact nofun

theorem render_chain (hc : c.collection = []) (hne : values ≠ []) (logic : Connective)
    {d : Dialect} {e : SearchError} (he : d.renderPath .filter c.field = .error e) :
    (Container.ofGroup logic (c.chain operator joint first values)).render d 0 = .error e := by
  cases values with
  | nil => exact absurd rfl hne
  | cons v vs =>
      have hfirst : (Container.ofSingle first (c.asking operator v)).render d 0 = .error e := by
        rw [Container.ofSingle, Container.render, asking, hc]
        exact renderCriterion_eq_error he
      rw [Container.ofGroup, chain, Container.render, hfirst]
      rfl

theorem length_chain : (c.chain operator joint first values).length = values.length := by
  cases values with
  | nil => rfl
  | cons v vs => exact congrArg (· + 1) (List.length_map _)

theorem length_operands_chain (values : List Value) (logic : Connective) :
    (Container.ofGroup logic (c.chain operator joint first values)).operands.length ≤
      values.length := by
  refine Nat.le_trans (length_operandsOfAll_le (forall_mem_chain fun logic v => ?_))
    (Nat.le_of_eq length_chain)
  show (c.asking operator v).operands.length ≤ 1
  unfold operands
  cases (c.asking operator v).operator.test <;> simp

/-- What a chain means: each value in turn, by the connective that joins them. -/
theorem meaning_chain (hc : c.collection = []) (v : Value) (vs : List Value) (logic : Connective) :
    let answer := fun v => r.follow c.field >>= (c.asking operator v).asks
    (Container.ofGroup logic (c.chain operator joint first (v :: vs))).meaning r =
      someRun ((first, answer v) :: (vs.map answer).map (joint, ·)) := by
  intro answer
  have hsingle (logic : Connective) (v : Value) :
      (Container.ofSingle logic (c.asking operator v)).meaning r = answer v := by
    rw [Container.ofSingle, Container.meaning, asking, hc]
    rfl
  rw [Container.ofGroup, Container.meaning, meaningsOfAll_eq_map, chain, List.map_cons, hsingle,
    List.map_map, List.map_map]
  refine congrArg (fun parts => someRun ((first, answer v) :: parts)) ?_
  exact List.map_congr_left fun w _ => congrArg (joint, ·) (hsingle joint w)

theorem meaning_chain_or (hc : c.collection = []) (hne : values ≠ []) (logic : Connective) :
    (Container.ofGroup logic (c.chain operator .or first values)).meaning r =
      (values.map fun v => r.follow c.field >>= (c.asking operator v).asks).anyM id := by
  cases values with
  | nil => exact absurd rfl hne
  | cons v vs => exact (meaning_chain hc v vs logic).trans (someRun_alternatives first _ _)

theorem meaning_chain_and (hc : c.collection = []) (hne : values ≠ []) (logic : Connective) :
    (Container.ofGroup logic (c.chain operator .and first values)).meaning r =
      (values.map fun v => r.follow c.field >>= (c.asking operator v).asks).allM id := by
  cases values with
  | nil => exact absurd rfl hne
  | cons v vs => exact (meaning_chain hc v vs logic).trans (someRun_conditions first _ _)

end SingleCriterion

/-! ## §3. Membership. -/

/-- What the record has at the path, if it has anything, is a value. -/
def Record.HoldsValue (r : Record) (path : String) : Prop :=
  ∀ m, r.follow path = .ok m → ∃ v, m = .value v

namespace SingleCriterion

variable {first : Connective}

/-- **One of the values**: the walk along the list answers as the chain of equalities does. -/
theorem meaning_equals_chain (hc : c.collection = []) (hne : values ≠ [])
    (hr : r.HoldsValue c.field) (logic : Connective) :
    (Container.ofGroup logic (c.chain .equals .or first values)).meaning r =
      r.follow c.field >>= (c.asking .isIn (.list values)).asks := by
  rw [meaning_chain_or hc hne, anyM_map]
  refine (anyM_bind _ (fun v => (c.asking .equals v).asks) hne).trans ?_
  cases hfollow : r.follow c.field with
  | error e => rfl
  | ok m =>
      obtain ⟨x, rfl⟩ := hr m hfollow
      rfl

/-- A negated criterion asks for the contrary of what is found at the path. -/
theorem follow_bind_negation {operator negated : Operator} (h : operator.negation? = some negated)
    (v : Value) :
    (r.follow c.field >>= (c.asking negated v).asks) =
      (r.follow c.field >>= (c.asking operator v).asks).map (!·) := by
  cases r.follow c.field with
  | error e => rfl
  | ok m => exact asks_negation (c := c.asking operator v) h m

/-- **None of the values**: all differ where it is not so that one is equal. -/
theorem meaning_notEquals_chain (hc : c.collection = []) (hne : values ≠ [])
    (hr : r.HoldsValue c.field) (logic : Connective) :
    (Container.ofGroup logic (c.chain .notEquals .and first values)).meaning r =
      r.follow c.field >>= (c.asking .isNotIn (.list values)).asks := by
  have hequals : (Container.ofGroup logic (c.chain .equals .or first values)).meaning r = _ :=
    meaning_equals_chain hc hne hr logic
  calc (Container.ofGroup logic (c.chain .notEquals .and first values)).meaning r
    _ = (values.map fun v => r.follow c.field >>= (c.asking .notEquals v).asks).allM id :=
        meaning_chain_and hc hne logic
    _ = ((values.map fun v =>
          r.follow c.field >>= (c.asking .equals v).asks).anyM id).map (!·) := by
        rw [← allM_map_not, List.map_map]
        exact congrArg (List.allM id) (List.map_congr_left fun v _ => follow_bind_negation rfl v)
    _ = (r.follow c.field >>= (c.asking .isIn (.list values)).asks).map (!·) := by
        rw [← hequals, meaning_chain_or hc hne]
    _ = r.follow c.field >>= (c.asking .isNotIn (.list values)).asks :=
        (follow_bind_negation rfl _).symm

end SingleCriterion

/-! ## §4. Filters. -/

namespace FilterCriteria

/-- What the criterion answers with another operator and another value. -/
theorem answer_asking (words : List String) (logic : Connective) (hc : c.collection = [])
    (operator : Operator) (value : Value) (r : Record) :
    answer (.ofWords words) ⟨[.ofSingle logic (c.asking operator value)]⟩ r =
      askField (.ofWords words) c.field (c.asking operator value).asks r :=
  answer_single words logic (c := c.asking operator value) hc r

/-- A group that means what a criterion asks of a field answers as the criterion does. -/
theorem answer_chain (words : List String) {operator operator' : Operator}
    {joint first : Connective} {value : Value} (hc : c.collection = []) (hne : values ≠ [])
    (hsize : values.length ≤ UInt64.size) (logic : Connective)
    (h : IsPath c.field →
      (Container.ofGroup logic (c.chain operator joint first values)).meaning r =
        r.follow c.field >>= (c.asking operator' value).asks) :
    answer (.ofWords words) ⟨[.ofSingle logic (c.asking operator' value)]⟩ r =
      answer (.ofWords words) ⟨[.ofGroup logic (c.chain operator joint first values)]⟩ r := by
  rw [answer_asking words logic hc]
  refine (answer_singleton (fun e he => ?_) (fun hpath => ?_) ?_ h).symm
  · exact SingleCriterion.render_chain hc hne logic he
  · exact SingleCriterion.wellFormed_chain hc hpath hne logic
  · exact Nat.le_trans (SingleCriterion.length_operands_chain values logic) hsize

/-- A value that is no list is bound as the list of the one value. -/
theorem compile_scalar (d : Dialect) (logic : Connective) {v : Value} (hv : v.kind ≠ .list)
    {operator : Operator} (h : operator = .isIn ∨ operator = .isNotIn) :
    compile d ⟨[.ofSingle logic (c.asking operator v)]⟩ =
      compile d ⟨[.ofSingle logic (c.asking operator (.list [v]))]⟩ := by
  have hitems : v.asItems = .list [v] := by
    cases v with
    | list => exact absurd rfl hv
    | _ => rfl
  have hoperands : (Container.ofSingle logic (c.asking operator v)).operands =
      (Container.ofSingle logic (c.asking operator (.list [v]))).operands := by
    obtain rfl | rfl := h <;> exact congrArg (fun items => [items]) hitems
  have hrender : (Container.ofSingle logic (c.asking operator v)).render d 0 =
      (Container.ofSingle logic (c.asking operator (.list [v]))).render d 0 := by
    obtain rfl | rfl := h <;> rfl
  unfold compile
  dsimp only
  rw [hrender, operandsOfAll, hoperands]
  rfl

/-- **Membership is a chain of equalities.**  Where the field holds a value or leads nowhere, a
filter that asks for one of several values answers, on every record, as the group of the criteria
that ask for each of the values, joined by `Or`; one that asks for none of them as the group of the
contrary criteria, joined by `And`.  One value is as good as the list of it.  No field that holds a
value holds one of no values. -/
theorem answer_membership (words : List String) (logic first : Connective) (c : SingleCriterion)
    (hc : c.collection = []) :
    (∀ values : List Value, values ≠ [] → values.length ≤ UInt64.size →
      ∀ r : Record, (IsPath c.field → r.HoldsValue c.field) →
        answer (.ofWords words) ⟨[.ofSingle logic (c.asking .isIn (.list values))]⟩ r =
          answer (.ofWords words) ⟨[.ofGroup logic (c.chain .equals .or first values)]⟩ r ∧
        answer (.ofWords words) ⟨[.ofSingle logic (c.asking .isNotIn (.list values))]⟩ r =
          answer (.ofWords words) ⟨[.ofGroup logic (c.chain .notEquals .and first values)]⟩ r) ∧
    (∀ v : Value, v.kind ≠ .list → ∀ operator : Operator,
      operator = .isIn ∨ operator = .isNotIn →
        compile (.ofWords words) ⟨[.ofSingle logic (c.asking operator v)]⟩ =
          compile (.ofWords words) ⟨[.ofSingle logic (c.asking operator (.list [v]))]⟩) ∧
    (∀ (r : Record) (v : Value), IsPath c.field → r.follow c.field = .ok (.value v) →
      answer (.ofWords words) ⟨[.ofSingle logic (c.asking .isIn (.list []))]⟩ r = .ok false ∧
      answer (.ofWords words) ⟨[.ofSingle logic (c.asking .isNotIn (.list []))]⟩ r = .ok true) := by
  refine ⟨fun values hne hsize r hr => ⟨?_, ?_⟩, fun v hv operator h => ?_,
    fun r v hfield hv => ⟨?_, ?_⟩⟩
  · exact answer_chain words hc hne hsize logic fun hpath =>
      SingleCriterion.meaning_equals_chain hc hne (hr hpath) logic
  · exact answer_chain words hc hne hsize logic fun hpath =>
      SingleCriterion.meaning_notEquals_chain hc hne (hr hpath) logic
  · exact compile_scalar _ logic hv h
  all_goals
    rw [answer_asking words logic hc, askField, Dialect.renderPath_of_isPath _ _ hfield, hv]
    rfl

/-- Null and two ways to write a number, a text in front of the number that is equal, a list among
lists, a number that is none; one value alone, and none at all. -/
theorem answer_membership_mixed :
    let r : Record := [("n", .value (.int 3)), ("tags", .value (.list [.int 1])),
      ("size", .value (.float .nan))]
    let n : SingleCriterion := ⟨"n", .equals, .null, [], .other⟩
    let tags : SingleCriterion := ⟨"tags", .equals, .null, [], .other⟩
    let size : SingleCriterion := ⟨"size", .equals, .null, [], .other⟩
    let single := fun c : SingleCriterion => answer (.ofWords []) ⟨[.ofSingle .and c]⟩ r
    let group := fun cs : List Container => answer (.ofWords []) ⟨[.ofGroup .and cs]⟩ r
    group (n.chain .equals .or .and [.null, .float (.ofInt 2), .uint 3, .text "x"]) = .ok true ∧
      group (n.chain .equals .or .and [.null, .text "x", .uint 3]) =
        .error (.evaluation (.incomparable .number .text)) ∧
      group (tags.chain .notEquals .and .or [.list [], .list [.int 1]]) = .ok false ∧
      group (size.chain .notEquals .and .or [.float .nan, .null]) = .ok true ∧
      single (n.asking .isIn (.uint 3)) = single (n.asking .isIn (.list [.uint 3])) ∧
      single (n.asking .isNotIn (.list [])) = .ok true := by
  intro r n tags size single group
  have hn : r.HoldsValue "n" := fun m h => ⟨_, by cases h; rfl⟩
  have htags : r.HoldsValue "tags" := fun m h => ⟨_, by cases h; rfl⟩
  have hsize : r.HoldsValue "size" := fun m h => ⟨_, by cases h; rfl⟩
  have hfound : single ⟨"n", .isIn, .list [.null, .float (.ofInt 2), .uint 3, .text "x"],
      [], .other⟩ = .ok true := by rfl
  have hfails : single ⟨"n", .isIn, .list [.null, .text "x", .uint 3], [], .other⟩ =
      .error (.evaluation (.incomparable .number .text)) := by rfl
  have hlist : single ⟨"tags", .isNotIn, .list [.list [], .list [.int 1]], [], .other⟩ =
      .ok false := by rfl
  have hnan : single ⟨"size", .isNotIn, .list [.float .nan, .null], [], .other⟩ =
      .ok true := by rfl
  refine ⟨?_, ?_, ?_, ?_, ?_, ?_⟩
  · have h := (answer_membership [] .and .and n rfl).1
      [.null, .float (.ofInt 2), .uint 3, .text "x"] (by simp) (by decide) r fun _ => hn
    exact h.1.symm.trans hfound
  · have h := (answer_membership [] .and .and n rfl).1 [.null, .text "x", .uint 3]
      (by simp) (by decide) r fun _ => hn
    exact h.1.symm.trans hfails
  · have h := (answer_membership [] .and .or tags rfl).1 [.list [], .list [.int 1]]
      (by simp) (by decide) r fun _ => htags
    exact h.2.symm.trans hlist
  · have h := (answer_membership [] .and .or size rfl).1 [.float .nan, .null]
      (by simp) (by decide) r fun _ => hsize
    exact h.2.symm.trans hnan
  · have h := (answer_membership [] .and .and n rfl).2.1 (.uint 3) nofun .isIn (.inl rfl)
    exact congrArg (fun compiled => compiled >>= _) h
  · have hfollow : r.follow "n" = .ok (.value (.int 3)) := by rfl
    have hfield : IsPath "n" := by decide
    exact ((answer_membership [] .and .and n rfl).2.2 r (.int 3) hfield hfollow).2

end FilterCriteria

end RecordSearch
