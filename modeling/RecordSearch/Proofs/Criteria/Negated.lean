/-
  RecordSearch.Proofs.Criteria.Negated
  ────────────────────────────────────
  **Negated operators answer the contrary.**

  An operator and its negation ask the same question of the same field.  They fail with the same
  errors and otherwise answer the contrary of each other, null and no-numbers included:

      FilterCriteria.answer           — what compiling a filter and evaluating its predicate comes to
      SingleCriterion.asks_negation   — the operators on one value
      RangeCriterion.asks_notBetween  — the operators on two bounds
      FilterCriteria.answer_negated   — both, as filters

  A range stands for two comparisons, and outside is not where inside is not: null stands in no
  order, so it is neither inside nor outside, and nothing is on either side of a bound that is null
  or no number.  Where the field and the bounds are definite values, an order that does not hold is
  the contrary of one that does.
-/
import RecordSearch.Proofs.Criteria.Evaluated
import RecordSearch.Proofs.Outcome
import RecordSearch.Proofs.Value.Order

namespace RecordSearch

variable {r : Record}

/-! ## §1. Answers. -/

/-- **What a filter answers on a record**: it is compiled, and its predicate is evaluated.  Without
a predicate the answer is yes. -/
def FilterCriteria.answer (d : Dialect) (f : FilterCriteria) (r : Record) :
    Except SearchError Bool := do
  match ← f.compile d with
  | none => return true
  | some p => evaluate p.text p.parameters r

theorem FilterCriteria.WellFormed.answer_eq_meaning {words : List String} {f : FilterCriteria}
    (h : f.WellFormed) (hsize : (operandsOfAll f.containers).length ≤ UInt64.size) (r : Record) :
    f.answer (.ofWords words) r = f.meaning r := by
  obtain ⟨text, hcompile, -⟩ := h.compile_eq_ok words
  unfold answer
  rw [hcompile]
  exact FilterCriteria.evaluate_of_compile hcompile hsize r

theorem FilterCriteria.answer_of_render {d : Dialect} {c : Container} {e : SearchError}
    (h : c.render d 0 = .error e) (r : Record) : FilterCriteria.answer d ⟨[c]⟩ r = .error e := by
  unfold answer FilterCriteria.compile
  dsimp only
  rw [h]
  rfl

/-- A filter of one container asks only for that container. -/
theorem FilterCriteria.meaning_singleton (c : Container) (r : Record) :
    FilterCriteria.meaning ⟨[c]⟩ r = c.meaning r := by
  show (runs [(c.logic, c.meaning r)]).anyM (fun run => run.allM id) = c.meaning r
  rw [runs_cons]
  show (Except.bind (Except.bind (c.meaning r) _) _) = _
  cases c.meaning r with
  | error e => rfl
  | ok b => cases b <;> rfl

/-! ## §2. Questions about one field. -/

/-- The question is asked of what the field holds, if its path can be written. -/
def askField (d : Dialect) (field : String) (question : Member → Except SearchError Bool)
    (r : Record) : Except SearchError Bool := do
  let _ ← d.renderPath .filter field
  question (← r.follow field)

/-- A question that answers the contrary of another one does so of every field. -/
theorem askField_not {d : Dialect} {field : String}
    {question contrary : Member → Except SearchError Bool}
    (h : ∀ m, r.follow field = .ok m → contrary m = (question m).map (!·)) :
    askField d field contrary r = (askField d field question r).map (!·) := by
  unfold askField
  cases d.renderPath .filter field with
  | error e => rfl
  | ok text =>
      cases hfollow : r.follow field with
      | error e => rfl
      | ok m => exact h m hfollow

/-- **A container that asks of one field** is asked where its path can be written. -/
theorem FilterCriteria.answer_singleton {words : List String} {c : Container} {field : String}
    {question : Member → Except SearchError Bool}
    (hrender : ∀ e, (Dialect.ofWords words).renderPath .filter field = .error e →
      c.render (.ofWords words) 0 = .error e)
    (hwf : IsPath field → c.WellFormed) (hoperands : c.operands.length ≤ UInt64.size)
    (hmeaning : IsPath field → c.meaning r = r.follow field >>= question) :
    FilterCriteria.answer (.ofWords words) ⟨[c]⟩ r =
      askField (.ofWords words) field question r := by
  unfold askField
  -- Compiling fails with the path, before anything is asked.
  cases hpath : (Dialect.ofWords words).renderPath .filter field with
  | error e => exact answer_of_render (hrender e hpath) r
  | ok text =>
      have hfield := Dialect.isPath_of_renderPath hpath
      have hc := hwf hfield
      have hf : FilterCriteria.WellFormed ⟨[c]⟩ :=
        ⟨by simp, fun x hx => by rwa [List.mem_singleton.mp hx]⟩
      have hsize : (operandsOfAll [c]).length ≤ UInt64.size := by
        show (c.operands ++ []).length ≤ UInt64.size
        rwa [List.append_nil]
      rw [hf.answer_eq_meaning hsize, FilterCriteria.meaning_singleton, hmeaning hfield]
      rfl

theorem renderCriterion_eq_error {d : Dialect} {field : String} {clause : String → String}
    {e : SearchError} (h : d.renderPath .filter field = .error e) :
    renderCriterion d field [] clause = .error e := by
  unfold renderCriterion
  rw [h]
  rfl

theorem FilterCriteria.answer_single (words : List String) (logic : Connective)
    {c : SingleCriterion} (hc : c.collection = []) (r : Record) :
    FilterCriteria.answer (.ofWords words) ⟨[.ofSingle logic c]⟩ r =
      askField (.ofWords words) c.field c.asks r := by
  refine answer_singleton (fun e he => ?_) (fun hpath => ?_) ?_ fun _ => ?_
  · rw [Container.ofSingle, Container.render, hc]
    exact renderCriterion_eq_error he
  · exact .single logic c hpath (by rw [hc]; exact nofun)
  · show c.operands.length ≤ UInt64.size
    unfold SingleCriterion.operands
    cases c.operator.test <;> simp [UInt64.size]
  · rw [Container.ofSingle, Container.meaning, hc]
    rfl

theorem FilterCriteria.answer_range (words : List String) (logic : Connective)
    {c : RangeCriterion} (hc : c.collection = []) (r : Record) :
    FilterCriteria.answer (.ofWords words) ⟨[.ofRange logic c]⟩ r =
      askField (.ofWords words) c.field c.asks r := by
  refine answer_singleton (fun e he => ?_) (fun hpath => ?_) ?_ fun _ => ?_
  · rw [Container.ofRange, Container.render, hc]
    exact renderCriterion_eq_error he
  · exact .range logic c hpath (by rw [hc]; exact nofun)
  · show 2 ≤ UInt64.size
    decide
  · rw [Container.ofRange, Container.meaning, hc]
    rfl

/-! ## §3. Operators on one value. -/

/-- The operator that asks for the contrary, where there is one. -/
def Operator.negation? : Operator → Option Operator
  | .equals => some .notEquals
  | .isNull => some .isNotNull
  | .isIn => some .isNotIn
  | .startsWith => some .doesNotStartWith
  | .endsWith => some .doesNotEndWith
  | .contains => some .doesNotContain
  | _ => none

/-- **A negated operator answers the contrary**, whatever the field holds. -/
theorem SingleCriterion.asks_negation {c : SingleCriterion} {negated : Operator}
    (h : c.operator.negation? = some negated) (m : Member) :
    SingleCriterion.asks { c with operator := negated } m = (c.asks m).map (!·) := by
  obtain ⟨field, operator, value, collection, kind⟩ := c
  -- The meanings of the six negated operators are those of the operators, reversed.
  cases operator <;> cases h <;> rfl

/-! ## §4. Operators on two bounds. -/

namespace Value

variable {a b : Value}

/-- An order that does not hold of definite values is the contrary of one that does. -/
theorem IsDefinite.isOrdered_not {orders others : List Ordering} (ha : a.IsDefinite)
    (hb : b.IsDefinite) (h : ∀ o, others.contains o = !orders.contains o) :
    a.isOrdered others b = (a.isOrdered orders b).map (!·) := by
  have hnull : ¬(a.isNull ∨ b.isNull) := by simp [ha.1, hb.1]
  unfold isOrdered ordering
  rw [if_neg hnull, if_neg hnull]
  by_cases hkind : a.kind = b.kind ∧ a.kind ≠ .list
  · obtain ⟨o, ho⟩ := ha.exists_compare? hb hkind.1 hkind.2
    rw [if_pos hkind, ho]
    exact congrArg Except.ok (h o)
  · rw [if_neg hkind]
    rfl

end Value

/-- The same for what a field holds; records and collections are in no order. -/
theorem Member.isOrdered_not {m : Member} {b : Value} {orders others : List Ordering}
    (hm : ∀ v, m = .value v → v.IsDefinite) (hb : b.IsDefinite)
    (h : ∀ o, others.contains o = !orders.contains o) :
    m.isOrdered others b = (m.isOrdered orders b).map (!·) := by
  cases m with
  | value a => exact (hm a rfl).isOrdered_not hb h
  | record members =>
      cases b with
      | null => cases hb.1
      | _ => rfl
  | records elements => rfl

/-- **Outside of a range is where inside is not**, if all that is compared is definite. -/
theorem RangeCriterion.asks_notBetween {field : String} {start stop : Value}
    {collection : List String} {m : Member} (hm : ∀ v, m = .value v → v.IsDefinite)
    (hstart : start.IsDefinite) (hstop : stop.IsDefinite) :
    RangeCriterion.asks ⟨field, .notBetween, start, stop, collection⟩ m =
      (RangeCriterion.asks ⟨field, .between, start, stop, collection⟩ m).map (!·) := by
  have hlower : m.isOrdered [.lt] start = (m.isOrdered [.gt, .eq] start).map (!·) :=
    Member.isOrdered_not hm hstart (by decide)
  have hupper : m.isOrdered [.gt] stop = (m.isOrdered [.lt, .eq] stop).map (!·) :=
    Member.isOrdered_not hm hstop (by decide)
  unfold RangeCriterion.asks
  dsimp only
  rw [hlower, hupper]
  -- Both ask for the lower bound first, and for the upper one in the same cases.
  cases m.isOrdered [.gt, .eq] start with
  | error e => rfl
  | ok above => cases above <;> rfl

/-! ## §5. Filters. -/

/-- **Negated operators answer the contrary.**  Of every record, a filter of one criterion and the
filter of its negation fail with the same error or answer the contrary of each other: on one value
always, and on two bounds where these and the value of the field, if it holds one, are definite. -/
theorem FilterCriteria.answer_negated (words : List String) (logic : Connective) (r : Record) :
    (∀ (c : SingleCriterion) (negated : Operator), c.collection = [] →
      c.operator.negation? = some negated →
      FilterCriteria.answer (.ofWords words) ⟨[.ofSingle logic { c with operator := negated }]⟩ r =
        (FilterCriteria.answer (.ofWords words) ⟨[.ofSingle logic c]⟩ r).map (!·)) ∧
    (∀ (field : String) (start stop : Value), start.IsDefinite → stop.IsDefinite →
      (∀ v, r.follow field = .ok (.value v) → v.IsDefinite) →
      FilterCriteria.answer (.ofWords words)
          ⟨[.ofRange logic ⟨field, .notBetween, start, stop, []⟩]⟩ r =
        (FilterCriteria.answer (.ofWords words)
          ⟨[.ofRange logic ⟨field, .between, start, stop, []⟩]⟩ r).map (!·)) := by
  constructor
  · intro c negated hc hnegated
    have hcontrary : ({ c with operator := negated } : SingleCriterion).collection = [] := hc
    rw [answer_single words logic hc, answer_single words logic hcontrary]
    exact askField_not fun m _ => SingleCriterion.asks_negation hnegated m
  · intro field start stop hstart hstop hfield
    rw [answer_range words logic rfl, answer_range words logic rfl]
    refine askField_not fun m hm => RangeCriterion.asks_notBetween ?_ hstart hstop
    rintro v rfl
    exact hfield v hm

/-- Null that is matched as empty text, a number that is none, a number between bounds of other
constructors, and a text that is compared with numbers. -/
theorem FilterCriteria.answer_negated_null_nan_mixed :
    let r : Record := [("name", .value .null), ("size", .value (.float .nan)),
      ("or", .value (.int 7)), ("code", .value (.text "k"))]
    let single := fun c : SingleCriterion =>
      FilterCriteria.answer (.ofWords []) ⟨[.ofSingle .or c]⟩ r
    let range := fun c : RangeCriterion =>
      FilterCriteria.answer (.ofWords []) ⟨[.ofRange .or c]⟩ r
    single ⟨"name", .contains, .text "b", [], .text⟩ = .ok false ∧
      single ⟨"name", .doesNotContain, .text "b", [], .text⟩ = .ok true ∧
      single ⟨"size", .equals, .float .nan, [], .other⟩ = .ok false ∧
      single ⟨"size", .notEquals, .float .nan, [], .other⟩ = .ok true ∧
      range ⟨"or", .between, .uint 1, .float (.ofInt 8), []⟩ = .ok true ∧
      range ⟨"or", .notBetween, .uint 1, .float (.ofInt 8), []⟩ = .ok false ∧
      range ⟨"code", .notBetween, .uint 1, .int 8, []⟩ =
        .error (.evaluation (.incomparable .text .number)) := by
  intro r single range
  have hname : single ⟨"name", .contains, .text "b", [], .text⟩ = .ok false := by rfl
  have hsize : single ⟨"size", .equals, .float .nan, [], .other⟩ = .ok false := by rfl
  have hor : range ⟨"or", .between, .uint 1, .float (.ofInt 8), []⟩ = .ok true := by rfl
  have hcode : range ⟨"code", .between, .uint 1, .int 8, []⟩ =
      .error (.evaluation (.incomparable .text .number)) := by rfl
  have hnegated := FilterCriteria.answer_negated [] .or r
  have hseven : ∀ v, r.follow "or" = .ok (.value v) → v.IsDefinite := by
    rintro v ⟨⟩
    decide
  have hletter : ∀ v, r.follow "code" = .ok (.value v) → v.IsDefinite := by
    rintro v ⟨⟩
    decide
  refine ⟨hname, ?_, hsize, ?_, hor, ?_, ?_⟩
  · exact (hnegated.1 ⟨"name", .contains, .text "b", [], .text⟩ _ rfl rfl).trans
      (congrArg (Except.map (!·)) hname)
  · exact (hnegated.1 ⟨"size", .equals, .float .nan, [], .other⟩ _ rfl rfl).trans
      (congrArg (Except.map (!·)) hsize)
  · exact (hnegated.2 _ _ _ (by decide) (by decide) hseven).trans
      (congrArg (Except.map (!·)) hor)
  · exact (hnegated.2 _ _ _ (by decide) (by decide) hletter).trans
      (congrArg (Except.map (!·)) hcode)

end RecordSearch
