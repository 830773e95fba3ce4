/-
  RecordSearch.Proofs.Criteria.Typed
  ──────────────────────────────────
  **Filters that fit a schema never fail.**

  A filter fits a schema when its collection paths lead to collections, its field paths to scalars
  and its operands are ones that can be compared with these (`Container.Fits`); a test for null may
  also be made of a nested record.  Asked of a record that shows the schema, each question that such
  a filter asks is answered with a truth value:

      ScalarType.Admits.isEqual, isOrdered  — comparisons of two values that a scalar admits
      SingleCriterion.Fits.asks             — the sixteen operators
      insideAll_succeeds                    — collections, under nested records that may be null
      FilterCriteria.Fits.meaning           — all containers, and so all runs
-/
import RecordSearch.Proofs.Criteria.Evaluated
import RecordSearch.Proofs.Criteria.Failing
import RecordSearch.Proofs.Schema.Shown

namespace RecordSearch

/-! ## §1. Filters that fit. -/

/-- The value can be an operand for a scalar of the type: null, or one of its kind. -/
def ScalarType.Admits (t : ScalarType) (v : Value) : Prop := v = .null ∨ v.kind = t.valueKind

/-- The criterion can be put on a field of the type. -/
def SingleCriterion.Fits (c : SingleCriterion) (t : FieldType) : Prop :=
  match c.operator.test, t with
  | .isNull _, .scalar _ _ => True
  | .isNull _, .nested _ _ => True
  | .comparison _, .scalar t _ => t.Admits c.value
  | .membership _, .scalar t _ => ∀ v ∈ c.items, t.Admits v
  | .pattern _ _, .scalar t _ => c.value.kind = .text ∧ (c.kind = .text → t = .text)
  | _, _ => False

/-- The range can be put on a field of the type. -/
def RangeCriterion.Fits (c : RangeCriterion) (t : FieldType) : Prop :=
  match t with
  | .scalar t _ => t.Admits c.start ∧ t.Admits c.stop
  | _ => False

/-- **The container fits the schema**, at every depth. -/
inductive Container.Fits (s : Schema) : Container → Prop where
  | single (logic : Connective) (c : SingleCriterion) {fields : Schema} {t : FieldType}
      (hinside : s.inside? c.collection = some fields) (hfield : fields.follow? c.field = some t)
      (hfits : c.Fits t) : Fits s (.ofSingle logic c)
  | range (logic : Connective) (c : RangeCriterion) {fields : Schema} {t : FieldType}
      (hinside : s.inside? c.collection = some fields) (hfield : fields.follow? c.field = some t)
      (hfits : c.Fits t) : Fits s (.ofRange logic c)
  | group (logic : Connective) (containers : List Container)
      (h : ∀ c ∈ containers, Fits s c) : Fits s (.ofGroup logic containers)

/-- All containers of the filter fit the schema. -/
def FilterCriteria.Fits (f : FilterCriteria) (s : Schema) : Prop := ∀ c ∈ f.containers, c.Fits s

/-! ## §2. Outcomes. -/

/-- The question is answered with a truth value. -/
def Succeeds (outcome : Except SearchError Bool) : Prop := ∃ b, outcome = .ok b

theorem succeeds_ok (b : Bool) : Succeeds (.ok b) := ⟨b, rfl⟩

/-- A question is answered when nothing can go wrong with it. -/
theorem succeeds_iff {outcome : Except SearchError Bool} :
    Succeeds outcome ↔ FailsOnly (fun _ => False) outcome := by
  constructor
  · rintro ⟨b, rfl⟩
    exact .ok b
  · intro h
    cases outcome with
    | ok b => exact succeeds_ok b
    | error e => exact (h e rfl).elim

namespace Succeeds

theorem map {outcome : Except SearchError Bool} (h : Succeeds outcome) (f : Bool → Bool) :
    Succeeds (outcome.map f) := by
  obtain ⟨b, rfl⟩ := h
  exact ⟨f b, rfl⟩

theorem ite {first second third : Except SearchError Bool} (h : Succeeds first)
    (hsecond : Succeeds second) (hthird : Succeeds third) :
    Succeeds (do if ← first then second else third) := by
  obtain ⟨b, rfl⟩ := h
  cases b with
  | true => exact hsecond
  | false => exact hthird

theorem anyM {α : Type} {test : α → Except SearchError Bool} {l : List α}
    (h : ∀ x ∈ l, Succeeds (test x)) : Succeeds (l.anyM test) :=
  succeeds_iff.mpr (.anyM fun x hx => succeeds_iff.mp (h x hx))

end Succeeds

theorem someRun_succeeds {outcomes : List (Connective × Except SearchError Bool)}
    (h : ∀ part ∈ outcomes, Succeeds part.2) : Succeeds (someRun outcomes) :=
  succeeds_iff.mpr (.someRun fun part hpart => succeeds_iff.mp (h part hpart))

/-! ## §3. Values. -/

namespace ScalarType.Admits

variable {t : ScalarType} {a b : Value}

theorem null (t : ScalarType) : t.Admits .null := .inl rfl

theorem ordering (ha : a.kind = t.valueKind) (hb : b.kind = t.valueKind) :
    a.ordering b = .ok (a.compare? b) := by
  have hlist : t.valueKind ≠ .list := by cases t <;> simp [ScalarType.valueKind]
  exact if_pos ⟨ha.trans hb.symm, ha ▸ hlist⟩

theorem isEqual (ha : t.Admits a) (hb : t.Admits b) : Succeeds (a.isEqual b) := by
  unfold Value.isEqual
  split
  · exact succeeds_ok _
  · exact succeeds_ok _
  · exact succeeds_ok _
  · next hnull hnull' _ =>
      rw [ordering (ha.resolve_left hnull) (hb.resolve_left hnull')]
      exact succeeds_ok _

theorem isOrdered (ha : t.Admits a) (hb : t.Admits b) (orders : List Ordering) :
    Succeeds (a.isOrdered orders b) := by
  unfold Value.isOrdered
  split
  · exact succeeds_ok _
  · next h =>
      obtain ⟨hnull, hnull'⟩ := not_or.mp h
      rw [ordering (ha.resolve_left fun h => hnull (by rw [h]; rfl))
        (hb.resolve_left fun h => hnull' (by rw [h]; rfl))]
      exact succeeds_ok _

end ScalarType.Admits

/-! ## §4. Fields. -/

/-- What is found for a scalar is a value that its type admits: null at the end of the path, or
early. -/
theorem FieldType.Holds.exists_value {t : ScalarType} {isOptional : Bool} {m : Member}
    (h : m = .value .null ∨ (FieldType.scalar t isOptional).Holds m) :
    ∃ v, m = .value v ∧ t.Admits v := by
  rcases h with rfl | h
  · exact ⟨.null, rfl, .null t⟩
  · cases h with
    | absentScalar => exact ⟨.null, rfl, .null t⟩
    | scalar _ hkind => exact ⟨_, rfl, .inr hkind⟩

theorem Pattern.matchesValue_text (p : Pattern) (s : String) {operand : Value}
    (h : operand.kind = .text) : Succeeds (p.matchesValue (.text s) operand) := by
  cases operand with
  | text pattern => exact succeeds_ok _
  | _ => cases h

namespace SingleCriterion

variable {c : SingleCriterion} {t : ScalarType} {v : Value}

/-- A pattern is asked of a text: null counts as empty, and what is no text is written as one. -/
theorem matchesPattern_succeeds (hoperand : c.value.kind = .text)
    (hkind : c.kind = .text → t = .text) (hv : t.Admits v) (p : Pattern) :
    Succeeds (c.matchesPattern p (.value v)) := by
  unfold matchesPattern
  cases hk : c.kind with
  | other => exact p.matchesValue_text _ hoperand
  | text =>
      obtain rfl := hkind hk
      cases v with
      | null => exact p.matchesValue_text _ hoperand
      | text s => exact p.matchesValue_text s hoperand
      | _ => rcases hv with hv | hv <;> cases hv

theorem isAmongItems_succeeds (hitems : ∀ item ∈ c.items, t.Admits item) (hv : t.Admits v) :
    Succeeds (c.isAmongItems (.value v)) :=
  .anyM fun item hitem => hv.isEqual (hitems item hitem)

/-- **What the operator asks of a scalar is answered.** -/
theorem Fits.asks_scalar {isOptional : Bool} (h : c.Fits (.scalar t isOptional))
    (hv : t.Admits v) : Succeeds (c.asks (.value v)) := by
  unfold SingleCriterion.Fits at h
  unfold SingleCriterion.asks
  cases ho : c.operator <;> rw [ho] at h
  case equals => exact hv.isEqual h
  case notEquals => exact (hv.isEqual h).map _
  case greaterThan => exact hv.isOrdered h _
  case greaterThanOrEqualTo => exact hv.isOrdered h _
  case lessThan => exact hv.isOrdered h _
  case lessThanOrEqualTo => exact hv.isOrdered h _
  case isNull => exact hv.isEqual (.null t)
  case isNotNull => exact (hv.isEqual (.null t)).map _
  case startsWith => exact matchesPattern_succeeds h.1 h.2 hv _
  case endsWith => exact matchesPattern_succeeds h.1 h.2 hv _
  case contains => exact matchesPattern_succeeds h.1 h.2 hv _
  case doesNotStartWith => exact (matchesPattern_succeeds h.1 h.2 hv _).map _
  case doesNotEndWith => exact (matchesPattern_succeeds h.1 h.2 hv _).map _
  case doesNotContain => exact (matchesPattern_succeeds h.1 h.2 hv _).map _
  case isIn => exact isAmongItems_succeeds h hv
  case isNotIn => exact (isAmongItems_succeeds h hv).map _

/-- A nested record can only be asked whether it is there. -/
theorem Fits.asks_nested {fields : Schema} {isOptional : Bool} {m : Member}
    (h : c.Fits (.nested fields isOptional))
    (hm : m = .value .null ∨ (FieldType.nested fields isOptional).Holds m) :
    Succeeds (c.asks m) := by
  have hnull : Succeeds (m.isEqual .null) := by
    rcases hm with rfl | hm
    · exact succeeds_ok _
    · cases hm <;> exact succeeds_ok _
  unfold SingleCriterion.Fits at h
  unfold SingleCriterion.asks
  cases ho : c.operator <;> rw [ho] at h
  case isNull => exact hnull
  case isNotNull => exact hnull.map _
  all_goals exact absurd h id

/-- **What the operator asks is answered** where the path leads in the record. -/
theorem Fits.asks {u : FieldType} {m : Member} (h : c.Fits u) (hm : m = .value .null ∨ u.Holds m) :
    Succeeds (c.asks m) := by
  cases u with
  | scalar t isOptional =>
      obtain ⟨v, rfl, hv⟩ := FieldType.Holds.exists_value hm
      exact h.asks_scalar hv
  | nested fields isOptional => exact h.asks_nested hm
  | collection | skipped =>
      unfold SingleCriterion.Fits at h
      cases ho : c.operator <;> rw [ho] at h <;> exact absurd h id

end SingleCriterion

theorem RangeCriterion.Fits.asks {c : RangeCriterion} {u : FieldType} {m : Member} (h : c.Fits u)
    (hm : m = .value .null ∨ u.Holds m) : Succeeds (c.asks m) := by
  cases u with
  | scalar t isOptional =>
      obtain ⟨v, rfl, hv⟩ := FieldType.Holds.exists_value hm
      obtain ⟨hstart, hstop⟩ := h
      unfold RangeCriterion.asks
      cases c.operator with
      | between => exact .ite (hv.isOrdered hstart _) (hv.isOrdered hstop _) (succeeds_ok false)
      | notBetween => exact .ite (hv.isOrdered hstart _) (succeeds_ok true) (hv.isOrdered hstop _)
  | nested | collection | skipped => exact absurd h id

/-! ## §5. Collections. -/

/-- The induction goes inwards, as `Schema.inside?` does. -/
theorem insideAll_succeeds {test : Record → Except SearchError Bool} {fields : Schema}
    (htest : ∀ r, fields.Shows r → Succeeds (test r)) {paths : List String} :
    ∀ {s : Schema} {r : Record}, s.inside? paths = some fields → s.Shows r →
      Succeeds (insideAll test paths r) := by
  induction paths with
  | nil =>
      intro s r hinside hr
      cases hinside
      exact htest r hr
  | cons path paths ih =>
      intro s r hinside hr
      unfold Schema.inside? at hinside
      split at hinside
      · next elementFields hfollow =>
          obtain ⟨m, hm, hend⟩ := hr.follow hfollow
          unfold insideAll
          rw [hm]
          rcases hend with rfl | hholds
          · exact succeeds_ok false
          · cases hholds with
            | records helements =>
                exact .anyM fun element helement => ih hinside (helements element helement)
      · cases hinside

/-! ## §6. Filters. -/

theorem someRun_meanings_succeeds {r : Record} {cs : List Container}
    (h : ∀ c ∈ cs, Succeeds (c.meaning r)) : Succeeds (someRun (meaningsOfAll r cs)) := by
  refine someRun_succeeds fun part hpart => ?_
  rw [meaningsOfAll_eq_map] at hpart
  obtain ⟨c, hc, rfl⟩ := List.mem_map.mp hpart
  exact h c hc

/-- A field that is found is asked; nothing goes wrong on the way to it. -/
theorem Schema.Shows.asks {fields : Schema} {field : String} {t : FieldType}
    (hfield : fields.follow? field = some t) {asks : Member → Except SearchError Bool}
    (h : ∀ m, (m = .value .null ∨ t.Holds m) → Succeeds (asks m)) (r : Record)
    (hr : fields.Shows r) : Succeeds (r.follow field >>= asks) := by
  obtain ⟨m, hm, hend⟩ := hr.follow hfield
  rw [hm]
  exact h m hend

theorem Container.Fits.meaning {s : Schema} {r : Record} (hr : s.Shows r) {c : Container}
    (h : c.Fits s) : Succeeds (c.meaning r) := by
  induction h with
  | single logic c hinside hfield hfits =>
      show Succeeds (Container.meaning r ⟨logic, some c, none, none⟩)
      rw [Container.meaning]
      exact insideAll_succeeds (Schema.Shows.asks hfield fun m hm => hfits.asks hm) hinside hr
  | range logic c hinside hfield hfits =>
      show Succeeds (Container.meaning r ⟨logic, none, some c, none⟩)
      rw [Container.meaning]
      exact insideAll_succeeds (Schema.Shows.asks hfield fun m hm => hfits.asks hm) hinside hr
  | group logic containers h ih =>
      show Succeeds (Container.meaning r ⟨logic, none, none, some containers⟩)
      rw [Container.meaning]
      exact someRun_meanings_succeeds ih

/-- **A filter that fits the schema is answered** on each record that shows it. -/
theorem FilterCriteria.Fits.meaning {f : FilterCriteria} {s : Schema} (h : f.Fits s) {r : Record}
    (hr : s.Shows r) : Succeeds (f.meaning r) :=
  someRun_meanings_succeeds fun c hc => (h c hc).meaning hr

/-- **Well-typed filters never fail.**  A well-formed filter that fits a schema compiles, and on
every record that shows the schema its predicate evaluates to a truth value. -/
theorem FilterCriteria.WellFormed.evaluate_of_fits (words : List String) {f : FilterCriteria}
    (h : f.WellFormed) {s : Schema} (hfits : f.Fits s) :
    ∃ p, f.compile (.ofWords words) = .ok (some p) ∧
      (p.parameters.length ≤ UInt64.size →
        ∀ r, s.Shows r → ∃ b, evaluate p.text p.parameters r = .ok b) := by
  obtain ⟨text, hcompile, hwritten⟩ := h.compile_eq_ok words
  refine ⟨_, hcompile, fun hlength r hr => ?_⟩
  unfold evaluate
  rw [(hwritten hlength).parsePredicate]
  show Succeeds ((f.tree .numbered).holds _ r)
  rw [f.holds_tree r]
  exact hfits.meaning hr

/-- A range on a scalar of a record that is null, a pattern on a text that is null, a list with null
among its items on elements that hold no-number, and a collection under the absent record. -/
theorem FilterCriteria.WellFormed.evaluate_of_fits_absent :
    let s : Schema := [("name", "name", .scalar .text true),
      ("owner", "owner", .nested [("age", "age", .scalar (.signed 32) false),
        ("pets", "pets", .collection [("name", "name", .scalar .text false)])] true),
      ("parts", "parts", .collection [("weight", "weight", .scalar .double false)])]
    let f : FilterCriteria := ⟨[
      .ofRange .and ⟨"owner.age", .notBetween, .uint 3, .float .nan, []⟩,
      .ofGroup .or [
        .ofSingle .and ⟨"name", .doesNotContain, .text "b", [], .text⟩,
        .ofSingle .and ⟨"weight", .isNotIn, .list [.null, .int 1], ["parts"], .other⟩],
      .ofSingle .or ⟨"name", .startsWith, .text "", ["owner.pets"], .text⟩]⟩
    let r : Record := [("name", .value .null), ("owner", .value .null),
      ("parts", .records [[("weight", .value (.float .nan))]])]
    f.WellFormed ∧ f.Fits s ∧ s.Shows r ∧
      ∃ p b, f.compile (.ofWords []) = .ok (some p) ∧ evaluate p.text p.parameters r = .ok b := by
  intro s f r
  have h : f.WellFormed := by
    refine ⟨by simp [f], fun c hc => ?_⟩
    simp only [f, List.mem_cons, List.not_mem_nil, or_false] at hc
    rcases hc with rfl | rfl | rfl
    · exact .range _ _ (by decide) (by decide)
    · refine .group _ _ (by simp) fun c hc => ?_
      simp only [List.mem_cons, List.not_mem_nil, or_false] at hc
      rcases hc with rfl | rfl
      · exact .single _ _ (by decide) (by decide)
      · exact .single _ _ (by decide) (by decide)
    · exact .single _ _ (by decide) (by decide)
  have hfits : f.Fits s := by
    intro c hc
    simp only [f, List.mem_cons, List.not_mem_nil, or_false] at hc
    rcases hc with rfl | rfl | rfl
    · exact .range _ _ rfl rfl ⟨.inr rfl, .inr rfl⟩
    · refine .group _ _ fun c hc => ?_
      simp only [List.mem_cons, List.not_mem_nil, or_false] at hc
      rcases hc with rfl | rfl
      · exact .single _ _ rfl rfl ⟨rfl, fun _ => rfl⟩
      · refine .single _ _ rfl rfl fun v hv => ?_
        simp only [SingleCriterion.items, List.mem_cons, List.not_mem_nil, or_false] at hv
        rcases hv with rfl | rfl
        · exact .inl rfl
        · exact .inr rfl
    · exact .single _ _ rfl rfl ⟨rfl, fun _ => rfl⟩
  have hr : s.Shows r := by
    refine .cons (.cons (.cons (.nil _) _ _ (.records fun element helement => ?_)) _ _
      (.absentRecord _ _)) _ _ (.absentScalar _ _)
    obtain rfl := List.mem_singleton.mp helement
    exact .cons (.nil _) _ _ (.scalar _ rfl)
  obtain ⟨p, hcompile, hevaluate⟩ := h.evaluate_of_fits [] hfits
  have hlength : p.parameters.length ≤ UInt64.size := by
    rw [FilterCriteria.parameters_of_compile hcompile]
    decide
  obtain ⟨b, hb⟩ := hevaluate hlength r hr
  exact ⟨h, hfits, hr, p, b, hcompile, hb⟩

end RecordSearch
