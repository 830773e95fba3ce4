/-
  RecordSearch.Proofs.Value.Coherent
  ──────────────────────────────────
  **The six comparisons fit together.**

  Equality has rules of its own for null and for lists, while the four orderings are read off the
  order of two values.  Where both are asked of the same values, they agree: they fail together, or
  the answers are those of one order (`Comparison.holdsIn`), in which no-number stands nowhere.

      compareMembers_of_null             — with null nothing fails, and only null equals null
      compareMembers_of_comparable       — the six answers by the order of the values
      compareMembers_converse            — each comparison read from the other side
      compareMembers_coherent            — all of this
-/
import RecordSearch.Expr.Eval
import RecordSearch.Proofs.Value.Order

namespace RecordSearch

/-! ## §1. Answers. -/

namespace Comparison

/-- The comparison that holds from the other side. -/
def converse : Comparison → Comparison
  | .equal => .equal
  | .notEqual => .notEqual
  | .greater => .less
  | .greaterOrEqual => .lessOrEqual
  | .less => .greater
  | .lessOrEqual => .greaterOrEqual

/-- Does the comparison hold of values in this order, or in none? -/
def holdsIn (c : Comparison) : Option Ordering → Bool
  | some o => c.accepts o
  | none => c == .notEqual

/-- Does the comparison hold of values one of which is null?  It matters whether both are. -/
def holdsOfNull (c : Comparison) (both : Bool) : Bool :=
  match c with
  | .equal => both
  | .notEqual => !both
  | _ => false

end Comparison

/-- **The answers of the six comparisons fit together**, of values that are in order or are not. -/
structure Coherent (inOrder : Bool) (answer : Comparison → Bool) : Prop where
  notEqual : answer .notEqual = !answer .equal
  lessOrEqual : answer .lessOrEqual = (answer .less || answer .equal)
  greaterOrEqual : answer .greaterOrEqual = (answer .greater || answer .equal)
  /-- Of values in order exactly one of the three holds. -/
  one : inOrder = true →
    ∃! c, (c = Comparison.less ∨ c = .equal ∨ c = .greater) ∧ answer c = true
  /-- Of other values nothing holds but that they are not equal. -/
  none : inOrder = false → ∀ c, answer c = true ↔ c = .notEqual

namespace Comparison

theorem holdsIn_swap (c : Comparison) (order : Option Ordering) :
    c.converse.holdsIn (order.map Ordering.swap) = c.holdsIn order := by
  cases order with
  | none => cases c <;> rfl
  | some o => cases c <;> cases o <;> rfl

theorem holdsOfNull_converse (c : Comparison) (both : Bool) :
    c.converse.holdsOfNull both = c.holdsOfNull both := by
  cases c <;> rfl

theorem coherent_holdsIn (order : Option Ordering) :
    Coherent order.isSome fun c => c.holdsIn order where
  notEqual := by
    cases order with
    | none => rfl
    | some o => cases o <;> rfl
  lessOrEqual := by
    cases order with
    | none => rfl
    | some o => cases o <;> rfl
  greaterOrEqual := by
    cases order with
    | none => rfl
    | some o => cases o <;> rfl
  one h := by
    obtain ⟨o, rfl⟩ := Option.isSome_iff_exists.mp h
    -- The comparison that the order is called by.
    cases o with
    | lt => exact ⟨.less, by decide, fun c => by cases c <;> decide⟩
    | eq => exact ⟨.equal, by decide, fun c => by cases c <;> decide⟩
    | gt => exact ⟨.greater, by decide, fun c => by cases c <;> decide⟩
  none h c := by
    obtain rfl := Option.isSome_eq_false_iff.mp h |> Option.isNone_iff_eq_none.mp
    exact beq_iff_eq

end Comparison

/-! ## §2. Values that are not null. -/

section Values

variable {a b : Value}

theorem equalValues_of_ne_null (ha : a.isNull = false) (hb : b.isNull = false)
    (hlist : ¬(a.kind = .list ∧ b.kind = .list)) :
    equalValues a b =
      if a.comparable b then .ok (a.compare? b == some .eq)
      else .error (.evaluation (.incomparable a.kind b.kind)) := by
  cases a <;> cases b <;> first
    | exact absurd ⟨rfl, rfl⟩ hlist
    | rfl
    | (cases ha; done)
    | cases hb

theorem orderedValues_of_ne_null (accepts : Ordering → Bool) (ha : a.isNull = false)
    (hb : b.isNull = false) :
    orderedValues accepts a b =
      if a.comparable b then .ok ((a.compare? b).any accepts)
      else .error (.evaluation (.incomparable a.kind b.kind)) := by
  rw [orderedValues, ha, hb]
  rfl

/-- **Values that may be compared answer by their order.** -/
theorem compareMembers_of_comparable (ha : a.isNull = false) (hb : b.isNull = false)
    (h : a.comparable b = true) (c : Comparison) :
    compareMembers c (.value a) (.value b) = .ok (c.holdsIn (a.compare? b)) := by
  have hlist : ¬(a.kind = .list ∧ b.kind = .list) :=
    fun hboth => (Value.comparable_iff.mp h).2 hboth.1
  have hequal : equalValues a b = .ok (a.compare? b == some .eq) := by
    rw [equalValues_of_ne_null ha hb hlist, if_pos h]
  have hordered (accepts : Ordering → Bool) :
      orderedValues accepts a b = .ok ((a.compare? b).any accepts) := by
    rw [orderedValues_of_ne_null accepts ha hb, if_pos h]
  show compareValues c a b = _
  unfold compareValues
  cases c with
  | equal =>
      dsimp only
      rw [hequal]
      cases a.compare? b <;> rfl
  | notEqual =>
      dsimp only
      rw [hequal]
      cases a.compare? b <;> rfl
  | _ =>
      dsimp only
      rw [hordered]
      cases a.compare? b <;> rfl

/-- Values that may not be compared fail in every comparison, but for the equality of lists. -/
theorem compareMembers_of_not_comparable (ha : a.isNull = false) (hb : b.isNull = false)
    (h : a.comparable b = false) {c : Comparison}
    (hlist : (c = .equal ∨ c = .notEqual) → ¬(a.kind = .list ∧ b.kind = .list)) :
    compareMembers c (.value a) (.value b) =
      .error (.evaluation (.incomparable a.kind b.kind)) := by
  have hnot : ¬a.comparable b = true := by rw [h]; decide
  have hordered (accepts : Ordering → Bool) :
      orderedValues accepts a b = .error (.evaluation (.incomparable a.kind b.kind)) := by
    rw [orderedValues_of_ne_null accepts ha hb, if_neg hnot]
  show compareValues c a b = _
  unfold compareValues
  cases c with
  | equal =>
      dsimp only
      rw [equalValues_of_ne_null ha hb (hlist (.inl rfl)), if_neg hnot]
  | notEqual =>
      dsimp only
      rw [equalValues_of_ne_null ha hb (hlist (.inr rfl)), if_neg hnot]
      rfl
  | _ => exact hordered _

/-! ## §3. Null. -/

/-- **With null nothing fails**: no ordering holds, and only null equals null. -/
theorem compareMembers_of_null (h : a.isNull = true ∨ b.isNull = true) (c : Comparison) :
    compareMembers c (.value a) (.value b) = .ok (c.holdsOfNull (a.isNull && b.isNull)) := by
  have hequal : equalValues a b = .ok (a.isNull && b.isNull) := by
    cases a <;> cases b <;> first | rfl | (rcases h with h | h <;> cases h)
  have hordered (accepts : Ordering → Bool) : orderedValues accepts a b = .ok false := by
    rw [orderedValues, if_pos (by simpa using h)]
  show compareValues c a b = _
  unfold compareValues
  cases c with
  | equal => exact hequal
  | notEqual =>
      dsimp only
      rw [hequal]
      rfl
  | _ => exact hordered _

/-! ## §4. The other side. -/

theorem Binary64.same_comm (x y : Binary64) :
    (y.compare? x == some .eq) = (x.compare? y == some .eq) := by
  rw [x.compare?_swap y]
  cases x.compare? y with
  | none => rfl
  | some o => cases o <;> rfl

mutual

/-- Sameness reads the same from either side. -/
theorem Value.same_comm : ∀ a b : Value, b.same a = a.same b
  | .null, b => by cases b <;> rfl
  | .bool _, b | .int _, b | .uint _, b | .text _, b | .uuid _, b | .dateTime _, b | .date _, b => by
      cases b <;> first | rfl | exact BEq.comm
  | .float x, b => by
      cases b with
      | float y => exact x.same_comm y
      | _ => rfl
  | .list as, b => by
      cases b with
      | list bs => exact Value.sameAll_comm as bs
      | _ => rfl

theorem Value.sameAll_comm : ∀ as bs : List Value, Value.sameAll bs as = Value.sameAll as bs
  | [], [] => rfl
  | [], _ :: _ => rfl
  | _ :: _, [] => rfl
  | a :: as, b :: bs => by
      rw [Value.sameAll, Value.sameAll, a.same_comm b, Value.sameAll_comm as bs]

end

/-- The equality of lists reads the same from either side, too. -/
theorem compareMembers_lists (as bs : List Value) {c : Comparison} (h : c = .equal ∨ c = .notEqual) :
    compareMembers c (.value (.list bs)) (.value (.list as)) =
      compareMembers c (.value (.list as)) (.value (.list bs)) := by
  have hequal : equalValues (.list bs) (.list as) = equalValues (.list as) (.list bs) :=
    congrArg Except.ok (Value.sameAll_comm as bs)
  rcases h with rfl | rfl
  · exact hequal
  · exact congrArg (Except.map (!·)) hequal

/-- **Each comparison holds where its converse holds from the other side**, and fails where it
fails. -/
theorem compareMembers_converse (c : Comparison) (a b : Value) :
    (compareMembers c.converse (.value b) (.value a)).toOption =
      (compareMembers c (.value a) (.value b)).toOption := by
  by_cases hnull : a.isNull = true ∨ b.isNull = true
  · rw [compareMembers_of_null hnull, compareMembers_of_null hnull.symm, Bool.and_comm,
      c.holdsOfNull_converse]
  · rw [not_or, Bool.not_eq_true, Bool.not_eq_true] at hnull
    obtain ⟨ha, hb⟩ := hnull
    cases hcomparable : a.comparable b with
    | true =>
        have hcomparable' := (Value.comparable_symm a b).trans hcomparable
        rw [compareMembers_of_comparable ha hb hcomparable,
          compareMembers_of_comparable hb ha hcomparable', Value.compare?_swap a b,
          c.holdsIn_swap]
    | false =>
        have hcomparable' := (Value.comparable_symm a b).trans hcomparable
        by_cases hlists : (c = .equal ∨ c = .notEqual) ∧ a.kind = .list ∧ b.kind = .list
        · obtain ⟨hc, hakind, hbkind⟩ := hlists
          have hconverse : c.converse = c := by rcases hc with rfl | rfl <;> rfl
          rw [hconverse]
          cases a with
          | list as =>
              cases b with
              | list bs => exact congrArg Except.toOption (compareMembers_lists as bs hc)
              | _ => cases hbkind
          | _ => cases hakind
        · have hconverse : (c.converse = .equal ∨ c.converse = .notEqual) →
              c = .equal ∨ c = .notEqual := by
            cases c <;> simp [Comparison.converse]
          rw [compareMembers_of_not_comparable ha hb hcomparable fun hc hboth => hlists ⟨hc, hboth⟩,
            compareMembers_of_not_comparable hb ha hcomparable' fun hc hboth =>
              hlists ⟨hconverse hc, hboth.symm⟩]
          rfl

/-! ## §5. Coherence. -/

/-- **The six comparisons fit together.**  With null nothing fails, the orderings do not hold, and
equality asks whether both are null.  Two other values, lists aside, are of different kinds, and all
six fail, or of one kind, and none does: then exactly one of less, equal and greater holds, or with
no-number only that they are not equal, and the other three comparisons are made of these.  From the
other side the converse comparisons answer the same, and fail where these do. -/
theorem compareMembers_coherent (a b : Value) :
    (a.isNull = true ∨ b.isNull = true → ∀ c, compareMembers c (.value a) (.value b) =
      .ok (c.holdsOfNull (a.isNull && b.isNull))) ∧
    (a.isNull = false → b.isNull = false → a.kind ≠ .list → b.kind ≠ .list →
      (a.kind ≠ b.kind ∧ ∀ c, compareMembers c (.value a) (.value b) =
        .error (.evaluation (.incomparable a.kind b.kind))) ∨
      (a.kind = b.kind ∧ ∃ answer : Comparison → Bool,
        (∀ c, compareMembers c (.value a) (.value b) = .ok (answer c)) ∧
        Coherent (!(a.isNaN || b.isNaN)) answer)) ∧
    ∀ c : Comparison, (compareMembers c.converse (.value b) (.value a)).toOption =
      (compareMembers c (.value a) (.value b)).toOption := by
  refine ⟨compareMembers_of_null, fun ha hb hakind hbkind => ?_, fun c =>
    compareMembers_converse c a b⟩
  by_cases hkind : a.kind = b.kind
  · have hcomparable := Value.comparable_iff.mpr ⟨hkind, hakind⟩
    refine .inr ⟨hkind, fun c => c.holdsIn (a.compare? b),
      compareMembers_of_comparable ha hb hcomparable, ?_⟩
    have hnone : a.compare? b = none ↔ a.isNaN = true ∨ b.isNaN = true := by
      simpa [hcomparable] using Value.compare?_eq_none_iff ha hb
    have hinOrder : (a.compare? b).isSome = !(a.isNaN || b.isNaN) := by
      rw [Bool.eq_iff_iff]
      simp [Option.isSome_iff_ne_none, hnone]
    rw [← hinOrder]
    exact Comparison.coherent_holdsIn _
  · have hcomparable : a.comparable b = false := by
      rw [Bool.eq_false_iff, ne_eq, Value.comparable_iff]
      exact fun h => hkind h.1
    exact .inl ⟨hkind, fun c =>
      compareMembers_of_not_comparable ha hb hcomparable fun _ hboth => hakind hboth.1⟩

end Values

/-- Null and a list, a text and a number, the ends of two ranges of integers, and no-number. -/
theorem compareMembers_coherent_mixed :
    (∀ c, compareMembers c (.value .null) (.value (.list [.null])) = .ok (c.holdsOfNull false)) ∧
    (∀ c, compareMembers c (.value (.text "1")) (.value (.int 1)) =
      .error (.evaluation (.incomparable .text .number))) ∧
    (∃ answer : Comparison → Bool, (∀ c, compareMembers c (.value (.int (-9223372036854775808)))
      (.value (.uint 18446744073709551615)) = .ok (answer c)) ∧ Coherent true answer) ∧
    ∃ answer : Comparison → Bool,
      (∀ c, compareMembers c (.value (.int 1)) (.value (.float .nan)) = .ok (answer c)) ∧
      Coherent false answer := by
  have hnull := (compareMembers_coherent .null (.list [.null])).1 (.inl rfl)
  have htext := (compareMembers_coherent (.text "1") (.int 1)).2.1 rfl rfl nofun nofun
  have hends := (compareMembers_coherent (.int (-9223372036854775808))
    (.uint 18446744073709551615)).2.1 rfl rfl nofun nofun
  have hnan := (compareMembers_coherent (.int 1) (.float .nan)).2.1 rfl rfl nofun nofun
  have hsame : Value.kind (.int 1) = Value.kind (.float .nan) := rfl
  have hNaN : (Value.float .nan).isNaN = true := by decide
  refine ⟨hnull, (htext.resolve_right fun h => nomatch h.1).2,
    (hends.resolve_left fun h => h.1 rfl).2, ?_⟩
  obtain ⟨answer, hanswer, hcoherent⟩ := (hnan.resolve_left fun h => h.1 hsame).2
  rw [hNaN] at hcoherent
  exact ⟨answer, hanswer, hcoherent⟩

end RecordSearch
