/-
  RecordSearch.Proofs.Rows.NumberOrder
  ────────────────────────────────────
  **How far numbers are in order.**

  Two integers are compared exactly, and an integer with a floating-point number as it is rounded.
  Each of the two is an order, but they are not one order: integers beyond 2^53 that round to the
  same number tie with that number and not with each other (`Value.RoundTogether`).  Nothing else
  breaks the order of nulls and numbers:

      Direction.order_swap           — the order reads the same from either side
      Direction.order_trans          — it is transitive but for such integers
      Value.RoundTogether.beyond     — one of which is beyond 2^53
-/
import RecordSearch.Proofs.Rows.SortKeys

namespace RecordSearch

/-! ## §1. Nulls and numbers. -/

namespace Value

/-- Is the value null or a number? -/
def isNumeric (v : Value) : Bool := v.isNull || v.kind = .number

/-- The value with an integer made a floating-point number. -/
def rounded (v : Value) : Value :=
  match v.integer? with
  | some n => .float (.ofInt n)
  | none => v

/-- Two integers that differ are rounded to the same floating-point number, the second value. -/
def RoundTogether (a b c : Value) : Prop :=
  ∃ m n x, a.integer? = some m ∧ b = .float x ∧ c.integer? = some n ∧ m ≠ n ∧
    (Binary64.ofInt m).compare? x = some .eq ∧ (Binary64.ofInt n).compare? x = some .eq

theorem isNumeric_of_integer? {v : Value} {n : Int} (h : v.integer? = some n) :
    v.isNumeric = true := by
  simp [isNumeric, kind_of_integer? h]

theorem rounded_of_integer? {v : Value} {n : Int} (h : v.integer? = some n) :
    v.rounded = .float (.ofInt n) := by
  rw [rounded, h]

end Value

/-! ## §2. The order of rounded values. -/

/-- Where one of the two is no integer, the order is that of the rounded values. -/
theorem ascendingOrder_rounded {a b : Value} (ha : a.isNumeric = true) (hb : b.isNumeric = true)
    (h : a.integer? = none ∨ b.integer? = none) :
    ascendingOrder a b = ascendingOrder a.rounded b.rounded := by
  -- An integer is never rounded to no-number.
  have hleft : ∀ {v : Value} {n : Int} (x : Binary64), v.integer? = some n →
      (((Binary64.ofInt n).compare? x).getD (compare false x.isNaN)) =
        ascendingOrder (.float (.ofInt n)) (.float x) := by
    intro v n x hv
    rw [← Value.isNaN_of_integer? hv]
    rfl
  have hright : ∀ {v : Value} {n : Int} (x : Binary64), v.integer? = some n →
      ((x.compare? (Binary64.ofInt n)).getD (compare x.isNaN false)) =
        ascendingOrder (.float x) (.float (.ofInt n)) := by
    intro v n x hv
    rw [← Value.isNaN_of_integer? hv]
    rfl
  cases a <;> cases b <;> first | (cases ha; done) | (cases hb; done) | rfl | skip
  case int.float m x => exact hleft (v := .int m) x rfl
  case uint.float m x => exact hleft (v := .uint m) x rfl
  case float.int x n => exact hright (v := .int n) x rfl
  case float.uint x n => exact hright (v := .uint n) x rfl
  all_goals rcases h with h | h <;> cases h

theorem Value.alike_rounded {a b : Value} (ha : a.isNumeric = true) (hb : b.isNumeric = true) :
    a.rounded.alike b.rounded = true := by
  cases a <;> cases b <;> first | rfl | (cases ha; done) | cases hb

theorem ascendingOrder_floats {x y : Binary64} (hx : x.isNaN = false) (hy : y.isNaN = false) :
    ascendingOrder (.float x) (.float y) = compare x.rank y.rank := by
  show (x.compare? y).getD _ = _
  rw [Binary64.compare?, hx, hy]
  rfl

/-- Rounding turns no two values round. -/
theorem ascendingOrder_rounded_ne_gt {a b : Value} (ha : a.isNumeric = true)
    (hb : b.isNumeric = true) (h : ascendingOrder a b ≠ .gt) :
    ascendingOrder a.rounded b.rounded ≠ .gt := by
  cases hm : a.integer? with
  | none => rwa [← ascendingOrder_rounded ha hb (.inl hm)]
  | some m =>
      cases hn : b.integer? with
      | none => rwa [← ascendingOrder_rounded ha hb (.inr hn)]
      | some n =>
          rw [ascendingOrder_integers hm hn, Int.compare_ne_gt] at h
          rw [Value.rounded_of_integer? hm, Value.rounded_of_integer? hn,
            ascendingOrder_floats (Value.isNaN_of_integer? hm) (Value.isNaN_of_integer? hn),
            Int.compare_ne_gt]
          rcases Int.lt_or_eq_of_le h with h | rfl
          · exact (Value.isNearest_of_integer? hm).rank_le (Value.isNearest_of_integer? hn) h
          · exact Int.le_refl _

/-- Rounded values are in order. -/
theorem consistent_rounded {xs : List Value} (h : ∀ v ∈ xs, v.isNumeric = true) :
    Consistent (fun a b : Value => ascendingOrder a.rounded b.rounded) xs :=
  consistent_order (fun a ha b hb => Value.alike_rounded (h a ha) (h b hb)) .ascending

/-! ## §3. The order of nulls and numbers. -/

theorem ascendingOrder_swap {a b : Value} (ha : a.isNumeric = true) (hb : b.isNumeric = true) :
    ascendingOrder b a = (ascendingOrder a b).swap := by
  have hrounded := (@consistent_rounded [a, b] (by simp [ha, hb])).swap a (by simp) b (by simp)
  cases hm : a.integer? with
  | none =>
      rw [ascendingOrder_rounded ha hb (.inl hm), ascendingOrder_rounded hb ha (.inr hm), hrounded]
  | some m =>
      cases hn : b.integer? with
      | none =>
          rw [ascendingOrder_rounded ha hb (.inr hn), ascendingOrder_rounded hb ha (.inl hn),
            hrounded]
      | some n =>
          rw [ascendingOrder_integers hm hn, ascendingOrder_integers hn hm]
          exact Std.OrientedOrd.eq_swap

/-- What ties with an integer as it is rounded, and is no integer itself, is the number to which
the integer is rounded. -/
theorem exists_float_of_tie {a b : Value} {m : Int} (hm : a.integer? = some m)
    (hb : b.isNumeric = true) (hnone : b.integer? = none)
    (h : ascendingOrder a.rounded b.rounded = .eq) :
    ∃ x, b = .float x ∧ (Binary64.ofInt m).compare? x = some .eq := by
  rw [Value.rounded_of_integer? hm] at h
  have hm' := Value.isNaN_of_integer? hm
  cases b with
  | float x =>
      refine ⟨x, rfl, ?_⟩
      change ((Binary64.ofInt m).compare? x).getD
        (compare (Binary64.ofInt m).isNaN x.isNaN) = .eq at h
      rw [Binary64.compare?, hm', Bool.false_or] at h ⊢
      cases hx : x.isNaN with
      | true => simp [hx] at h
      | false => simpa [hx] using h
  | null => cases h
  | int | uint => cases hnone
  | _ => cases hb

/-- Two integers out of order with a value between them that is out of order with neither: all
three tie as they are rounded, and the one in the middle is no integer. -/
theorem roundTogether_of_lt {a b c : Value} {m n : Int} (hm : a.integer? = some m)
    (hb : b.isNumeric = true) (hn : c.integer? = some n) (hlt : n < m)
    (hab : ascendingOrder a b ≠ .gt) (hbc : ascendingOrder b c ≠ .gt) : a.RoundTogether b c := by
  have ha := Value.isNumeric_of_integer? hm
  have hc := Value.isNumeric_of_integer? hn
  have hca : ascendingOrder c a ≠ .gt := by
    rw [ascendingOrder_integers hn hm, Int.compare_ne_gt]
    omega
  have hround := @consistent_rounded [a, b, c] (by simp [ha, hb, hc])
  have hab' := ascendingOrder_rounded_ne_gt ha hb hab
  have hbc' := ascendingOrder_rounded_ne_gt hb hc hbc
  have hca' := ascendingOrder_rounded_ne_gt hc ha hca
  have htie := hround.eq_of_ne_gt (a := a) (b := b) (by simp) (by simp) hab'
    (hround.trans b (by simp) c (by simp) a (by simp) hbc' hca')
  have htie' := hround.eq_of_ne_gt (a := c) (b := b) (by simp) (by simp)
    (hround.trans c (by simp) a (by simp) b (by simp) hca' hab') hbc'
  have hnone : b.integer? = none := by
    cases hk : b.integer? with
    | none => rfl
    | some k =>
        rw [ascendingOrder_integers hm hk, Int.compare_ne_gt] at hab
        rw [ascendingOrder_integers hk hn, Int.compare_ne_gt] at hbc
        omega
  obtain ⟨x, rfl, hx⟩ := exists_float_of_tie hm hb hnone htie
  obtain ⟨y, hy, hxy⟩ := exists_float_of_tie hn hb hnone htie'
  obtain rfl : x = y := Value.float.inj hy
  exact ⟨m, n, x, hm, rfl, hn, Int.ne_of_gt hlt, hx, hxy⟩

/-- **Integers that are rounded together are all that breaks the order.** -/
theorem ascendingOrder_trans {a b c : Value} (ha : a.isNumeric = true) (hb : b.isNumeric = true)
    (hc : c.isNumeric = true) (hab : ascendingOrder a b ≠ .gt) (hbc : ascendingOrder b c ≠ .gt) :
    ascendingOrder a c ≠ .gt ∨ a.RoundTogether b c := by
  have hac := (@consistent_rounded [a, b, c] (by simp [ha, hb, hc])).trans
    a (by simp) b (by simp) c (by simp)
    (ascendingOrder_rounded_ne_gt ha hb hab) (ascendingOrder_rounded_ne_gt hb hc hbc)
  cases hm : a.integer? with
  | none => exact .inl (by rwa [ascendingOrder_rounded ha hc (.inl hm)])
  | some m =>
      cases hn : c.integer? with
      | none => exact .inl (by rwa [ascendingOrder_rounded ha hc (.inr hn)])
      | some n =>
          rw [ascendingOrder_integers hm hn, Int.compare_ne_gt]
          by_cases hle : m ≤ n
          · exact .inl hle
          · exact .inr (roundTogether_of_lt hm hb hn (by omega) hab hbc)

theorem Value.RoundTogether.symm {a b c : Value} (h : a.RoundTogether b c) :
    c.RoundTogether b a := by
  obtain ⟨m, n, x, hm, hx, hn, hne, hmx, hnx⟩ := h
  exact ⟨n, m, x, hn, hx, hm, hne.symm, hnx, hmx⟩

/-- Integers that are rounded together tie with the number between them, but not with each
other. -/
theorem Value.RoundTogether.ascendingOrder {a b c : Value} (h : a.RoundTogether b c) :
    ascendingOrder a b = .eq ∧ ascendingOrder b c = .eq ∧ ascendingOrder a c ≠ .eq := by
  obtain ⟨m, n, x, hm, rfl, hn, hne, hmx, hnx⟩ := h
  have hb : (Value.float x).isNumeric = true := rfl
  have ha : a.isNumeric = true := isNumeric_of_integer? hm
  have hc : c.isNumeric = true := isNumeric_of_integer? hn
  have htie : ∀ {v : Value} {k : Int}, v.integer? = some k →
      (Binary64.ofInt k).compare? x = some .eq →
      RecordSearch.ascendingOrder v (.float x) = .eq := by
    intro v k hv hk
    rw [ascendingOrder_rounded (isNumeric_of_integer? hv) hb (.inr rfl), rounded_of_integer? hv]
    show ((Binary64.ofInt k).compare? x).getD _ = _
    rw [hk]
    rfl
  refine ⟨htie hm hmx, ?_, ?_⟩
  · rw [ascendingOrder_swap hc hb, htie hn hnx]
    rfl
  · rw [ascendingOrder_integers hm hn]
    exact fun heq => hne (Std.LawfulEqOrd.eq_of_compare heq)

/-- Beyond 2^53 at least one of them lies. -/
theorem Value.RoundTogether.beyond {a b c : Value} (h : a.RoundTogether b c) :
    ∃ n : Int, (a.integer? = some n ∨ c.integer? = some n) ∧ twoTo 53 < n.natAbs := by
  obtain ⟨m, n, x, hm, -, hn, hne, hmx, hnx⟩ := h
  by_contra hsmall
  simp only [not_exists, not_and, Nat.not_lt] at hsmall
  have hrank : ∀ {k : Int}, (Binary64.ofInt k).compare? x = some .eq →
      (Binary64.ofInt k).rank = x.rank := by
    intro k hk
    rw [Binary64.compare?] at hk
    split at hk
    · cases hk
    · exact Std.LawfulEqOrd.eq_of_compare (Option.some.inj hk)
  -- Up to 2^53 integers are numbers themselves, so two that stand in one place are one.
  have hunits : (Binary64.ofInt m).units = (Binary64.ofInt n).units := by
    have hle := Binary64.units_le_units_iff (x := Binary64.ofInt m) (y := Binary64.ofInt n)
    have hge := Binary64.units_le_units_iff (x := Binary64.ofInt n) (y := Binary64.ofInt m)
    rw [hrank hmx, hrank hnx] at hle hge
    omega
  rw [Binary64.units_ofInt_of_le (hsmall m (.inl hm)),
    Binary64.units_ofInt_of_le (hsmall n (.inr hn))] at hunits
  have hpos : (twoTo 1074 : Int) ≠ 0 := Int.natCast_ne_zero.mpr (twoTo_pos _).ne'
  exact hne (Int.eq_of_mul_eq_mul_right hpos hunits)

/-! ## §4. Both directions. -/

theorem Direction.order_swap (d : Direction) {a b : Value} (ha : a.isNumeric = true)
    (hb : b.isNumeric = true) : d.order b a = (d.order a b).swap := by
  cases d with
  | ascending => exact ascendingOrder_swap ha hb
  | descending => exact congrArg Ordering.swap (ascendingOrder_swap ha hb)

theorem Direction.order_self (d : Direction) {a : Value} (ha : a.isNumeric = true) :
    d.order a a = .eq :=
  eq_of_eq_swap (d.order_swap ha ha)

theorem Direction.order_trans (d : Direction) {a b c : Value} (ha : a.isNumeric = true)
    (hb : b.isNumeric = true) (hc : c.isNumeric = true) (hab : d.order a b ≠ .gt)
    (hbc : d.order b c ≠ .gt) : d.order a c ≠ .gt ∨ a.RoundTogether b c := by
  cases d with
  | ascending => exact ascendingOrder_trans ha hb hc hab hbc
  | descending =>
      -- Descending, the three are read from the other end.
      have hflip : ∀ {u v : Value}, u.isNumeric = true → v.isNumeric = true →
          Direction.descending.order u v = ascendingOrder v u :=
        fun hu hv => (ascendingOrder_swap hu hv).symm
      rw [hflip ha hb] at hab
      rw [hflip hb hc] at hbc
      rw [hflip ha hc]
      exact (ascendingOrder_trans hc hb ha hbc hab).imp_right Value.RoundTogether.symm

theorem Value.RoundTogether.order {a b c : Value} (h : a.RoundTogether b c) (d : Direction) :
    d.order a b = .eq ∧ d.order b c = .eq ∧ d.order a c ≠ .eq := by
  obtain ⟨hab, hbc, hac⟩ := h.ascendingOrder
  cases d with
  | ascending => exact ⟨hab, hbc, hac⟩
  | descending =>
      refine ⟨congrArg Ordering.swap hab, congrArg Ordering.swap hbc, fun heq => hac ?_⟩
      exact Ordering.swap_eq_eq.mp heq

/-- **How far nulls and numbers are in order.**  The order reads the same from either side, and it
is transitive, ties included, but for integers that are rounded together.  An integer stands to a
value of another kind as the number that is nearest to it does. -/
theorem Direction.order_numbers (d : Direction) {a b c : Value} (ha : a.isNumeric = true)
    (hb : b.isNumeric = true) (hc : c.isNumeric = true) :
    d.order b a = (d.order a b).swap ∧ d.order a a = .eq ∧
    ((d.order a b ≠ .gt → d.order b c ≠ .gt → d.order a c ≠ .gt) ↔
      ¬ (a.RoundTogether b c ∧ d.order a c = .gt)) ∧
    ((d.order a b = .eq → d.order b c = .eq → d.order a c = .eq) ↔ ¬ a.RoundTogether b c) ∧
    ∀ n, a.integer? = some n → b.integer? = none →
      ∃ x : Binary64, x.IsNearest n ∧ d.order a b = d.order (.float x) b := by
  refine ⟨d.order_swap ha hb, d.order_self ha, ⟨?_, ?_⟩, ⟨?_, ?_⟩, ?_⟩
  · rintro htrans ⟨hround, hgt⟩
    obtain ⟨hab, hbc, -⟩ := hround.order d
    exact htrans (by rw [hab]; decide) (by rw [hbc]; decide) hgt
  · intro hnot hab hbc hgt
    exact hnot ⟨(d.order_trans ha hb hc hab hbc).resolve_left (not_not_intro hgt), hgt⟩
  · intro htrans hround
    obtain ⟨hab, hbc, hac⟩ := hround.order d
    exact hac (htrans hab hbc)
  · intro hnot hab hbc
    have hac := (d.order_trans ha hb hc (by rw [hab]; decide)
      (by rw [hbc]; decide)).resolve_right hnot
    have hca := (d.order_trans hc hb ha (by rw [d.order_swap hb hc, hbc]; decide)
      (by rw [d.order_swap ha hb, hab]; decide)).resolve_right fun h => hnot h.symm
    rw [d.order_swap ha hc] at hca
    exact eq_of_ne_gt_of_swap_ne_gt hac hca
  · intro n hn hnone
    refine ⟨.ofInt n, Value.isNearest_of_integer? hn, ?_⟩
    have heq : ascendingOrder a b = ascendingOrder (.float (.ofInt n)) b := by
      rw [ascendingOrder_rounded ha hb (.inr hnone), Value.rounded_of_integer? hn,
        ascendingOrder_rounded (a := .float (.ofInt n)) rfl hb (.inl rfl)]
      rfl
    cases d with
    | ascending => exact heq
    | descending => exact congrArg Ordering.swap heq

/-- An integer, no-number and null stand in this order, whatever the integer. -/
theorem Direction.order_numbers_integer_nan_null :
    Direction.ascending.order (.int (-5)) (.float .nan) ≠ .gt ∧
    Direction.ascending.order (.float .nan) .null ≠ .gt ∧
    Direction.ascending.order (.int (-5)) .null ≠ .gt := by
  have hab : Direction.ascending.order (.int (-5)) (.float .nan) ≠ .gt := by decide +kernel
  have hbc : Direction.ascending.order (.float .nan) .null ≠ .gt := by decide +kernel
  obtain ⟨-, -, htrans, -⟩ := Direction.ascending.order_numbers
    (a := .int (-5)) (b := .float .nan) (c := .null) rfl rfl rfl
  refine ⟨hab, hbc, htrans.mpr ?_ hab hbc⟩
  rintro ⟨⟨m, n, x, hm, hx, hn, -⟩, -⟩
  cases hn

/-- 2^53 + 1, the floating-point number 2^53 and the integer 2^53: the first ties with the second
and the second with the third, but the first is greater than the third. -/
theorem Direction.order_beyond_double :
    (Value.int 9007199254740993).isNumeric ∧ (Value.float ⟨0x4340000000000000⟩).isNumeric ∧
    (Value.int 9007199254740992).isNumeric ∧
    Direction.ascending.order (.int 9007199254740993) (.float ⟨0x4340000000000000⟩) = .eq ∧
    Direction.ascending.order (.float ⟨0x4340000000000000⟩) (.int 9007199254740992) = .eq ∧
    Direction.ascending.order (.int 9007199254740993) (.int 9007199254740992) = .gt := by
  decide +kernel

end RecordSearch
