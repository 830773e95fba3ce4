/-
  RecordSearch.Proofs.Value.Order
  ───────────────────────────────
  **Which values are in order, and in which.**

  Whether two values may be compared is read off their kinds, and their order off their contents,
  by an arm of its own for every kind.  The two agree: what may be compared is in order, and nothing
  else is, null aside, where no number is involved that is none.  The arms agree among themselves,
  too:

      Value.compare?_swap          — the order reads the same from either side
      Value.compare?_of_integers   — integers of 64 bits, signed or not, are compared as integers
      Value.compare?_eq_none_iff   — where there is no order
      Value.compare?_agrees        — all of this
-/
import RecordSearch.Proofs.Number.Nearest
import RecordSearch.Value

namespace RecordSearch

/-! ## §1. Machine integers. -/

theorem compare_int64 (m n : Int64) : compare m n = compare m.toInt n.toInt := by
  show compareOfLessAndEq m n = compareOfLessAndEq m.toInt n.toInt
  simp only [compareOfLessAndEq, Int64.lt_iff_toInt_lt, Int64.toInt_inj]

theorem compare_uint64 (m n : UInt64) : compare m n = compare (m.toNat : Int) n.toNat := by
  show compareOfLessAndEq m n = compareOfLessAndEq (m.toNat : Int) n.toNat
  simp only [compareOfLessAndEq, UInt64.lt_iff_toNat_lt, Int.ofNat_lt, Int.natCast_inj,
    UInt64.toNat_inj]

namespace Value

variable {a b : Value} {m n : Int}

/-- A signed integer that is not negative is the same integer without its sign bit. -/
theorem signedOrder_eq (m : Int64) (n : UInt64) :
    signedOrder m n = compare m.toInt (n.toNat : Int) := by
  unfold signedOrder
  by_cases hm : m < 0
  · rw [if_pos hm, eq_comm, Int.compare_eq_lt]
    rw [Int64.lt_iff_toInt_lt, Int64.toInt_zero] at hm
    omega
  · rw [if_neg hm]
    rw [Int64.not_lt] at hm
    have hunsigned := Int64.toNat_toUInt64_of_le hm
    rw [Int64.le_iff_toInt_le, Int64.toInt_zero] at hm
    have hsame : (m.toNatClampNeg : Int) = m.toInt := Int.toNat_of_nonneg hm
    rw [compare_uint64, hunsigned, hsame]

/-- **Integers of either kind are compared as integers.** -/
theorem numberOrder?_of_integers (ha : a.integer? = some m) (hb : b.integer? = some n) :
    numberOrder? a b = some (compare m n) := by
  cases a with
  | int x =>
      cases b with
      | int y => cases ha; cases hb; exact congrArg some (compare_int64 x y)
      | uint y => cases ha; cases hb; exact congrArg some (signedOrder_eq x y)
      | _ => cases hb
  | uint x =>
      cases b with
      | int y =>
          cases ha
          cases hb
          show some (signedOrder y x).swap = _
          rw [signedOrder_eq, ← Std.OrientedOrd.eq_swap]
      | uint y => cases ha; cases hb; exact congrArg some (compare_uint64 x y)
      | _ => cases hb
  | _ => cases ha

/-- Where one of the two is no integer, both are compared as floating-point numbers. -/
theorem numberOrder?_eq_bind (h : a.integer? = none ∨ b.integer? = none) :
    numberOrder? a b = a.number?.bind fun x => b.number?.bind fun y => x.compare? y := by
  cases a <;> cases b <;> first | rfl | (rcases h with h | h <;> cases h)

/-- An integer value has 64 bits. -/
theorem natAbs_lt_of_integer? {v : Value} {n : Int} (h : v.integer? = some n) :
    n.natAbs < twoTo 1023 := by
  have hsize : n.natAbs ≤ twoTo 64 := by
    cases v with
    | int m =>
        obtain rfl : m.toInt = n := Option.some.inj h
        have hlow := m.le_toInt
        have hhigh := m.toInt_lt
        have hwidth : (twoTo 64 : Int) = 2 * 2 ^ 63 := by decide
        omega
    | uint m =>
        obtain rfl : (m.toNat : Int) = n := Option.some.inj h
        have hhigh := m.toNat_lt
        have hwidth : (twoTo 64 : Int) = 2 ^ 64 := by decide
        omega
    | _ => cases h
  exact Nat.lt_of_le_of_lt hsize (twoTo_lt (by decide))

theorem isNearest_of_integer? {v : Value} {n : Int} (h : v.integer? = some n) :
    (Binary64.ofInt n).IsNearest n :=
  Binary64.ofInt_isNearest (natAbs_lt_of_integer? h)

theorem isNaN_of_integer? {v : Value} {n : Int} (h : v.integer? = some n) :
    (Binary64.ofInt n).isNaN = false := by
  have hfinite := (isNearest_of_integer? h).isFinite
  simp only [Binary64.isFinite, decide_eq_true_eq] at hfinite
  simp only [Binary64.isNaN, decide_eq_false_iff_not]
  omega

end Value

/-! ## §2. From either side. -/

theorem Binary64.compare?_swap (x y : Binary64) :
    y.compare? x = (x.compare? y).map Ordering.swap := by
  unfold Binary64.compare?
  rw [Bool.or_comm y.isNaN]
  by_cases h : (x.isNaN || y.isNaN) = true
  · rw [if_pos h, if_pos h]
    rfl
  · rw [if_neg h, if_neg h, Option.map_some, ← Std.OrientedOrd.eq_swap]

theorem Uuid.order_swap (u v : Uuid) : v.order u = (u.order v).swap := Std.OrientedOrd.eq_swap

theorem Date.order_swap (d e : Date) : e.order d = (d.order e).swap := by
  unfold Date.order
  rw [Ordering.swap_then, Ordering.swap_then, ← Std.OrientedOrd.eq_swap, ← Std.OrientedOrd.eq_swap,
    ← Std.OrientedOrd.eq_swap]

theorem Instant.order_swap (t u : Instant) : u.order t = (t.order u).swap := by
  unfold Instant.order
  rw [Ordering.swap_then, Ordering.swap_then, ← Std.OrientedOrd.eq_swap, ← Std.OrientedOrd.eq_swap,
    ← Date.order_swap]

namespace Value

variable {a b : Value} {m n : Int}

theorem numberOrder?_swap (a b : Value) :
    numberOrder? b a = (numberOrder? a b).map Ordering.swap := by
  have hfloat (h : a.integer? = none ∨ b.integer? = none) :
      numberOrder? b a = (numberOrder? a b).map Ordering.swap := by
    rw [numberOrder?_eq_bind h, numberOrder?_eq_bind h.symm]
    cases a.number? with
    | none => cases b.number? <;> rfl
    | some x =>
        cases b.number? with
        | none => rfl
        | some y => exact x.compare?_swap y
  cases hm : a.integer? with
  | none => exact hfloat (.inl hm)
  | some m =>
      cases hn : b.integer? with
      | none => exact hfloat (.inr hn)
      | some n =>
          rw [numberOrder?_of_integers hm hn, numberOrder?_of_integers hn hm, Option.map_some,
            ← Std.OrientedOrd.eq_swap]

theorem compare?_of_number (h : a.kind = .number ∨ b.kind = .number) :
    a.compare? b = numberOrder? a b := by
  cases a <;> cases b <;> first | rfl | (rcases h with h | h <;> cases h)

theorem kind_of_integer? (h : a.integer? = some m) : a.kind = .number := by
  cases a with
  | int | uint => rfl
  | _ => cases h

theorem isNull_of_integer? (h : a.integer? = some m) : a.isNull = false := by
  cases a with
  | null => cases h
  | _ => rfl

theorem compare?_of_integers (ha : a.integer? = some m) (hb : b.integer? = some n) :
    a.compare? b = some (compare m n) := by
  rw [compare?_of_number (.inl (kind_of_integer? ha)), numberOrder?_of_integers ha hb]

/-- **The order reads the same from either side**, and is absent from both or from none. -/
theorem compare?_swap (a b : Value) : b.compare? a = (a.compare? b).map Ordering.swap := by
  by_cases h : a.kind = .number ∨ b.kind = .number
  · rw [compare?_of_number h, compare?_of_number h.symm]
    exact numberOrder?_swap a b
  · -- Only two values of one constructor are in order.
    cases a <;> cases b <;> first | rfl | exact absurd (.inl rfl) h | exact absurd (.inr rfl) h | skip
    case bool.bool x y => exact congrArg some Std.OrientedOrd.eq_swap
    case text.text s t => exact congrArg some Std.OrientedOrd.eq_swap
    case uuid.uuid u v => exact congrArg some (u.order_swap v)
    case dateTime.dateTime t u => exact congrArg some (t.order_swap u)
    case date.date d e => exact congrArg some (d.order_swap e)

/-! ## §3. Values without an order. -/

theorem comparable_iff : a.comparable b = true ↔ a.kind = b.kind ∧ a.kind ≠ .list := by
  simp [comparable]

theorem comparable_symm (a b : Value) : b.comparable a = a.comparable b := by
  rw [Bool.eq_iff_iff, comparable_iff, comparable_iff]
  constructor
  · rintro ⟨hkind, hlist⟩
    exact ⟨hkind.symm, hkind ▸ hlist⟩
  · rintro ⟨hkind, hlist⟩
    exact ⟨hkind.symm, hkind ▸ hlist⟩

/-- Neither null nor a number that is none. -/
def IsDefinite (v : Value) : Prop := v.isNull = false ∧ v.isNaN = false

instance (v : Value) : Decidable v.IsDefinite :=
  inferInstanceAs (Decidable (v.isNull = false ∧ v.isNaN = false))

/-- A definite number is one as a floating-point number, too. -/
theorem IsDefinite.exists_number? (ha : a.IsDefinite) (hkind : a.kind = .number) :
    ∃ x, a.number? = some x ∧ x.isNaN = false := by
  cases a with
  | int n =>
      have hn : (Value.int n).integer? = some n.toInt := rfl
      exact ⟨_, rfl, isNaN_of_integer? hn⟩
  | uint n =>
      have hn : (Value.uint n).integer? = some (n.toNat : Int) := rfl
      exact ⟨_, rfl, isNaN_of_integer? hn⟩
  | float x => exact ⟨x, rfl, ha.2⟩
  | _ => cases hkind

theorem IsDefinite.exists_numberOrder? (ha : a.IsDefinite) (hb : b.IsDefinite)
    (hakind : a.kind = .number) (hbkind : b.kind = .number) : ∃ o, numberOrder? a b = some o := by
  have hfloat (h : a.integer? = none ∨ b.integer? = none) : ∃ o, numberOrder? a b = some o := by
    obtain ⟨x, hx, hxNaN⟩ := ha.exists_number? hakind
    obtain ⟨y, hy, hyNaN⟩ := hb.exists_number? hbkind
    rw [numberOrder?_eq_bind h, hx, hy]
    refine ⟨compare x.rank y.rank, ?_⟩
    show x.compare? y = _
    rw [Binary64.compare?, hxNaN, hyNaN]
    rfl
  cases hm : a.integer? with
  | none => exact hfloat (.inl hm)
  | some m =>
      cases hn : b.integer? with
      | none => exact hfloat (.inr hn)
      | some n => exact ⟨_, numberOrder?_of_integers hm hn⟩

/-- **Definite values of one kind are in order.** -/
theorem IsDefinite.exists_compare? (ha : a.IsDefinite) (hb : b.IsDefinite)
    (hkind : a.kind = b.kind) (hlist : a.kind ≠ .list) : ∃ o, a.compare? b = some o := by
  by_cases hnumber : a.kind = .number
  · obtain ⟨o, ho⟩ := ha.exists_numberOrder? hb hnumber (hkind ▸ hnumber)
    refine ⟨o, ?_⟩
    cases a with
    | int | uint | float => exact ho
    | _ => cases hnumber
  · cases a with
    | null => cases ha.1
    | list => exact absurd rfl hlist
    | int | uint | float => exact absurd rfl hnumber
    | _ =>
        -- Of the other kinds each has one constructor, which is ordered by itself.
        cases b <;> first | exact ⟨_, rfl⟩ | cases hkind

/-- Across kinds, and between lists, there is no order. -/
theorem compare?_eq_none_of_not_comparable (h : a.comparable b = false) : a.compare? b = none := by
  cases a <;> cases b <;> first | rfl | cases h

/-- No-number is in order with nothing. -/
theorem compare?_eq_none_of_isNaN (h : a.isNaN = true ∨ b.isNaN = true) : a.compare? b = none := by
  have hleft : ∀ {u v : Value}, u.isNaN = true → u.compare? v = none := by
    intro u v hu
    cases u with
    | float x =>
        have hx : x.isNaN = true := hu
        have hnone (y : Binary64) : x.compare? y = none := by
          rw [Binary64.compare?, hx]
          rfl
        cases v <;> first | rfl | exact hnone _
    | _ => cases hu
  rcases h with h | h
  · exact hleft h
  · rw [compare?_swap b a, hleft h]
    rfl

/-- **Where there is no order**, null aside: across kinds, between lists, and with no-number. -/
theorem compare?_eq_none_iff (ha : a.isNull = false) (hb : b.isNull = false) :
    a.compare? b = none ↔ a.comparable b = false ∨ a.isNaN = true ∨ b.isNaN = true := by
  constructor
  · intro hnone
    by_contra hothers
    simp only [not_or, Bool.not_eq_false, Bool.not_eq_true] at hothers
    obtain ⟨hcomparable, haNaN, hbNaN⟩ := hothers
    obtain ⟨hkind, hlist⟩ := comparable_iff.mp hcomparable
    obtain ⟨o, ho⟩ :=
      IsDefinite.exists_compare? (a := a) (b := b) ⟨ha, haNaN⟩ ⟨hb, hbNaN⟩ hkind hlist
    rw [hnone] at ho
    cases ho
  · rintro (h | h)
    · exact compare?_eq_none_of_not_comparable h
    · exact compare?_eq_none_of_isNaN h

/-! ## §4. The order and what may be compared. -/

/-- **The order of two values agrees with whether they may be compared.**  Both read the same from
either side.  Of values that are not null exactly those without an order may not be compared, but
for no-number.  Integers of 64 bits, signed or not, stand to each other as integers do, so they are
all in order, only the same integer ties with itself, and the order is passed on. -/
theorem compare?_agrees (a b : Value) :
    b.compare? a = (a.compare? b).map Ordering.swap ∧
    b.comparable a = a.comparable b ∧
    (a.isNull = false → b.isNull = false →
      (a.compare? b = none ↔ a.comparable b = false ∨ a.isNaN = true ∨ b.isNaN = true)) ∧
    ∀ m n : Int, a.integer? = some m → b.integer? = some n →
      a.compare? b = some (compare m n) ∧ (a.compare? b = some .eq ↔ m = n) ∧
      ∀ (c : Value) (k : Int), c.integer? = some k → a.compare? b ≠ some .gt →
        b.compare? c ≠ some .gt → a.compare? c ≠ some .gt := by
  refine ⟨compare?_swap a b, comparable_symm a b, compare?_eq_none_iff, fun m n hm hn => ?_⟩
  have horder := compare?_of_integers hm hn
  refine ⟨horder, ?_, fun c k hk => ?_⟩
  · rw [horder, Option.some_inj, Std.compare_eq_iff_eq]
  · rw [horder, compare?_of_integers hn hk, compare?_of_integers hm hk]
    simp only [Option.some_inj, ne_eq]
    exact fun hmn hnk => Int.compare_ne_gt.mpr
      (Int.le_trans (Int.compare_ne_gt.mp hmn) (Int.compare_ne_gt.mp hnk))

/-- The least and the greatest signed integer, the least unsigned one behind it and the greatest of
all, and values that stand in no order with them. -/
theorem compare?_agrees_range_ends :
    let least : Value := .int (-9223372036854775808)
    let signed : Value := .int 9223372036854775807
    let unsigned : Value := .uint 9223372036854775808
    let greatest : Value := .uint 18446744073709551615
    least.integer? = some (-9223372036854775808) ∧
      signed.integer? = some 9223372036854775807 ∧
      unsigned.integer? = some 9223372036854775808 ∧
      greatest.integer? = some 18446744073709551615 ∧
      signed.compare? unsigned = some .lt ∧ greatest.compare? least = some .gt ∧
      least.compare? unsigned ≠ some .gt ∧
      signed.comparable (.float .nan) = true ∧ signed.compare? (.float .nan) = none ∧
      greatest.comparable (.text "1") = false ∧ greatest.compare? (.text "1") = none := by
  intro least signed unsigned greatest
  have hleast : least.integer? = some (-9223372036854775808) := by decide
  have hsigned : signed.integer? = some 9223372036854775807 := by decide
  have hunsigned : unsigned.integer? = some 9223372036854775808 := by decide
  have hgreatest : greatest.integer? = some 18446744073709551615 := by decide
  obtain ⟨-, -, -, hintegers⟩ := compare?_agrees signed unsigned
  obtain ⟨hbehind, -, -⟩ := hintegers _ _ hsigned hunsigned
  obtain ⟨-, -, -, hintegers⟩ := compare?_agrees greatest least
  obtain ⟨hends, -, -⟩ := hintegers _ _ hgreatest hleast
  obtain ⟨-, -, -, hintegers⟩ := compare?_agrees least signed
  obtain ⟨-, -, htrans⟩ := hintegers _ _ hleast hsigned
  obtain ⟨-, -, hnan, -⟩ := compare?_agrees signed (.float .nan)
  obtain ⟨-, -, htext, -⟩ := compare?_agrees greatest (.text "1")
  refine ⟨hleast, hsigned, hunsigned, hgreatest, hbehind.trans (by decide), hends.trans (by decide),
    htrans unsigned _ hunsigned (by decide) (by decide), rfl, ?_, rfl, ?_⟩
  · exact (hnan rfl rfl).mpr (.inr (.inr (by decide)))
  · exact (htext rfl rfl).mpr (.inl rfl)

end Value

end RecordSearch
