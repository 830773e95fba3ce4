/-
  RecordSearch.Proofs.Rows.Ordered
  ────────────────────────────────
  **What ordering does to the rows.**

  The order that a clause asks for, said without the comparison that the sort uses:

      Value.Before      — one value comes before another of its type; null comes last, and
                          no-number last among numbers
      KeysBefore        — the first key that does not tie puts one row before the other
      KeysTied          — no key puts one row before the other

  Where every key yields a value on every row, and the values under each key are of one type, the
  rows come out in this order, and those that tie stay as they were (`orderRows_sorts`).  The
  comparison that the sort uses is the order of the clause (`rowOrder_iff`), so all of it is known
  of the sort.  Whatever the types, rows are only ever moved (`orderRows_perm`), and a key that
  fails on a row is reported, the first row first.
-/
import RecordSearch.Proofs.Rows.NumberOrder
import RecordSearch.Proofs.Criteria.Compiled
import RecordSearch.Proofs.Sorting.Runs

namespace RecordSearch

/-! ## §1. The order of values. -/

/-- Order by year, month and day. -/
def Date.Before (d e : Date) : Prop :=
  d.year < e.year ∨
    d.year = e.year ∧ (d.month < e.month ∨ d.month = e.month ∧ d.day < e.day)

/-- Order in time.  A leap second comes behind the second before it. -/
def Instant.Before (t u : Instant) : Prop :=
  t.date.Before u.date ∨
    t.date = u.date ∧ (t.second < u.second ∨ t.second = u.second ∧ t.nanosecond < u.nanosecond)

/-- **One value comes before another of its type.** -/
inductive Value.Before : Value → Value → Prop where
  /-- Integers of either kind are compared as integers. -/
  | integer {a b : Value} {m n : Int} (ha : a.integer? = some m) (hb : b.integer? = some n)
      (h : m < n) : Before a b
  | float {x y : Binary64} (hx : x.isNaN = false) (hy : y.isNaN = false) (h : x.units < y.units) :
      Before (.float x) (.float y)
  | nan {x y : Binary64} (hx : x.isNaN = false) (hy : y.isNaN = true) : Before (.float x) (.float y)
  | text {s t : String} (h : s.toList < t.toList) : Before (.text s) (.text t)
  | bool : Before (.bool false) (.bool true)
  | uuid {u v : Uuid} (h : u.bits < v.bits) : Before (.uuid u) (.uuid v)
  | dateTime {t u : Instant} (h : t.Before u) : Before (.dateTime t) (.dateTime u)
  | date {d e : Date} (h : d.Before e) : Before (.date d) (.date e)
  | null {v : Value} (h : v.isNull = false) : Before v .null

/-- One value comes before another in a direction: descending is the reverse. -/
def Direction.Before : Direction → Value → Value → Prop
  | .ascending, a, b => a.Before b
  | .descending, a, b => b.Before a

/-! ## §2. The comparison of values. -/

theorem Date.order_eq_lt_iff {d e : Date} : d.order e = .lt ↔ d.Before e := by
  simp only [Date.order, Date.Before, Ordering.then_eq_lt, Std.compare_eq_lt,
    Std.compare_eq_iff_eq]

theorem Date.order_eq_eq_iff {d e : Date} : d.order e = .eq ↔ d = e := by
  obtain ⟨year, month, day, hd⟩ := d
  obtain ⟨year', month', day', he⟩ := e
  simp only [Date.order, Ordering.then_eq_eq, Std.compare_eq_iff_eq, Date.mk.injEq]

theorem Instant.order_eq_lt_iff {t u : Instant} : t.order u = .lt ↔ t.Before u := by
  simp only [Instant.order, Instant.Before, Ordering.then_eq_lt, Date.order_eq_lt_iff,
    Date.order_eq_eq_iff, Std.compare_eq_lt, Std.compare_eq_iff_eq]

theorem compare_chars_eq_lt_iff {s t : List Char} : compare s t = .lt ↔ s < t := by
  induction s generalizing t with
  | nil => cases t <;> simp [List.compare_nil_cons]
  | cons c s ih =>
      cases t with
      | nil => simp [List.compare_cons_nil]
      | cons d t =>
          have hlt : (c.toNat : Int) < d.toNat ↔ c < d := Int.ofNat_lt
          have heq : (c.toNat : Int) = d.toNat ↔ c = d := Int.natCast_inj.trans Char.toNat_inj
          rw [List.compare_cons_cons, Ordering.then_eq_lt, ih, List.cons_lt_cons_iff,
            ← compare_codePoint, Std.compare_eq_lt, Std.compare_eq_iff_eq, hlt, heq]

theorem Binary64.units_lt_units_iff {x y : Binary64} : x.units < y.units ↔ x.rank < y.rank := by
  rw [← Int.not_le, ← Int.not_le, Binary64.units_le_units_iff]

theorem Value.Before.ascendingOrder_eq {a b : Value} (h : a.Before b) :
    ascendingOrder a b = .lt := by
  cases h with
  | integer ha hb h => rw [ascendingOrder_integers ha hb, Std.compare_eq_lt]; exact h
  | float hx hy h =>
      rw [ascendingOrder_floats hx hy, Std.compare_eq_lt]
      exact Binary64.units_lt_units_iff.mp h
  | @nan x y hx hy =>
      show (x.compare? y).getD (compare x.isNaN y.isNaN) = .lt
      rw [Binary64.compare?, hx, hy]
      rfl
  | text h => exact compare_chars_eq_lt_iff.mpr h
  | bool => rfl
  | uuid h => exact Std.compare_eq_lt.mpr h
  | dateTime h => exact Instant.order_eq_lt_iff.mpr h
  | date h => exact Date.order_eq_lt_iff.mpr h
  | null h => cases a <;> first | rfl | cases h

/-- **Values of one type are compared as they come one before another.** -/
theorem ascendingOrder_eq_lt_iff {a b : Value} (h : a.alike b = true) :
    ascendingOrder a b = .lt ↔ a.Before b := by
  refine ⟨fun hlt => ?_, Value.Before.ascendingOrder_eq⟩
  have hintegers {m n : Int} (ha : a.integer? = some m) (hb : b.integer? = some n) :
      a.Before b := by
    rw [ascendingOrder_integers ha hb, Std.compare_eq_lt] at hlt
    exact .integer ha hb hlt
  -- Values of different kinds are alike only if one of them is null.
  cases a <;> cases b <;> first
    | exact .null rfl
    | cases hlt
    | (cases h; done)
    | skip
  case bool.bool a b =>
    cases a <;> cases b <;> first | exact .bool | cases hlt
  case int.int m n => exact hintegers rfl rfl
  case int.uint m n => exact hintegers rfl rfl
  case uint.int m n => exact hintegers rfl rfl
  case uint.uint m n => exact hintegers rfl rfl
  case float.float x y =>
    cases hx : x.isNaN with
    | true =>
        change (x.compare? y).getD (compare x.isNaN y.isNaN) = .lt at hlt
        rw [Binary64.compare?, hx, Bool.true_or, if_pos rfl] at hlt
        cases hy : y.isNaN <;> rw [hy] at hlt <;> cases hlt
    | false =>
        cases hy : y.isNaN with
        | true => exact .nan hx hy
        | false =>
            rw [ascendingOrder_floats hx hy, Std.compare_eq_lt] at hlt
            exact .float hx hy (Binary64.units_lt_units_iff.mpr hlt)
  case text.text s t => exact .text (compare_chars_eq_lt_iff.mp hlt)
  case uuid.uuid u v => exact .uuid (Std.compare_eq_lt (a := u.bits.toNat).mp hlt)
  case dateTime.dateTime t u => exact .dateTime (Instant.order_eq_lt_iff.mp hlt)
  case date.date d e => exact .date (Date.order_eq_lt_iff.mp hlt)

theorem Value.alike_symm {a b : Value} (h : a.alike b = true) : b.alike a = true := by
  simp only [Value.alike, Bool.or_eq_true, Bool.and_eq_true, decide_eq_true_eq] at h ⊢
  rcases h with (h | h) | ⟨hkind, hinteger⟩
  · exact .inl (.inr h)
  · exact .inl (.inl h)
  · exact .inr ⟨hkind.symm, hinteger.symm⟩

namespace Direction

variable {d : Direction} {v w : Value}

theorem order_swap_of_alike (h : v.alike w = true) : d.order w v = (d.order v w).swap := by
  have hascending : ascendingOrder w v = (ascendingOrder v w).swap := by
    rw [ascendingOrder_of_alike h, ascendingOrder_of_alike (Value.alike_symm h)]
    exact Std.OrientedOrd.eq_swap
  cases d with
  | ascending => exact hascending
  | descending => exact congrArg Ordering.swap hascending

theorem order_eq_lt_iff (h : v.alike w = true) : d.order v w = .lt ↔ d.Before v w := by
  cases d with
  | ascending => exact ascendingOrder_eq_lt_iff h
  | descending =>
      have hswap := order_swap_of_alike (d := .ascending) h
      show (Direction.ascending.order v w).swap = .lt ↔ w.Before v
      rw [← hswap]
      exact ascendingOrder_eq_lt_iff (Value.alike_symm h)

theorem order_eq_eq_iff (h : v.alike w = true) :
    d.order v w = .eq ↔ ¬ d.Before v w ∧ ¬ d.Before w v := by
  rw [← order_eq_lt_iff h, ← order_eq_lt_iff (Value.alike_symm h), order_swap_of_alike h]
  cases d.order v w <;> simp [Ordering.swap]

end Direction

/-! ## §3. The order of rows. -/

section Rows

variable {α : Type} [Searchable α]

/-- The value of a key on a row. -/
def OrderingKey.valueOn (key : OrderingKey) (row : α) : Except SearchError Value :=
  key.expr.value [] (Searchable.record row)

/-- The key puts one row before another. -/
def OrderingKey.Before (key : OrderingKey) (a b : α) : Prop :=
  ∃ v w, key.valueOn a = .ok v ∧ key.valueOn b = .ok w ∧ key.direction.Before v w

/-- The key puts neither row before the other. -/
def OrderingKey.Tied (key : OrderingKey) (a b : α) : Prop := ¬ key.Before a b ∧ ¬ key.Before b a

/-- **The first key that does not tie puts one row before another.** -/
inductive KeysBefore : List OrderingKey → α → α → Prop where
  | first {key : OrderingKey} {keys : List OrderingKey} {a b : α} (h : key.Before a b) :
      KeysBefore (key :: keys) a b
  | later {key : OrderingKey} {keys : List OrderingKey} {a b : α} (htied : key.Tied a b)
      (h : KeysBefore keys a b) : KeysBefore (key :: keys) a b

/-- No key puts one row before the other. -/
def KeysTied (keys : List OrderingKey) (a b : α) : Prop := ∀ key ∈ keys, key.Tied a b

/-- Every key has a value on the row. -/
def HasKeys (keys : List OrderingKey) (row : α) : Prop :=
  ∀ key ∈ keys, ∃ v, key.valueOn row = .ok v

/-- The values of a key on two rows are of one type. -/
def OrderingKey.Alike (key : OrderingKey) (a b : α) : Prop :=
  ∀ v w, key.valueOn a = .ok v → key.valueOn b = .ok w → v.alike w = true

/-- The value of a key on a row, null where there is none. -/
def OrderingKey.valueOrNull (key : OrderingKey) (row : α) : Value :=
  match key.valueOn row with
  | .ok v => v
  | .error _ => .null

/-- The values of the keys on a row. -/
def keyValues (keys : List OrderingKey) (row : α) : List Value := keys.map (·.valueOrNull row)

/-- The comparison of rows that the sort uses. -/
def rowOrder (keys : List OrderingKey) (a b : α) : Ordering :=
  compareKeys (keys.map (·.direction)) (keyValues keys a) (keyValues keys b)

/-- The comparison of rows by one key. -/
def OrderingKey.order (key : OrderingKey) (a b : α) : Ordering :=
  key.direction.order (key.valueOrNull a) (key.valueOrNull b)

variable {key : OrderingKey} {keys : List OrderingKey} {a b : α} {v w : Value}

/-- The first key, and then the others. -/
theorem rowOrder_cons (key : OrderingKey) (keys : List OrderingKey) (a b : α) :
    rowOrder (key :: keys) a b = (key.order a b).then (rowOrder keys a b) := rfl

theorem OrderingKey.valueOrNull_eq (h : key.valueOn a = .ok v) : key.valueOrNull a = v := by
  rw [OrderingKey.valueOrNull, h]

theorem OrderingKey.before_iff (ha : key.valueOn a = .ok v) (hb : key.valueOn b = .ok w) :
    key.Before a b ↔ key.direction.Before v w := by
  constructor
  · rintro ⟨v', w', hv, hw, h⟩
    obtain rfl : v = v' := Except.ok.inj (ha.symm.trans hv)
    obtain rfl : w = w' := Except.ok.inj (hb.symm.trans hw)
    exact h
  · exact fun h => ⟨v, w, ha, hb, h⟩

/-- The comparison of the values of a key is the order of the key. -/
theorem OrderingKey.order_iff (ha : ∃ v, key.valueOn a = .ok v) (hb : ∃ w, key.valueOn b = .ok w)
    (halike : key.Alike a b) :
    (key.order a b = .lt ↔ key.Before a b) ∧ (key.order a b = .eq ↔ key.Tied a b) := by
  obtain ⟨v, hv⟩ := ha
  obtain ⟨w, hw⟩ := hb
  have h := halike v w hv hw
  rw [OrderingKey.order, key.valueOrNull_eq hv, key.valueOrNull_eq hw, OrderingKey.Tied,
    key.before_iff hv hw, key.before_iff hw hv]
  exact ⟨Direction.order_eq_lt_iff h, Direction.order_eq_eq_iff h⟩

theorem HasKeys.head (h : HasKeys (key :: keys) a) : ∃ v, key.valueOn a = .ok v :=
  h key (by simp)

theorem HasKeys.tail (h : HasKeys (key :: keys) a) : HasKeys keys a :=
  fun k hk => h k (List.mem_cons_of_mem _ hk)

/-- **The comparison of rows is the order of the clause.**  The induction is on the keys: the first
one decides unless it ties. -/
theorem rowOrder_iff (ha : HasKeys keys a) (hb : HasKeys keys b)
    (halike : ∀ key ∈ keys, key.Alike a b) :
    (rowOrder keys a b = .lt ↔ KeysBefore keys a b) ∧
    (rowOrder keys a b = .eq ↔ KeysTied keys a b) := by
  induction keys with
  | nil =>
      refine ⟨⟨fun h => ?_, fun h => ?_⟩, ⟨fun _ k hk => absurd hk List.not_mem_nil, fun _ => rfl⟩⟩
      · cases h
      · cases h
  | cons key keys ih =>
      obtain ⟨hlt, heq⟩ := key.order_iff ha.head hb.head (halike key (by simp))
      obtain ⟨ihlt, iheq⟩ := ih ha.tail hb.tail fun k hk => halike k (List.mem_cons_of_mem _ hk)
      rw [rowOrder_cons, Ordering.then_eq_lt, Ordering.then_eq_eq, hlt, heq, ihlt, iheq]
      refine ⟨⟨?_, fun h => ?_⟩,
        (List.forall_mem_cons (p := fun k : OrderingKey => k.Tied a b)).symm⟩
      · rintro (h | ⟨htied, h⟩)
        · exact .first h
        · exact .later htied h
      · cases h with
        | first h => exact .inl h
        | later htied h => exact .inr ⟨htied, h⟩

/-! ## §4. The sort. -/

section Sorted

variable {β : Type} {order : β → β → Ordering} {xs ys : List β}

theorem sortOrEnd_eq_ok_iff : sortOrEnd order xs = .ok ys ↔ trySort order xs = some ys := by
  unfold sortOrEnd
  cases trySort order xs <;> simp

/-- A sort can only end everything. -/
theorem sortOrEnd_eq_error_iff {e : SearchError} :
    sortOrEnd order xs = .error e ↔ e = .disordered ∧ trySort order xs = none := by
  unfold sortOrEnd
  cases trySort order xs <;> simp [eq_comm]

/-- **Few elements are sorted, and so are those that are in an order.** -/
theorem sortOrEnd_eq_stableSort (h : xs.length ≤ 20 ∨ Consistent order xs) :
    sortOrEnd order xs = .ok (stableSort order xs) :=
  sortOrEnd_eq_ok_iff.mpr (h.elim (trySort_of_length_le order) (sorts_trySort order xs).sorts)

theorem sortOrEnd_perm (h : sortOrEnd order xs = .ok ys) : ys.Perm xs :=
  (sorts_trySort order xs).perm ys (sortOrEnd_eq_ok_iff.mp h)

theorem sortOrEnd_map {γ : Type} (order : β → β → Ordering) (f : γ → β) (xs : List γ) :
    sortOrEnd order (xs.map f) =
      (·.map f) <$> sortOrEnd (fun a b => order (f a) (f b)) xs := by
  unfold sortOrEnd
  rw [trySort_map]
  cases trySort (fun a b => order (f a) (f b)) xs <;> rfl

end Sorted

theorem withKeys_eq (h : HasKeys keys a) : withKeys keys a = .ok (keyValues keys a, a) := by
  have hvalues : (keys.mapM fun key => key.expr.value [] (Searchable.record a)) =
      .ok (keyValues keys a) := by
    refine mapM_eq_ok fun key hkey => ?_
    obtain ⟨v, hv⟩ := h key hkey
    rw [key.valueOrNull_eq hv]
    exact hv
  rw [withKeys, hvalues]
  rfl

theorem hasKeys_of_withKeys {values : List Value × α} (h : withKeys keys a = .ok values) :
    HasKeys keys a := by
  obtain ⟨vs, hvalues, -⟩ := bind_eq_ok_iff.mp h
  exact exists_ok_of_mapM hvalues

theorem exists_withKeys_iff : (∃ values, withKeys keys a = .ok values) ↔ HasKeys keys a :=
  ⟨fun ⟨_, h⟩ => hasKeys_of_withKeys h, fun h => ⟨_, withKeys_eq h⟩⟩

/-- Rows with keys are sorted by their comparison. -/
theorem orderRows_eq_sort {clause : String} (hclause : parseOrdering clause = .ok keys)
    {rows : List α} (h : ∀ row ∈ rows, HasKeys keys row) :
    orderRows clause rows = sortOrEnd (rowOrder keys) rows := by
  have hkeyed : rows.mapM (withKeys keys) =
      .ok (rows.map fun row => (keyValues keys row, row)) :=
    mapM_eq_ok fun row hrow => withKeys_eq (h row hrow)
  simp only [orderRows, hclause, hkeyed, ok_bind, sortOrEnd_map]
  show (sortOrEnd (rowOrder keys) rows >>= _) >>= _ = _
  cases sortOrEnd (rowOrder keys) rows with
  | error e => rfl
  | ok sorted =>
      show Except.ok ((sorted.map fun row => (keyValues keys row, row)).map (·.2)) = _
      rw [List.map_map]
      exact congrArg Except.ok (List.map_id sorted)

theorem orderRows_eq_stableSort {clause : String} (hclause : parseOrdering clause = .ok keys)
    {rows : List α} (h : ∀ row ∈ rows, HasKeys keys row)
    (hsettled : rows.length ≤ 20 ∨ Consistent (rowOrder keys) rows) :
    orderRows clause rows = .ok (stableSort (rowOrder keys) rows) := by
  rw [orderRows_eq_sort hclause h, sortOrEnd_eq_stableSort hsettled]

/-- A clause that orders rows has keys, and every row has a value for each of them. -/
theorem exists_of_orderRows {clause : String} {rows sorted : List α}
    (h : orderRows clause rows = .ok sorted) :
    ∃ keys, parseOrdering clause = .ok keys ∧ (∀ row ∈ rows, HasKeys keys row) ∧
      sortOrEnd (rowOrder keys) rows = .ok sorted := by
  cases hclause : parseOrdering clause with
  | error e => simp only [orderRows, hclause] at h; cases h
  | ok keys =>
      have hkeys : ∀ row ∈ rows, HasKeys keys row := by
        simp only [orderRows, hclause] at h
        obtain ⟨keyed, hkeyed, -⟩ := bind_eq_ok_iff.mp h
        intro row hrow
        obtain ⟨values, hvalues⟩ := exists_ok_of_mapM hkeyed row hrow
        exact hasKeys_of_withKeys hvalues
      rw [orderRows_eq_sort hclause hkeys] at h
      exact ⟨keys, rfl, hkeys, h⟩

/-- **Ordering moves rows and does nothing else to them.** -/
theorem orderRows_perm {clause : String} {rows sorted : List α}
    (h : orderRows clause rows = .ok sorted) : sorted.Perm rows := by
  obtain ⟨keys, -, -, hsorted⟩ := exists_of_orderRows h
  exact sortOrEnd_perm hsorted

theorem keysAlike_keyValues (ha : HasKeys keys a) (hb : HasKeys keys b)
    (halike : ∀ key ∈ keys, key.Alike a b) : KeysAlike (keyValues keys a) (keyValues keys b) := by
  refine List.forall₂_map_left_iff.mpr (List.forall₂_map_right_iff.mpr ?_)
  refine List.forall₂_same.mpr fun key hkey => ?_
  obtain ⟨v, hv⟩ := ha key hkey
  obtain ⟨w, hw⟩ := hb key hkey
  rw [key.valueOrNull_eq hv, key.valueOrNull_eq hw]
  exact halike key hkey v w hv hw

/-- Rows that have keys of one type are put in an order by them. -/
theorem consistent_rowOrder {rows : List α} (hrows : ∀ row ∈ rows, HasKeys keys row)
    (halike : ∀ key ∈ keys, ∀ a ∈ rows, ∀ b ∈ rows, key.Alike a b) :
    Consistent (rowOrder keys) rows :=
  consistent_compareKeys (fun a ha b hb => keysAlike_keyValues (hrows a ha) (hrows b hb)
    fun key hkey => halike key hkey a ha b hb) _

/-! ## §5. Failures. -/

theorem withKeys_eq_error_iff {e : SearchError} : withKeys keys a = .error e ↔
    (keys.mapM fun key : OrderingKey => key.valueOn a) = .error e := by
  show ((keys.mapM fun key : OrderingKey => key.valueOn a) >>= fun values => .ok (values, a)) = _ ↔ _
  rw [bind_eq_error_iff]
  exact or_iff_left nofun

theorem withKeys_eq_error {e : SearchError}
    (h : (keys.mapM fun key : OrderingKey => key.valueOn a) = .error e) :
    withKeys keys a = .error e :=
  withKeys_eq_error_iff.mpr h

/-- Ordering fails where finding the keys of the rows does; and it ends where the sort gives up. -/
theorem orderRows_eq_error_iff {clause : String} (hclause : parseOrdering clause = .ok keys)
    {rows : List α} {e : SearchError} :
    orderRows clause rows = .error e ↔ rows.mapM (withKeys keys) = .error e ∨
      (∀ row ∈ rows, HasKeys keys row) ∧ sortOrEnd (rowOrder keys) rows = .error e := by
  by_cases hkeys : ∀ row ∈ rows, HasKeys keys row
  · have hkeyed : rows.mapM (withKeys keys) = .ok (rows.map fun row => (keyValues keys row, row)) :=
      mapM_eq_ok fun row hrow => withKeys_eq (hkeys row hrow)
    rw [orderRows_eq_sort hclause hkeys, hkeyed, and_iff_right hkeys]
    exact (or_iff_right nofun).symm
  · simp only [orderRows, hclause, bind_eq_error_iff, hkeys, false_and, or_false]
    refine or_iff_left ?_
    rintro ⟨keyed, hkeyed, -⟩
    refine hkeys fun row hrow => ?_
    obtain ⟨values, hvalues⟩ := exists_ok_of_mapM hkeyed row hrow
    exact hasKeys_of_withKeys hvalues

open scoped Classical in
/-- **Ordering sorts the rows, stably, or reports the first failure.**  Where every key has a value
on every row, and the values of each key are of one type, the rows come out in another order: each
row comes before those behind it, or ties with them on all keys, and rows that tie on all keys are
in the order in which they came.  Where some key fails on some row, the first failing row is
reported, by the first of its keys that fails. -/
theorem orderRows_sorts {clause : String} (hclause : parseOrdering clause = .ok keys)
    (rows : List α) :
    ((∀ row ∈ rows, HasKeys keys row) →
      (∀ key ∈ keys, ∀ a ∈ rows, ∀ b ∈ rows, key.Alike a b) →
      ∃ sorted, orderRows clause rows = .ok sorted ∧ sorted.Perm rows ∧
        (sorted.Pairwise fun a b => KeysBefore keys a b ∨ KeysTied keys a b) ∧
        ∀ a ∈ rows, sorted.filter (fun b => KeysTied keys a b) =
          rows.filter fun b => KeysTied keys a b) ∧
    ((∃ row ∈ rows, ∃ key ∈ keys, ∃ e, key.valueOn row = .error e) →
      ∃ before row after earlier key later e, rows = before ++ row :: after ∧
        keys = earlier ++ key :: later ∧ (∀ a ∈ before, HasKeys keys a) ∧
        HasKeys earlier row ∧ key.valueOn row = .error e ∧ orderRows clause rows = .error e) := by
  refine ⟨fun hkeys halike => ?_, ?_⟩
  · have horder : ∀ a ∈ rows, ∀ b ∈ rows, (rowOrder keys a b = .lt ↔ KeysBefore keys a b) ∧
        (rowOrder keys a b = .eq ↔ KeysTied keys a b) := fun a ha b hb =>
      rowOrder_iff (hkeys a ha) (hkeys b hb) fun key hkey => halike key hkey a ha b hb
    have hconsistent := consistent_rowOrder hkeys halike
    obtain ⟨hperm, hsorted, hstable⟩ := isStableSort_stableSort hconsistent
    refine ⟨_, orderRows_eq_stableSort hclause hkeys (.inr hconsistent), hperm, ?_, fun a ha => ?_⟩
    · -- What is not behind comes before or ties.
      refine hsorted.imp_of_mem fun {a b} ha hb hab => ?_
      obtain ⟨hlt, heq⟩ := horder a (hperm.mem_iff.mp ha) b (hperm.mem_iff.mp hb)
      cases ho : rowOrder keys a b with
      | lt => exact .inl (hlt.mp ho)
      | eq => exact .inr (heq.mp ho)
      | gt => exact absurd ho hab
    · have hties : ∀ b ∈ rows, decide (KeysTied keys a b) = decide (rowOrder keys a b = .eq) :=
        fun b hb => decide_eq_decide.mpr (horder a ha b hb).2.symm
      rw [List.filter_congr hties, List.filter_congr fun b hb => hties b (hperm.mem_iff.mp hb)]
      exact hstable a ha
  · rintro ⟨row, hrow, key, hkey, e, he⟩
    -- The rows fail at the first row that fails, and this one at its first key that fails.
    have hfails : ∃ row ∈ rows, ∃ e, withKeys keys row = .error e := by
      obtain ⟨_, _, _, e', -, -, -, hrow'⟩ :=
        mapM_eq_error (f := fun key : OrderingKey => key.valueOn row) ⟨key, hkey, e, he⟩
      exact ⟨row, hrow, e', withKeys_eq_error hrow'⟩
    obtain ⟨before, first, after, e₁, hrows, hbefore, hfirst, hmapM⟩ := mapM_eq_error hfails
    have hfirstKey : ∃ key ∈ keys, ∃ e, key.valueOn first = .error e := by
      by_contra hnone
      have hall : HasKeys keys first := by
        intro key hkey
        cases hvalue : key.valueOn first with
        | ok v => exact ⟨v, rfl⟩
        | error e => exact absurd ⟨key, hkey, e, hvalue⟩ hnone
      rw [withKeys_eq hall] at hfirst
      cases hfirst
    obtain ⟨earlier, key', later, e₂, hkeys, hearlier, hkey', hkeysM⟩ := mapM_eq_error hfirstKey
    obtain rfl : e₁ = e₂ := by
      rw [withKeys_eq_error hkeysM] at hfirst
      exact (Except.error.inj hfirst).symm
    refine ⟨before, first, after, earlier, key', later, e₁, hrows, hkeys, fun a ha => ?_, hearlier,
      hkey', ?_⟩
    · obtain ⟨values, hvalues⟩ := hbefore a ha
      exact hasKeys_of_withKeys hvalues
    · simp only [orderRows, hclause, hmapM]
      rfl

end Rows

/-- Null comes first in descending order, and an integer ties with the same integer of the other
kind.  A row without the member fails. -/
theorem orderRows_sorts_mixed_integers :
    let row := fun (id : Int64) (rank : Value) =>
      ([("id", .value (.int id)), ("rank", .value rank)] : Record)
    let rows := [row 1 (.int 7), row 2 .null, row 3 (.uint 7)]
    let keys : List OrderingKey := [⟨.name "rank", .descending⟩]
    parseOrdering "rank DESC" = .ok keys ∧ (∀ row ∈ rows, HasKeys keys row) ∧
      (∀ key ∈ keys, ∀ a ∈ rows, ∀ b ∈ rows, key.Alike a b) ∧
      orderRows "rank DESC" rows = .ok [row 2 .null, row 1 (.int 7), row 3 (.uint 7)] ∧
      ([row 2 .null, row 1 (.int 7), row 3 (.uint 7)].Pairwise fun a b =>
        KeysBefore keys a b ∨ KeysTied keys a b) ∧
      ∃ e, orderRows "rank DESC" (rows ++ [[]]) = .error e := by
  intro row rows keys
  have hclause : parseOrdering "rank DESC" = .ok keys := by rfl
  have hkeys : ∀ row ∈ rows, HasKeys keys row := by
    simp only [rows, keys, HasKeys, List.forall_mem_cons]
    exact ⟨⟨⟨_, rfl⟩, by simp⟩, ⟨⟨_, rfl⟩, by simp⟩, ⟨⟨_, rfl⟩, by simp⟩, by simp⟩
  have halike : ∀ key ∈ keys, ∀ a ∈ rows, ∀ b ∈ rows, key.Alike a b := by
    simp only [rows, keys, List.mem_cons, List.not_mem_nil, or_false]
    rintro _ rfl _ (rfl | rfl | rfl) _ (rfl | rfl | rfl) v w hv hw <;> cases hv <;> cases hw <;> rfl
  have hsorted : orderRows "rank DESC" rows =
      .ok [row 2 .null, row 1 (.int 7), row 3 (.uint 7)] := by rfl
  obtain ⟨sorted, hok, -, hpairwise, -⟩ := (orderRows_sorts hclause rows).1 hkeys halike
  obtain rfl := Except.ok.inj (hsorted.symm.trans hok)
  obtain ⟨-, -, -, -, -, -, e, -, -, -, -, -, herror⟩ :=
    (orderRows_sorts hclause (rows ++ [[]])).2 ⟨[], by simp, _, .head _, _, rfl⟩
  exact ⟨hclause, hkeys, halike, hsorted, hpairwise, e, herror⟩

end RecordSearch
