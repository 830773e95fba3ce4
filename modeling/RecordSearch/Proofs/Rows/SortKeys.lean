/-
  RecordSearch.Proofs.Rows.SortKeys
  ─────────────────────────────────
  **Keys of one kind order the rows.**

  Values of different kinds tie, so a key that mixes them need not put rows in an order at all, and
  neither does one that mixes integers with floating-point numbers, which round.  Where the values
  under each key are of one kind (`Value.alike`), each has a place on one line (`Value.place`), and
  comparing the values is comparing their places:

      ascendingOrder_of_alike   — two values stand to each other as their places do
      consistent_compareKeys    — the order of rows by their keys is one
-/
import RecordSearch.Rows
import RecordSearch.Proofs.Sorting.StableSort
import RecordSearch.Proofs.Value.Order

namespace RecordSearch

variable {β : Type} {order order' : β → β → Ordering} {xs : List β}

/-! ## §1. Orders made of orders. -/

namespace Consistent

theorem congr (h : Consistent order xs) (heq : ∀ a ∈ xs, ∀ b ∈ xs, order' a b = order a b) :
    Consistent order' xs where
  swap a ha b hb := by rw [heq a ha b hb, heq b hb a ha, h.swap a ha b hb]
  trans a ha b hb c hc := by
    rw [heq a ha b hb, heq b hb c hc, heq a ha c hc]
    exact h.trans a ha b hb c hc

/-- Places in an order of the library. -/
theorem of_place {γ : Type} [Ord γ] [Std.TransOrd γ] (place : β → γ) (xs : List β) :
    Consistent (fun a b => compare (place a) (place b)) xs where
  swap _ _ _ _ := Std.OrientedOrd.eq_swap
  trans a _ b _ c _ hab hbc := by
    refine Ordering.isLE_iff_ne_gt.mp (Std.TransOrd.isLE_trans (b := place b) ?_ ?_)
    · exact Ordering.isLE_iff_ne_gt.mpr hab
    · exact Ordering.isLE_iff_ne_gt.mpr hbc

/-- The other way round. -/
theorem reverse (h : Consistent order xs) : Consistent (fun a b => (order a b).swap) xs where
  swap a ha b hb := by rw [h.swap a ha b hb]
  trans a ha b hb c hc hab hbc := by
    rw [← h.swap a ha b hb] at hab
    rw [← h.swap b hb c hc] at hbc
    rw [← h.swap a ha c hc]
    exact h.trans c hc b hb a ha hbc hab

/-- One order after the other: where `a` and `c` tie, so do all that stand between them. -/
theorem andThen (h : Consistent order xs) (h' : Consistent order' xs) :
    Consistent (fun a b => (order a b).then (order' a b)) xs where
  swap a ha b hb := by rw [h.swap a ha b hb, h'.swap a ha b hb, Ordering.swap_then]
  trans a ha b hb c hc hab hbc := by
    have hab' : order a b ≠ .gt := fun hgt => by rw [hgt] at hab; exact hab rfl
    have hbc' : order b c ≠ .gt := fun hgt => by rw [hgt] at hbc; exact hbc rfl
    show (order a c).then (order' a c) ≠ .gt
    cases hac : order a c with
    | gt => exact absurd hac (h.trans a ha b hb c hc hab' hbc')
    | lt =>
        rw [Ordering.lt_then]
        decide
    | eq =>
        -- `b` stands to both of them in the same way, so it ties with them.
        have hboth : order a b = (order b c).swap := by
          rw [h.eq_of_tie ha hc hb hac, h.swap b hb c hc]
        have htie : order b c = .eq := by
          cases hcase : order b c with
          | eq => rfl
          | gt => exact absurd hcase hbc'
          | lt =>
              rw [hboth, hcase] at hab'
              exact absurd rfl hab'
        rw [hboth, htie] at hab
        rw [htie] at hbc
        exact h'.trans a ha b hb c hc hab hbc

end Consistent

/-! ## §2. Places. -/

namespace Value

/-- Are the values of one kind, integers apart from floating-point numbers?  Null is of every
kind. -/
def alike (a b : Value) : Bool :=
  a.isNull || b.isNull || (a.kind = b.kind && a.integer?.isSome = b.integer?.isSome)

/-- **Where a value stands**: null behind no-number, and no-number behind everything else. -/
def place : Value → List Int
  | .null => [2]
  | .bool b => [0, b.toNat]
  | .int n => [0, n.toInt]
  | .uint n => [0, n.toNat]
  | .float x => if x.isNaN then [1] else [0, x.rank]
  | .text s => 0 :: s.toList.map fun c => (c.toNat : Int)
  | .uuid u => [0, u.bits.toNat]
  | .dateTime t =>
    [0, t.date.year, t.date.month, t.date.day, t.second, t.nanosecond]
  | .date d => [0, d.year, d.month, d.day]
  | .list _ => [0]

end Value

theorem compare_map {γ δ : Type} [Ord γ] [Ord δ] (f : γ → δ)
    (h : ∀ a b, compare (f a) (f b) = compare a b) (as bs : List γ) :
    compare (as.map f) (bs.map f) = compare as bs := by
  induction as generalizing bs with
  | nil => cases bs <;> rfl
  | cons a as ih =>
      cases bs with
      | nil => rfl
      | cons b bs =>
          rw [List.map_cons, List.map_cons, List.compare_cons_cons, List.compare_cons_cons, h, ih]

theorem compare_natCast (m n : Nat) : compare (m : Int) (n : Int) = compare m n := by
  show compareOfLessAndEq (m : Int) (n : Int) = compareOfLessAndEq m n
  simp only [compareOfLessAndEq, Int.ofNat_lt, Int.natCast_inj]

theorem compare_codePoint (c d : Char) : compare (c.toNat : Int) (d.toNat : Int) = compare c d := by
  have hlt : c.toNat < d.toNat ↔ c < d := Iff.rfl
  rw [compare_natCast]
  show compareOfLessAndEq c.toNat d.toNat = compareOfLessAndEq c d
  simp only [compareOfLessAndEq, hlt, Char.toNat_inj]

/-- Two integers are compared exactly. -/
theorem ascendingOrder_integers {a b : Value} {m n : Int} (ha : a.integer? = some m)
    (hb : b.integer? = some n) : ascendingOrder a b = compare m n := by
  have horder := Value.compare?_of_integers ha hb
  rw [ascendingOrder, Value.isNull_of_integer? ha, Value.isNull_of_integer? hb]
  dsimp only
  rw [horder, Option.getD_some]

/-- **Values of one kind stand to each other as their places do.** -/
theorem ascendingOrder_of_alike {a b : Value} (h : a.alike b = true) :
    ascendingOrder a b = compare a.place b.place := by
  have hcons : ∀ ms ns : List Int, compare (0 :: ms) (0 :: ns) = compare ms ns := by
    intro ms ns
    rw [List.compare_cons_cons]
    rfl
  have hone : ∀ m n : Int, compare [0, m] [0, n] = compare m n := by
    intro m n
    rw [hcons, List.compare_cons_cons]
    exact Ordering.then_eq
  have hnil : compare ([] : List Int) [] = .eq := rfl
  -- Values of different kinds are alike only if one of them is null.
  cases a <;> cases b <;> first | rfl | (cases h; done) | skip
  case null.float x =>
    show Ordering.gt = compare [2] (if x.isNaN then [1] else [0, x.rank])
    cases x.isNaN <;> rfl
  case bool.bool a b => revert a b; decide
  -- Integers of either kind are compared exactly.
  case int.int a b => exact (ascendingOrder_integers rfl rfl).trans (hone _ _).symm
  case int.uint a b => exact (ascendingOrder_integers rfl rfl).trans (hone _ _).symm
  case uint.int a b => exact (ascendingOrder_integers rfl rfl).trans (hone _ _).symm
  case uint.uint a b => exact (ascendingOrder_integers rfl rfl).trans (hone _ _).symm
  case float.null x =>
    show Ordering.lt = compare (if x.isNaN then [1] else [0, x.rank]) [2]
    cases x.isNaN <;> rfl
  case float.float x y =>
    -- No-number has no order among numbers; what is left of it is whether each is one.
    show (x.compare? y).getD (compare x.isNaN y.isNaN) =
      compare (if x.isNaN then [1] else [0, x.rank]) (if y.isNaN then [1] else [0, y.rank])
    unfold Binary64.compare?
    cases x.isNaN <;> cases y.isNaN <;> first | rfl | exact (hone _ _).symm
  case text.text a b =>
    show compare a.toList b.toList = compare (0 :: a.toList.map _) (0 :: b.toList.map _)
    rw [hcons, compare_map _ compare_codePoint]
  case uuid.uuid a b => exact ((hone _ _).trans (compare_natCast _ _)).symm
  case dateTime.dateTime a b =>
    show a.order b = compare (0 :: _) (0 :: _)
    unfold Instant.order Date.order
    rw [hcons]
    simp only [List.compare_cons_cons, compare_natCast, hnil, Ordering.then_eq,
      Ordering.then_assoc]
  case date.date a b =>
    show a.order b = compare (0 :: _) (0 :: _)
    unfold Date.order
    rw [hcons]
    simp only [List.compare_cons_cons, compare_natCast, hnil, Ordering.then_eq]

/-! ## §3. Keys. -/

theorem consistent_order {f : β → Value} (h : ∀ a ∈ xs, ∀ b ∈ xs, (f a).alike (f b) = true)
    (d : Direction) : Consistent (fun a b => d.order (f a) (f b)) xs := by
  have hascending : Consistent (fun a b => ascendingOrder (f a) (f b)) xs :=
    (Consistent.of_place (fun a => (f a).place) xs).congr fun a ha b hb =>
      ascendingOrder_of_alike (h a ha b hb)
  cases d with
  | ascending => exact hascending
  | descending => exact hascending.reverse

/-- Are the values alike, key by key? -/
abbrev KeysAlike : List Value → List Value → Prop := List.Forall₂ fun a b => a.alike b = true

namespace KeysAlike

variable {as bs : List Value}

theorem head (h : KeysAlike as bs) : (as.headD .null).alike (bs.headD .null) = true := by
  cases h with
  | nil => rfl
  | cons hhead _ => exact hhead

theorem tail (h : KeysAlike as bs) : KeysAlike as.tail bs.tail := by
  cases h with
  | nil => exact .nil
  | cons _ htail => exact htail

/-- The first key, and then the others. -/
theorem compareKeys_cons (h : KeysAlike as bs) (d : Direction) (ds : List Direction) :
    compareKeys (d :: ds) as bs =
      (d.order (as.headD .null) (bs.headD .null)).then (compareKeys ds as.tail bs.tail) := by
  cases h with
  | nil => cases d <;> cases ds <;> rfl
  | cons _ _ => rfl

end KeysAlike

/-- **Keys of one kind order the rows.** -/
theorem consistent_compareKeys {keys : β → List Value}
    (h : ∀ a ∈ xs, ∀ b ∈ xs, KeysAlike (keys a) (keys b)) (directions : List Direction) :
    Consistent (fun a b => compareKeys directions (keys a) (keys b)) xs := by
  -- The other keys are those of the rows with their first key taken off.
  induction directions generalizing keys with
  | nil => exact (Consistent.of_place (fun _ => 0) xs).congr fun _ _ _ _ => rfl
  | cons d ds ih =>
      have hfirst := consistent_order (fun a ha b hb => (h a ha b hb).head) d
      have hothers := ih fun a ha b hb => (h a ha b hb).tail
      exact (hfirst.andThen hothers).congr fun a ha b hb => (h a ha b hb).compareKeys_cons d ds

end RecordSearch
