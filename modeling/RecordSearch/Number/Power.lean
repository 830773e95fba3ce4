/-
  RecordSearch.Number.Power
  ─────────────────────────
  **The two scales of numbers.** Places of a significand step by powers of two, places of a decimal
  by powers of ten.
-/

namespace RecordSearch

/-- Two to the power `k`. -/
def twoTo (k : Nat) : Nat := Nat.pow 2 k

/-- Ten to the power `k`. -/
def tenTo (k : Nat) : Nat := Nat.pow 10 k

theorem twoTo_zero : twoTo 0 = 1 := rfl

theorem twoTo_succ (k : Nat) : twoTo (k + 1) = twoTo k * 2 := rfl

theorem twoTo_pos (k : Nat) : 0 < twoTo k := Nat.pow_pos (by decide)

end RecordSearch
