/-
  RecordSearch.Number.Word
  ────────────────────────
  **Integers that 64 bits hold.**

      int64? n, uint64? n   — the signed, or unsigned, word of an integer in range
-/

namespace RecordSearch

/-- The signed word of an integer, if 64 bits hold it. -/
def int64? (n : Int) : Option Int64 :=
  if Int64.minValue.toInt ≤ n ∧ n ≤ Int64.maxValue.toInt then some (Int64.ofInt n) else none

/-- The unsigned word of an integer, if 64 bits hold it. -/
def uint64? (n : Int) : Option UInt64 :=
  if 0 ≤ n ∧ n < UInt64.size then some (UInt64.ofNat n.toNat) else none

end RecordSearch
