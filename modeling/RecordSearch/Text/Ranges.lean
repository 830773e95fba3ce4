/-
  RecordSearch.Text.Ranges
  ────────────────────────
  **Sets of code points as tables.**

  A property of characters is a table of closed ranges in ascending order (`Ranges`), or, where
  every second character has it, a table of runs with a step (`Run`). Membership stops at the
  first range that starts beyond the character.
-/

namespace RecordSearch.Text

/-- Closed ranges of code points, ascending and apart. -/
abbrev Ranges := List (Nat × Nat)

/-- Does the code point lie in one of the ranges? -/
def Ranges.holds : Ranges → Nat → Bool
  | [], _ => false
  | (low, high) :: rest, n =>
      if n < low then false else if n ≤ high then true else Ranges.holds rest n

/-- The code points `low`, `low + step`, … up to `high`. -/
structure Run where
  low : Nat
  high : Nat
  step : Nat

/-- Does the code point belong to the run? -/
def Run.holds (r : Run) (n : Nat) : Bool :=
  r.low ≤ n && n ≤ r.high && (n - r.low) % r.step == 0

/-- A run whose members all have their counterpart at the same distance. -/
structure ShiftedRun where
  low : Nat
  high : Nat
  step : Nat
  shift : Int

/-- The code points that a shifted run is about. -/
def ShiftedRun.run (r : ShiftedRun) : Run := ⟨r.low, r.high, r.step⟩

end RecordSearch.Text
