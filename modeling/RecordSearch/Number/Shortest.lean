/-
  RecordSearch.Number.Shortest
  ────────────────────────────
  **The fewest digits that read back.**

  A floating-point magnitude stands for an interval of reals: those that round to it. Its shortest
  decimal is a point of that interval on the coarsest decimal grid that has one; of two such
  points the nearer to the exact value, and of two equally near the one that the tie rule names.
  On each grid only the two neighbours of the exact value need to be tried.

      format.interval pattern        — the interval, in naturals over one denominator
      Interval.onGrid tie k          — the point chosen on the grid of step 10^k, if any
      format.shortest tie pattern    — the first grid with a point, coarsest first
-/
import RecordSearch.Number.Binary

namespace RecordSearch

/-- The decimal `digits · 10^exponent`. -/
structure Decimal where
  digits : Nat
  exponent : Int
  deriving DecidableEq, Repr

namespace Decimal

/-- Which of two equally near decimals is chosen. -/
inductive Tie where
  /-- The one with an even last digit. -/
  | toEven
  /-- The greater one. -/
  | up

/-- Moves trailing zeros of the digits into the exponent, at most as many as the fuel says. -/
def stripZeros : Nat → Decimal → Decimal
  | fuel + 1, ⟨digits, exponent⟩ =>
      if digits % 10 = 0 then stripZeros fuel ⟨digits / 10, exponent + 1⟩ else ⟨digits, exponent⟩
  | 0, d => d

end Decimal

/-- The reals that round to a value, as numerators over a common denominator. The ends belong to
the interval when it is closed. -/
structure Interval where
  lower : Nat
  value : Nat
  upper : Nat
  denominator : Nat
  closed : Bool

namespace Interval

/-- Does the real `point / scale` lie in an interval whose numerators are scaled alike? -/
def admits (i : Interval) (point : Nat) : Bool :=
  if i.closed then i.lower ≤ point && point ≤ i.upper else i.lower < point && point < i.upper

/-- The same interval in units of 10^k. -/
def inUnits (i : Interval) (k : Int) : Interval :=
  let up := tenTo (-k).toNat
  { i with
    lower := i.lower * up
    value := i.value * up
    upper := i.upper * up
    denominator := i.denominator * tenTo k.toNat }

/-- The point of the interval on the grid of step 10^k that is nearest to the value. -/
def onGrid (i : Interval) (tie : Decimal.Tie) (k : Int) : Option Decimal :=
  let j := i.inUnits k
  let below := j.value / j.denominator
  let fitsBelow := j.admits (below * j.denominator)
  let fitsAbove := j.admits ((below + 1) * j.denominator)
  let pickAbove : Bool :=
    match compare (2 * j.value) ((2 * below + 1) * j.denominator), tie with
    | .lt, _ => false
    | .gt, _ => true
    | .eq, .up => true
    | .eq, .toEven => below % 2 = 1
  if fitsBelow && !(fitsAbove && pickAbove) then some ⟨below, k⟩
  else if fitsAbove then some ⟨below + 1, k⟩
  else none

/-- The least power of ten above the value, found from the binary logarithms. -/
def scale (i : Interval) : Int :=
  let estimate := ((i.value.log2 : Int) - i.denominator.log2) * 30103 / 100000
  let exceeds (k : Int) : Bool :=
    i.value * tenTo (-k).toNat < i.denominator * tenTo k.toNat
  (([-1, 0, 1] : List Int).map (estimate + ·)).find? exceeds |>.getD (estimate + 2)

end Interval

namespace BinaryFormat

/-- The interval of a positive finite pattern. It reaches halfway to the neighbours, and its ends
belong to it when the significand is even. The neighbour below a power of two is only half as far
away. -/
def interval (f : BinaryFormat) (pattern : Nat) : Interval :=
  let (significand, place) := f.parts pattern
  let narrow := pattern % twoTo f.fractionBits = 0 && twoTo f.fractionBits < pattern
  let up := twoTo (place - 2).toNat
  { lower := (4 * significand - if narrow then 1 else 2) * up
    value := 4 * significand * up
    upper := (4 * significand + 2) * up
    denominator := twoTo (2 - place).toNat
    closed := significand % 2 = 0 }

/-- **The shortest decimal of a positive finite pattern.** Seventeen digits always suffice. -/
def shortest (f : BinaryFormat) (tie : Decimal.Tie) (pattern : Nat) : Decimal :=
  let i := f.interval pattern
  let top := i.scale
  let grids : List Int := (List.range 17).map fun (n : Nat) => top - 1 - n
  let chosen := (grids.findSome? (i.onGrid tie)).getD
    ⟨i.value * tenTo (17 - top).toNat / (i.denominator * tenTo (top - 17).toNat), top - 17⟩
  chosen.stripZeros 17

end BinaryFormat

end RecordSearch
