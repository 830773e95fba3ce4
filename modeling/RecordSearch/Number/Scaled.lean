/-
  RecordSearch.Number.Scaled
  ──────────────────────────
  **Decimals scaled in floating point.**

  A decimal can be read without leaving 64 bits. Its leading digits, as many as an integer holds,
  are rounded to a number; that number is multiplied or divided by a power of ten, which is itself
  a rounded number. With digits below 2^53 and a power of at most 22 the last step alone rounds,
  and the result is the number nearest to the decimal. Beyond that it can be a neighbour of it.

      appendDigits n digits            — `n` continued by the digits that 64 bits hold
      format.scaled digits exponent    — the pattern of the scaled digits
      Binary64.ofWritten               — the number of the digits before and behind a point
-/
import RecordSearch.Number.Binary
import RecordSearch.Number.Digits

namespace RecordSearch

/-! ## §1. Digits. -/

/-- The number continued by digits for as long as 64 bits hold it, and how many digits these are. -/
def appendDigits (n : Nat) : List Char → Nat × Nat
  | [] => (n, 0)
  | d :: ds =>
    let longer := 10 * n + decimalValue [d]
    if longer < UInt64.size then
      let (m, taken) := appendDigits longer ds
      (m, taken + 1)
    else (n, 0)

/-- The significand and the power of ten of the digits before and behind a point. Digits before
the point that 64 bits do not hold count as zeros, digits behind it as absent. -/
def significandOf (whole fraction : List Char) : Nat × Int :=
  let (n, taken) := appendDigits 0 whole
  let (n, places) := appendDigits n fraction
  (n, (whole.length - taken : Nat) - (places : Int))

/-! ## §2. Scaling. -/

namespace BinaryFormat

/-- The product of two finite magnitudes. -/
def product (f : BinaryFormat) (a b : Nat) : Nat :=
  let (m, d) := f.ratio a
  let (n, e) := f.ratio b
  f.nearest (m * n) (d * e)

/-- The quotient of two finite magnitudes, the second positive. -/
def quotient (f : BinaryFormat) (a b : Nat) : Nat :=
  let (m, d) := f.ratio a
  let (n, e) := f.ratio b
  f.nearest (m * e) (d * n)

/-- The greatest power of ten that is a finite number of 64 bits. -/
def greatestPower : Nat := 308

/-- A power of ten. -/
def power (f : BinaryFormat) (k : Nat) : Nat := f.nearest (tenTo k) 1

/-- A magnitude times a power of ten. -/
def scaleUp (f : BinaryFormat) (x k : Nat) : Nat :=
  if k ≤ greatestPower then f.product x (f.power k) else if x = 0 then 0 else f.infinity

/-- A magnitude divided by a power of ten, in steps of the greatest one. -/
def scaleDown (f : BinaryFormat) (x k : Nat) : Nat :=
  if k ≤ greatestPower then f.quotient x (f.power k)
  else if x = 0 then 0
  else f.scaleDown (f.quotient x (f.power greatestPower)) (k - greatestPower)
termination_by k
decreasing_by simp only [greatestPower] at *; omega

/-- The digits, rounded and then scaled. -/
def scaled (f : BinaryFormat) (digits : Nat) (exponent : Int) : Nat :=
  let x := f.nearest digits 1
  if 0 ≤ exponent then f.scaleUp x exponent.toNat else f.scaleDown x (-exponent).toNat

end BinaryFormat

/-- **The number that is written** by the digits before and behind a point and a power of ten. -/
def Binary64.ofWritten (negative : Bool) (whole fraction : List Char) (power : Int) : Binary64 :=
  let (digits, exponent) := significandOf whole fraction
  ofParts negative (BinaryFormat.double.scaled digits (exponent + power))

end RecordSearch
