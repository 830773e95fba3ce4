/-
  RecordSearch.Number.Binary
  ──────────────────────────
  **Binary floating-point numbers as their bits.**

  A number of a binary interchange format is a sign and a magnitude pattern: exponent field and
  fraction field read as one natural number. Patterns are ordered like the magnitudes they stand
  for, so comparison, rounding and overflow are arithmetic on naturals:

      format.parts pattern       — the magnitude as significand · 2^place
      format.nearest num den     — the pattern of the magnitude nearest to num / den, ties to even
      Binary64.compare? x y      — numeric order, absent when one of the two is no number

  Nothing here goes through hardware arithmetic, so every statement about a number is a statement
  about its bits.
-/
import RecordSearch.Number.Power

namespace RecordSearch

/-! ## §1. Formats. -/

/-- A binary interchange format, by the widths of its two fields. -/
structure BinaryFormat where
  fractionBits : Nat
  exponentBits : Nat

namespace BinaryFormat

/-- 64 bits: 52 of fraction, 11 of exponent. -/
def double : BinaryFormat := ⟨52, 11⟩

/-- 32 bits: 23 of fraction, 8 of exponent. -/
def single : BinaryFormat := ⟨23, 8⟩

/-- The pattern of infinity. Smaller patterns are finite magnitudes, larger ones no numbers. -/
def infinity (f : BinaryFormat) : Nat := (twoTo f.exponentBits - 1) * twoTo f.fractionBits

/-- The place of the last bit of the least positive magnitude. -/
def leastPlace (f : BinaryFormat) : Int := 2 - twoTo (f.exponentBits - 1) - f.fractionBits

/-- The finite magnitude of a pattern, as significand and place: significand · 2^place. -/
def parts (f : BinaryFormat) (pattern : Nat) : Nat × Int :=
  let exponent := pattern / twoTo f.fractionBits
  let fraction := pattern % twoTo f.fractionBits
  if exponent = 0 then (fraction, f.leastPlace)
  else (twoTo f.fractionBits + fraction, f.leastPlace + (exponent - 1 : Nat))

/-- The magnitude of a pattern as a quotient of naturals. -/
def ratio (f : BinaryFormat) (pattern : Nat) : Nat × Nat :=
  let (significand, place) := f.parts pattern
  (significand * twoTo place.toNat, twoTo (-place).toNat)

/-- Rounds a quotient to the nearest natural, a tie to the even one. -/
def nearestNat (num den : Nat) : Nat :=
  let q := num / den
  let r := num % den
  if 2 * r < den then q
  else if den < 2 * r then q + 1
  else if q % 2 = 0 then q else q + 1

/-- The place at which a positive quotient has a significand of full width, or the least place if
that is higher. -/
def placeOf (f : BinaryFormat) (num den : Nat) : Int :=
  let guess := (num.log2 : Int) - den.log2 - 1 - f.fractionBits
  let wide := num * twoTo (-guess).toNat / (den * twoTo guess.toNat)
  let place := if wide < twoTo (f.fractionBits + 1) then guess else guess + 1
  max place f.leastPlace

/-- **The pattern nearest to `num / den`.** A tie goes to the even pattern; what lies beyond the
greatest finite magnitude by half a place or more is infinite. A significand that rounds up to the
next power of two carries into the exponent field, which is the pattern of that power. -/
def nearest (f : BinaryFormat) (num den : Nat) : Nat :=
  if num = 0 then 0
  else
    let place := f.placeOf num den
    let significand := nearestNat (num * twoTo (-place).toNat) (den * twoTo place.toNat)
    min f.infinity ((place - f.leastPlace).toNat * twoTo f.fractionBits + significand)

/-- The pattern nearest to `digits · 10^exponent`. Exponents that no pattern can reach are settled
before any power is formed. -/
def nearestDecimal (f : BinaryFormat) (digits : Nat) (exponent : Int) : Nat :=
  let size : Int := (digits.log2 : Int) / 3
  if digits = 0 then 0
  else if 400 < exponent then f.infinity
  else if exponent + size < -400 then 0
  else f.nearest (digits * tenTo exponent.toNat) (tenTo (-exponent).toNat)

end BinaryFormat

/-! ## §2. Numbers of 64 bits. -/

/-- A binary floating-point number of 64 bits, by its bits. Equality is that of the bits; numeric
equality is `Binary64.compare?`. -/
structure Binary64 where
  bits : UInt64
  deriving DecidableEq, Repr

namespace Binary64

/-- Is the sign bit set? -/
def isNegative (x : Binary64) : Bool := twoTo 63 ≤ x.bits.toNat

/-- The pattern of the magnitude. -/
def magnitude (x : Binary64) : Nat := x.bits.toNat % twoTo 63

def isNaN (x : Binary64) : Bool := BinaryFormat.double.infinity < x.magnitude

def isInfinite (x : Binary64) : Bool := x.magnitude = BinaryFormat.double.infinity

def isFinite (x : Binary64) : Bool := x.magnitude < BinaryFormat.double.infinity

/-- The number with a given sign and magnitude pattern. -/
def ofParts (negative : Bool) (pattern : Nat) : Binary64 :=
  ⟨UInt64.ofNat ((if negative then twoTo 63 else 0) + pattern)⟩

def infinity : Binary64 := ofParts false BinaryFormat.double.infinity

def negativeInfinity : Binary64 := ofParts true BinaryFormat.double.infinity

/-- The quiet no-number with an empty payload. -/
def nan : Binary64 := ofParts false (BinaryFormat.double.infinity + twoTo 51)

/-- The number nearest to an integer, a tie to the even significand. -/
def ofInt (n : Int) : Binary64 := ofParts (n < 0) (BinaryFormat.double.nearest n.natAbs 1)

/-- The number nearest to a decimal. -/
def ofDecimal (negative : Bool) (digits : Nat) (exponent : Int) : Binary64 :=
  ofParts negative (BinaryFormat.double.nearestDecimal digits exponent)

/-- Where the number stands among all that are numbers: the signed pattern. Both zeros stand at
zero. -/
def rank (x : Binary64) : Int := if x.isNegative then -(x.magnitude : Int) else x.magnitude

/-- Numeric order; absent when one of the two is no number. -/
def compare? (x y : Binary64) : Option Ordering :=
  if x.isNaN || y.isNaN then none else some (compare x.rank y.rank)

end Binary64

end RecordSearch
