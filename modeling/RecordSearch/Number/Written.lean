/-
  RecordSearch.Number.Written
  ───────────────────────────
  **How numbers are written.**

  The digits of a number are its shortest decimal; a `NumberStyle` says how they are laid out:
  up to which sizes positionally, whether a whole number keeps `.0`, how the exponent is signed,
  and how the two infinities and no-number read.

      style.write x   — the text of a 64-bit number
      widen           — a 32-bit number as the 64-bit number with the same shortest decimal
-/
import RecordSearch.Number.Shortest

namespace RecordSearch

/-- The decisions of a number format. -/
structure NumberStyle where
  /-- Leading digits at these powers of ten are written positionally; `none` means all. -/
  positional : Option (Int × Int)
  /-- A whole number keeps a point and a zero. -/
  pointZero : Bool
  /-- A positive exponent has a plus sign. -/
  plusSign : Bool
  /-- Which of two equally near shortest decimals is written. -/
  tie : Decimal.Tie

namespace NumberStyle

/-- The decimal digits of a natural number. -/
def digitsOf (n : Nat) : List Char := Nat.toDigits 10 n

/-- The power of ten of the leading digit. -/
def leadingPower (d : Decimal) : Int := d.exponent + (digitsOf d.digits).length - 1

/-- Positional form: the point after, inside or before the digits. -/
def positionalText (s : NumberStyle) (d : Decimal) : List Char :=
  let digits := digitsOf d.digits
  let lead := leadingPower d
  if 0 ≤ d.exponent then
    digits ++ List.replicate d.exponent.toNat '0' ++ (if s.pointZero then ['.', '0'] else [])
  else if 0 ≤ lead then
    digits.take (lead + 1).toNat ++ '.' :: digits.drop (lead + 1).toNat
  else
    '0' :: '.' :: (List.replicate (-lead - 1).toNat '0' ++ digits)

/-- Exponent form: one digit before the point, the power of ten of that digit after the mark. -/
def exponentText (s : NumberStyle) (d : Decimal) : List Char :=
  let lead := leadingPower d
  let sign : List Char := if lead < 0 then ['-'] else if s.plusSign then ['+'] else []
  let mantissa :=
    match digitsOf d.digits with
    | first :: second :: rest => first :: '.' :: second :: rest
    | digits => digits
  mantissa ++ 'e' :: (sign ++ digitsOf lead.natAbs)

/-- The text of a positive decimal. -/
def decimalText (s : NumberStyle) (d : Decimal) : List Char :=
  match s.positional with
  | none => s.positionalText d
  | some (least, bound) =>
      if least ≤ leadingPower d && leadingPower d < bound then s.positionalText d
      else s.exponentText d

/-- The text of a finite magnitude of some format. -/
def magnitudeText (s : NumberStyle) (f : BinaryFormat) (pattern : Nat) : List Char :=
  if pattern = 0 then '0' :: (if s.pointZero then ['.', '0'] else [])
  else s.decimalText (f.shortest s.tie pattern)

/-- **The text of a number.** Zero keeps its sign; no-number has none. -/
def write (s : NumberStyle) (x : Binary64) : String :=
  if x.isNaN then "NaN"
  else
    let sign := if x.isNegative then "-" else ""
    if x.isInfinite then sign ++ "inf"
    else sign ++ String.ofList (s.magnitudeText .double x.magnitude)

/-- Numbers in running text: always positional, whole numbers without a point, a tie upwards. -/
def plain : NumberStyle where
  positional := none
  pointZero := false
  plusSign := false
  tie := .up

/-- Numbers in interchange text: positional from 10^-5 to below 10^16, whole numbers with `.0`,
otherwise with a signed exponent. -/
def interchange : NumberStyle where
  positional := some (-5, 16)
  pointZero := true
  plusSign := true
  tie := .toEven

/-- Numbers in diagnostic text: positional from 10^-4 to below 10^16, whole numbers with `.0`,
otherwise with an exponent that is signed only when negative. -/
def diagnostic : NumberStyle where
  positional := some (-4, 16)
  pointZero := true
  plusSign := false
  tie := .up

end NumberStyle

namespace Binary64

/-- A 32-bit number, given by sign and magnitude pattern, as the 64-bit number that its own
shortest decimal denotes: the digits that were written stay the digits that are seen. -/
def widen (negative : Bool) (pattern : Nat) : Binary64 :=
  if BinaryFormat.single.infinity < pattern then nan
  else if pattern = BinaryFormat.single.infinity then
    if negative then negativeInfinity else infinity
  else if pattern = 0 then ofParts negative 0
  else
    let d := BinaryFormat.single.shortest .up pattern
    ofDecimal negative d.digits d.exponent

/-- Rounds a number to 32 bits and widens the result. -/
def throughSingle (x : Binary64) : Binary64 :=
  if x.isFinite then
    let (num, den) := BinaryFormat.double.ratio x.magnitude
    widen x.isNegative (BinaryFormat.single.nearest num den)
  else x

end Binary64

end RecordSearch
