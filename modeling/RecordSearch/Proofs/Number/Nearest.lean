/-
  RecordSearch.Proofs.Number.Nearest
  ──────────────────────────────────
  **An integer is rounded to the nearest number, a tie to the even one.**

  All finite magnitudes are whole multiples of the least positive one, 2^-1074.  Counted in these
  units (`BinaryFormat.units`, `Binary64.units`) numbers and integers lie on one line of integers,
  and to be nearest is a statement about distances on it:

      units_strictMono          — the greater pattern is the greater magnitude
      nearest_one_isNearest     — rounding finds the nearest pattern
      Binary64.ofInt_isNearest  — and the nearest number, with its sign
      Binary64.IsNearest.units_le — of two integers the greater is not rounded to a lesser number
-/
import Mathlib.Order.Monotone.Basic
import Mathlib.Tactic.Ring
import RecordSearch.Number.Binary

namespace RecordSearch

/-! ## §1. Magnitudes in units of the least one. -/

theorem twoTo_add (j k : Nat) : twoTo (j + k) = twoTo j * twoTo k := Nat.pow_add 2 j k

theorem twoTo_lt {j k : Nat} (h : j < k) : twoTo j < twoTo k :=
  Nat.pow_lt_pow_right (by decide) h

theorem log2_lt_of_lt_twoTo {n k : Nat} (hn : n ≠ 0) (h : n < twoTo k) : n.log2 < k :=
  (Nat.log2_lt hn).mpr h

namespace BinaryFormat

variable (f : BinaryFormat)

/-- The finite magnitude of a pattern, in units of the least positive one. -/
def units (pattern : Nat) : Nat :=
  let (significand, place) := f.parts pattern
  significand * twoTo (place - f.leastPlace).toNat

/-- Below the first power of two that has a pattern of its own, magnitudes are their patterns. -/
theorem units_of_lt {p : Nat} (h : p < twoTo f.fractionBits) : f.units p = p := by
  simp only [units, parts, Nat.div_eq_of_lt h, Nat.mod_eq_of_lt h, if_true, Int.sub_self]
  exact Nat.mul_one p

/-- The pattern of a significand of full width.  One that is a bit too wide carries into the
exponent field, which leaves its value. -/
theorem units_significand {e s : Nat} (hlow : twoTo f.fractionBits ≤ s)
    (hhigh : s ≤ 2 * twoTo f.fractionBits) :
    f.units (e * twoTo f.fractionBits + s) = s * twoTo e := by
  have hpos := twoTo_pos f.fractionBits
  have hfull : ∀ e r, r < twoTo f.fractionBits →
      f.units ((e + 1) * twoTo f.fractionBits + r) = (twoTo f.fractionBits + r) * twoTo e := by
    intro e r hr
    have hdiv : ((e + 1) * twoTo f.fractionBits + r) / twoTo f.fractionBits = e + 1 := by
      rw [Nat.mul_comm, Nat.mul_add_div hpos, Nat.div_eq_of_lt hr, Nat.add_zero]
    have hmod : ((e + 1) * twoTo f.fractionBits + r) % twoTo f.fractionBits = r := by
      rw [Nat.mul_comm, Nat.mul_add_mod, Nat.mod_eq_of_lt hr]
    have hplace : (f.leastPlace + (e : Int) - f.leastPlace).toNat = e := by omega
    simp only [units, parts, hdiv, hmod, if_neg (Nat.succ_ne_zero e), Nat.add_sub_cancel, hplace]
  by_cases hs : s < 2 * twoTo f.fractionBits
  · have hr := hfull e (s - twoTo f.fractionBits) (by omega)
    rw [Nat.add_sub_cancel' hlow] at hr
    rw [← hr, Nat.succ_mul]
    congr 1
    omega
  · obtain rfl : s = 2 * twoTo f.fractionBits := by omega
    have hr := hfull (e + 1) 0 hpos
    rw [Nat.add_zero, Nat.add_zero, twoTo_succ] at hr
    rw [← Nat.add_mul, hr]
    ring

/-- **The greater pattern is the greater magnitude.** -/
theorem units_strictMono : StrictMono f.units := by
  refine strictMono_nat_of_lt_succ fun p => ?_
  by_cases hp : p < twoTo f.fractionBits
  · rw [f.units_of_lt hp]
    rcases Nat.lt_or_ge (p + 1) (twoTo f.fractionBits) with hsucc | hsucc
    · rw [f.units_of_lt hsucc]
      exact Nat.lt_succ_self p
    · -- The first power of two is written with an exponent field that says what none says.
      have hfirst := f.units_significand (e := 0) hsucc (by omega)
      rw [Nat.zero_mul, Nat.zero_add, twoTo_zero, Nat.mul_one] at hfirst
      rw [hfirst]
      exact Nat.lt_succ_self p
  · -- Above it, `p` and its successor are significands at the same place.
    have hpos := twoTo_pos f.fractionBits
    have hdiv := Nat.div_add_mod p (twoTo f.fractionBits)
    have hmod := Nat.mod_lt p hpos
    obtain ⟨e, he⟩ : ∃ e, p / twoTo f.fractionBits = e + 1 :=
      Nat.exists_eq_succ_of_ne_zero (Nat.div_pos (by omega) hpos).ne'
    rw [he, Nat.mul_comm, Nat.succ_mul] at hdiv
    have hthis := f.units_significand (e := e)
      (s := twoTo f.fractionBits + p % twoTo f.fractionBits) (by omega) (by omega)
    have hnext := f.units_significand (e := e)
      (s := twoTo f.fractionBits + p % twoTo f.fractionBits + 1) (by omega) (by omega)
    rw [← Nat.add_assoc, hdiv] at hthis
    rw [← Nat.add_assoc, ← Nat.add_assoc, hdiv] at hnext
    rw [hthis, hnext]
    exact Nat.mul_lt_mul_of_pos_right (Nat.lt_succ_self _) (twoTo_pos e)

/-! ## §2. The nearest pattern. -/

/-- No magnitude is nearer to the number of units, and of two that are equally near this one is
even. -/
structure IsNearest (units : Nat) (pattern : Nat) : Prop where
  le : ∀ q, ((units : Int) - f.units pattern).natAbs ≤ ((units : Int) - f.units q).natAbs
  even : ∀ q, ((units : Int) - f.units pattern).natAbs = ((units : Int) - f.units q).natAbs →
    q = pattern ∨ pattern % 2 = 0

/-- The nearer one of two neighbours, or the even one in the middle, is nearest. -/
theorem isNearest_of_neighbours {n p q : Nat} (hlow : f.units p ≤ n) (hhigh : n ≤ f.units (p + 1))
    (hq : (q = p ∧ 2 * n ≤ f.units p + f.units (p + 1) ∧
        (2 * n = f.units p + f.units (p + 1) → q % 2 = 0)) ∨
      (q = p + 1 ∧ f.units p + f.units (p + 1) ≤ 2 * n ∧
        (2 * n = f.units p + f.units (p + 1) → q % 2 = 0))) : f.IsNearest n q := by
  have hside : ∀ r, (r = p ∨ f.units r < f.units p) ∨
      (r = p + 1 ∨ f.units (p + 1) < f.units r) := by
    intro r
    rcases Nat.lt_trichotomy r p with hr | hr | hr
    · exact .inl (.inr (f.units_strictMono hr))
    · exact .inl (.inl hr)
    · rcases Nat.eq_or_lt_of_le hr with hr | hr
      · exact .inr (.inl hr.symm)
      · exact .inr (.inr (f.units_strictMono hr))
  constructor
  · intro r
    rcases hq with ⟨rfl, hhalf, -⟩ | ⟨rfl, hhalf, -⟩ <;>
      rcases hside r with (rfl | hr) | (rfl | hr) <;> omega
  · intro r
    rcases hq with ⟨rfl, hhalf, heven⟩ | ⟨rfl, hhalf, heven⟩ <;>
      rcases hside r with (rfl | hr) | (rfl | hr) <;> omega

theorem nearestNat_cases (num den : Nat) :
    (nearestNat num den = num / den ∧ 2 * (num % den) ≤ den ∧
      (2 * (num % den) = den → nearestNat num den % 2 = 0)) ∨
    (nearestNat num den = num / den + 1 ∧ den ≤ 2 * (num % den) ∧
      (2 * (num % den) = den → nearestNat num den % 2 = 0)) := by
  simp only [nearestNat]
  split
  · exact .inl ⟨rfl, by omega, by omega⟩
  · split
    · exact .inr ⟨rfl, by omega, by omega⟩
    · split
      · exact .inl ⟨rfl, by omega, fun _ => ‹_›⟩
      · exact .inr ⟨rfl, by omega, by omega⟩

theorem leastPlace_double : double.leastPlace = -1074 := by decide

theorem units_double {e s : Nat} (hlow : twoTo 52 ≤ s) (hhigh : s ≤ twoTo 53) :
    double.units (e * twoTo 52 + s) = s * twoTo e := by
  have hcarry : twoTo 53 = 2 * twoTo 52 := by decide
  exact double.units_significand hlow (hcarry ▸ hhigh)

/-- A natural number `n` has 53 bits from this place on. -/
theorem placeOf_one {n : Nat} (hn : n ≠ 0) : double.placeOf n 1 = (n.log2 : Int) - 52 := by
  have hlow : twoTo n.log2 ≤ n := Nat.log2_self_le hn
  have hguess : ((n.log2 : Int) - Nat.log2 1 - 1 - double.fractionBits) = n.log2 - 53 := by
    simp only [double, show Nat.log2 1 = 0 by decide]
    omega
  have hwide :
      ¬ n * twoTo (-((n.log2 : Int) - 53)).toNat / (1 * twoTo ((n.log2 : Int) - 53).toNat) <
      twoTo (double.fractionBits + 1) := by
    rw [Nat.not_lt, Nat.one_mul, Nat.le_div_iff_mul_le (twoTo_pos _), ← twoTo_add]
    have hplaces : double.fractionBits + 1 + ((n.log2 : Int) - 53).toNat =
        n.log2 + (-((n.log2 : Int) - 53)).toNat := by
      simp only [double]
      omega
    rw [hplaces, twoTo_add]
    exact Nat.mul_le_mul_right _ hlow
  simp only [placeOf, hguess, if_neg hwide, leastPlace_double]
  omega

/-- The first 53 bits of a natural number are a significand of full width. -/
theorem leading_bounds {n : Nat} (hn : n ≠ 0) :
    twoTo 52 * twoTo (n.log2 - 52) ≤ n * twoTo (52 - n.log2) ∧
      n * twoTo (52 - n.log2) < twoTo 53 * twoTo (n.log2 - 52) := by
  have hlow : twoTo n.log2 ≤ n := Nat.log2_self_le hn
  have hhigh : n < twoTo (n.log2 + 1) := Nat.lt_log2_self
  rw [← twoTo_add, ← twoTo_add, show 52 + (n.log2 - 52) = n.log2 + (52 - n.log2) by omega,
    show 53 + (n.log2 - 52) = n.log2 + 1 + (52 - n.log2) by omega, twoTo_add, twoTo_add]
  exact ⟨Nat.mul_le_mul_right _ hlow, Nat.mul_lt_mul_of_pos_right hhigh (twoTo_pos _)⟩

/-- Even a significand that carries stays below the exponent field of infinity. -/
theorem rounded_lt_infinity {n : Nat} (hn : n ≠ 0) (hsize : n < twoTo 1023) :
    (n.log2 + 1022) * twoTo 52 +
      nearestNat (n * twoTo (52 - n.log2)) (twoTo (n.log2 - 52)) < double.infinity := by
  have hlog : n.log2 < 1023 := log2_lt_of_lt_twoTo hn hsize
  have hquotient : n * twoTo (52 - n.log2) / twoTo (n.log2 - 52) < twoTo 53 :=
    (Nat.div_lt_iff_lt_mul (twoTo_pos _)).mpr (leading_bounds hn).2
  have hsignificand : nearestNat (n * twoTo (52 - n.log2)) (twoTo (n.log2 - 52)) ≤ twoTo 53 := by
    rcases nearestNat_cases (n * twoTo (52 - n.log2)) (twoTo (n.log2 - 52)) with
      ⟨h, -⟩ | ⟨h, -⟩ <;> omega
  have hexponent : (n.log2 + 1022) * twoTo 52 ≤ 2044 * twoTo 52 :=
    Nat.mul_le_mul_right _ (by omega)
  have hlimit : 2044 * twoTo 52 + twoTo 53 < double.infinity := by decide
  omega

/-- A natural number within the range of the format has the significand of its first 53 bits,
rounded by those behind them. -/
theorem nearest_one {n : Nat} (hn : n ≠ 0) (hsize : n < twoTo 1023) :
    double.nearest n 1 = (n.log2 + 1022) * twoTo 52 +
      nearestNat (n * twoTo (52 - n.log2)) (twoTo (n.log2 - 52)) := by
  have hup : (-((n.log2 : Int) - 52)).toNat = 52 - n.log2 := by omega
  have hdown : ((n.log2 : Int) - 52).toNat = n.log2 - 52 := by omega
  have hplace : ((n.log2 : Int) - 52 - double.leastPlace).toNat = n.log2 + 1022 := by
    rw [leastPlace_double]
    omega
  simp only [nearest, if_neg hn, placeOf_one hn, hup, hdown, hplace, Nat.one_mul]
  exact Nat.min_eq_right (Nat.le_of_lt (rounded_lt_infinity hn hsize))

theorem nearest_one_lt_infinity {n : Nat} (hsize : n < twoTo 1023) :
    double.nearest n 1 < double.infinity := by
  by_cases hn : n = 0
  · subst hn
    decide
  · rw [nearest_one hn hsize]
    exact rounded_lt_infinity hn hsize

/-- A quotient of full width that is rounded is the nearest pattern, at any place. -/
theorem isNearest_nearestNat {e num den bit : Nat} (hbit : den * bit = twoTo e)
    (hlow : twoTo 52 * den ≤ num) (hhigh : num < twoTo 53 * den) :
    double.IsNearest (num * bit) (e * twoTo 52 + nearestNat num den) := by
  have hpos : 0 < den * bit := hbit ▸ twoTo_pos e
  have hden : 0 < den := Nat.pos_of_mul_pos_right hpos
  have hwhole : twoTo 52 ≤ num / den := (Nat.le_div_iff_mul_le hden).mpr hlow
  have hwhole' : num / den < twoTo 53 := (Nat.div_lt_iff_lt_mul hden).mpr hhigh
  have hbelow : double.units (e * twoTo 52 + num / den) = num / den * (den * bit) := by
    rw [hbit]
    exact units_double hwhole (Nat.le_of_lt hwhole')
  have habove : double.units (e * twoTo 52 + num / den + 1) =
      num / den * (den * bit) + den * bit := by
    rw [hbit, ← Nat.succ_mul, Nat.add_assoc]
    exact units_double (Nat.le_succ_of_le hwhole) hwhole'
  have hnumber : num * bit = num / den * (den * bit) + num % den * bit := by
    rw [← Nat.mul_assoc, Nat.mul_comm _ den, ← Nat.add_mul, Nat.div_add_mod]
  have hrest : num % den * bit ≤ den * bit :=
    Nat.mul_le_mul_right _ (Nat.le_of_lt (Nat.mod_lt _ hden))
  have hparity : ∀ s, (e * twoTo 52 + s) % 2 = s % 2 := by
    intro s
    rw [Nat.add_mod, Nat.mul_mod, show twoTo 52 % 2 = 0 by decide]
    simp
  have htie : 2 * (num % den * bit) = den * bit → 2 * (num % den) = den := fun h =>
    Nat.eq_of_mul_eq_mul_right (Nat.pos_of_mul_pos_left hpos) (by rwa [Nat.mul_assoc])
  refine double.isNearest_of_neighbours (p := e * twoTo 52 + num / den) (by omega) (by omega) ?_
  rw [hbelow, habove, hnumber, hparity]
  rcases nearestNat_cases num den with ⟨h, hhalf, heven⟩ | ⟨h, hhalf, heven⟩
  · have hhalf := Nat.mul_le_mul_right bit hhalf
    rw [Nat.mul_assoc] at hhalf
    exact .inl ⟨by rw [h], by omega, fun h => heven (htie (by omega))⟩
  · have hhalf := Nat.mul_le_mul_right bit hhalf
    rw [Nat.mul_assoc] at hhalf
    exact .inr ⟨by rw [h, Nat.add_assoc], by omega, fun h => heven (htie (by omega))⟩

/-- **Rounding finds the nearest pattern.** -/
theorem nearest_one_isNearest {n : Nat} (hsize : n < twoTo 1023) :
    double.IsNearest (n * twoTo 1074) (double.nearest n 1) := by
  by_cases hn : n = 0
  · subst hn
    refine ⟨fun q => ?_, fun q _ => .inr rfl⟩
    have hzero : double.units (double.nearest 0 1) = 0 := double.units_of_lt (twoTo_pos _)
    rw [hzero, Nat.zero_mul]
    omega
  obtain ⟨hlow, hhigh⟩ := leading_bounds hn
  -- What the last bit of the significand is worth, and what a bit behind it is.
  have hplace : n.log2 - 52 + (n.log2 + 1022 - (n.log2 - 52)) = n.log2 + 1022 := by omega
  have hunits : n * twoTo 1074 =
      n * twoTo (52 - n.log2) * twoTo (n.log2 + 1022 - (n.log2 - 52)) := by
    have hbits : 52 - n.log2 + (n.log2 + 1022 - (n.log2 - 52)) = 1074 := by omega
    rw [Nat.mul_assoc, ← twoTo_add, hbits]
  rw [nearest_one hn hsize, hunits]
  exact isNearest_nearestNat (by rw [← twoTo_add, hplace]) hlow hhigh

/-- Integers of 53 bits, and the next power of two, are numbers. -/
theorem exists_units_eq {n : Nat} (h : n ≤ twoTo 53) : ∃ p, double.units p = n * twoTo 1074 := by
  by_cases hn : n = 0
  · exact ⟨0, by rw [double.units_of_lt (twoTo_pos _), hn, Nat.zero_mul]⟩
  rcases Nat.eq_or_lt_of_le h with rfl | hsize
  · refine ⟨1075 * twoTo 52 + twoTo 52, ?_⟩
    rw [units_double (Nat.le_refl _) (by decide), ← twoTo_add, ← twoTo_add]
  · have hlog : n.log2 < 53 := log2_lt_of_lt_twoTo hn hsize
    obtain ⟨hlow, hhigh⟩ := leading_bounds hn
    -- No bit is behind the first 53 ones.
    rw [Nat.sub_eq_zero_of_le (Nat.le_of_lt_succ hlog), twoTo_zero, Nat.mul_one] at hlow hhigh
    have hplace : 52 - n.log2 + (n.log2 + 1022) = 1074 := by omega
    refine ⟨(n.log2 + 1022) * twoTo 52 + n * twoTo (52 - n.log2), ?_⟩
    rw [units_double hlow (by omega), Nat.mul_assoc, ← twoTo_add, hplace]

theorem units_nearest_one {n : Nat} (h : n ≤ twoTo 53) :
    double.units (double.nearest n 1) = n * twoTo 1074 := by
  obtain ⟨p, hp⟩ := exists_units_eq h
  have hsize : n < twoTo 1023 :=
    Nat.lt_of_le_of_lt h (twoTo_lt (by decide))
  have hle := (nearest_one_isNearest hsize).le p
  omega

end BinaryFormat

/-! ## §3. The nearest number. -/

namespace Binary64

theorem toNat_bits_ofParts {negative : Bool} {pattern : Nat} (h : pattern < twoTo 63) :
    (ofParts negative pattern).bits.toNat = (if negative then twoTo 63 else 0) + pattern := by
  have hwidth : twoTo 63 + twoTo 63 = 2 ^ 64 := by decide
  rw [ofParts, UInt64.toNat_ofNat', Nat.mod_eq_of_lt]
  split <;> omega

theorem isNegative_ofParts {negative : Bool} {pattern : Nat} (h : pattern < twoTo 63) :
    (ofParts negative pattern).isNegative = negative := by
  rw [isNegative, toNat_bits_ofParts h]
  cases negative with
  | false => simpa using h
  | true => simp

theorem magnitude_ofParts {negative : Bool} {pattern : Nat} (h : pattern < twoTo 63) :
    (ofParts negative pattern).magnitude = pattern := by
  rw [magnitude, toNat_bits_ofParts h]
  cases negative with
  | false => simpa using Nat.mod_eq_of_lt h
  | true => simpa using Nat.mod_eq_of_lt h

/-- A number in units of the least positive one.  The patterns of no-numbers count on. -/
def units (x : Binary64) : Int :=
  if x.isNegative then -(BinaryFormat.double.units x.magnitude : Int)
  else BinaryFormat.double.units x.magnitude

theorem units_zero : BinaryFormat.double.units 0 = 0 :=
  BinaryFormat.double.units_of_lt (twoTo_pos _)

/-- **The number is nearest to the integer**: no finite number is nearer, and of two that are
equally near it is the one with an even significand. -/
structure IsNearest (x : Binary64) (n : Int) : Prop where
  isFinite : x.isFinite = true
  le : ∀ y : Binary64, y.isFinite = true →
    (n * twoTo 1074 - x.units).natAbs ≤ (n * twoTo 1074 - y.units).natAbs
  even : ∀ y : Binary64, y.isFinite = true →
    (n * twoTo 1074 - x.units).natAbs = (n * twoTo 1074 - y.units).natAbs →
      y.units = x.units ∨ x.magnitude % 2 = 0

theorem units_ofInt {n : Int} (h : n.natAbs < twoTo 1023) :
    (ofInt n).units = if n < 0 then -(BinaryFormat.double.units (ofInt n).magnitude : Int)
      else BinaryFormat.double.units (ofInt n).magnitude := by
  have hpattern : BinaryFormat.double.nearest n.natAbs 1 < twoTo 63 :=
    Nat.lt_trans (BinaryFormat.nearest_one_lt_infinity h) (by decide)
  have hnegative : (ofInt n).isNegative = decide (n < 0) := isNegative_ofParts hpattern
  simp only [units, hnegative, decide_eq_true_eq]

theorem magnitude_ofInt {n : Int} (h : n.natAbs < twoTo 1023) :
    (ofInt n).magnitude = BinaryFormat.double.nearest n.natAbs 1 :=
  magnitude_ofParts (Nat.lt_trans (BinaryFormat.nearest_one_lt_infinity h) (by decide))

theorem mul_eq_ite_natAbs (n : Int) (k : Nat) :
    n * k = if n < 0 then -((n.natAbs * k : Nat) : Int) else (n.natAbs * k : Nat) := by
  rw [Int.natCast_mul]
  split
  · rw [Int.ofNat_natAbs_of_nonpos (by omega), Int.neg_mul, Int.neg_neg]
  · rw [Int.natAbs_of_nonneg (by omega)]

/-- **An integer is rounded to the nearest number**, far beyond 64 bits. -/
theorem ofInt_isNearest {n : Int} (h : n.natAbs < twoTo 1023) : (ofInt n).IsNearest n := by
  have hfinite := BinaryFormat.nearest_one_lt_infinity h
  obtain ⟨hle, heven⟩ := BinaryFormat.nearest_one_isNearest h
  rw [← magnitude_ofInt h] at hfinite hle heven
  have hzero := hle 0
  have htie := heven 0
  rw [units_zero] at hzero htie
  -- A number of the other sign is no nearer than zero.
  refine ⟨decide_eq_true hfinite, fun y _ => ?_, fun y _ => ?_⟩
  · have hy := hle y.magnitude
    rw [mul_eq_ite_natAbs, units_ofInt h, units]
    split <;> split <;> omega
  · have hy := heven y.magnitude
    rw [mul_eq_ite_natAbs, units_ofInt h, units]
    split <;> split <;> intro hsame
    · exact (hy (by omega)).imp_left fun hy => by rw [hy]
    · exact .inr (by omega)
    · exact .inr (by omega)
    · exact (hy (by omega)).imp_left fun hy => by rw [hy]

/-- Integers up to 2^53 are not changed. -/
theorem units_ofInt_of_le {n : Int} (h : n.natAbs ≤ twoTo 53) :
    (ofInt n).units = n * twoTo 1074 := by
  have hsize : n.natAbs < twoTo 1023 :=
    Nat.lt_of_le_of_lt h (twoTo_lt (by decide))
  rw [mul_eq_ite_natAbs, units_ofInt hsize, magnitude_ofInt hsize,
    BinaryFormat.units_nearest_one h]

theorem units_le_units_iff {x y : Binary64} : x.units ≤ y.units ↔ x.rank ≤ y.rank := by
  have hmono := BinaryFormat.double.units_strictMono
  have hle := hmono.le_iff_le (a := x.magnitude) (b := y.magnitude)
  have hge := hmono.le_iff_le (a := y.magnitude) (b := x.magnitude)
  have hx := hmono.le_iff_le (a := x.magnitude) (b := 0)
  have hy := hmono.le_iff_le (a := y.magnitude) (b := 0)
  rw [units_zero] at hx hy
  unfold units rank
  split <;> split <;> omega

/-- Of two integers the greater is not rounded to a lesser number. -/
theorem IsNearest.rank_le {m n : Int} {x y : Binary64} (hx : x.IsNearest m) (hy : y.IsNearest n)
    (h : m < n) : x.rank ≤ y.rank := by
  have hpos : 0 < (twoTo 1074 : Int) := Int.natCast_pos.mpr (twoTo_pos _)
  have hmul : m * twoTo 1074 < n * twoTo 1074 := Int.mul_lt_mul_of_pos_right h hpos
  have hxy := hx.le y hy.isFinite
  have hyx := hy.le x hx.isFinite
  rw [← units_le_units_iff]
  -- Were `x` the greater one, `m` would lie above the middle between them and `n` below it.
  omega

end Binary64

end RecordSearch
