/-
  RecordSearch.Proofs.Calendar.ReadBack
  ─────────────────────────────────────
  **Dates and moments are read back from their texts.**

  A reader of a part takes the text of the part off the front of a text, whatever follows it:

      readPair_padded    — two digits
      readYear_yearText  — a year, with no digit behind it
      readDate_text      — a date
      readClock_text     — the clock and the fraction, a leap second among them

  A fraction has as few groups of three digits as are exact; the reader fills it up with zeros.
-/
import Mathlib.Algebra.Group.Nat.Defs
import Mathlib.Tactic.SplitIfs
import RecordSearch.Calendar.Reader
import RecordSearch.Proofs.Number.Digits

namespace RecordSearch

open Calendar

/-! ## §1. Digits with zeros in front. -/

theorem toList_padded (width n : Nat) :
    (Date.padded width n).toList =
      List.replicate (width - (Nat.toDigits 10 n).length) '0' ++ Nat.toDigits 10 n :=
  String.toList_ofList

theorem isDigit_of_mem_padded {width n : Nat} : ∀ c ∈ (Date.padded width n).toList,
    c.isDigit = true := by
  intro c hc
  rw [toList_padded] at hc
  rcases List.mem_append.mp hc with hc | hc
  · rw [List.eq_of_mem_replicate hc]
    rfl
  · exact isDigit_of_mem_toDigits c hc

theorem decimalValue_padded (width n : Nat) : decimalValue (Date.padded width n).toList = n := by
  rw [toList_padded, decimalValue, Nat.ofDigitChars_append, Nat.ofDigitChars_replicate_zero,
    Nat.mul_zero, Nat.ofDigitChars_ten_toDigits]

theorem length_padded {width n : Nat} (hn : n < 10 ^ width) (hwidth : 0 < width) :
    (Date.padded width n).toList.length = width := by
  have hle := (Nat.length_toDigits_le_iff (n := n) (by decide) hwidth).mpr hn
  rw [toList_padded, List.length_append, List.length_replicate]
  omega

theorem padded_ne_nil {width n : Nat} : (Date.padded width n).toList ≠ [] := by
  rw [toList_padded]
  exact List.append_ne_nil_of_right_ne_nil _ Nat.toDigits_ne_nil

/-! ## §2. Parts. -/

theorem not_isBlank_of_isDigit {c : Char} (h : c.isDigit = true) : Text.isBlank c = false := by
  have hc := toNat_of_isDigit h
  rw [Text.isBlank, if_pos (by omega)]
  simp only [Bool.or_eq_false_iff, Bool.and_eq_false_iff, beq_eq_false_iff_ne,
    decide_eq_false_iff_not]
  omega

theorem skipBlanks_of_head {text : List Char} (h : ∀ c ∈ text.head?, Text.isBlank c = false) :
    skipBlanks text = text := by
  cases text with
  | nil => rfl
  | cons c cs => exact List.dropWhile_cons_of_neg (by rw [h c rfl]; simp)

/-- As many digits as may be, or fewer with no digit behind them. -/
theorem readDigits_append {most : Nat} {digits rest : List Char}
    (hdigits : ∀ c ∈ digits, c.isDigit = true) (hne : digits ≠ [])
    (h : digits.length = most ∨
      digits.length ≤ most ∧ ∀ c ∈ rest.head?, c.isDigit = false) :
    readDigits most (digits ++ rest) = some (digits, rest) := by
  have htake : ((digits ++ rest).takeWhile Char.isDigit).take most = digits := by
    rcases h with h | ⟨hle, hrest⟩
    · rw [List.takeWhile_append_of_pos hdigits]
      exact List.take_left' h
    · rw [takeWhile_isDigit_append hdigits hrest]
      exact List.take_of_length_le hle
  simp only [readDigits]
  rw [htake, if_neg (by simpa using hne), List.drop_left]

theorem head?_padded_append {width n : Nat} (rest : List Char) :
    ∀ c ∈ ((Date.padded width n).toList ++ rest).head?, c.isDigit = true := by
  intro c hc
  obtain ⟨d, ds, hds⟩ := List.exists_cons_of_ne_nil
    (padded_ne_nil : (Date.padded width n).toList ≠ [])
  rw [hds] at hc
  obtain rfl := Option.some.inj hc
  exact isDigit_of_mem_padded d (hds ▸ List.mem_cons_self)

theorem skipBlanks_padded (width n : Nat) (rest : List Char) :
    skipBlanks ((Date.padded width n).toList ++ rest) = (Date.padded width n).toList ++ rest :=
  skipBlanks_of_head fun c hc => not_isBlank_of_isDigit (head?_padded_append rest c hc)

theorem readPair_padded {n : Nat} (hn : n < 100) (rest : List Char) :
    readPair ((Date.padded 2 n).toList ++ rest) = some (n, rest) := by
  rw [readPair, skipBlanks_padded, readDigits_append isDigit_of_mem_padded padded_ne_nil
    (.inl (length_padded hn (by decide)))]
  show some (decimalValue _, rest) = _
  rw [decimalValue_padded]

theorem readYear_of_isDigit {text : List Char} (h : ∀ c ∈ text.head?, c.isDigit = true) :
    readYear text =
      (readDigits 4 text).map fun (digits, rest) => (decimalValue digits, rest) := by
  have hblank := skipBlanks_of_head fun c hc => not_isBlank_of_isDigit (h c hc)
  simp only [readYear, hblank]
  split
  · cases h '-' rfl
  · cases h '+' rfl
  · rfl

theorem readYear_minus (text : List Char) :
    readYear ('-' :: text) =
      (readDigits text.length text).map fun (digits, rest) =>
        (-(decimalValue digits : Int), rest) := rfl

theorem readYear_plus (text : List Char) :
    readYear ('+' :: text) =
      (readDigits text.length text).map fun (digits, rest) => (decimalValue digits, rest) := rfl

/-- A year has four digits, or a sign and is read up to what is no digit. -/
theorem readYear_yearText (year : Int) {rest : List Char}
    (hrest : ∀ c ∈ rest.head?, c.isDigit = false) :
    readYear ((Date.yearText year).toList ++ rest) = some (year, rest) := by
  have hsigned : readDigits ((Date.padded 4 year.natAbs).toList ++ rest).length
      ((Date.padded 4 year.natAbs).toList ++ rest) =
        some ((Date.padded 4 year.natAbs).toList, rest) :=
    readDigits_append isDigit_of_mem_padded padded_ne_nil (.inr ⟨by simp, hrest⟩)
  unfold Date.yearText
  split
  · next hyear =>
      have hlength : (Date.padded 4 year.natAbs).toList.length = 4 :=
        length_padded (by omega) (by decide)
      rw [readYear_of_isDigit (head?_padded_append rest),
        readDigits_append isDigit_of_mem_padded padded_ne_nil (.inl hlength)]
      simp only [Option.map_some, decimalValue_padded, Int.natAbs_of_nonneg hyear.1]
  · split
    · next hneg =>
        have htext : ("-" ++ Date.padded 4 year.natAbs).toList ++ rest =
            '-' :: ((Date.padded 4 year.natAbs).toList ++ rest) := by simp
        have hvalue : -(year.natAbs : Int) = year := by omega
        rw [htext, readYear_minus, hsigned]
        simp only [Option.map_some, decimalValue_padded, hvalue]
    · next hneg =>
        have htext : ("+" ++ Date.padded 4 year.natAbs).toList ++ rest =
            '+' :: ((Date.padded 4 year.natAbs).toList ++ rest) := by simp
        have hvalue : (year.natAbs : Int) = year := by omega
        rw [htext, readYear_plus, hsigned]
        simp only [Option.map_some, decimalValue_padded, hvalue]

theorem readMark_cons {mark : Char} (h : Text.isBlank mark = false) (rest : List Char) :
    readMark mark (mark :: rest) = some rest := by
  unfold readMark
  rw [skipBlanks_of_head (by rintro c ⟨⟩; exact h)]
  exact if_pos rfl

/-! ## §3. Dates. -/

theorem Date.month_lt_and_day_lt (d : Date) : d.month < 100 ∧ d.day < 100 := by
  have hday := d.isDay
  simp only [exists?, Bool.and_eq_true, decide_eq_true_eq] at hday
  obtain ⟨⟨-, hfirst⟩, hlast⟩ := hday
  -- A number that is no month has no days.
  unfold daysIn at hlast
  split at hlast <;> first | omega | (split at hlast <;> omega)

/-- **A date is read off the front of a text.** -/
theorem readDate_text (d : Date) (rest : List Char) :
    readDate (d.text.toList ++ rest) = some (d, rest) := by
  obtain ⟨hmonth, hday⟩ := d.month_lt_and_day_lt
  have htext : d.text.toList ++ rest = (Date.yearText d.year).toList ++
      ('-' :: ((Date.padded 2 d.month).toList ++
        ('-' :: ((Date.padded 2 d.day).toList ++ rest)))) := by
    simp [Date.text]
  have hof : Date.of? d.year d.month d.day = some d := dif_pos d.isDay
  have hyear : ∀ text, readYear ((Date.yearText d.year).toList ++ '-' :: text) =
      some (d.year, '-' :: text) := fun text => readYear_yearText d.year (by rintro c ⟨⟩; rfl)
  rw [htext]
  simp only [readDate, hyear, readMark_cons (show Text.isBlank '-' = false by decide),
    readPair_padded hmonth, readPair_padded hday, hof, Option.bind_eq_bind, Option.bind_some,
    Option.pure_def]

/-- **A date is read back.** -/
theorem Date.read_text (d : Date) : Date.read d.text = some d := by
  have hread := readDate_text d []
  rw [List.append_nil] at hread
  rw [Date.read, hread]
  rfl

/-! ## §4. Moments. -/

/-- Digits of a fraction count from the point, whatever their number. -/
theorem readFraction_padded {width n : Nat} (hn : n < 10 ^ width) (hpos : 0 < width)
    (hwidth : width ≤ 9) {rest : List Char} (hrest : ∀ c ∈ rest.head?, c.isDigit = false) :
    readFraction ('.' :: ((Date.padded width n).toList ++ rest)) =
      some (10 ^ (9 - width) * n, rest) := by
  have hlength := length_padded hn hpos
  have hdigits : readDigits 9 ((Date.padded width n).toList ++ rest) =
      some ((Date.padded width n).toList, rest) :=
    readDigits_append isDigit_of_mem_padded padded_ne_nil (.inr ⟨by omega, hrest⟩)
  have hvalue : decimalValue ((Date.padded width n).toList.rightpad 9 '0') =
      10 ^ (9 - width) * n := by
    have hpadded := decimalValue_padded width n
    rw [decimalValue] at hpadded ⊢
    rw [List.rightpad, hlength, Nat.ofDigitChars_append, hpadded, Nat.ofDigitChars_replicate_zero]
  have hdrop : rest.dropWhile Char.isDigit = rest := by
    cases rest with
    | nil => rfl
    | cons c cs => exact List.dropWhile_cons_of_neg (by rw [hrest c rfl]; simp)
  simp only [readFraction, hdigits, hvalue, hdrop, Option.bind_eq_bind, Option.bind_some,
    Option.pure_def]

/-- The fraction is that of the second, a leap second's counted from its own start. -/
theorem readFraction_fractionText (t : Instant) (rest : List Char) :
    readFraction (t.fractionText.toList ++ 'Z' :: rest) =
      some (t.nanosecond % 1000000000, 'Z' :: rest) := by
  have hrest : ∀ c ∈ ('Z' :: rest).head?, c.isDigit = false := by
    rintro c ⟨⟩
    rfl
  have htext : ∀ digits : String, ("." ++ digits).toList ++ 'Z' :: rest =
      '.' :: (digits.toList ++ 'Z' :: rest) := by
    intro digits
    simp
  generalize hnanos : t.nanosecond % 1000000000 = nanos
  have hlt : nanos < 1000000000 := hnanos ▸ Nat.mod_lt _ (by decide)
  simp only [Instant.fractionText, hnanos]
  split_ifs with hnone hmilli hmicro
  · rw [hnone]
    rfl
  · rw [htext, readFraction_padded (by omega) (by decide) (by decide) hrest,
      show 10 ^ (9 - 3) * (nanos / 1000000) = nanos by omega]
  · rw [htext, readFraction_padded (by omega) (by decide) (by decide) hrest,
      show 10 ^ (9 - 6) * (nanos / 1000) = nanos by omega]
  · rw [htext, readFraction_padded (by omega) (by decide) (by decide) hrest,
      show 10 ^ (9 - 9) * nanos = nanos by omega]

/-- **The clock is read with its fraction**; second 60 is a leap second. -/
theorem readClock_text (t : Instant) (rest : List Char) :
    readClock (t.clockText.toList ++ (t.fractionText.toList ++ 'Z' :: rest)) =
      some ((t.second, t.nanosecond), 'Z' :: rest) := by
  have htime := t.isTime
  simp only [isTime, Bool.and_eq_true, Bool.or_eq_true, decide_eq_true_eq] at htime
  obtain ⟨⟨hsecond, hnano⟩, hleap⟩ := htime
  have htext : t.clockText.toList ++ (t.fractionText.toList ++ 'Z' :: rest) =
      (Date.padded 2 (t.second / 3600)).toList ++ (':' ::
        ((Date.padded 2 (t.second / 60 % 60)).toList ++ (':' ::
          ((Date.padded 2 (t.second % 60 + t.nanosecond / 1000000000)).toList ++
            (t.fractionText.toList ++ 'Z' :: rest))))) := by
    simp [Instant.clockText]
  have hhour := fun text => readPair_padded (n := t.second / 3600) (by omega) text
  have hminute := fun text => readPair_padded (n := t.second / 60 % 60) (by omega) text
  have hsecond' := fun text =>
    readPair_padded (n := t.second % 60 + t.nanosecond / 1000000000) (by omega) text
  rw [htext]
  simp only [readClock, hhour, hminute, hsecond', readFraction_fractionText,
    readMark_cons (show Text.isBlank ':' = false by decide), Option.bind_eq_bind, Option.bind_some]
  rw [if_neg (by omega)]
  by_cases hnormal : t.nanosecond < 1000000000
  · have hshown : t.second % 60 + t.nanosecond / 1000000000 = t.second % 60 := by omega
    have hnanos : t.nanosecond % 1000000000 = t.nanosecond := Nat.mod_eq_of_lt hnormal
    have hsum : t.second / 3600 * 3600 + t.second / 60 % 60 * 60 + t.second % 60 = t.second := by
      omega
    rw [hshown, if_neg (by omega), hnanos, hsum]
  · -- A leap second is shown as second 60, and is one of those that end a minute.
    have hshown : t.second % 60 + t.nanosecond / 1000000000 = 60 := by omega
    have hnanos : t.nanosecond % 1000000000 + 1000000000 = t.nanosecond := by omega
    have hsum : t.second / 3600 * 3600 + t.second / 60 % 60 * 60 + 59 = t.second := by omega
    rw [hshown, if_pos rfl, hnanos, hsum]

/-- A moment of universal time is read part by part. -/
theorem readInstant_of_parts {text clock after rest : List Char} {date : Date}
    {second nanos : Nat} {t : Instant} (hdate : readDate text = some (date, 'T' :: clock))
    (hclock : readClock clock = some ((second, nanos), after))
    (hoffset : readOffset (skipBlanks after) = some (0, rest))
    (ht : Instant.ofLocal? date second nanos 0 = some t) :
    readInstant text = some (t, rest) := by
  rw [readInstant, hdate, Option.bind_eq_bind, Option.bind_some]
  dsimp only
  rw [if_pos (.inl rfl), Option.bind_eq_bind, Option.bind_some, hclock, Option.bind_eq_bind,
    Option.bind_some]
  dsimp only
  rw [hoffset, Option.bind_eq_bind, Option.bind_some]
  dsimp only
  rw [ht]
  rfl

theorem Instant.ofLocal?_zero (t : Instant) :
    Instant.ofLocal? t.date t.second t.nanosecond 0 = some t := by
  have htime := t.isTime
  simp only [Calendar.isTime, Bool.and_eq_true, decide_eq_true_eq] at htime
  have huniversal : (t.second : Int) - 0 = t.second := Int.sub_zero _
  simp only [Instant.ofLocal?, huniversal]
  rw [if_neg (by omega), if_pos (by omega), Int.toNat_natCast]
  exact dif_pos t.isTime

/-- **A moment is read back.** -/
theorem Instant.read_interchangeText (t : Instant) : Instant.read t.interchangeText = some t := by
  have htext : t.interchangeText.toList = t.date.text.toList ++
      ('T' :: (t.clockText.toList ++ (t.fractionText.toList ++ ['Z']))) := by
    simp [Instant.interchangeText]
  have hread : readInstant t.interchangeText.toList = some (t, []) := by
    rw [htext]
    exact readInstant_of_parts (readDate_text t.date _) (readClock_text t []) rfl t.ofLocal?_zero
  rw [Instant.read, hread]
  rfl

end RecordSearch
