/-
  RecordSearch.Calendar.Date
  ──────────────────────────
  **Days of the Gregorian calendar.**

  A `Date` carries the proof that it exists: its month has that day, and its year lies within the
  calendar's span. Dates are ordered by year, month and day; a day's neighbours (`next?`,
  `previous?`) are what moving a time of day across midnight needs.
-/

namespace RecordSearch

namespace Calendar

/-- Every fourth year, but of the centuries only every fourth. -/
def isLeapYear (year : Int) : Bool := year % 4 = 0 && (year % 100 ≠ 0 || year % 400 = 0)

/-- The length of a month; zero for a number that is no month. -/
def daysIn (year : Int) (month : Nat) : Nat :=
  match month with
  | 1 | 3 | 5 | 7 | 8 | 10 | 12 => 31
  | 4 | 6 | 9 | 11 => 30
  | 2 => if isLeapYear year then 29 else 28
  | _ => 0

/-- The first year of the calendar's span. -/
def firstYear : Int := -262143

/-- The last year of the calendar's span. -/
def lastYear : Int := 262142

/-- Is there such a day? -/
def exists? (year : Int) (month day : Nat) : Bool :=
  firstYear ≤ year && year ≤ lastYear && 1 ≤ day && day ≤ daysIn year month

end Calendar

/-- A day of the Gregorian calendar. -/
structure Date where
  year : Int
  month : Nat
  day : Nat
  isDay : Calendar.exists? year month day = true
  deriving DecidableEq

namespace Date

/-- The day with these numbers, if there is one. -/
def of? (year : Int) (month day : Nat) : Option Date :=
  if h : Calendar.exists? year month day = true then some ⟨year, month, day, h⟩ else none

/-- The first day of 1970. -/
def epoch : Date := ⟨1970, 1, 1, by decide⟩

/-- Order by year, month and day. -/
def order (a b : Date) : Ordering :=
  (compare a.year b.year).then ((compare a.month b.month).then (compare a.day b.day))

/-- The day after, within the calendar's span. -/
def next? (d : Date) : Option Date :=
  if d.day < Calendar.daysIn d.year d.month then of? d.year d.month (d.day + 1)
  else if d.month < 12 then of? d.year (d.month + 1) 1
  else of? (d.year + 1) 1 1

/-- The day before, within the calendar's span. -/
def previous? (d : Date) : Option Date :=
  if 1 < d.day then of? d.year d.month (d.day - 1)
  else if 1 < d.month then of? d.year (d.month - 1) (Calendar.daysIn d.year (d.month - 1))
  else of? (d.year - 1) 12 31

/-! ## Written form. -/

/-- A natural number in decimal, filled with zeros on the left. -/
def padded (width n : Nat) : String :=
  let digits := Nat.toDigits 10 n
  String.ofList (List.replicate (width - digits.length) '0' ++ digits)

/-- A year of four digits, or with a sign where four digits do not suffice. -/
def yearText (year : Int) : String :=
  if 0 ≤ year ∧ year ≤ 9999 then padded 4 year.natAbs
  else (if year < 0 then "-" else "+") ++ padded 4 year.natAbs

/-- The text `2024-01-31`. -/
def text (d : Date) : String := yearText d.year ++ "-" ++ padded 2 d.month ++ "-" ++ padded 2 d.day

end Date

end RecordSearch
