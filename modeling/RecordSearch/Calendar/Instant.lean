/-
  RecordSearch.Calendar.Instant
  ─────────────────────────────
  **Moments in universal time.**

  An `Instant` is a day, a second of that day and nanoseconds. A leap second is the second 59 of
  its minute with more than 10^9 nanoseconds, so it sorts after that second and before the next
  minute, and is shown as second 60.

      Instant.displayText       — `2024-01-01 00:00:00`, without fractions
      Instant.interchangeText   — `2024-01-01T00:00:00.500Z`, with the fewest groups of three
                                  fraction digits that are exact
-/
import RecordSearch.Calendar.Date

namespace RecordSearch

namespace Calendar

/-- Is there such a time of day? Only a second 59 can be a leap second. -/
def isTime (second nanosecond : Nat) : Bool :=
  second < 86400 && nanosecond < 2000000000 && (nanosecond < 1000000000 || second % 60 = 59)

end Calendar

/-- A moment in universal time. -/
structure Instant where
  date : Date
  second : Nat
  nanosecond : Nat
  isTime : Calendar.isTime second nanosecond = true
  deriving DecidableEq

namespace Instant

/-- The moment with these parts, if there is one. -/
def of? (date : Date) (second nanosecond : Nat) : Option Instant :=
  if h : Calendar.isTime second nanosecond = true then some ⟨date, second, nanosecond, h⟩ else none

/-- The first moment of 1970. -/
def epoch : Instant := ⟨.epoch, 0, 0, by decide⟩

/-- Order in time. -/
def order (a b : Instant) : Ordering :=
  (a.date.order b.date).then
    ((compare a.second b.second).then (compare a.nanosecond b.nanosecond))

/-- The moment that a clock shows which runs `offset` seconds (less than a day) ahead of universal
time. -/
def ofLocal? (date : Date) (second nanosecond : Nat) (offset : Int) : Option Instant :=
  let universal : Int := second - offset
  if universal < 0 then
    date.previous?.bind fun d => of? d (universal + 86400).toNat nanosecond
  else if universal < 86400 then of? date universal.toNat nanosecond
  else date.next?.bind fun d => of? d (universal - 86400).toNat nanosecond

/-! ## Written forms. -/

/-- Hours, minutes and seconds, a leap second as second 60. -/
def clockText (t : Instant) : String :=
  let seconds := t.second % 60 + t.nanosecond / 1000000000
  Date.padded 2 (t.second / 3600) ++ ":" ++ Date.padded 2 (t.second / 60 % 60) ++ ":" ++
    Date.padded 2 seconds

/-- The fraction of the second in the fewest groups of three digits that are exact. -/
def fractionText (t : Instant) : String :=
  let nanos := t.nanosecond % 1000000000
  if nanos = 0 then ""
  else if nanos % 1000000 = 0 then "." ++ Date.padded 3 (nanos / 1000000)
  else if nanos % 1000 = 0 then "." ++ Date.padded 6 (nanos / 1000)
  else "." ++ Date.padded 9 nanos

/-- The text for people: date and clock, without fractions. -/
def displayText (t : Instant) : String := t.date.text ++ " " ++ t.clockText

/-- The text for interchange: date, clock and fraction, marked as universal time. -/
def interchangeText (t : Instant) : String :=
  t.date.text ++ "T" ++ t.clockText ++ t.fractionText ++ "Z"

end Instant

end RecordSearch
