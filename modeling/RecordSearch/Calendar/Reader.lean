/-
  RecordSearch.Calendar.Reader
  ────────────────────────────
  **Reading dates and moments.**

  Each reader of a part returns the part and the rest of the text. A date is year, month and day
  with hyphens between; a moment adds `T` or a space, the clock with an optional fraction, and the
  offset from universal time, which is required. Blanks may stand before a number, around a
  separator and at the end, month, day and clock may have one digit, and a year with a sign may
  have any number of digits.

      Date.read text      — the whole text as a date
      Instant.read text   — the whole text as a moment, converted to universal time
-/
import RecordSearch.Calendar.Instant
import RecordSearch.Number.Digits
import RecordSearch.Text.Letter

namespace RecordSearch

namespace Calendar

open Text

def skipBlanks (text : List Char) : List Char := text.dropWhile isBlank

/-- The longest run of digits at the front, at least one and at most `most`. -/
def readDigits (most : Nat) (text : List Char) : Option (List Char × List Char) :=
  let digits := (text.takeWhile Char.isDigit).take most
  if digits.isEmpty then none else some (digits, text.drop digits.length)

/-- A number of one or two digits, blanks before it skipped. -/
def readPair (text : List Char) : Option (Nat × List Char) :=
  (readDigits 2 (skipBlanks text)).map fun (digits, rest) => (decimalValue digits, rest)

/-- A year: up to four digits, or a sign and any number of them. -/
def readYear (text : List Char) : Option (Int × List Char) :=
  let year (negative : Bool) (found : Option (List Char × List Char)) :=
    found.map fun (digits, rest) => (signed negative (decimalValue digits), rest)
  match skipBlanks text with
  | '-' :: rest => year true (readDigits rest.length rest)
  | '+' :: rest => year false (readDigits rest.length rest)
  | text => year false (readDigits 4 text)

/-- A separator, blanks before it skipped. -/
def readMark (mark : Char) (text : List Char) : Option (List Char) :=
  match skipBlanks text with
  | c :: rest => if c = mark then some rest else none
  | [] => none

/-- Year, month and day. -/
def readDate (text : List Char) : Option (Date × List Char) := do
  let (year, rest) ← readYear text
  let (month, rest) ← readPair (← readMark '-' rest)
  let (day, rest) ← readPair (← readMark '-' rest)
  return (← Date.of? year month day, rest)

/-- A fraction of a second in nanoseconds; digits beyond the ninth are dropped. -/
def readFraction (text : List Char) : Option (Nat × List Char) :=
  match text with
  | '.' :: rest => do
      let (digits, rest) ← readDigits 9 rest
      return (decimalValue (digits.rightpad 9 '0'), rest.dropWhile Char.isDigit)
  | rest => some (0, rest)

/-- The clock: second of the day and nanoseconds. Second 60 is the leap second after 59. -/
def readClock (text : List Char) : Option ((Nat × Nat) × List Char) := do
  let (hour, rest) ← readPair text
  let (minute, rest) ← readPair (← readMark ':' rest)
  let (second, rest) ← readPair (← readMark ':' rest)
  let (nanos, rest) ← readFraction rest
  if 23 < hour ∨ 59 < minute ∨ 60 < second then none
  else if second = 60 then
    some ((hour * 3600 + minute * 60 + 59, nanos + 1000000000), rest)
  else some ((hour * 3600 + minute * 60 + second, nanos), rest)

/-- Two digits, neither more nor fewer. -/
def readTwoDigits : List Char → Option (Nat × List Char)
  | a :: b :: rest =>
      if a.isDigit && b.isDigit then some (decimalValue [a, b], rest) else none
  | _ => none

/-- The offset of a clock in seconds: `Z`, the letters `UTC`, or a sign, two digits of hours and
two of minutes, with colons and blanks allowed between. -/
def readOffset (text : List Char) : Option (Int × List Char) :=
  match text with
  | 'Z' :: rest | 'z' :: rest => some (0, rest)
  | u :: t :: c :: rest =>
      if [u.toUpper, t.toUpper, c.toUpper] = ['U', 'T', 'C'] then some (0, rest)
      else if u = '+' then amount (t :: c :: rest)
      else if u = '-' ∨ u = '\u2212' then (amount (t :: c :: rest)).map fun (s, r) => (-s, r)
      else none
  | _ => none
where
  amount (text : List Char) : Option (Int × List Char) := do
    let (hours, rest) ← readTwoDigits text
    let (minutes, rest) ← readTwoDigits (rest.dropWhile fun c => c = ':' || isBlank c)
    if 59 < minutes ∨ 23 < hours then none
    else some (((hours * 3600 + minutes * 60 : Nat) : Int), rest)

/-- Date, clock and offset. -/
def readInstant (text : List Char) : Option (Instant × List Char) := do
  let (date, rest) ← readDate text
  let rest ←
    match rest with
    | c :: rest => if c = 'T' ∨ c = 't' ∨ c = ' ' then some rest else none
    | [] => none
  let ((second, nanos), rest) ← readClock rest
  let (offset, rest) ← readOffset (skipBlanks rest)
  return (← Instant.ofLocal? date second nanos offset, rest)

/-- The part, if only blanks follow it. -/
def whole {α : Type} (reading : Option (α × List Char)) : Option α :=
  reading.bind fun (part, rest) => if (skipBlanks rest).isEmpty then some part else none

end Calendar

/-- The text as a date. -/
def Date.read (text : String) : Option Date := Calendar.whole (Calendar.readDate text.toList)

/-- The text as a moment. -/
def Instant.read (text : String) : Option Instant :=
  Calendar.whole (Calendar.readInstant text.toList)

end RecordSearch
