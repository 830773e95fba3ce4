/-
  RecordSearch.Json.Reader
  ────────────────────────
  **Reading interchange text.**

  Text is cut into tokens, and the tokens are read from left to right with a stack of the arrays
  and objects that are still open, of which there may be 127. Of two members with one name the later
  counts.

      Json.read text   — the value that the whole text stands for, if it stands for one

  A number without point and exponent is an integer if 64 bits hold it, with or without sign; any
  other number is its digits scaled in floating point, and minus zero is such a one. A number
  beyond the finite ones stands for nothing.
-/
import RecordSearch.Json
import RecordSearch.Number.Scaled

namespace RecordSearch

namespace Json

/-! ## §1. Tokens. -/

/-- A token. -/
inductive Token where
  | openArray
  | closeArray
  | openObject
  | closeObject
  | comma
  | colon
  /-- Null, a truth value, a number or a text. -/
  | scalar (j : Json)

/-- May the character stand between tokens? -/
def isSpace (c : Char) : Bool := c = ' ' || c = '\t' || c = '\n' || c = '\r'

/-- A point and the digits behind it, if there is a point. -/
def fractionAt (text : List Char) : Option (List Char × List Char) :=
  match text with
  | '.' :: rest =>
      let digits := rest.takeWhile Char.isDigit
      if digits.isEmpty then none else some (digits, rest.drop digits.length)
  | text => some ([], text)

/-- A power of ten behind its mark. -/
def powerAt (text : List Char) : Option (Int × List Char) :=
  let (negative, rest) :=
    match text with
    | '-' :: rest => (true, rest)
    | '+' :: rest => (false, rest)
    | rest => (false, rest)
  let digits := rest.takeWhile Char.isDigit
  if digits.isEmpty then none
  else some (signed negative (decimalValue digits), rest.drop digits.length)

/-- A power of ten, if its mark is there. -/
def exponentAt (text : List Char) : Option (Option Int × List Char) :=
  match text with
  | c :: rest =>
      if c = 'e' ∨ c = 'E' then (powerAt rest).map fun (power, rest) => (some power, rest)
      else some (none, text)
  | [] => some (none, [])

/-- May the integer be kept as such? Minus zero may not. -/
def isInteger (negative : Bool) (n : Int) : Bool :=
  ((int64? n).isSome || (uint64? n).isSome) && (n ≠ 0 || !negative)

/-- The value of a number by its parts. -/
def numberOf (negative : Bool) (whole fraction : List Char) (exponent : Option Int) :
    Option Json :=
  let n := signed negative (decimalValue whole)
  if fraction.isEmpty && exponent.isNone && isInteger negative n then some (.integer n)
  else
    let x := Binary64.ofWritten negative whole fraction (exponent.getD 0)
    if x.isFinite then some (.float x) else none

/-- A number and what follows it. A leading zero stands alone before the point. -/
def numberAt (text : List Char) : Option (Json × List Char) := do
  let negative := text.head? = some '-'
  let body := if negative then text.drop 1 else text
  let digits := body.takeWhile Char.isDigit
  let whole := if digits.head? = some '0' then ['0'] else digits
  if whole.isEmpty then none
  else
    let (fraction, rest) ← fractionAt (body.drop whole.length)
    let (exponent, rest) ← exponentAt rest
    return (← numberOf negative whole fraction exponent, rest)

/-- The code of the character that a letter behind a backslash names. -/
def escapeCode? (c : Char) : Option Nat :=
  if c = '"' ∨ c = '\\' ∨ c = '/' then some c.toNat
  else if c = 'b' then some 8
  else if c = 'f' then some 12
  else if c = 'n' then some 10
  else if c = 'r' then some 13
  else if c = 't' then some 9
  else none

/-- The codes of a text up to its closing quote, and what follows the quote. -/
def codesAt : List Char → Option (List Nat × List Char)
  | [] => none
  | c :: cs =>
      if c = '"' then some ([], cs)
      else if c = '\\' then
        match cs with
        | 'u' :: h :: i :: j :: k :: rest => do
            let code ← hexNumber? [h, i, j, k]
            let (codes, rest) ← codesAt rest
            return (code :: codes, rest)
        | e :: rest => do
            let code ← escapeCode? e
            let (codes, rest) ← codesAt rest
            return (code :: codes, rest)
        | [] => none
      else if c.toNat < 32 then none
      else do
        let (codes, rest) ← codesAt cs
        return (c.toNat :: codes, rest)

/-- Is the code the first half of a pair? -/
def isHigh (code : Nat) : Bool := 0xD800 ≤ code && code < 0xDC00

/-- Is the code the second half of a pair? -/
def isLow (code : Nat) : Bool := 0xDC00 ≤ code && code < 0xE000

/-- The characters of codes: two halves are one character, and no half stands alone. -/
def charsOf : List Nat → Option (List Char)
  | [] => some []
  | code :: codes =>
      if isHigh code then
        match codes with
        | low :: codes =>
            if isLow low then
              (charsOf codes).map
                (Char.ofNat (0x10000 + (code - 0xD800) * 0x400 + (low - 0xDC00)) :: ·)
            else none
        | [] => none
      else if isLow code then none
      else (charsOf codes).map (Char.ofNat code :: ·)

/-- A text behind its opening quote, and what follows it. -/
def textAt (text : List Char) : Option (Json × List Char) := do
  let (codes, rest) ← codesAt text
  return (.text (String.ofList (← charsOf codes)), rest)

/-- A word, if it stands here, and what follows it. -/
def wordAt (word : String) (j : Json) (text : List Char) : Option (Json × List Char) :=
  if word.toList.isPrefixOf text then some (j, text.drop word.length) else none

/-- The token at the front of a text without leading spaces, and what follows it. -/
def tokenAt (c : Char) (rest : List Char) : Option (Token × List Char) :=
  let scalar (found : Option (Json × List Char)) : Option (Token × List Char) :=
    found.map fun (j, rest) => (.scalar j, rest)
  if c = '[' then some (.openArray, rest)
  else if c = ']' then some (.closeArray, rest)
  else if c = '\x7b' then some (.openObject, rest)
  else if c = '\x7d' then some (.closeObject, rest)
  else if c = ',' then some (.comma, rest)
  else if c = ':' then some (.colon, rest)
  else if c = '"' then scalar (textAt rest)
  else if c = 'n' then scalar (wordAt "null" .null (c :: rest))
  else if c = 't' then scalar (wordAt "true" (.bool true) (c :: rest))
  else if c = 'f' then scalar (wordAt "false" (.bool false) (c :: rest))
  else scalar (numberAt (c :: rest))

/-- The tokens of a text. Each takes at least one character, so as many steps as there are
characters suffice. -/
def tokens : (steps : Nat) → List Char → Option (List Token)
  | _, [] => some []
  | 0, _ => none
  | steps + 1, c :: cs =>
      if isSpace c then tokens steps cs
      else do
        let (token, rest) ← tokenAt c cs
        return token :: (← tokens steps rest)

/-! ## §2. Reading tokens. -/

/-- Something open, and what it holds before the value at hand. -/
inductive Frame where
  | item (before : List Json)
  | member (before : List (String × Json)) (name : String)

/-- How many arrays and objects may be open at once. -/
def maxDepth : Nat := 127

/-- Where reading stands. -/
inductive Stage where
  /-- A value must start here. -/
  | value
  /-- The first item of an array must start here, or the array ends. -/
  | firstItem
  /-- The first name of an object must stand here, or the object ends. -/
  | firstName
  | nextName (before : List (String × Json))
  | colon (before : List (String × Json)) (name : String)
  /-- Behind a complete value. -/
  | complete (j : Json)

/-- The state of reading: the stage, and what is open, innermost first. -/
structure Reading where
  stage : Stage
  frames : List Frame

namespace Reading

/-- Starts a value. -/
def start? (frames : List Frame) : Token → Option Reading
  | .scalar j => some ⟨.complete j, frames⟩
  | .openArray => if frames.length < maxDepth then some ⟨.firstItem, frames⟩ else none
  | .openObject => if frames.length < maxDepth then some ⟨.firstName, frames⟩ else none
  | _ => none

/-- The state after a token, if it fits. -/
def step (r : Reading) (token : Token) : Option Reading :=
  match r.stage, token, r.frames with
  | .value, t, frames => start? frames t
  | .firstItem, .closeArray, frames => some ⟨.complete (.array []), frames⟩
  | .firstItem, t, frames => start? (.item [] :: frames) t
  | .firstName, .closeObject, frames => some ⟨.complete (.object []), frames⟩
  | .firstName, .scalar (.text name), frames => some ⟨.colon [] name, frames⟩
  | .nextName before, .scalar (.text name), frames => some ⟨.colon before name, frames⟩
  | .colon before name, .colon, frames => some ⟨.value, .member before name :: frames⟩
  | .complete j, .comma, .item before :: frames => some ⟨.value, .item (before ++ [j]) :: frames⟩
  | .complete j, .closeArray, .item before :: frames =>
      some ⟨.complete (.array (before ++ [j])), frames⟩
  | .complete j, .comma, .member before name :: frames =>
      some ⟨.nextName (put name j before), frames⟩
  | .complete j, .closeObject, .member before name :: frames =>
      some ⟨.complete (.object (put name j before)), frames⟩
  | _, _, _ => none

/-- The value read, if reading may stop. -/
def result? (r : Reading) : Option Json :=
  match r.stage, r.frames with
  | .complete j, [] => some j
  | _, _ => none

end Reading

/-- **The value of a text.** -/
def read (text : String) : Option Json := do
  let r ← (← tokens text.length text.toList).foldlM Reading.step ⟨.value, []⟩
  r.result?

end Json

end RecordSearch
