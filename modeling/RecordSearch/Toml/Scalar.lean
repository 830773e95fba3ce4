/-
  RecordSearch.Toml.Scalar
  ────────────────────────
  **Texts, numbers and moments of configuration documents.**

  Four kinds of quotes enclose text: basic and literal ones, each on one line or over several. In
  basic quotes a backslash starts an escape; over several lines it may also swallow the line end
  and all blanks behind it. Numbers and moments are words that follow one of a few patterns.

      textAt text     — the text in quotes at the front
      scalarAt text   — the number or moment at the front
-/
import RecordSearch.Calendar.Date
import RecordSearch.Number.Binary
import RecordSearch.Number.Digits
import RecordSearch.Number.Word
import RecordSearch.Toml

namespace RecordSearch.Toml

/-! ## §1. Characters. -/

def isSpace (c : Char) : Bool := c = ' ' || c = '\t'

/-- May the character stand in text on one line? Control characters may not, tabs excepted. -/
def isInline (c : Char) : Bool := c = '\t' || (32 ≤ c.toNat && c.toNat ≠ 127)

/-! ## §2. Texts. -/

/-- What a reader of text is reading. -/
structure Quotes where
  mark : Char
  /-- Has the backslash a meaning? -/
  escapes : Bool
  /-- May the text go over several lines? -/
  lines : Bool

/-- The character with a code, if it is one. -/
def charOfCode? (code : Nat) : Option Char :=
  if code < 0xD800 ∨ (0xE000 ≤ code ∧ code < 0x110000) then some (Char.ofNat code) else none

/-- The character that a letter behind a backslash names. -/
def escape? (c : Char) : Option Char :=
  if c = 'b' then some '\x08'
  else if c = 't' then some '\t'
  else if c = 'n' then some '\n'
  else if c = 'f' then some '\x0c'
  else if c = 'r' then some '\r'
  else if c = '"' ∨ c = '\\' then some c
  else none

/-- How many digits a code has behind its letter. -/
def codeWidth? (c : Char) : Option Nat :=
  if c = 'u' then some 4 else if c = 'U' then some 8 else none

/-- A character by its code of so many digits. -/
def codeAt (width : Nat) (text : List Char) : Option (Char × List Char) :=
  let digits := text.take width
  if digits.length = width then
    ((hexNumber? digits).bind charOfCode?).map fun c => (c, text.drop width)
  else none

/-- What follows the line end behind a backslash: blanks and empty lines are swallowed. -/
def joinedLine? (text : List Char) : Option (List Char) :=
  let isLineEnd (c : Char) : Bool := c = '\n' || c = '\r'
  match text.dropWhile isSpace with
  | '\n' :: rest | '\r' :: '\n' :: rest => some (rest.dropWhile fun c => isSpace c || isLineEnd c)
  | _ => none

/-- A line end, however it is coded. -/
def lineEndAt (text : List Char) : Option (List Char) :=
  match text with
  | '\n' :: rest => some rest
  | '\r' :: '\n' :: rest => some rest
  | _ => none

/-- Where text over several lines ends: three marks, with up to two more that belong to the text. -/
def closing? (mark : Char) (text : List Char) : Option (List Char × List Char) :=
  let marks := (text.takeWhile (· = mark)).take 5
  if 3 ≤ marks.length then some (marks.drop 3, text.drop marks.length) else none

/-- The text up to the closing marks, and what follows them. -/
def quotedAt (q : Quotes) : (steps : Nat) → List Char → Option (List Char × List Char)
  | 0, _ => none
  | steps + 1, text =>
    let closed := if q.lines then closing? q.mark text else
      match text with
      | c :: rest => if c = q.mark then some ([], rest) else none
      | [] => none
    let go (front rest : List Char) : Option (List Char × List Char) :=
      (quotedAt q steps rest).map fun (more, rest) => (front ++ more, rest)
    match closed, lineEndAt text, text with
    | some found, _, _ => some found
    | none, some rest, _ => if q.lines then go ['\n'] rest else none
    | none, none, '\\' :: rest =>
      if !q.escapes then go ['\\'] rest
      else
        match rest with
        | [] => none
        | c :: after =>
          match escape? c, codeWidth? c with
          | some e, _ => go [e] after
          | none, some width => (codeAt width after).bind fun (e, rest) => go [e] rest
          | none, none => if q.lines then (joinedLine? rest).bind (go []) else none
    | none, none, c :: rest => if isInline c then go [c] rest else none
    | none, none, [] => none

/-- Is the text at the front in three marks? -/
def isTripled (text : List Char) : Bool :=
  match text with
  | a :: b :: c :: _ => a = b && b = c
  | _ => false

/-- **The text in quotes at the front.** A line end right behind three marks does not count. -/
def textAt (text : List Char) (lines : Bool) : Option (String × List Char) :=
  match text with
  | mark :: rest =>
    if mark ≠ '"' ∧ mark ≠ '\'' then none
    else if isTripled text then
      if !lines then none
      else
        let body := rest.drop 2
        let body := (lineEndAt body).getD body
        (quotedAt ⟨mark, mark = '"', true⟩ (body.length + 1) body).map fun (cs, rest) =>
          (String.ofList cs, rest)
    else
      (quotedAt ⟨mark, mark = '"', false⟩ (rest.length + 1) rest).map fun (cs, rest) =>
        (String.ofList cs, rest)
  | [] => none

/-! ## §3. Numbers. -/

/-- Digits, underscores allowed between two of them. -/
def isDigits (isDigit : Char → Bool) : List Char → Bool
  | [] => false
  | [c] => isDigit c
  | c :: '_' :: d :: rest => isDigit c && isDigits isDigit (d :: rest)
  | c :: rest => isDigit c && isDigits isDigit rest

/-- Digits of a whole number: a zero stands alone. -/
def isWhole (digits : List Char) : Bool :=
  isDigits Char.isDigit digits && (digits.head? ≠ some '0' || digits.length = 1)

/-- Digits without underscores. -/
def bare (digits : List Char) : List Char := digits.filter (· ≠ '_')

/-- The text without its sign, and whether the sign is minus. -/
def unsigned (text : List Char) : Bool × List Char :=
  match text with
  | '-' :: rest => (true, rest)
  | '+' :: rest => (false, rest)
  | rest => (false, rest)

/-- An integer of 64 bits: decimal with or without sign, or in base 16, 8 or 2. -/
def isInteger (word : List Char) : Bool :=
  let based (base : Nat) (digits : List Char) : Bool :=
    isDigits (fun c => (hexValue? c).any (· < base)) digits &&
      (int64? ((bare digits).foldl (fun n c => base * n + (hexValue? c).getD 0) 0 : Nat)).isSome
  match word with
  | '0' :: 'x' :: digits => based 16 digits
  | '0' :: 'o' :: digits => based 8 digits
  | '0' :: 'b' :: digits => based 2 digits
  | word =>
    let (negative, digits) := unsigned word
    isWhole digits && (int64? (signed negative (decimalValue (bare digits)))).isSome

/-- A floating-point number: a whole number with a fraction, an exponent or both, or one of the
special ones. A number may not be too great. -/
def isFloat (word : List Char) : Bool :=
  let (negative, body) := unsigned word
  if body = "inf".toList ∨ body = "nan".toList then true
  else
    let isMark (c : Char) : Bool := c = 'e' || c = 'E'
    let mantissa := body.takeWhile fun c => !isMark c
    let exponent := (body.drop mantissa.length).drop 1
    let hasExponent := mantissa.length < body.length
    let whole := mantissa.takeWhile (· ≠ '.')
    let fraction := (mantissa.drop whole.length).drop 1
    let hasFraction := whole.length < mantissa.length
    let (down, power) := unsigned exponent
    let place := signed down (decimalValue (bare power)) - (bare fraction).length
    let digits := decimalValue (bare (whole ++ fraction))
    (hasExponent || hasFraction) && isWhole whole &&
      (!hasFraction || isDigits Char.isDigit fraction) &&
      (!hasExponent || isDigits Char.isDigit power) &&
      (negative || (Binary64.ofDecimal false digits place).isFinite)

/-! ## §4. Moments. -/

/-- A number of two digits at the front, at most so great. -/
def twoAt (most : Nat) (text : List Char) : Option (List Char) :=
  match text with
  | a :: b :: rest =>
    if a.isDigit && b.isDigit && decimalValue [a, b] ≤ most then some rest else none
  | _ => none

/-- A mark at the front. -/
def markAt (mark : Char) (text : List Char) : Option (List Char) :=
  match text with
  | c :: rest => if c = mark then some rest else none
  | [] => none

/-- A day of the calendar at the front: year of four digits, month and day of two. -/
def dateAt (text : List Char) : Option (List Char) := do
  let year := text.take 4
  if year.length ≠ 4 ∨ !year.all Char.isDigit then none
  let rest ← markAt '-' (text.drop 4)
  let month := rest.take 2
  let rest ← markAt '-' (← twoAt 12 rest)
  let day := rest.take 2
  let rest ← twoAt 31 rest
  if Calendar.exists? (decimalValue year) (decimalValue month) (decimalValue day) then some rest
  else none

/-- A time of day at the front. -/
def timeAt (text : List Char) : Option (List Char) := do
  let rest ← markAt ':' (← twoAt 23 text)
  let rest ← markAt ':' (← twoAt 59 rest)
  let rest ← twoAt 60 rest
  match rest with
  | '.' :: fraction =>
    let after := fraction.dropWhile Char.isDigit
    if after.length < fraction.length then some after else none
  | rest => some rest

/-- An offset from universal time at the front, if there is one. -/
def offsetAt (text : List Char) : Option (List Char) :=
  match text with
  | c :: rest =>
    if c = 'Z' ∨ c = 'z' then some rest
    else if c = '+' ∨ c = '-' then do twoAt 59 (← markAt ':' (← twoAt 23 rest))
    else some text
  | [] => some []

/-- A date, a time, or a date and a time with or without an offset. -/
def isMoment (word : List Char) : Bool :=
  match dateAt word, timeAt word with
  | some [], _ | _, some [] => true
  | some (c :: rest), _ =>
    (c = 'T' || c = 't' || c = ' ') && ((timeAt rest).bind offsetAt) == some []
  | _, _ => false

/-! ## §5. Words. -/

/-- May the character belong to a number or a moment? -/
def isWordPart (c : Char) : Bool :=
  c.isDigit || c.isAlpha || c = '+' || c = '-' || c = '_' || c = '.' || c = ':'

/-- The word at the front. A date goes on behind one space if a digit follows. -/
def wordAt (text : List Char) : List Char × List Char :=
  let word := text.takeWhile isWordPart
  match dateAt word, text.drop word.length with
  | some [], ' ' :: c :: rest =>
    if c.isDigit then
      let time := (c :: rest).takeWhile isWordPart
      (word ++ ' ' :: time, (c :: rest).drop time.length)
    else (word, ' ' :: c :: rest)
  | _, rest => (word, rest)

/-- **The number, moment or truth value at the front.** -/
def scalarAt (text : List Char) : Option (Toml × List Char) :=
  let (word, rest) := wordAt text
  let s := String.ofList word
  if s = "true" then some (.bool true, rest)
  else if s = "false" then some (.bool false, rest)
  else if isInteger word || isFloat word then some (.number s, rest)
  else if isMoment word then some (.moment s, rest)
  else none

end RecordSearch.Toml
