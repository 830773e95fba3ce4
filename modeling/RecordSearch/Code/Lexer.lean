/-
  RecordSearch.Code.Lexer
  ───────────────────────
  **Cutting Rust code into tokens.**

  A character beyond ASCII, blanks aside, belongs to a name. The quote of a lifetime is a mark of
  its own, the name behind it another token.

      Code.read text       — the tokens of a text
      Code.textValue? t    — the text that a literal stands for, if it is a text literal
-/
import RecordSearch.Code
import RecordSearch.Number.Digits
import RecordSearch.Text.Letter

namespace RecordSearch.Code

open Text

/-! ## §1. Names and numbers. -/

def startsName (c : Char) : Bool := c.isAlpha || c = '_' || (128 ≤ c.toNat && !isBlank c)

def continuesName (c : Char) : Bool := c.isDigit || startsName c

/-- The rest of a number behind its first run of letters and digits: a fraction, and the power of
ten that a sign stands before. -/
def numberTail (run rest : List Char) : List Char :=
  let fraction :=
    match rest with
    | '.' :: d :: more => if d.isDigit then '.' :: (d :: more).takeWhile continuesName else []
    | _ => []
  let after := rest.drop fraction.length
  let isPower := ((run ++ fraction).getLast?).any fun c => c = 'e' || c = 'E'
  let power :=
    match after with
    | s :: d :: more =>
      if isPower && (s = '+' || s = '-') && d.isDigit && !"0x".toList.isPrefixOf run then
        s :: (d :: more).takeWhile continuesName
      else []
    | _ => []
  fraction ++ power

/-! ## §2. Quotes. -/

/-- Text up to and with the closing quote; a backslash takes the character behind it along. -/
def closedBy (quote : Char) : List Char → Option (List Char)
  | [] => none
  | '\\' :: c :: cs => (closedBy quote cs).map fun text => '\\' :: c :: text
  | c :: cs => if c = quote then some [c] else (closedBy quote cs).map (c :: ·)

/-- Text up to and with a quote that so many marks follow. -/
def closedByMarks (marks : List Char) : List Char → Option (List Char)
  | [] => none
  | c :: cs =>
    if c = '"' ∧ marks.isPrefixOf cs then some ('"' :: marks)
    else (closedByMarks marks cs).map (c :: ·)

/-- A raw text behind its letters: marks, quote, text, quote, marks. -/
def rawTextAt (text : List Char) : Option (List Char) :=
  let marks := text.takeWhile (· = '#')
  match text.drop marks.length with
  | '"' :: rest => (closedByMarks marks rest).map fun body => marks ++ '"' :: body
  | _ => none

/-- A text or character behind the letters that say what kind it is. -/
def quotedAt (letters : String) (rest : List Char) : Option (List Char) :=
  if letters = "b" ∨ letters = "c" ∨ letters = "" then
    match rest with
    | '"' :: body => (closedBy '"' body).map ('"' :: ·)
    | '\'' :: body => if letters = "b" then (closedBy '\'' body).map ('\'' :: ·) else none
    | _ => none
  else if letters = "r" ∨ letters = "br" ∨ letters = "cr" then rawTextAt rest
  else none

/-! ## §3. Tokens. -/

/-- A literal with what belongs to it behind its quotes. -/
def quotedLiteral (front body rest : List Char) : Token × List Char :=
  let suffix := (rest.drop body.length).takeWhile continuesName
  (.literal (String.ofList (front ++ body ++ suffix)), rest.drop (body.length + suffix.length))

/-- A name, a raw name, or a literal that starts with letters. -/
def wordAt (text : List Char) : Token × List Char :=
  let word := text.takeWhile continuesName
  let rest := text.drop word.length
  match quotedAt (String.ofList word) rest, rest with
  | some body, _ => quotedLiteral word body rest
  | none, '#' :: c :: more =>
    if word = ['r'] ∧ startsName c then
      let name := (c :: more).takeWhile continuesName
      (.name (String.ofList ('r' :: '#' :: name)), (c :: more).drop name.length)
    else (.name (String.ofList word), rest)
  | none, rest => (.name (String.ofList word), rest)

/-- Is what stands behind a quote a character, and no lifetime? -/
def isCharacter (rest : List Char) : Bool :=
  match rest with
  | '\\' :: _ => true
  | _ :: c :: _ => c = '\''
  | _ => false

/-- The token that starts with a character. -/
def tokenAt (c : Char) (rest : List Char) : Option (Token × List Char) :=
  if startsName c then some (wordAt (c :: rest))
  else if c.isDigit then
    let run := (c :: rest).takeWhile continuesName
    let behind := (c :: rest).drop run.length
    let tail := numberTail run behind
    some (.literal (String.ofList (run ++ tail)), behind.drop tail.length)
  else if c = '"' then
    (quotedAt "" (c :: rest)).map fun body => quotedLiteral [] body (c :: rest)
  else if c = '\'' ∧ isCharacter rest then
    (closedBy '\'' rest).map fun body => quotedLiteral ['\''] body rest
  else some (.mark c, rest)

/-- The tokens of characters, at most so many. -/
def tokens : (steps : Nat) → List Char → Option (List Token)
  | _, [] => some []
  | 0, _ => none
  | steps + 1, c :: cs =>
    if isBlank c then tokens steps cs
    else do
      let (token, rest) ← tokenAt c cs
      return token :: (← tokens steps rest)

/-- **The tokens of a text.** -/
def read (text : String) : Option (List Token) := tokens text.length text.toList

/-! ## §4. The text of a literal. -/

/-- A character by its code, behind `\u`. -/
def codedChar? (digits : List Char) : Option Char := do
  return Char.ofNat (← hexNumber? (digits.filter (· ≠ '_')))

/-- The character that a letter behind a backslash names. -/
def escapedChar (c : Char) : Char :=
  if c = 'n' then '\n' else if c = 'r' then '\r' else if c = 't' then '\t'
  else if c = '0' then '\x00' else c

/-- The text between quotes, up to the closing one, at most so many characters. -/
def unescape : (steps : Nat) → List Char → Option (List Char)
  | 0, _ => none
  | steps + 1, text =>
    let go (c : Char) (rest : List Char) : Option (List Char) := (unescape steps rest).map (c :: ·)
    match text with
    | [] => none
    | '"' :: _ => some []
    | '\\' :: 'x' :: a :: b :: rest => (codedChar? [a, b]).bind (go · rest)
    | '\\' :: 'u' :: '\x7b' :: rest =>
      let digits := rest.takeWhile (· ≠ '\x7d')
      (codedChar? digits).bind (go · (rest.drop (digits.length + 1)))
    | '\\' :: '\n' :: rest => unescape steps (rest.dropWhile Char.isWhitespace)
    | '\\' :: c :: rest => go (escapedChar c) rest
    | '\r' :: '\n' :: rest => go '\n' rest
    | c :: rest => go c rest

/-- The text of a raw literal behind its letter. -/
def rawText? (text : List Char) : Option (List Char) :=
  let marks := text.takeWhile (· = '#')
  let body := text.drop (marks.length + 1)
  (closedByMarks marks body).map fun found => found.take (found.length - marks.length - 1)

/-- **The text that a literal stands for**, if it is a text literal. -/
def textValue? : Token → Option String
  | .literal text =>
    let value :=
      match text.toList with
      | '"' :: body => unescape text.length body
      | 'r' :: body => rawText? body
      | _ => none
    value.map String.ofList
  | _ => none

end RecordSearch.Code
