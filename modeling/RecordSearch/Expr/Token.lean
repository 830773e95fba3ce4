/-
  RecordSearch.Expr.Token
  ───────────────────────
  **Predicate text as tokens.**

  Text is cut into the longest tokens, spaces between them skipped. Cutting never fails: a
  character that starts no token, and a quote that is never closed, become tokens of their own
  and end the list, since no expression goes past them.

      tokenAt c cs      — the token that starts with `c`, and how many characters of `cs` it takes
      lexemes text      — all tokens with their positions, in bytes of the encoded text

  A number too great for its type, and a parameter's number beyond 64 bits, start no token.
-/
import RecordSearch.Expr
import RecordSearch.Expr.Name
import RecordSearch.Number.Digits
import RecordSearch.Number.Word

namespace RecordSearch

/-! ## §1. Tokens. -/

/-- A token. -/
inductive Token where
  /-- A word, keyword or not. -/
  | word (text : String)
  /-- A word behind the escape mark. -/
  | escaped (text : String)
  | parameter (index : Nat)
  | integer (n : Int64)
  | decimal (x : Binary64)
  | quoted (text : String)
  /-- A quote that is never closed; its readable part ends that many bytes behind the quote. -/
  | unclosed (bytes : Nat)
  | comparison (c : Comparison)
  /-- `&&` -/
  | both
  /-- `||` -/
  | either
  /-- `!` -/
  | bang
  /-- `??` -/
  | coalesce
  | dot
  | comma
  | opening
  | closing
  /-- A character that starts no token. -/
  | unknown

/-- A token and the place where it starts. -/
structure Lexeme where
  token : Token
  position : Nat

/-! ## §2. Cutting off one token. -/

/-- Does the predicate language skip the character between tokens? -/
def isSpace (c : Char) : Bool := c = ' ' || c = '\t' || c = '\r' || c = '\n'

/-- The bytes that the characters take. -/
def byteLength (cs : List Char) : Nat := cs.foldr (fun c bytes => c.utf8Size + bytes) 0

/-- A whole number, if 64 bits hold it. -/
def integerToken (negative : Bool) (digits : List Char) : Token :=
  match int64? (signed negative (decimalValue digits)) with
  | some n => .integer n
  | none => .unknown

/-- A number that starts with these digits, and how many characters behind them it takes: a point
that a digit follows belongs to it. -/
def numberToken (negative : Bool) (digits rest : List Char) : Token × Nat :=
  match rest with
  | '.' :: after =>
      let fraction := after.takeWhile Char.isDigit
      if fraction.isEmpty then (integerToken negative digits, 0)
      else
        (.decimal (.ofDecimal negative (decimalValue (digits ++ fraction)) (-fraction.length)),
          fraction.length + 1)
  | _ => (integerToken negative digits, 0)

/-- What stands for a character behind a backslash. -/
def unescape (c : Char) : Char :=
  if c = 'n' then '\n' else if c = 't' then '\t' else c

/-- The text up to the closing quote and the characters taken, the quote among them; or, without a
closing quote, the bytes of the readable part. A lone backslash at the end is not readable. -/
def quotedText : List Char → Except Nat (List Char × Nat)
  | [] => .error 0
  | ['\\'] => .error 0
  | '\\' :: c :: cs =>
      match quotedText cs with
      | .ok (text, taken) => .ok (unescape c :: text, taken + 2)
      | .error bytes => .error ('\\'.utf8Size + c.utf8Size + bytes)
  | c :: cs =>
      if c = '"' then .ok ([], 1)
      else
        match quotedText cs with
        | .ok (text, taken) => .ok (c :: text, taken + 1)
        | .error bytes => .error (c.utf8Size + bytes)

/-- A token of two characters if the second is there, else of one. -/
def pair (second : Char) (double single : Token) (rest : List Char) : Token × Nat :=
  if rest.head? = some second then (double, 1) else (single, 0)

/-- The token behind the escape mark: a parameter or an escaped word. -/
def escapedToken (rest : List Char) : Token × Nat :=
  match rest with
  | [] => (.unknown, 0)
  | c :: cs =>
      if c.isDigit then
        let digits := c :: cs.takeWhile Char.isDigit
        let index := decimalValue digits
        if index < UInt64.size then (.parameter index, digits.length) else (.unknown, 0)
      else if isNameStart c then
        let word := c :: cs.takeWhile isNamePart
        (.escaped (String.ofList word), word.length)
      else (.unknown, 0)

/-- **The token that starts with `c`**, and how many of the characters behind it belong to it. -/
def tokenAt (c : Char) (rest : List Char) : Token × Nat :=
  if isNameStart c then
    let more := rest.takeWhile isNamePart
    (.word (String.ofList (c :: more)), more.length)
  else if c.isDigit then
    let more := rest.takeWhile Char.isDigit
    let (token, taken) := numberToken false (c :: more) (rest.drop more.length)
    (token, more.length + taken)
  else if c = '-' then
    let digits := rest.takeWhile Char.isDigit
    if digits.isEmpty then (.unknown, 0)
    else
      let (token, taken) := numberToken true digits (rest.drop digits.length)
      (token, digits.length + taken)
  else if c = escapeMark then escapedToken rest
  else if c = '"' then
    match quotedText rest with
    | .ok (text, taken) => (.quoted (String.ofList text), taken)
    | .error bytes => (.unclosed bytes, 0)
  else if c = '=' then pair '=' (.comparison .equal) (.comparison .equal) rest
  else if c = '!' then pair '=' (.comparison .notEqual) .bang rest
  else if c = '<' then
    if rest.head? = some '>' then (.comparison .notEqual, 1)
    else pair '=' (.comparison .lessOrEqual) (.comparison .less) rest
  else if c = '>' then pair '=' (.comparison .greaterOrEqual) (.comparison .greater) rest
  else if c = '&' then pair '&' .both .unknown rest
  else if c = '|' then pair '|' .either .unknown rest
  else if c = '?' then pair '?' .coalesce .unknown rest
  else if c = '.' then (.dot, 0)
  else if c = ',' then (.comma, 0)
  else if c = '(' then (.opening, 0)
  else if c = ')' then (.closing, 0)
  else (.unknown, 0)

/-! ## §3. Cutting a text. -/

/-- Can no expression go past the token? -/
def Token.isLast : Token → Bool
  | .unclosed _ | .unknown => true
  | _ => false

/-- The tokens of a text from a position on, after `taken` more characters of the token before. -/
def lexemesFrom : (taken position : Nat) → List Char → List Lexeme
  | _, _, [] => []
  | taken + 1, position, c :: cs => lexemesFrom taken (position + c.utf8Size) cs
  | 0, position, c :: cs =>
      if isSpace c then lexemesFrom 0 (position + c.utf8Size) cs
      else
        let (token, taken) := tokenAt c cs
        ⟨token, position⟩ ::
          if token.isLast then [] else lexemesFrom taken (position + c.utf8Size) cs

/-- **The tokens of a text.** -/
def lexemes (text : List Char) : List Lexeme := lexemesFrom 0 0 text

end RecordSearch
