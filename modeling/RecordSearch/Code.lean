/-
  RecordSearch.Code
  ─────────────────
  **Rust code as tokens.**

  Code is a list of names, literals and single marks; brackets are marks like any other. It is
  printed with one space between tokens.

      Code.template s       — the names and marks of a fixed piece of code
      Code.textLiteral s    — a text as a literal
      Code.closeAt          — splits behind the bracket that closes what is open
      Code.piecesAt         — splits at a mark outside of brackets
-/
import RecordSearch.Text.Quoted

namespace RecordSearch.Code

/-! ## §1. Tokens. -/

/-- A token. -/
inductive Token where
  /-- A name or keyword; a raw name with its mark. -/
  | name (text : String)
  /-- A literal as it is written. -/
  | literal (text : String)
  | mark (c : Char)
  deriving DecidableEq

def Token.text : Token → String
  | .name text | .literal text => text
  | .mark c => c.toString

/-- The code as text. -/
def print (code : List Token) : String := " ".intercalate (code.map Token.text)

/-- The name of a run of characters, unless it is empty. -/
def nameOf (cs : List Char) : List Token :=
  if cs.isEmpty then [] else [.name (String.ofList cs)]

/-- The names and marks of characters, behind the part of a name. -/
def templateFrom : (part : List Char) → List Char → List Token
  | part, [] => nameOf part
  | part, c :: cs =>
      if c.isAlphanum || c = '_' then templateFrom (part ++ [c]) cs
      else nameOf part ++ (if c = ' ' then [] else [.mark c]) ++ templateFrom [] cs

/-- The names and marks of a fixed piece of code. -/
def template (s : String) : List Token := templateFrom [] s.toList

/-! ## §2. Text literals. -/

/-- The characters of a literal. The code zero is written out where a digit follows, lest the two
be read as one number. -/
def literalChars : List Char → List Char
  | [] => []
  | c :: cs =>
      if c = '\x00' ∧ cs.head?.any (fun d => '0' ≤ d && d ≤ '7') then
        ['\\', 'x', '0', '0'] ++ literalChars cs
      else Text.visible c ++ literalChars cs

/-- A text as a literal. -/
def textLiteral (s : String) : Token :=
  .literal (String.ofList ('"' :: (literalChars s.toList ++ ['"'])))

/-! ## §3. Brackets. -/

/-- Does the token open a bracket? -/
def Token.opens (t : Token) : Bool :=
  t = .mark '(' || t = .mark '[' || t = .mark '\x7b' || t = .mark '<'

/-- Does the token close a bracket? -/
def Token.closes (t : Token) : Bool :=
  t = .mark ')' || t = .mark ']' || t = .mark '\x7d' || t = .mark '>'

/-- How many brackets are open behind a token. -/
def depthAfter (depth : Nat) (t : Token) : Nat :=
  if t.opens then depth + 1 else if t.closes then depth - 1 else depth

/-- The code before and behind the bracket that closes what is open, `depth` more being open inside
of it. The second half of an arrow is no bracket. -/
def closeAt : (depth : Nat) → List Token → Option (List Token × List Token)
  | _, [] => none
  | depth, .mark '-' :: .mark '>' :: rest =>
      (closeAt depth rest).map fun (inner, rest) => (.mark '-' :: .mark '>' :: inner, rest)
  | depth, t :: rest =>
      if t.closes && depth = 0 then some ([], rest)
      else (closeAt (depthAfter depth t) rest).map fun (inner, rest) => (t :: inner, rest)

/-- Puts tokens in front of the first piece. -/
def prepend (front : List Token) : List (List Token) → List (List Token)
  | [] => [front]
  | piece :: pieces => (front ++ piece) :: pieces

/-- The pieces between the marks outside of brackets. -/
def piecesAt (mark : Char) : (depth : Nat) → List Token → List (List Token)
  | _, [] => [[]]
  | depth, .mark '-' :: .mark '>' :: rest =>
      prepend [.mark '-', .mark '>'] (piecesAt mark depth rest)
  | depth, t :: rest =>
      if t = .mark mark && depth = 0 then [] :: piecesAt mark 0 rest
      else prepend [t] (piecesAt mark (depthAfter depth t) rest)

end RecordSearch.Code
