/-
  RecordSearch.Expr.Name
  ──────────────────────
  **Names of the predicate language.**

  A name starts with a letter of any script or an underscore and goes on with letters, numerals
  and underscores. Seven words are keywords, in any ASCII case; a name behind the escape mark `@`
  is never one.
-/
import RecordSearch.Text.Letter

namespace RecordSearch

/-- The mark before an escaped name and before a parameter's number. -/
def escapeMark : Char := '@'

/-- Can a name start with the character? -/
def isNameStart (c : Char) : Bool := Text.isAlphabetic c || c = '_'

/-- Can a name go on with the character? -/
def isNamePart (c : Char) : Bool := Text.isAlphabetic c || Text.isNumeral c || c = '_'

/-- Is the text a name? -/
def isName : List Char → Bool
  | [] => false
  | c :: cs => isNameStart c && cs.all isNamePart

/-- The text with the capitals of ASCII made small. -/
def lowered (text : String) : String := String.ofList (text.toList.map Char.toLower)

/-- Are the two texts the same up to the case of ASCII letters? -/
def sameWord (a b : String) : Bool := lowered a = lowered b

/-- The words that cannot be bare names. -/
def keywords : List String := ["and", "or", "not", "in", "null", "true", "false"]

/-- Is the word a keyword, in any ASCII case? -/
def isKeyword (word : String) : Bool := keywords.contains (lowered word)

end RecordSearch
