/-
  RecordSearch.Json.Printer
  ─────────────────────────
  **Writing interchange text.**

  Values are written without spaces, members in their order. Texts escape the quote, the backslash
  and control characters; numbers follow the interchange style, and what is no finite number is
  written as null.

      Json.write j   — the text of a value
-/
import RecordSearch.Json
import RecordSearch.Number.Written

namespace RecordSearch

namespace Json

/-- A character inside quotes. -/
def escaped (c : Char) : List Char :=
  if c = '"' then ['\\', '"']
  else if c = '\\' then ['\\', '\\']
  else if c.toNat = 8 then ['\\', 'b']
  else if c.toNat = 12 then ['\\', 'f']
  else if c = '\n' then ['\\', 'n']
  else if c = '\r' then ['\\', 'r']
  else if c = '\t' then ['\\', 't']
  else if c.toNat < 32 then
    ['\\', 'u', '0', '0', Nat.digitChar (c.toNat / 16), Nat.digitChar (c.toNat % 16)]
  else [c]

/-- A text in quotes. -/
def quoted (s : String) : String := String.ofList ('"' :: (s.toList.flatMap escaped ++ ['"']))

mutual

/-- **The text of a value.** -/
def write : Json → String
  | .null => "null"
  | .bool b => if b then "true" else "false"
  | .integer n => toString n
  | .float x => if x.isFinite then NumberStyle.interchange.write x else "null"
  | .text s => quoted s
  | .array items => "[" ++ ",".intercalate (writeItems items) ++ "]"
  | .object members => "\x7b" ++ ",".intercalate (writeMembers members) ++ "\x7d"

/-- The texts of items. -/
def writeItems : List Json → List String
  | [] => []
  | j :: js => j.write :: writeItems js

/-- The texts of members. -/
def writeMembers : List (String × Json) → List String
  | [] => []
  | (name, j) :: members => (quoted name ++ ":" ++ j.write) :: writeMembers members

end

end Json

end RecordSearch
