/-
  RecordSearch.Text.Quoted
  ────────────────────────
  **Text in quotes.**

  Quoted text shows every character: line ends, tabs, quotes and backslashes behind a backslash,
  and characters that are left out of plain sight by their code.

      quoted s    — `s` in double quotes
-/
import RecordSearch.Text.Unprintable

namespace RecordSearch.Text

/-- The digits of a number in base 16. -/
def hexDigits (n : Nat) : List Char := Nat.toDigits 16 n

/-- A character by its code. -/
def byCode (c : Char) : List Char := '\\' :: 'u' :: '\x7b' :: (hexDigits c.toNat ++ ['\x7d'])

/-- A character between double quotes. -/
def visible (c : Char) : List Char :=
  if c = '\x00' then ['\\', '0']
  else if c = '\t' then ['\\', 't']
  else if c = '\r' then ['\\', 'r']
  else if c = '\n' then ['\\', 'n']
  else if c = '"' ∨ c = '\\' then ['\\', c]
  else if isUnprintable c then byCode c
  else [c]

/-- **The text in double quotes.** -/
def quoted (s : String) : String := String.ofList ('"' :: (s.toList.flatMap visible ++ ['"']))

end RecordSearch.Text
