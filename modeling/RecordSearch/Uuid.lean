/-
  RecordSearch.Uuid
  ─────────────────
  **Universally unique identifiers.**

  An identifier is 128 bits, ordered as a number, which is the order of its bytes. It is written
  as 32 small hexadecimal digits in groups of 8, 4, 4, 4 and 12, and read in that form, without
  the hyphens, in braces, or behind `urn:uuid:`, with digits of either case.
-/
import RecordSearch.Number.Digits

namespace RecordSearch

/-- A universally unique identifier. -/
structure Uuid where
  bits : BitVec 128
  deriving DecidableEq

namespace Uuid

/-- The identifier without a set bit. -/
def nil : Uuid := ⟨0⟩

/-- Order of the bytes, first byte first. -/
def order (a b : Uuid) : Ordering := compare a.bits.toNat b.bits.toNat

/-- The 32 hexadecimal digits, first digit first. -/
def digits (u : Uuid) : List Char :=
  (List.range 32).map fun i => Nat.digitChar ((u.bits >>> (4 * (31 - i))).toNat % 16)

/-- The text with hyphens. -/
def text (u : Uuid) : String :=
  let d := u.digits
  String.ofList (d.take 8 ++ '-' :: (d.drop 8).take 4 ++ '-' :: (d.drop 12).take 4 ++
    '-' :: (d.drop 16).take 4 ++ '-' :: d.drop 20)

/-- Exactly 32 digits. -/
def readDigits (digits : List Char) : Option Uuid :=
  if digits.length = 32 then (hexNumber? digits).map fun n => ⟨BitVec.ofNat 128 n⟩ else none

/-- Groups of 8, 4, 4, 4 and 12 digits with hyphens between. -/
def readHyphenated (text : List Char) : Option Uuid :=
  if text.length = 36 ∧ [8, 13, 18, 23].all (fun i => text[i]? = some '-') then
    readDigits (text.take 8 ++ (text.drop 9).take 4 ++ (text.drop 14).take 4 ++
      (text.drop 19).take 4 ++ text.drop 24)
  else none

/-- The text as an identifier, in any of the four forms. -/
def read (text : String) : Option Uuid :=
  let cs := text.toList
  match cs.length with
  | 32 => readDigits cs
  | 36 => readHyphenated cs
  | 38 =>
      if cs.head? = some '\x7b' ∧ cs.getLast? = some '\x7d' then
        readHyphenated ((cs.drop 1).take 36)
      else none
  | 45 => if "urn:uuid:".toList.isPrefixOf cs then readHyphenated (cs.drop 9) else none
  | _ => none

end Uuid

end RecordSearch
