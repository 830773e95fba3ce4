/-
  RecordSearch.Value
  ──────────────────
  **Dynamically typed values.**

  A `Value` is what a record member holds, what a criterion compares with and what a predicate
  binds to its placeholders. Integers keep the width and sign they came with, so the three number
  constructors overlap; comparison works across them.

      Value.kind           — the kind named in messages; all numbers are one kind
      Value.comparable     — may the two be compared?
      Value.compare?       — order of two values, absent across kinds and when a number is none
      Value.same           — sameness of representation, as of list elements
      Value.display        — the text that pattern matching sees; null has none
-/
import RecordSearch.Number.Written
import RecordSearch.Calendar.Instant
import RecordSearch.Uuid

namespace RecordSearch

/-! ## §1. Values and their kinds. -/

/-- A value. -/
inductive Value where
  | null
  | bool (b : Bool)
  /-- A signed integer of 64 bits. -/
  | int (n : Int64)
  /-- An unsigned integer of 64 bits. -/
  | uint (n : UInt64)
  | float (x : Binary64)
  | text (s : String)
  | uuid (u : Uuid)
  | dateTime (t : Instant)
  | date (d : Date)
  | list (items : List Value)

instance : Inhabited Value := ⟨.null⟩

/-- What a value, or another part of a record, is called in messages. -/
inductive Kind where
  | null
  | bool
  | number
  | text
  | uuid
  | dateTime
  | date
  | list
  /-- A nested record. -/
  | record
  /-- A collection of records. -/
  | collection
  deriving DecidableEq, Repr

/-- The word for a kind. -/
def Kind.name : Kind → String
  | .null => "null"
  | .bool => "bool"
  | .number => "number"
  | .text => "text"
  | .uuid => "uuid"
  | .dateTime => "datetime"
  | .date => "date"
  | .list => "list"
  | .record => "record"
  | .collection => "collection"

/-- How a pattern is matched against a field: true text is matched as it is, anything else by its
text. -/
inductive FieldKind where
  | text
  | other
  deriving DecidableEq, Repr

instance : Inhabited FieldKind := ⟨.other⟩

namespace Value

/-- The kind of a value. -/
def kind : Value → Kind
  | .null => .null
  | .bool _ => .bool
  | .int _ | .uint _ | .float _ => .number
  | .text _ => .text
  | .uuid _ => .uuid
  | .dateTime _ => .dateTime
  | .date _ => .date
  | .list _ => .list

def isNull : Value → Bool
  | .null => true
  | _ => false

def isNaN : Value → Bool
  | .float x => x.isNaN
  | _ => false

def asBool? : Value → Option Bool
  | .bool b => some b
  | _ => none

def asText? : Value → Option String
  | .text s => some s
  | _ => none

/-! ## §2. Comparison. -/

/-- The integer that an integer value holds, whatever its width and sign. -/
def integer? : Value → Option Int
  | .int n => some n.toInt
  | .uint n => some n.toNat
  | _ => none

/-- A number as a floating-point number: integers beyond 53 bits are rounded to the nearest one. -/
def number? : Value → Option Binary64
  | .int n => some (.ofInt n.toInt)
  | .uint n => some (.ofInt n.toNat)
  | .float x => some x
  | _ => none

/-- The order of a signed and an unsigned integer: a negative one is less, any other is compared
as an unsigned one. -/
def signedOrder (m : Int64) (n : UInt64) : Ordering :=
  if m < 0 then .lt else compare m.toUInt64 n

/-- Order of two numbers: exact between integers, that of floating-point numbers otherwise. -/
def numberOrder? : Value → Value → Option Ordering
  | .int m, .int n => some (compare m n)
  | .uint m, .uint n => some (compare m n)
  | .int m, .uint n => some (signedOrder m n)
  | .uint m, .int n => some (signedOrder n m).swap
  | a, b =>
    match a.number?, b.number? with
    | some x, some y => x.compare? y
    | _, _ => none

/-- May the two be compared? They may when their kinds agree, lists excepted. -/
def comparable (a b : Value) : Bool := a.kind = b.kind && a.kind ≠ .list

/-- **The order of two values.** Text is ordered by code points. The order is absent for null and
lists, across kinds, and when a number is none. -/
def compare? : Value → Value → Option Ordering
  | .text a, .text b => some (compare a.toList b.toList)
  | .bool a, .bool b => some (compare a b)
  | .uuid a, .uuid b => some (a.order b)
  | .dateTime a, .dateTime b => some (a.order b)
  | .date a, .date b => some (a.order b)
  | a, b => numberOrder? a b

mutual

/-- Sameness of representation: `int 1` and `uint 1` differ, and a float is the same as another
when the two are numerically equal, so that no-number is not the same as itself. -/
def same : Value → Value → Bool
  | .null, .null => true
  | .bool a, .bool b => a == b
  | .int a, .int b => a == b
  | .uint a, .uint b => a == b
  | .float a, .float b => a.compare? b == some .eq
  | .text a, .text b => a == b
  | .uuid a, .uuid b => a == b
  | .dateTime a, .dateTime b => a == b
  | .date a, .date b => a == b
  | .list as, .list bs => sameAll as bs
  | _, _ => false

/-- Sameness of lists: as long as each other, and the same element by element. -/
def sameAll : List Value → List Value → Bool
  | [], [] => true
  | a :: as, b :: bs => a.same b && sameAll as bs
  | _, _ => false

end

/-! ## §3. Text. -/

mutual

/-- The text of a value. Null has an empty text, and the texts of a list's items are joined by a
comma and a space. -/
def display : Value → String
  | .null => ""
  | .bool b => if b then "true" else "false"
  | .int n => toString n.toInt
  | .uint n => toString n.toNat
  | .float x => NumberStyle.plain.write x
  | .text s => s
  | .uuid u => u.text
  | .dateTime t => t.displayText
  | .date d => d.text
  | .list items => ", ".intercalate (texts items)

/-- The texts of the items of a list. -/
def texts : List Value → List String
  | [] => []
  | v :: vs => v.display :: texts vs

end

end Value

end RecordSearch
