/-
  RecordSearch.Json
  ─────────────────
  **Interchange values.**

  The tree that interchange text stands for. Integers and floating-point numbers are kept apart,
  since fields tell them apart; the members of an object have distinct names.

      Json.put members name j   — sets a member, in its place if it is there already
      Json.fields? names j      — the fields of a structure, written by name or by position
      Json.variant? j           — the name of a constructor without arguments
-/
import RecordSearch.Number.Binary
import RecordSearch.Number.Word

namespace RecordSearch

/-- An interchange value. -/
inductive Json where
  | null
  | bool (b : Bool)
  | integer (n : Int)
  | float (x : Binary64)
  | text (s : String)
  | array (items : List Json)
  | object (members : List (String × Json))

instance : Inhabited Json := ⟨.null⟩

/-- What stands in the place of a field. -/
inductive FieldSlot where
  | given (j : Json)
  /-- The structure is written by name, and the field is left out. -/
  | unnamed
  /-- The structure is written by position, and ends before the field. -/
  | beyond

namespace Json

/-! ## §1. Objects. -/

/-- Sets a member, in its place if it is there already. -/
def put (name : String) (j : Json) : List (String × Json) → List (String × Json)
  | [] => [(name, j)]
  | (n, k) :: members => if n = name then (name, j) :: members else (n, k) :: put name j members

/-- The member of an object. -/
def member? (name : String) : Json → Option Json
  | .object members => members.lookup name
  | _ => none

/-! ## §2. Structures. -/

/-- The fields with these names. A structure is an object, in which other members are ignored, or
an array of the fields in their order, which may end early and not late. -/
def fields? (names : List String) : Json → Option (List FieldSlot)
  | .object members => some (names.map fun n =>
      match members.lookup n with
      | some j => .given j
      | none => .unnamed)
  | .array items =>
      if items.length ≤ names.length then
        some (items.map .given ++ List.replicate (names.length - items.length) .beyond)
      else none
  | _ => none

/-- A constructor without arguments: its name, or an object of its name with null. -/
def variant? : Json → Option String
  | .text s => some s
  | .object [(s, .null)] => some s
  | _ => none

/-- The value, or null in its place. -/
def orNull {α : Type} (read : Json → Option α) : Json → Option (Option α)
  | .null => some none
  | j => (read j).map some

/-- A list of values. -/
def listOf {α : Type} (read : Json → Option α) : Json → Option (List α)
  | .array items => items.mapM read
  | _ => none

def asBool? : Json → Option Bool
  | .bool b => some b
  | _ => none

def asText? : Json → Option String
  | .text s => some s
  | _ => none

/-- A signed integer of 64 bits. -/
def asInt64? : Json → Option Int64
  | .integer n => int64? n
  | _ => none

/-- An unsigned integer of 64 bits. -/
def asUInt64? : Json → Option UInt64
  | .integer n => uint64? n
  | _ => none

/-- A number; integers are rounded to the nearest floating-point number. -/
def asFloat? : Json → Option Binary64
  | .integer n => some (.ofInt n)
  | .float x => some x
  | _ => none

end Json

namespace FieldSlot

variable {α : Type}

/-- A field that must be there. -/
def required (read : Json → Option α) : FieldSlot → Option α
  | .given j => read j
  | _ => none

/-- A field that may be null, or left out where fields are written by name. -/
def optional (read : Json → Option α) : FieldSlot → Option (Option α)
  | .given j => j.orNull read
  | .unnamed => some none
  | .beyond => none

/-- A field that has a default. -/
def orElse (value : α) (read : Json → Option α) : FieldSlot → Option α
  | .given j => read j
  | _ => some value

end FieldSlot

end RecordSearch
