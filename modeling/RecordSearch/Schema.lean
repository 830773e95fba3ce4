/-
  RecordSearch.Schema
  ───────────────────
  **Types of records.**

  A schema lists the fields of a record type: under which name a field is stored, under which name
  the record shows it as a member, and what it holds. A field holds a scalar, a nested record (both
  possibly absent, which is null), or a collection of records; a skipped field is no member.

      Field, Field.next       — a path into a record type, and one that goes on into a nested record
      ScalarType.read? t j    — a scalar of a type
      readRecord? schema j    — a stored record as the record that it shows; fields that are not
                                stored have the default of their type
-/
import RecordSearch.Json
import RecordSearch.Calendar.Reader
import RecordSearch.Number.Written
import RecordSearch.Record

namespace RecordSearch

/-! ## §1. Scalars. -/

/-- The type of a scalar. -/
inductive ScalarType where
  /-- Signed integers of some width. -/
  | signed (bits : Nat)
  /-- Unsigned integers of some width. -/
  | unsigned (bits : Nat)
  /-- Floating-point numbers of 32 bits. -/
  | single
  /-- Floating-point numbers of 64 bits. -/
  | double
  | bool
  | text
  | uuid
  | dateTime
  | date
  deriving DecidableEq, Repr

namespace ScalarType

/-- How patterns are matched against a field of the type. -/
def kind : ScalarType → FieldKind
  | .text => .text
  | _ => .other

/-- The value of a field that was never set. -/
def zero : ScalarType → Value
  | .signed _ => .int 0
  | .unsigned _ => .uint 0
  | .single | .double => .float (.ofInt 0)
  | .bool => .bool false
  | .text => .text ""
  | .uuid => .uuid .nil
  | .dateTime => .dateTime .epoch
  | .date => .date .epoch

/-- An integer of a signed type. -/
def signed? (bits : Nat) (n : Int) : Option Value :=
  if -(twoTo (bits - 1) : Int) ≤ n ∧ n < twoTo (bits - 1) then some (.int (Int64.ofInt n)) else none

/-- An integer of an unsigned type. -/
def unsigned? (bits : Nat) (n : Int) : Option Value :=
  if 0 ≤ n ∧ n < twoTo bits then some (.uint (UInt64.ofNat n.toNat)) else none

/-- **The value of a stored scalar.** Identifiers, moments and days are stored as text; a number of
32 bits becomes the 64-bit number with the same shortest decimal. -/
def read? (t : ScalarType) (j : Json) : Option Value :=
  match t, j with
  | .signed bits, .integer n => signed? bits n
  | .unsigned bits, .integer n => unsigned? bits n
  | .single, j => j.asFloat?.map fun x => .float x.throughSingle
  | .double, j => j.asFloat?.map .float
  | .bool, .bool b => some (.bool b)
  | .text, .text s => some (.text s)
  | .uuid, .text s => (Uuid.read s).map .uuid
  | .dateTime, .text s => (Instant.read s).map .dateTime
  | .date, .text s => (Date.read s).map .date
  | _, _ => none

end ScalarType

/-! ## §2. Fields. -/

/-- What a field holds. The fields of a record type are triples: the name under which the field is
stored, the name of the member, and what the field holds. -/
inductive FieldType where
  | scalar (type : ScalarType) (isOptional : Bool)
  | nested (fields : List (String × String × FieldType)) (isOptional : Bool)
  | collection (fields : List (String × String × FieldType))
  | skipped

/-- The fields of a record type: stored name, member name and type. -/
abbrev Schema := List (String × String × FieldType)

instance : Inhabited FieldType := ⟨.skipped⟩

namespace FieldType

/-- How patterns are matched against a field of the type. -/
def kind : FieldType → FieldKind
  | .scalar t _ => t.kind
  | _ => .other

/-- The fields of the records that the field holds. -/
def fields : FieldType → Schema
  | .nested fields _ | .collection fields => fields
  | _ => []

end FieldType

/-- A path into a record type, and what is found there. -/
structure Field where
  path : String
  type : FieldType

/-- Goes on from a nested record to one of its fields. -/
def Field.next (f g : Field) : Field := ⟨f.path ++ "." ++ g.path, g.type⟩

/-- The field that is stored under a name. -/
def Schema.field? (s : Schema) (stored : String) : Option Field :=
  (s.lookup stored).map fun (member, type) => ⟨member, type⟩

/-! ## §3. Stored records. -/

mutual

/-- The member for a field, stored or not. A skipped field has none. -/
def FieldType.member? (stored : Option Json) : FieldType → Option (Option Member)
  | .scalar t isOptional =>
    match stored, isOptional with
    | none, false => some (some (.value t.zero))
    | none, true | some .null, true => some (some (.value .null))
    | some j, _ => (t.read? j).map fun v => some (.value v)
  | .nested fields isOptional =>
    match stored, isOptional with
    | none, false => (readFields? (.object []) fields).map fun r => some (.record r)
    | none, true | some .null, true => some (some (.value .null))
    | some j, _ => (readFields? j fields).map fun r => some (.record r)
  | .collection fields =>
    match stored with
    | none => some (some (.records []))
    | some (.array items) =>
      (items.mapM fun j => readFields? j fields).map fun rs => some (.records rs)
    | some _ => none
  | .skipped => some none

/-- The members for the fields of a stored record. -/
def readFields? (j : Json) : List (String × String × FieldType) → Option Record
  | [] => some []
  | (stored, name, type) :: fields =>
    match type.member? (j.member? stored), readFields? j fields with
    | some (some m), some members => some ((name, m) :: members)
    | some none, some members => some members
    | _, _ => none

end

/-- **A stored record as the record that it shows.** -/
def readRecord? (s : Schema) (j : Json) : Option Record :=
  match j with
  | .object _ => readFields? j s
  | _ => none

end RecordSearch
