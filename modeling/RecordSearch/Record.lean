/-
  RecordSearch.Record
  ───────────────────
  **Records.**

  A record is a finite table of named members. A member is a value, a nested record, or a
  collection of records. Of two members with one name the first counts.
-/
import RecordSearch.Value

namespace RecordSearch

/-- What a record holds under a name. -/
inductive Member where
  | value (v : Value)
  | record (members : List (String × Member))
  | records (elements : List (List (String × Member)))

/-- A record: its members by name. -/
abbrev Record := List (String × Member)

instance : Inhabited Member := ⟨.value .null⟩

/-- The member with a name, if the record has one. -/
def Record.member? (r : Record) (name : String) : Option Member := r.lookup name

/-- The kind that messages name: that of the value, or that it is no plain value. -/
def Member.kind : Member → Kind
  | .value v => v.kind
  | .record _ => .record
  | .records _ => .collection

/-- Things that can be searched as records. -/
class Searchable (α : Type) where
  /-- The record that a thing shows to criteria and sort keys. -/
  record : α → Record

instance : Searchable Record := ⟨id⟩

end RecordSearch
