/-
  RecordSearch.Diagnostic
  ───────────────────────
  **Criteria as they are shown to developers.**

  Every structure is shown by its name and all of its fields, every value by its constructor, and
  every text in quotes.

      x.diagnostic   — the text of x, for each of the types
-/
import RecordSearch.Json.Criteria
import RecordSearch.Search
import RecordSearch.Text.Quoted

namespace RecordSearch

namespace Diagnostic

/-! ## §1. Shapes. -/

/-- A constructor with one argument. -/
def wrapped (name inner : String) : String := name ++ "(" ++ inner ++ ")"

/-- Items between brackets. -/
def bracketed (items : List String) : String := "[" ++ ", ".intercalate items ++ "]"

/-- A structure with its fields. -/
def fielded (name : String) (fields : List (String × String)) : String :=
  name ++ " \x7b " ++ ", ".intercalate (fields.map fun (n, text) => n ++ ": " ++ text) ++ " \x7d"

/-- Something that may be absent. -/
def optional {α : Type} (text : α → String) : Option α → String
  | none => "None"
  | some a => wrapped "Some" (text a)

/-- A list of texts. -/
def texts (items : List String) : String := bracketed (items.map Text.quoted)

end Diagnostic

open Diagnostic

/-! ## §2. Values. -/

namespace Value

mutual

/-- A value as it is shown to developers. -/
def diagnostic : Value → String
  | .null => "Null"
  | .bool b => wrapped "Bool" (if b then "true" else "false")
  | .int n => wrapped "Int" (toString n.toInt)
  | .uint n => wrapped "UInt" (toString n.toNat)
  | .float x => wrapped "Float" (NumberStyle.diagnostic.write x)
  | .text s => wrapped "Text" (Text.quoted s)
  | .uuid u => wrapped "Uuid" u.text
  | .dateTime t => wrapped "DateTime" t.interchangeText
  | .date d => wrapped "Date" d.text
  | .list items => wrapped "List" (bracketed (diagnosticAll items))

/-- The items of a list as they are shown to developers. -/
def diagnosticAll : List Value → List String
  | [] => []
  | v :: vs => v.diagnostic :: diagnosticAll vs

end

end Value

/-! ## §3. Criteria. -/

/-- The name of a connective. -/
def Connective.diagnostic (c : Connective) : String := c.word

/-- The name of a field kind. -/
def FieldKind.diagnostic : FieldKind → String
  | .text => "Text"
  | .other => "Other"

/-- A single criterion as it is shown to developers. -/
def SingleCriterion.diagnostic (c : SingleCriterion) : String :=
  fielded "SingleCriterion" [("field", Text.quoted c.field), ("operator", c.operator.name),
    ("value", c.value.diagnostic), ("collection", texts c.collection), ("kind", c.kind.diagnostic)]

/-- A range criterion as it is shown to developers. -/
def RangeCriterion.diagnostic (c : RangeCriterion) : String :=
  fielded "RangeCriterion" [("field", Text.quoted c.field), ("operator", c.operator.name),
    ("start", c.start.diagnostic), ("end", c.stop.diagnostic), ("collection", texts c.collection)]

namespace Container

mutual

/-- A container as it is shown to developers. -/
def diagnostic : Container → String
  | ⟨logic, single, range, group⟩ =>
    fielded "CriteriaContainer" [("logic", logic.diagnostic),
      ("single", optional SingleCriterion.diagnostic single),
      ("range", optional RangeCriterion.diagnostic range), ("group", diagnosticGroup group)]

/-- A group as it is shown to developers. -/
def diagnosticGroup : Option (List Container) → String
  | none => "None"
  | some containers => wrapped "Some" (bracketed (diagnosticAll containers))

/-- Containers as they are shown to developers. -/
def diagnosticAll : List Container → List String
  | [] => []
  | c :: cs => c.diagnostic :: diagnosticAll cs

end

end Container

/-- A filter as it is shown to developers. -/
def FilterCriteria.diagnostic (f : FilterCriteria) : String :=
  fielded "FilterCriteria" [("containers", bracketed (Container.diagnosticAll f.containers))]

/-- A sort key as it is shown to developers. -/
def SortCriterion.diagnostic (c : SortCriterion) : String :=
  fielded "SortCriterion" [("field", Text.quoted c.field), ("direction", c.direction.name)]

/-- A sort as it is shown to developers. -/
def SortCriteria.diagnostic (s : SortCriteria) : String :=
  fielded "SortCriteria" [("items", bracketed (s.items.map SortCriterion.diagnostic))]

/-- A definition as it is shown to developers. -/
def SearchDefinition.diagnostic (d : SearchDefinition) : String :=
  let number (n : Int64) : String := toString n.toInt
  fielded "SearchDefinition" [("page", optional number d.page),
    ("page_size", optional number d.pageSize), ("sort", optional SortCriteria.diagnostic d.sort),
    ("filter", optional FilterCriteria.diagnostic d.filter),
    ("pre_filter", optional FilterCriteria.diagnostic d.preFilter)]

end RecordSearch
