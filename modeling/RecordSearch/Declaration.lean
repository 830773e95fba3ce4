/-
  RecordSearch.Declaration
  ────────────────────────
  **Declarations of searchable records.**

  A declared item is a struct with named fields, or something else that cannot be searched. Marks
  on a field (`skip`, `nested`, `collection`, `rename = "…"`) say how it is shown: left out, as
  a nested record, as a collection, or under another name. This module holds what a declaration
  consists of and what can be wrong with it.
-/
import RecordSearch.Code

namespace RecordSearch.Declaration

open Code

/-! ## §1. Items. -/

/-- The arguments of an attribute. -/
inductive Arguments where
  | none
  /-- An equals sign and a value. -/
  | assigned
  /-- Whatever stands between brackets. -/
  | list (code : List Token)

/-- An attribute of an item or field. -/
structure Attribute where
  path : List Token
  arguments : Arguments

/-- Does the token end the path of an attribute? -/
def endsPath (t : Token) : Bool := t.opens || t = .mark '='

/-- The attribute of a piece of code. -/
def Attribute.ofCode (code : List Token) : Attribute :=
  let path := code.takeWhile fun t => !endsPath t
  match code.drop path.length with
  | [] => ⟨path, .none⟩
  | t :: rest => if t.opens then ⟨path, .list rest.dropLast⟩ else ⟨path, .assigned⟩

/-- Is the attribute one that declares how a field is shown? -/
def Attribute.isOurs (a : Attribute) : Bool := a.path = [.name "sieve"]

/-- What is declared. -/
inductive ItemForm where
  | struct
  | tuple
  | unit
  | enum
  | union
  deriving DecidableEq

/-- A field as it is declared. -/
structure FieldSource where
  name : String
  type : List Token
  attributes : List Attribute := []

/-- An item as it is declared. -/
structure Item where
  form : ItemForm := .struct
  name : String
  /-- The parameters with their angle brackets, or nothing. -/
  generics : List Token := []
  /-- The where clause with its keyword, or nothing. -/
  whereClause : List Token := []
  attributes : List Attribute := []
  fields : List FieldSource := []

/-! ## §2. Faults. -/

/-- What can be wrong with a declaration. -/
inductive Fault where
  /-- The attribute stands on the item. -/
  | attributeOnItem
  /-- The item is no struct. -/
  | notStruct
  /-- The fields have no names. -/
  | unnamedFields
  /-- The attribute has no arguments. -/
  | noArguments
  /-- The attribute is assigned a value. -/
  | assigned
  /-- Another mark should stand here. -/
  | expectedMark (c : Char)
  /-- A text should stand here. -/
  | expectedText (atEnd : Bool)
  /-- A name should stand here, behind two colons. -/
  | expectedName (atEnd : Bool)
  /-- The arguments end where an entry should start. -/
  | missingEntry
  /-- An entry starts with a literal. -/
  | literalEntry
  /-- An entry starts with some other mark. -/
  | strayEntry
  | unknownEntry
  | emptyName
  /-- The field is both a nested record and a collection. -/
  | nestedCollection
  /-- The collection is no `Vec`. -/
  | notVec
  deriving DecidableEq

namespace Fault

/-- Says that something was expected, and whether it was missed at the end. -/
def expectation (atEnd : Bool) (what : String) : String :=
  (if atEnd then "unexpected end of input, " else "") ++ "expected " ++ what

def message : Fault → String
  | .attributeOnItem => "#[sieve(...)] is only supported on fields"
  | .notStruct => "Searchable can only be derived for structs"
  | .unnamedFields => "Searchable requires named fields"
  | .noArguments => "expected attribute arguments in parentheses: #[sieve(...)]"
  | .assigned => "expected parentheses: #[sieve(...)]"
  | .expectedMark c => "expected \x60" ++ c.toString ++ "\x60"
  | .expectedText atEnd => expectation atEnd "string literal"
  | .expectedName atEnd => expectation atEnd "ident"
  | .missingEntry => expectation true "nested attribute"
  | .literalEntry => "unexpected literal in nested attribute, expected ident"
  | .strayEntry => "unexpected token in nested attribute, expected ident"
  | .unknownEntry => "unknown sieve attribute; expected skip, nested, collection or rename"
  | .emptyName => "rename must not be empty"
  | .nestedCollection => "#[sieve(nested)] and #[sieve(collection)] are mutually exclusive"
  | .notVec => "#[sieve(collection)] requires a Vec<T> field"

end Fault

end RecordSearch.Declaration
