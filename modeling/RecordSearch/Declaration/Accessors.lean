/-
  RecordSearch.Declaration.Accessors
  ──────────────────────────────────
  **The code that makes a record searchable.**

  For each field that is shown there is a constant that carries its path, and an arm that finds
  the member of that name.

      constantName name   — `intProperty` becomes `INT_PROPERTY`
      ShownRecord.code    — the whole code
      expand item         — the code of an item, or the first fault of the declaration
-/
import RecordSearch.Declaration.Generics
import RecordSearch.Text.LetterCase

namespace RecordSearch.Declaration

open Code Text

/-! ## §1. Constants. -/

/-- Capitals, with an underscore before each capital that follows a small letter or a digit. -/
def capitalized : (afterSmall : Bool) → List Char → List Char
  | _, [] => []
  | afterSmall, c :: cs =>
    (if afterSmall && isUpper c then ['_'] else []) ++
      (capitals c ++ capitalized (isLower c || c.isDigit) cs)

/-- The name of the constant for a field. -/
def constantName (name : String) : String :=
  String.ofList (capitalized false (plainName name).toList)

/-- The type that the constant carries: that of the record behind a nested field. -/
def ShownField.accessorType (f : ShownField) : List Token :=
  match f.shape with
  | .nested target _ => target
  | .value | .collection _ => f.type

/-- Code between brackets. -/
def enclosed (opening closing : Char) (code : List Token) : List Token :=
  .mark opening :: (code ++ [.mark closing])

def parenthesized (code : List Token) : List Token := enclosed '(' ')' code

def braced (code : List Token) : List Token := enclosed '\x7b' '\x7d' code

/-- The constant for a field. -/
def ShownField.constant (f : ShownField) : List Token :=
  let summary := "Accessor for \x60" ++ f.path ++ "\x60."
  .mark '#' :: enclosed '[' ']' (template "doc =" ++ [textLiteral summary]) ++
    template "pub const" ++ [.name (constantName f.name)] ++ template ": ::sieve::Field<Self," ++
    f.accessorType ++ template "> = ::sieve::Field::new" ++ parenthesized [textLiteral f.path] ++
    [.mark ';']

/-! ## §2. Members. -/

/-- A value that is there. -/
def present (code : List Token) : List Token :=
  template "::core::option::Option::Some" ++ parenthesized code

/-- The member for a field. -/
def ShownField.member (f : ShownField) : List Token :=
  let self : List Token := template "self." ++ [.name f.name]
  match f.shape with
  | .value =>
    template "::sieve::Member::Value" ++
      parenthesized (template "::sieve::FieldValue::to_value" ++ parenthesized (.mark '&' :: self))
  | .nested _ false => template "::sieve::Member::Record" ++ parenthesized (.mark '&' :: self)
  | .nested _ true =>
    template "match &" ++ self ++ braced (present (template "inner") ++
      template "=> ::sieve::Member::Record(inner), ::core::option::Option::None =>" ++
      template "::sieve::Member::Value(::sieve::Value::Null),")
  | .collection _ =>
    template "::sieve::Member::Records" ++ parenthesized (self ++
      template ".iter().map(|item| item as &dyn ::sieve::Record).collect(),")

/-- The arm that finds the member for a field. -/
def ShownField.arm (f : ShownField) : List Token :=
  textLiteral f.path :: (template "=>" ++ present f.member ++ [.mark ','])

/-! ## §3. Records. -/

/-- **The code that makes a record searchable.** -/
def ShownRecord.code (r : ShownRecord) : List Token :=
  let ps := parameters r.generics
  let self : List Token := .name r.name :: used ps
  let start : List Token := template "impl" ++ introduced ps
  let find := template "match name" ++
    braced (r.fields.flatMap ShownField.arm ++ template "_ => ::core::option::Option::None,")
  start ++ self ++ declaredClause r.whereClause ++ braced (r.fields.flatMap ShownField.constant) ++
    start ++ template "::sieve::Record for" ++ self ++ recordClause r ++
    braced (template "fn member(&self, name: &str) ->" ++
      template "::core::option::Option<::sieve::Member<'_>>" ++ braced find) ++
    start ++ template "::sieve::Searchable for" ++ self ++ recordClause r ++ braced []

/-- **The code of an item**, or the first fault of its declaration. -/
def expand (item : Item) : Except Fault (List Token) := (readItem item).map ShownRecord.code

end RecordSearch.Declaration
