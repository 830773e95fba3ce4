/-
  RecordSearch.Dialect
  ────────────────────
  **How paths are written in predicates.**

  A path is a list of names with dots between. A name that the predicate language, or the
  configuration, reserves is written behind the escape mark, in which place it is never a keyword.
  Parameters are the escape mark and a number, so the two cannot be confused.

      Dialect.renderPath context path   — the written path, or why there is none
-/
import RecordSearch.Error
import RecordSearch.Expr.Name

namespace RecordSearch

/-- The words that are reserved in every dialect. -/
def builtinReserved : List String :=
  ["and", "or", "not", "in", "null", "true", "false", "it", "parent", "root", "any", "datetime",
    "guid"]

/-- The reserved words of a target language, in small letters. -/
structure Dialect where
  reserved : List String

namespace Dialect

/-- The built-in words and some more, which may be given in any ASCII case. -/
def ofWords (words : List String) : Dialect := ⟨builtinReserved ++ words.map lowered⟩

instance : Inhabited Dialect := ⟨ofWords []⟩

/-- Is the name reserved, in any ASCII case? -/
def isReserved (d : Dialect) (name : String) : Bool := d.reserved.contains (lowered name)

/-- A name as it is written: behind the escape mark if it is reserved. -/
def escape (d : Dialect) (name : String) : String :=
  if d.isReserved name then String.ofList [escapeMark] ++ name else name

/-- A parameter as it is written. -/
def placeholder (index : Nat) : String := String.ofList (escapeMark :: Nat.toDigits 10 index)

/-- The segments of a path. -/
def segments (path : String) : List (List Char) := path.toList.splitOn '.'

/-- A segment as it is written, if it is a name. -/
def renderSegment (d : Dialect) (context : PathContext) (path : String) (segment : List Char) :
    Except SearchError String :=
  if isName segment then .ok (d.escape (String.ofList segment))
  else .error (.missingIdentifier context (.notName (String.ofList segment) path))

/-- **A path as it is written.** The first segment that is no name is reported; a path of blanks
is reported as empty. -/
def renderPath (d : Dialect) (context : PathContext) (path : String) :
    Except SearchError String :=
  if path.toList.all Text.isBlank then .error (.missingIdentifier context .empty)
  else do
    let written ← (segments path).mapM (d.renderSegment context path)
    return ".".intercalate written

end Dialect

end RecordSearch
