/-
  RecordSearch.Expr
  ─────────────────
  **Expressions of the predicate language.**

  The tree that predicate text stands for. From loosest to tightest: `Or`, `And`, `Not`,
  comparison and `In`, `??`, member access and method calls, and the operands themselves.
-/
import RecordSearch.Operator
import RecordSearch.Value

namespace RecordSearch

/-- An expression. -/
inductive Expr where
  /-- A value written in the text. -/
  | literal (v : Value)
  /-- A placeholder, by number. -/
  | parameter (index : Nat)
  /-- A member of the record at hand. -/
  | name (n : String)
  /-- A member of what the target yields. -/
  | member (target : Expr) (n : String)
  /-- A method call. -/
  | call (target : Expr) (method : String) (arguments : List Expr)
  | not (inner : Expr)
  | and (left right : Expr)
  | or (left right : Expr)
  | compare (comparison : Comparison) (left right : Expr)
  /-- Membership of an item in a list. -/
  | isIn (item list : Expr)
  /-- The left value, or the right one where the left is null. -/
  | coalesce (left right : Expr)

instance : Inhabited Expr := ⟨.literal .null⟩

/-- How messages name an expression: the dotted path of a member chain, or a stand-in. -/
def Expr.path : Expr → String
  | .name n => n
  | .member target n => target.path ++ "." ++ n
  | .call target method _ => target.path ++ "." ++ method ++ "()"
  | .parameter index => "@" ++ toString index
  | _ => "<expression>"

/-- One key of an ordering clause. -/
structure OrderingKey where
  expr : Expr
  direction : Direction

end RecordSearch
