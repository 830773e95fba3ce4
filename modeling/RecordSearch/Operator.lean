/-
  RecordSearch.Operator
  ─────────────────────
  **The operators of criteria and predicates.**

  Six comparisons and three text patterns are shared by criteria and by the predicate language.
  A criterion's `Operator` is one of the comparisons, a check for null, a pattern or its negation,
  or membership in a list; `Operator.test` tells which.
-/

namespace RecordSearch

/-! ## §1. Comparisons and patterns. -/

/-- A comparison of two values. -/
inductive Comparison where
  | equal
  | notEqual
  | greater
  | greaterOrEqual
  | less
  | lessOrEqual
  deriving DecidableEq, Repr

namespace Comparison

/-- The symbol that predicates are written with. -/
def symbol : Comparison → String
  | .equal => "=="
  | .notEqual => "!="
  | .greater => ">"
  | .greaterOrEqual => ">="
  | .less => "<"
  | .lessOrEqual => "<="

/-- Does the comparison hold of values that stand in this order? -/
def accepts : Comparison → Ordering → Bool
  | .equal, o => o == .eq
  | .notEqual, o => o != .eq
  | .greater, o => o == .gt
  | .greaterOrEqual, o => o != .lt
  | .less, o => o == .lt
  | .lessOrEqual, o => o != .gt

end Comparison

/-- A way in which a text can match a pattern. -/
inductive Pattern where
  | startsWith
  | endsWith
  | contains
  deriving DecidableEq, Repr

namespace Pattern

/-- The name of the method that predicates call. -/
def method : Pattern → String
  | .startsWith => "StartsWith"
  | .endsWith => "EndsWith"
  | .contains => "Contains"

/-- Does the pattern stand somewhere in the text, as a run of neighbouring characters? -/
def occurs (pattern : List Char) : List Char → Bool
  | [] => pattern.isEmpty
  | c :: cs => pattern.isPrefixOf (c :: cs) || occurs pattern cs

/-- Does the text match the pattern in this way? -/
def accepts : Pattern → (text pattern : List Char) → Bool
  | .startsWith, text, pattern => pattern.isPrefixOf text
  | .endsWith, text, pattern => pattern.isSuffixOf text
  | .contains, text, pattern => occurs pattern text

end Pattern

/-! ## §2. Operators of criteria. -/

/-- What a criterion asks of a field. -/
inductive Operator where
  | equals
  | notEquals
  | greaterThan
  | greaterThanOrEqualTo
  | lessThan
  | lessThanOrEqualTo
  | isNull
  | isNotNull
  | startsWith
  | endsWith
  | contains
  | doesNotStartWith
  | doesNotEndWith
  | doesNotContain
  /-- The field is one of the items of a list. -/
  | isIn
  | isNotIn
  deriving DecidableEq, Repr

/-- What an operator tests, with its negation set apart. -/
inductive Test where
  | isNull (negated : Bool)
  | comparison (c : Comparison)
  | pattern (p : Pattern) (negated : Bool)
  | membership (negated : Bool)
  deriving DecidableEq, Repr

namespace Operator

/-- What the operator tests. -/
def test : Operator → Test
  | .equals => .comparison .equal
  | .notEquals => .comparison .notEqual
  | .greaterThan => .comparison .greater
  | .greaterThanOrEqualTo => .comparison .greaterOrEqual
  | .lessThan => .comparison .less
  | .lessThanOrEqualTo => .comparison .lessOrEqual
  | .isNull => .isNull false
  | .isNotNull => .isNull true
  | .startsWith => .pattern .startsWith false
  | .endsWith => .pattern .endsWith false
  | .contains => .pattern .contains false
  | .doesNotStartWith => .pattern .startsWith true
  | .doesNotEndWith => .pattern .endsWith true
  | .doesNotContain => .pattern .contains true
  | .isIn => .membership false
  | .isNotIn => .membership true

/-- The comparison that the operator is, if it is one. -/
def comparison? (o : Operator) : Option Comparison :=
  match o.test with
  | .comparison c => some c
  | _ => none

/-- The pattern that the operator asks for, and whether it asks for the contrary. -/
def pattern? (o : Operator) : Option (Pattern × Bool) :=
  match o.test with
  | .pattern p negated => some (p, negated)
  | _ => none

end Operator

/-- What a range criterion asks of a field. Both bounds belong to the range. -/
inductive RangeOperator where
  | between
  | notBetween
  deriving DecidableEq, Repr

/-- How a container is joined to the one before it. -/
inductive Connective where
  | and
  | or
  deriving DecidableEq, Repr

instance : Inhabited Connective := ⟨.and⟩

/-- The word for a connective in predicates. -/
def Connective.word : Connective → String
  | .and => "And"
  | .or => "Or"

/-- The direction of a sort key. -/
inductive Direction where
  | ascending
  | descending
  deriving DecidableEq, Repr

instance : Inhabited Direction := ⟨.ascending⟩

/-- The word for a direction in ordering clauses. -/
def Direction.word : Direction → String
  | .ascending => "ASC"
  | .descending => "DESC"

end RecordSearch
