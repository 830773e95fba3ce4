/-
  RecordSearch.Error
  ──────────────────
  **What can go wrong, and what is said about it.**

  A `SearchError` names a cause. Criteria can be malformed (`missingIdentifier`,
  `unsupportedCondition`), predicate text can be unreadable (`unreadable`), a record can lack a
  member or yield values that do not fit (`resolution`, `evaluation`), the configuration can be
  unreadable (`config`, `io`), and a data source can fail (`source`). A sort that gives up
  (`disordered`) ends the program; it stands among the causes so that a source can end with it. The
  wording is in the `message` functions alone.
-/
import RecordSearch.Value

namespace RecordSearch

/-! ## §1. Malformed criteria. -/

/-- Where a path stands. -/
inductive PathContext where
  | filter
  | sort
  deriving DecidableEq, Repr

def PathContext.text : PathContext → String
  | .filter => "filter criterion"
  | .sort => "sort criterion"

/-- Why a path is unusable. -/
inductive PathFault where
  | empty
  /-- A segment of the path is no name. -/
  | notName (segment path : String)
  deriving DecidableEq, Repr

def PathFault.message : PathFault → String
  | .empty => "field path is empty"
  | .notName segment path => "'" ++ segment ++ "' in path '" ++ path ++ "' is not an identifier"

/-! ## §2. Unreadable text. -/

/-- What was expected where reading stopped. -/
inductive Expectation where
  | closingParenthesis
  | memberName
  | closingQuote
  deriving DecidableEq, Repr

def Expectation.text : Expectation → String
  | .closingParenthesis => "\x60)\x60"
  | .memberName => "member name"
  | .closingQuote => "closing quote"

/-- Where reading stopped and why. -/
structure SyntaxError where
  /-- The place, in bytes of the encoded text. -/
  position : Nat
  /-- Reading stopped inside an operand: where one should start, or within parentheses or quotes
  that form one. -/
  inOperand : Bool
  expected : Option Expectation
  deriving DecidableEq, Repr

def SyntaxError.message (e : SyntaxError) : String :=
  match e.inOperand, e.expected with
  | true, some x => "invalid expression; expected " ++ x.text
  | true, none => "invalid expression"
  | false, some x => "expected " ++ x.text
  | false, none => "unexpected input"

/-! ## §3. Failing evaluation. -/

/-- Why an expression has no value on a record. -/
inductive EvaluationFault where
  /-- The value of `path` was to be a truth value. -/
  | notTruth (path : String) (found : Kind)
  /-- The value of `path` was to be a plain value. -/
  | notValue (path : String) (found : Kind)
  | unboundParameter (index : Nat)
  /-- A member was asked of something without members. -/
  | noMembers (name : String) (found : Kind)
  /-- Membership was asked in something that is no list. -/
  | notList (found : Kind)
  /-- Elements were asked of something that is no collection. -/
  | notCollection (path : String) (found : Kind)
  /-- A method was called with a wrong number of arguments. -/
  | arity (name : String) (expected found : Nat)
  /-- A method was called on something that is no plain value. -/
  | noMethods (name : String) (found : Kind)
  | nullReceiver (name path : String)
  | unknownMethod (name : String)
  /-- A method is not defined for such a receiver and argument. -/
  | undefinedMethod (name : String) (receiver argument : Kind)
  | incomparable (left right : Kind)
  deriving DecidableEq, Repr

def EvaluationFault.message : EvaluationFault → String
  | .notTruth path found => "'" ++ path ++ "' produced a " ++ found.name ++ ", expected bool"
  | .notValue path found => "'" ++ path ++ "' is a " ++ found.name ++ ", expected a value"
  | .unboundParameter index => "parameter @" ++ toString index ++ " is not bound"
  | .noMembers name found => "cannot read member '" ++ name ++ "' of a " ++ found.name
  | .notList found => "'In' expects a list, got " ++ found.name
  | .notCollection path found =>
      "'Any' requires a collection, '" ++ path ++ "' is a " ++ found.name
  | .arity name expected found =>
      "'" ++ name ++ "' takes " ++ toString expected ++ " argument(s), got " ++ toString found
  | .noMethods name found => "cannot call '" ++ name ++ "' on a " ++ found.name
  | .nullReceiver name path => "'" ++ name ++ "' called on null '" ++ path ++ "'"
  | .unknownMethod name => "unknown method '" ++ name ++ "'"
  | .undefinedMethod name receiver argument =>
      "'" ++ name ++ "' is not defined for " ++ receiver.name ++ " and " ++ argument.name
  | .incomparable left right => "cannot compare " ++ left.name ++ " with " ++ right.name

/-! ## §4. All errors. -/

/-- An error of compiling, evaluating, searching or configuring. -/
inductive SearchError where
  /-- A criterion or sort key has no usable path. -/
  | missingIdentifier (context : PathContext) (fault : PathFault)
  /-- A container has not exactly one populated slot, or an empty group. -/
  | unsupportedCondition (populated : Nat)
  /-- Predicate or ordering text is unreadable. -/
  | unreadable (error : SyntaxError)
  /-- A path does not exist on the record. -/
  | resolution (path : String)
  | evaluation (fault : EvaluationFault)
  /-- The configuration text is unreadable. -/
  | config
  /-- The configuration file cannot be opened. -/
  | io
  /-- The data source failed. -/
  | source (text : String)
  /-- Sorting met elements that are in no order, and gave up. This is no answer: it ends the
  program. -/
  | disordered
  deriving DecidableEq, Repr

namespace SearchError

/-- Is the error caused by malformed criteria? -/
def isConfiguration : SearchError → Bool
  | .missingIdentifier .. | .unsupportedCondition _ => true
  | _ => false

def message : SearchError → String
  | .missingIdentifier context fault =>
      "missing identifier in " ++ context.text ++ ": " ++ fault.message
  | .unsupportedCondition populated =>
      "unsupported condition shape: container has " ++ toString populated ++
        " populated payload slots, expected exactly 1"
  | .unreadable error =>
      "parse error at position " ++ toString error.position ++ ": " ++ error.message
  | .resolution path => "unknown member '" ++ path ++ "'"
  | .evaluation fault => "evaluation error: " ++ fault.message
  | .config => "configuration error"
  | .io => "io error"
  | .source text => text
  | .disordered => "user-provided comparison function does not correctly implement a total order"

end SearchError

end RecordSearch
