/-
  RecordSearch.Expr.Eval
  ──────────────────────
  **Evaluating expressions on records.**

  An expression yields a member: a value, a record or a collection. Null is lifted: a member of
  null is null, null equals only null, an ordering with null is false, and where a truth value is
  wanted null counts as false. Values of different kinds cannot be compared.

      equalValues, compareValues      — the comparisons on values
      Expr.eval parameters e record   — what the expression yields
      Expr.matches, Expr.value        — the same where a truth value, or a plain value, is wanted
      evaluate text parameters r      — reads predicate text and evaluates it
-/
import RecordSearch.Expr.Parser
import RecordSearch.Record

namespace RecordSearch

/-! ## §1. Comparing values. -/

/-- Lifted equality: null equals only null, lists are compared by sameness, and other values must
be comparable. -/
def equalValues (a b : Value) : Except SearchError Bool :=
  match a, b with
  | .null, .null => .ok true
  | .null, _ => .ok false
  | _, .null => .ok false
  | .list as, .list bs => .ok (Value.sameAll as bs)
  | a, b =>
    if a.comparable b then .ok (a.compare? b == some .eq)
    else .error (.evaluation (.incomparable a.kind b.kind))

/-- An ordering of two values: false with null and where no order is known. -/
def orderedValues (accepts : Ordering → Bool) (a b : Value) : Except SearchError Bool :=
  if a.isNull || b.isNull then .ok false
  else if a.comparable b then .ok ((a.compare? b).any accepts)
  else .error (.evaluation (.incomparable a.kind b.kind))

/-- A comparison of two values. -/
def compareValues (c : Comparison) (a b : Value) : Except SearchError Bool :=
  match c with
  | .equal => equalValues a b
  | .notEqual => (equalValues a b).map (!·)
  | c => orderedValues c.accepts a b

/-- A comparison of two members. A record that is there is not null; apart from that only values
can be compared. -/
def compareMembers (c : Comparison) : Member → Member → Except SearchError Bool
  | .value a, .value b => compareValues c a b
  | .record _, .value .null => .ok (c == .notEqual)
  | .value .null, .record _ => .ok (c == .notEqual)
  | a, b => .error (.evaluation (.incomparable a.kind b.kind))

/-- Does some element pass the test? They are tried in order up to the first that passes or
fails to be tested. -/
def someM {α : Type} (test : α → Except SearchError Bool) : List α → Except SearchError Bool
  | [] => .ok false
  | a :: as => do if ← test a then return true else someM test as

/-! ## §2. Reading members as values. -/

/-- The member of a record that an expression names. -/
def Record.resolve (r : Record) (n : String) (path : String) : Except SearchError Member :=
  match r.member? n with
  | some m => .ok m
  | none => .error (.resolution path)

namespace Member

/-- The truth value of what the expression with a path yielded; null is false. -/
def truth (m : Member) (path : String) : Except SearchError Bool :=
  match m with
  | .value (.bool b) => .ok b
  | .value .null => .ok false
  | m => .error (.evaluation (.notTruth path m.kind))

/-- The plain value that the expression with a path yielded. -/
def plain (m : Member) (path : String) : Except SearchError Value :=
  match m with
  | .value v => .ok v
  | m => .error (.evaluation (.notValue path m.kind))

/-- A member of what the expression with a path yielded; null has null for every member. -/
def access (m : Member) (n : String) (path : String) : Except SearchError Member :=
  match m with
  | .record r => Record.resolve r n path
  | .value .null => .ok (.value .null)
  | m => .error (.evaluation (.noMembers n m.kind))

/-- The contrary of what the expression with a path yielded; that of null is null. -/
def negate (m : Member) (path : String) : Except SearchError Member :=
  match m with
  | .value .null => .ok (.value .null)
  | m => (m.truth path).map fun b => .value (.bool !b)

/-- The elements of what the expression with a path yielded; null has none. -/
def elements (m : Member) (path : String) : Except SearchError (List Record) :=
  match m with
  | .records elements => .ok elements
  | .value .null => .ok []
  | m => .error (.evaluation (.notCollection path m.kind))

/-- The value on which a method is called. -/
def receiver (m : Member) (method : String) : Except SearchError Value :=
  match m with
  | .value v => .ok v
  | m => .error (.evaluation (.noMethods method m.kind))

end Member

/-! ## §3. Methods. -/

/-- Is the item among the items of a list? Null in place of a list holds nothing. -/
def isMember (item list : Value) : Except SearchError Bool :=
  match list with
  | .null => .ok false
  | .list items => someM (equalValues item) items
  | list => .error (.evaluation (.notList list.kind))

/-- The pattern that a method name stands for, in any ASCII case. -/
def Pattern.ofMethod? (method : String) : Option Pattern :=
  if sameWord method Pattern.startsWith.method then some .startsWith
  else if sameWord method Pattern.endsWith.method then some .endsWith
  else if sameWord method Pattern.contains.method then some .contains
  else none

/-- A method with one argument: a pattern on text, or `Contains` on a list. -/
def callWith (method : String) (receiver argument : Value) : Except SearchError Bool :=
  match receiver, argument with
  | .list items, argument =>
    if sameWord method Pattern.contains.method then
      someM (fun item => equalValues item argument) items
    else .error (.evaluation (.undefinedMethod method .list argument.kind))
  | .text text, .text pattern =>
    match Pattern.ofMethod? method with
    | some p => .ok (p.accepts text.toList pattern.toList)
    | none => .error (.evaluation (.unknownMethod method))
  | receiver, argument =>
    .error (.evaluation (.undefinedMethod method receiver.kind argument.kind))

/-- An argument of a call: its path, and what it yields on a record. -/
structure Argument where
  path : String
  eval : Record → Except SearchError Member

namespace Member

/-- `Any` on a member: is there an element, or one that passes the test? -/
def callAny (m : Member) (path method : String) (arguments : List Argument) :
    Except SearchError Bool := do
  let elements ← m.elements path
  match m, arguments with
  | .value .null, _ => return false
  | _, [] => return !elements.isEmpty
  | _, [test] => someM (fun element => do (← test.eval element).truth test.path) elements
  | _, arguments => .error (.evaluation (.arity method 1 arguments.length))

/-- Any other method on a member. -/
def callMethod (m : Member) (path method : String) (arguments : List Argument) (r : Record) :
    Except SearchError Value := do
  let receiver ← m.receiver method
  if sameWord method "ToString" then
    if arguments.isEmpty then return .text receiver.display
    else .error (.evaluation (.arity method 0 arguments.length))
  else
    match arguments with
    | [argument] =>
      let argument ← (← argument.eval r).plain argument.path
      if receiver.isNull then .error (.evaluation (.nullReceiver method path))
      else return .bool (← callWith method receiver argument)
    | arguments => .error (.evaluation (.arity method 1 arguments.length))

end Member

/-! ## §4. Expressions. -/

mutual

/-- **What an expression yields on a record.** `And` and `Or` leave out their right side when the
left decides; the predicate of `Any` is evaluated on the elements in turn. -/
def Expr.eval (parameters : List Value) : Expr → Record → Except SearchError Member
  | .literal v, _ => .ok (.value v)
  | .parameter index, _ =>
    match parameters[index]? with
    | some v => .ok (.value v)
    | none => .error (.evaluation (.unboundParameter index))
  | .name n, r => r.resolve n n
  | .member target n, r => do
    (← target.eval parameters r).access n (Expr.member target n).path
  | .not inner, r => do
    (← inner.eval parameters r).negate inner.path
  | .and left right, r => do
    if ← (← left.eval parameters r).truth left.path then
      return .value (.bool (← (← right.eval parameters r).truth right.path))
    else return .value (.bool false)
  | .or left right, r => do
    if ← (← left.eval parameters r).truth left.path then return .value (.bool true)
    else return .value (.bool (← (← right.eval parameters r).truth right.path))
  | .compare c left right, r => do
    let a ← left.eval parameters r
    let b ← right.eval parameters r
    return .value (.bool (← compareMembers c a b))
  | .isIn item list, r => do
    let item ← (← item.eval parameters r).plain item.path
    let list ← (← list.eval parameters r).plain list.path
    return .value (.bool (← isMember item list))
  | .coalesce left right, r => do
    match ← left.eval parameters r with
    | .value .null => right.eval parameters r
    | m => return m
  | .call target method arguments, r => do
    let m ← target.eval parameters r
    let arguments := argumentsOfAll parameters arguments
    if sameWord method "Any" then
      return .value (.bool (← m.callAny target.path method arguments))
    else return .value (← m.callMethod target.path method arguments r)
termination_by structural e => e

/-- Expressions as arguments, none of them evaluated yet. -/
def argumentsOfAll (parameters : List Value) : List Expr → List Argument
  | [] => []
  | e :: es => ⟨e.path, e.eval parameters⟩ :: argumentsOfAll parameters es
termination_by structural es => es

end

namespace Expr

/-- Does the record match the expression? -/
def holds (parameters : List Value) (e : Expr) (r : Record) : Except SearchError Bool := do
  (← e.eval parameters r).truth e.path

/-- The plain value of the expression on the record. -/
def value (parameters : List Value) (e : Expr) (r : Record) : Except SearchError Value := do
  (← e.eval parameters r).plain e.path

end Expr

/-- **Does the record match predicate text?** -/
def evaluate (text : String) (parameters : List Value) (r : Record) : Except SearchError Bool :=
  match parsePredicate text with
  | .ok e => e.holds parameters r
  | .error error => .error (.unreadable error)

end RecordSearch
