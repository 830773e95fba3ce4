/-
  RecordSearch.Proofs.Criteria.Meaning
  ────────────────────────────────────
  **What criteria mean.**

  The meaning of a filter on a record, said without text, expressions or placeholders:

      Record.follow              — what is found at the end of a path; null ends it early
      Member.isEqual, isOrdered  — the comparisons of what is found with an operand
      Pattern.Matches            — a prefix, a suffix or an infix of a text
      SingleCriterion.meaning    — the sixteen operators
      insideAll                  — some element of the first collection has some element of the next
                                   one, and so on
      FilterCriteria.meaning     — some run of the containers holds altogether

  Every question is answered with a truth value or an error.  Where several are asked in turn, the
  first answer that decides, or fails, is the last one that is asked for (`List.anyM`,
  `List.allM`).  That the compiled text answers the same is in `Proofs.Criteria.Evaluated`.
-/
import RecordSearch.Criteria
import RecordSearch.Record
import RecordSearch.Error
import RecordSearch.Proofs.Criteria.Tree
import Mathlib.Data.List.Infix

namespace RecordSearch

/-! ## §1. Paths. -/

/-- What is found behind a member.  `path` leads to the member and is named when the next step
leads nowhere; of null, every member is null. -/
def Member.follow (path : String) : Member → List String → Except SearchError Member
  | m, [] => .ok m
  | .value .null, _ :: _ => .ok (.value .null)
  | .record r, n :: ns =>
    match Record.member? r n with
    | some m => m.follow (path ++ "." ++ n) ns
    | none => .error (.resolution (path ++ "." ++ n))
  | m, n :: _ => .error (.evaluation (.noMembers n m.kind))

/-- **What a record has at the end of a path.** -/
def Record.follow (r : Record) (path : String) : Except SearchError Member :=
  match pathNames path with
  | [] => .ok (.value .null)
  | n :: ns =>
    match r.member? n with
    | some m => m.follow n ns
    | none => .error (.resolution n)

/-! ## §2. Comparisons. -/

/-- The order of two values, neither of them null; absent where a number is none. -/
def Value.ordering (a b : Value) : Except SearchError (Option Ordering) :=
  if a.kind = b.kind ∧ a.kind ≠ .list then .ok (a.compare? b)
  else .error (.evaluation (.incomparable a.kind b.kind))

/-- Are the values equal?  Null equals null and nothing else. -/
def Value.isEqual : Value → Value → Except SearchError Bool
  | .null, b => .ok b.isNull
  | _, .null => .ok false
  | .list as, .list bs => .ok (Value.sameAll as bs)
  | a, b => do return (← a.ordering b) = some .eq

/-- Do the values stand in one of the orders?  Null stands in none, not even with itself. -/
def Value.isOrdered (orders : List Ordering) (a b : Value) : Except SearchError Bool :=
  if a.isNull ∨ b.isNull then .ok false
  else do return (← a.ordering b).any orders.contains

namespace Member

/-- Compares what was found with an operand.  A record that is there differs from null; apart from
that, records and collections compare with nothing. -/
def compareWith (test : Value → Value → Except SearchError Bool) : Member → Value →
    Except SearchError Bool
  | .value a, b => test a b
  | .record _, .null => .ok false
  | m, b => .error (.evaluation (.incomparable m.kind b.kind))

def isEqual : Member → Value → Except SearchError Bool := compareWith Value.isEqual

def isOrdered (orders : List Ordering) : Member → Value → Except SearchError Bool :=
  compareWith (Value.isOrdered orders)

end Member

/-! ## §3. Clauses. -/

namespace Pattern

/-- Where in a text it must stand. -/
def Matches : Pattern → (text pattern : List Char) → Prop
  | .startsWith, text, pattern => pattern <+: text
  | .endsWith, text, pattern => pattern <:+ text
  | .contains, text, pattern => pattern <:+: text

instance : (p : Pattern) → (text pattern : List Char) → Decidable (p.Matches text pattern)
  | .startsWith, text, pattern => inferInstanceAs (Decidable (pattern <+: text))
  | .endsWith, text, pattern => inferInstanceAs (Decidable (pattern <:+ text))
  | .contains, text, pattern => inferInstanceAs (Decidable (pattern <:+: text))

/-- Does the value match the pattern?  A list is asked for an item instead. -/
def matchesValue (p : Pattern) (v operand : Value) : Except SearchError Bool :=
  match v, operand, p with
  | .text s, .text pattern, p => .ok (p.Matches s.toList pattern.toList)
  | .list items, operand, .contains => items.anyM (·.isEqual operand)
  | v, operand, p => .error (.evaluation (.undefinedMethod p.method v.kind operand.kind))

end Pattern

namespace SingleCriterion

/-- Does what was found match the pattern?  Null counts as empty; a field that is not text is
matched by its text. -/
def matchesPattern (c : SingleCriterion) (p : Pattern) (m : Member) : Except SearchError Bool :=
  match c.kind, m with
  | .text, .value .null => p.matchesValue (.text "") c.value
  | .text, .value v => p.matchesValue v c.value
  | .text, m => .error (.evaluation (.noMethods p.method m.kind))
  | .other, .value v => p.matchesValue (.text v.display) c.value
  | .other, m => .error (.evaluation (.noMethods "ToString" m.kind))

/-- The items that membership asks for: those of a list, or the one value. -/
def items (c : SingleCriterion) : List Value :=
  match c.value with
  | .list items => items
  | v => [v]

/-- Is what was found one of the items? -/
def isAmongItems (c : SingleCriterion) : Member → Except SearchError Bool
  | .value v => c.items.anyM v.isEqual
  | m => .error (.evaluation (.notValue c.field m.kind))

/-- **What the operator asks** of what the field holds. -/
def asks (c : SingleCriterion) (m : Member) : Except SearchError Bool :=
  match c.operator with
  | .equals => m.isEqual c.value
  | .notEquals => (m.isEqual c.value).map (!·)
  | .greaterThan => m.isOrdered [.gt] c.value
  | .greaterThanOrEqualTo => m.isOrdered [.gt, .eq] c.value
  | .lessThan => m.isOrdered [.lt] c.value
  | .lessThanOrEqualTo => m.isOrdered [.lt, .eq] c.value
  | .isNull => m.isEqual .null
  | .isNotNull => (m.isEqual .null).map (!·)
  | .startsWith => c.matchesPattern .startsWith m
  | .endsWith => c.matchesPattern .endsWith m
  | .contains => c.matchesPattern .contains m
  | .doesNotStartWith => (c.matchesPattern .startsWith m).map (!·)
  | .doesNotEndWith => (c.matchesPattern .endsWith m).map (!·)
  | .doesNotContain => (c.matchesPattern .contains m).map (!·)
  | .isIn => c.isAmongItems m
  | .isNotIn => (c.isAmongItems m).map (!·)

end SingleCriterion

/-- What the operator asks of what the field holds: both bounds, the lower one first. -/
def RangeCriterion.asks (c : RangeCriterion) (m : Member) : Except SearchError Bool :=
  match c.operator with
  | .between => do
    if ← m.isOrdered [.gt, .eq] c.start then m.isOrdered [.lt, .eq] c.stop else return false
  | .notBetween => do
    if ← m.isOrdered [.lt] c.start then return true else m.isOrdered [.gt] c.stop

/-! ## §4. Collections. -/

/-- **Some element of the first collection has some element of the next one**, and so on, that
passes the test.  Null in place of a collection has no elements. -/
def insideAll (test : Record → Except SearchError Bool) : List String → Record →
    Except SearchError Bool
  | [], r => test r
  | path :: paths, r => do
    match ← r.follow path with
    | .records elements => elements.anyM (insideAll test paths)
    | .value .null => return false
    | m => .error (.evaluation (.notCollection path m.kind))

/-! ## §5. Filters. -/

/-- **Some run holds altogether.**  The runs are tried in order, and so is what is in them. -/
def someRun (outcomes : List (Connective × Except SearchError Bool)) : Except SearchError Bool :=
  (runs outcomes).anyM fun run => run.allM id

mutual

/-- The meaning of a container.  One that is malformed holds of nothing. -/
def Container.meaning (r : Record) : Container → Except SearchError Bool
  | ⟨_, some c, none, none⟩ => insideAll (fun r => r.follow c.field >>= c.asks) c.collection r
  | ⟨_, none, some c, none⟩ => insideAll (fun r => r.follow c.field >>= c.asks) c.collection r
  | ⟨_, none, none, some containers⟩ => someRun (meaningsOfAll r containers)
  | _ => .ok false

/-- The meanings of containers, each with its connective. -/
def meaningsOfAll (r : Record) : List Container → List (Connective × Except SearchError Bool)
  | [] => []
  | c :: cs => (c.logic, c.meaning r) :: meaningsOfAll r cs

end

theorem meaningsOfAll_eq_map (r : Record) (cs : List Container) :
    meaningsOfAll r cs = cs.map fun c => (c.logic, c.meaning r) := by
  induction cs with
  | nil => rfl
  | cons c cs ih => rw [meaningsOfAll, ih, List.map_cons]

/-- **What a filter means on a record.** -/
def FilterCriteria.meaning (f : FilterCriteria) (r : Record) : Except SearchError Bool :=
  someRun (meaningsOfAll r f.containers)

end RecordSearch
