/-
  RecordSearch.Rows
  ─────────────────
  **Rows in memory.**

  Predicate text and ordering clauses applied to a list of rows. A step that fails leaves nothing
  behind; the rows before it are still there.

      filterRows p rows       — the rows that match, in their order; the first failing row is
                                reported
      orderRows clause rows   — a stable sort; keys are evaluated once per row, row by row, before
                                any comparison; keys that put the rows in no order may end it
      skipRows, takeRows      — a window; a negative count is zero

  Sorted ascending, a key puts numbers before no-number and no-number before null; values of
  different kinds tie. Descending is the reverse, key by key.
-/
import RecordSearch.Expr.Eval
import RecordSearch.Predicate
import RecordSearch.Sorting

namespace RecordSearch

/-! ## §1. Comparing keys. -/

/-- The order of two key values, ascending: null after every value, no-number after every number,
and a tie where no order is known. -/
def ascendingOrder (a b : Value) : Ordering :=
  match a.isNull, b.isNull with
  | true, true => .eq
  | true, false => .gt
  | false, true => .lt
  | false, false => (a.compare? b).getD (compare a.isNaN b.isNaN)

/-- The order of two key values in a direction. -/
def Direction.order (d : Direction) (a b : Value) : Ordering :=
  match d with
  | .ascending => ascendingOrder a b
  | .descending => (ascendingOrder a b).swap

/-- The order of two rows by their key values: the first key that does not tie decides. -/
def compareKeys : List Direction → List Value → List Value → Ordering
  | d :: ds, a :: as, b :: bs => (d.order a b).then (compareKeys ds as bs)
  | _, _, _ => .eq

/-! ## §2. Steps. -/

section Steps

variable {α : Type} [Searchable α]

/-- The rows that match an expression. -/
def keepRows (parameters : List Value) (e : Expr) (rows : List α) : Except SearchError (List α) :=
  match rows with
  | [] => .ok []
  | row :: rows => do
    if ← e.holds parameters (Searchable.record row) then
      return row :: (← keepRows parameters e rows)
    else keepRows parameters e rows

/-- **The rows that match a predicate.** -/
def filterRows (p : Predicate) (rows : List α) : Except SearchError (List α) :=
  match parsePredicate p.text with
  | .ok e => keepRows p.parameters e rows
  | .error error => .error (.unreadable error)

/-- A row with the values of its sort keys. -/
def withKeys (keys : List OrderingKey) (row : α) : Except SearchError (List Value × α) := do
  let values ← keys.mapM fun key => key.expr.value [] (Searchable.record row)
  return (values, row)

/-- The sorted list. A sort that gives up ends everything. -/
def sortOrEnd {β : Type} (order : β → β → Ordering) (xs : List β) : Except SearchError (List β) :=
  match trySort order xs with
  | some sorted => .ok sorted
  | none => .error .disordered

/-- **The rows in the order of a clause.** -/
def orderRows (clause : String) (rows : List α) : Except SearchError (List α) :=
  match parseOrdering clause with
  | .ok keys => do
    let directions := keys.map (·.direction)
    let keyed ← rows.mapM (withKeys keys)
    let sorted ← sortOrEnd (fun a b => compareKeys directions a.1 b.1) keyed
    return sorted.map (·.2)
  | .error error => .error (.unreadable error)

end Steps

/-- The rows behind the first `count`; all of them when the count is negative. -/
def skipRows {α : Type} (count : Int64) (rows : List α) : List α := rows.drop count.toInt.toNat

/-- The first `count` rows; none when the count is negative. -/
def takeRows {α : Type} (count : Int64) (rows : List α) : List α := rows.take count.toInt.toNat

end RecordSearch
