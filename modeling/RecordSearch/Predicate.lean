/-
  RecordSearch.Predicate
  ──────────────────────
  **From criteria to predicate text.**

  A predicate is a text with numbered placeholders and the values bound to them. The two are
  computed apart: `operands` lists the values of a criteria tree in the order of its leaves, and
  `render` writes the tree, numbering a leaf's placeholders from the count of operands before it.
  No value is an argument of `render`'s text, so none can change it.

      single criterion      (path == @0)   ((path ?? "").Contains(@0))   (Not (path In @0))  …
      range                 ((path >= @0) And (path <= @1))
      inside collections    c1.Any(c2.Any(clause))
      group                 (first And second Or third)
-/
import RecordSearch.Criteria
import RecordSearch.Dialect

namespace RecordSearch

/-- A predicate: its text, and the value bound to each placeholder by number. -/
structure Predicate where
  text : String
  parameters : List Value

/-! ## §1. The values that are bound. -/

/-- The operand of a membership test: the list itself, or the list of the one value. -/
def Value.asItems : Value → Value
  | .list items => .list items
  | v => .list [v]

/-- The values that a single criterion binds. -/
def SingleCriterion.operands (c : SingleCriterion) : List Value :=
  match c.operator.test with
  | .isNull _ => []
  | .membership _ => [c.value.asItems]
  | .comparison _ | .pattern _ _ => [c.value]

/-- The values that a range criterion binds. -/
def RangeCriterion.operands (c : RangeCriterion) : List Value := [c.start, c.stop]

mutual

/-- The values that a container binds, in the order of its leaves. -/
def Container.operands : Container → List Value
  | ⟨_, some c, none, none⟩ => c.operands
  | ⟨_, none, some c, none⟩ => c.operands
  | ⟨_, none, none, some containers⟩ => operandsOfAll containers
  | _ => []

/-- The values that a list of containers binds. -/
def operandsOfAll : List Container → List Value
  | [] => []
  | c :: cs => c.operands ++ operandsOfAll cs

end

/-! ## §2. The text. -/

/-- The clause of a single criterion, for a written field and the number of its placeholder. -/
def SingleCriterion.clause (c : SingleCriterion) (field : String) (next : Nat) : String :=
  let slot := Dialect.placeholder next
  match c.operator.test with
  | .isNull negated =>
      "(" ++ field ++ " " ++ (if negated then Comparison.notEqual else .equal).symbol ++ " null)"
  | .comparison comparison => "(" ++ field ++ " " ++ comparison.symbol ++ " " ++ slot ++ ")"
  | .membership negated =>
      let isIn := "(" ++ field ++ " In " ++ slot ++ ")"
      if negated then "(Not " ++ isIn ++ ")" else isIn
  | .pattern pattern negated =>
      let target :=
        match c.kind with
        | .text => "(" ++ field ++ " ?? \"\")"
        | .other => field ++ ".ToString()"
      let call := target ++ "." ++ pattern.method ++ "(" ++ slot ++ ")"
      if negated then "(Not " ++ call ++ ")" else "(" ++ call ++ ")"

/-- The clause of a range criterion, one operand to what stands around it. -/
def RangeCriterion.clause (c : RangeCriterion) (field : String) (next : Nat) : String :=
  let bound (comparison : Comparison) (index : Nat) : String :=
    "(" ++ field ++ " " ++ comparison.symbol ++ " " ++ Dialect.placeholder index ++ ")"
  match c.operator with
  | .between =>
      "(" ++ bound .greaterOrEqual next ++ " And " ++ bound .lessOrEqual (next + 1) ++ ")"
  | .notBetween => "(" ++ bound .less next ++ " Or " ++ bound .greater (next + 1) ++ ")"

/-- A clause about elements of collections, the innermost collection next to the clause. -/
def insideCollections (paths : List String) (clause : String) : String :=
  paths.foldr (fun path inner => path ++ ".Any(" ++ inner ++ ")") clause

/-- Writes a criterion's field, then its collections, then the clause inside them. -/
def renderCriterion (d : Dialect) (field : String) (collection : List String)
    (clause : String → String) : Except SearchError String := do
  let field ← d.renderPath .filter field
  let paths ← collection.mapM (d.renderPath .filter)
  return insideCollections paths (clause field)

mutual

/-- **Writes a container**, its placeholders numbered from `next`. A container without exactly
one populated slot, or with an empty group, has no text. -/
def Container.render (d : Dialect) (next : Nat) : Container → Except SearchError String
  | ⟨_, some c, none, none⟩ =>
      renderCriterion d c.field c.collection fun field => c.clause field next
  | ⟨_, none, some c, none⟩ =>
      renderCriterion d c.field c.collection fun field => c.clause field next
  | ⟨_, none, none, some []⟩ => .error (.unsupportedCondition 0)
  | ⟨_, none, none, some (c :: cs)⟩ => do
      let first ← c.render d next
      let others ← renderOthers d (next + c.operands.length) cs
      return "(" ++ first ++ others ++ ")"
  | c => .error (.unsupportedCondition c.populated)

/-- Writes the containers that follow a first one, each behind its connective. -/
def renderOthers (d : Dialect) (next : Nat) : List Container → Except SearchError String
  | [] => .ok ""
  | c :: cs => do
      let text ← c.render d next
      let others ← renderOthers d (next + c.operands.length) cs
      return " " ++ c.logic.word ++ " " ++ text ++ others

end

/-! ## §3. Compiling. -/

/-- **The predicate of a filter**; absent when there is nothing to filter by. -/
def FilterCriteria.compile (d : Dialect) (f : FilterCriteria) :
    Except SearchError (Option Predicate) :=
  match f.containers with
  | [] => .ok none
  | c :: cs => do
      let first ← c.render d 0
      let others ← renderOthers d c.operands.length cs
      return some ⟨first ++ others, operandsOfAll (c :: cs)⟩

/-- **The ordering clause of a sort**, such as `a ASC, b.c DESC`; absent when there is no key. -/
def SortCriteria.compile (d : Dialect) (s : SortCriteria) : Except SearchError (Option String) :=
  match s.items with
  | [] => .ok none
  | items => do
      let keys ← items.mapM fun item => do
        let field ← d.renderPath .sort item.field
        return field ++ " " ++ item.direction.word
      return some (", ".intercalate keys)

end RecordSearch
