/-
  RecordSearch.Builder
  ────────────────────
  **Building criteria step by step.**

  A condition is put on a target: a field, possibly inside collections. Each step adds one
  container at the end of a filter, joined by the connective of the word it starts with.

      Target.inside t f        — goes on from a collection to a field of its elements
      FilterStep.container     — the container that a step adds
      FilterCriteria.build     — the filter of a list of steps
      SortCriteria.sortBy …    — the same for sort keys
-/
import RecordSearch.Criteria
import RecordSearch.Schema
import RecordSearch.Search

namespace RecordSearch

/-! ## §1. Targets and conditions. -/

/-- What a condition is about: a field of the innermost collection's elements, or of the record
itself when there are no collections. -/
structure Target where
  field : Field
  /-- The paths of the collections, outermost first. -/
  collections : List String := []

/-- Goes on from a collection to a field of its elements. -/
def Target.inside (t : Target) (f : Field) : Target := ⟨f, t.collections ++ [t.field.path]⟩

/-- What is asked of a target. -/
inductive Condition where
  | single (operator : Operator) (value : Value)
  | range (operator : RangeOperator) (start stop : Value)

namespace Condition

def isEqualTo (v : Value) : Condition := .single .equals v
def isNotEqualTo (v : Value) : Condition := .single .notEquals v
def isIn (vs : List Value) : Condition := .single .isIn (.list vs)
def isNotIn (vs : List Value) : Condition := .single .isNotIn (.list vs)
def greaterThan (v : Value) : Condition := .single .greaterThan v
def greaterThanOrEqualTo (v : Value) : Condition := .single .greaterThanOrEqualTo v
def lessThan (v : Value) : Condition := .single .lessThan v
def lessThanOrEqualTo (v : Value) : Condition := .single .lessThanOrEqualTo v

/-- Both bounds belong to the range. -/
def between (start stop : Value) : Condition := .range .between start stop
def notBetween (start stop : Value) : Condition := .range .notBetween start stop
def contains (s : String) : Condition := .single .contains (.text s)
def startsWith (s : String) : Condition := .single .startsWith (.text s)
def endsWith (s : String) : Condition := .single .endsWith (.text s)
def doesNotContain (s : String) : Condition := .single .doesNotContain (.text s)
def doesNotStartWith (s : String) : Condition := .single .doesNotStartWith (.text s)
def doesNotEndWith (s : String) : Condition := .single .doesNotEndWith (.text s)
def isTrue : Condition := .single .equals (.bool true)
def isFalse : Condition := .single .equals (.bool false)
def isNull : Condition := .single .isNull .null
def isNotNull : Condition := .single .isNotNull .null

/-- The container that puts the condition on a target. -/
def container (c : Condition) (logic : Connective) (t : Target) : Container :=
  match c with
  | .single operator value =>
    .ofSingle logic ⟨t.field.path, operator, value, t.collections, t.field.type.kind⟩
  | .range operator start stop =>
    .ofRange logic ⟨t.field.path, operator, start, stop, t.collections⟩

end Condition

/-! ## §2. Filters. -/

/-- The word that a step starts with. -/
inductive Opening where
  /-- The first step, usually; later it joins like `and`. -/
  | first
  | and
  | or
  deriving DecidableEq, Repr

/-- How a step joins its container to the one before. -/
def Opening.logic : Opening → Connective
  | .first | .and => .and
  | .or => .or

/-- A step of building a filter. -/
inductive FilterStep where
  | condition (opening : Opening) (target : Target) (condition : Condition)
  /-- A group in parentheses, built by steps of its own. Criteria that were built before are added
  in the same way (`FilterCriteria.addCriteria`), so this is also the step that adds these. -/
  | group (opening : Opening) (steps : List FilterStep)

mutual

/-- **The container that a step adds.** -/
def FilterStep.container : FilterStep → Container
  | .condition opening target condition => condition.container opening.logic target
  | .group opening steps => .ofGroup opening.logic (containersOf steps)

/-- The containers that steps add. -/
def containersOf : List FilterStep → List Container
  | [] => []
  | s :: ss => s.container :: containersOf ss

end

namespace FilterCriteria

/-- Adds the container of a step. -/
def add (f : FilterCriteria) (s : FilterStep) : FilterCriteria := f.push s.container

/-- Appends criteria that were built before, in parentheses. -/
def addCriteria (f : FilterCriteria) (opening : Opening) (g : FilterCriteria) : FilterCriteria :=
  f.push (.ofGroup opening.logic g.containers)

/-- **The filter that steps build.** -/
def build (steps : List FilterStep) : FilterCriteria := steps.foldl add {}

/-- Appends all containers of another filter. -/
def extend (f g : FilterCriteria) : FilterCriteria := g.containers.foldl push f

end FilterCriteria

/-! ## §3. Sorts. -/

namespace SortCriteria

/-- Sorts by a field in a direction. -/
def sortBy (s : SortCriteria) (f : Field) (d : Direction) : SortCriteria := s.push f.path d

def ascending (s : SortCriteria) (f : Field) : SortCriteria := s.sortBy f .ascending

def descending (s : SortCriteria) (f : Field) : SortCriteria := s.sortBy f .descending

end SortCriteria

/-! ## §4. Definitions. -/

namespace SearchDefinition

/-- Changes the filter, an empty one if there was none. -/
def onFilter (d : SearchDefinition) (change : FilterCriteria → FilterCriteria) :
    SearchDefinition :=
  { d with filter := some (change (d.filter.getD {})) }

/-- Changes the pre-filter, an empty one if there was none. -/
def onPreFilter (d : SearchDefinition) (change : FilterCriteria → FilterCriteria) :
    SearchDefinition :=
  { d with preFilter := some (change (d.preFilter.getD {})) }

/-- Changes the sort, an empty one if there was none. -/
def onSort (d : SearchDefinition) (change : SortCriteria → SortCriteria) : SearchDefinition :=
  { d with sort := some (change (d.sort.getD {})) }

end SearchDefinition

end RecordSearch
