/-
  RecordSearch.Criteria
  ─────────────────────
  **Criteria: what to keep and how to order it.**

  A filter is a list of containers. Each holds a single comparison, a range, or a group of further
  containers, and says how it is joined to the container before it. Containers may come from
  outside, so one can be malformed: only those with exactly one populated slot have a meaning.

  A sort is a list of paths with directions. Adding a path that is already there changes its
  direction and leaves it where it is.
-/
import RecordSearch.Operator
import RecordSearch.Value

namespace RecordSearch

/-! ## §1. Criteria on one field. -/

/-- A comparison of one field with one value, or with a list for membership. -/
structure SingleCriterion where
  /-- The dotted path of the field, seen from the innermost collection element. -/
  field : String
  operator : Operator
  value : Value := .null
  /-- The collections that the criterion looks into, outermost first: some element of each must
  satisfy the rest. -/
  collection : List String := []
  kind : FieldKind := .other

/-- A range that a field must lie in, or outside of. -/
structure RangeCriterion where
  field : String
  operator : RangeOperator
  start : Value
  stop : Value
  collection : List String := []

/-- Looks into a collection, inside those looked into already. -/
def SingleCriterion.within (c : SingleCriterion) (path : String) : SingleCriterion :=
  { c with collection := c.collection ++ [path] }

/-- Looks into a collection, inside those looked into already. -/
def RangeCriterion.within (c : RangeCriterion) (path : String) : RangeCriterion :=
  { c with collection := c.collection ++ [path] }

/-! ## §2. Containers and filters. -/

/-- One element of a filter: a slot for each thing it can hold, of which one is to be populated. -/
structure Container where
  logic : Connective
  single : Option SingleCriterion
  range : Option RangeCriterion
  group : Option (List Container)

namespace Container

/-- A container that holds a comparison. -/
def ofSingle (logic : Connective) (c : SingleCriterion) : Container := ⟨logic, some c, none, none⟩

/-- A container that holds a range. -/
def ofRange (logic : Connective) (c : RangeCriterion) : Container := ⟨logic, none, some c, none⟩

/-- A container that holds a group. -/
def ofGroup (logic : Connective) (containers : List Container) : Container :=
  ⟨logic, none, none, some containers⟩

/-- How many slots are populated. -/
def populated (c : Container) : Nat :=
  c.single.isSome.toNat + c.range.isSome.toNat + c.group.isSome.toNat

end Container

/-- What rows to keep: containers in order, each joined to the one before it. -/
structure FilterCriteria where
  containers : List Container := []

namespace FilterCriteria

def isEmpty (f : FilterCriteria) : Bool := f.containers.isEmpty

def size (f : FilterCriteria) : Nat := f.containers.length

/-- Appends a container as it is. -/
def push (f : FilterCriteria) (c : Container) : FilterCriteria := ⟨f.containers ++ [c]⟩

end FilterCriteria

/-! ## §3. Sorts. -/

/-- A path to sort by. -/
structure SortCriterion where
  field : String
  direction : Direction := .ascending
  deriving DecidableEq

/-- What order to put rows in: keys in order of importance. -/
structure SortCriteria where
  items : List SortCriterion := []

namespace SortCriteria

def isEmpty (s : SortCriteria) : Bool := s.items.isEmpty

def size (s : SortCriteria) : Nat := s.items.length

/-- Gives the first key of a path a direction, or adds the key at the end. -/
def pushItem (field : String) (direction : Direction) : List SortCriterion → List SortCriterion
  | [] => [⟨field, direction⟩]
  | item :: items =>
      if item.field = field then ⟨field, direction⟩ :: items
      else item :: pushItem field direction items

/-- Adds a key. A path that is already there keeps its place and takes the new direction. -/
def push (s : SortCriteria) (field : String) (direction : Direction) : SortCriteria :=
  ⟨pushItem field direction s.items⟩

/-- The sort that results from adding keys one after the other. -/
def ofItems (items : List SortCriterion) : SortCriteria :=
  items.foldl (fun s item => s.push item.field item.direction) {}

end SortCriteria

end RecordSearch
