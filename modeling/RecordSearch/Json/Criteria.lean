/-
  RecordSearch.Json.Criteria
  ──────────────────────────
  **Criteria in interchange form.**

  Operators and the like are written by their names. Structures are objects of their fields; a
  slot of a container that is not populated, and an empty list of collections, are left out. The
  value, the collections and the kind of a criterion, the slots and the connective of a container
  and the direction of a sort key need not be given.

      toJson, ofJson?   — the two directions, for each of the types
-/
import RecordSearch.Criteria
import RecordSearch.Json.Value

namespace RecordSearch

/-! ## §1. Names. -/

/-- The member of a list that has a name. -/
def named {α : Type} (name : α → String) (all : List α) (s : String) : Option α :=
  all.find? fun a => name a = s

namespace Operator

def name : Operator → String
  | .equals => "Equals"
  | .notEquals => "NotEquals"
  | .greaterThan => "GreaterThan"
  | .greaterThanOrEqualTo => "GreaterThanOrEqualTo"
  | .lessThan => "LessThan"
  | .lessThanOrEqualTo => "LessThanOrEqualTo"
  | .isNull => "IsNull"
  | .isNotNull => "IsNotNull"
  | .startsWith => "StartsWith"
  | .endsWith => "EndsWith"
  | .contains => "Contains"
  | .doesNotStartWith => "DoesNotStartWith"
  | .doesNotEndWith => "DoesNotEndWith"
  | .doesNotContain => "DoesNotContain"
  | .isIn => "In"
  | .isNotIn => "NotIn"

/-- All operators. -/
def all : List Operator :=
  [.equals, .notEquals, .greaterThan, .greaterThanOrEqualTo, .lessThan, .lessThanOrEqualTo, .isNull,
    .isNotNull, .startsWith, .endsWith, .contains, .doesNotStartWith, .doesNotEndWith,
    .doesNotContain, .isIn, .isNotIn]

def toJson (o : Operator) : Json := .text o.name

def ofJson? (j : Json) : Option Operator := j.variant?.bind (named name all)

end Operator

namespace RangeOperator

def name : RangeOperator → String
  | .between => "Between"
  | .notBetween => "NotBetween"

def toJson (o : RangeOperator) : Json := .text o.name

def ofJson? (j : Json) : Option RangeOperator :=
  j.variant?.bind (named name [.between, .notBetween])

end RangeOperator

namespace Connective

def toJson (c : Connective) : Json := .text c.word

def ofJson? (j : Json) : Option Connective := j.variant?.bind (named word [.and, .or])

end Connective

namespace Direction

def name : Direction → String
  | .ascending => "Ascending"
  | .descending => "Descending"

def toJson (d : Direction) : Json := .text d.name

def ofJson? (j : Json) : Option Direction := j.variant?.bind (named name [.ascending, .descending])

end Direction

namespace FieldKind

def name : FieldKind → String
  | .text => "text"
  | .other => "other"

def toJson (k : FieldKind) : Json := .text k.name

def ofJson? (j : Json) : Option FieldKind := j.variant?.bind (named name [.text, .other])

end FieldKind

/-! ## §2. Criteria on one field. -/

/-- The member for the collections, left out when there are none. -/
def collectionMember (paths : List String) : List (String × Json) :=
  if paths.isEmpty then [] else [("collection", .array (paths.map .text))]

namespace SingleCriterion

def toJson (c : SingleCriterion) : Json :=
  .object ([("field", .text c.field), ("operator", c.operator.toJson), ("value", c.value.toJson)] ++
    collectionMember c.collection ++ [("kind", c.kind.toJson)])

def ofJson? (j : Json) : Option SingleCriterion :=
  match j.fields? ["field", "operator", "value", "collection", "kind"] with
  | some [field, operator, value, collection, kind] => do
    return {
      field := ← field.required Json.asText?
      operator := ← operator.required Operator.ofJson?
      value := ← value.orElse .null Value.ofJson?
      collection := ← collection.orElse [] (Json.listOf Json.asText?)
      kind := ← kind.orElse .other FieldKind.ofJson? }
  | _ => none

end SingleCriterion

namespace RangeCriterion

def toJson (c : RangeCriterion) : Json :=
  .object ([("field", .text c.field), ("operator", c.operator.toJson), ("start", c.start.toJson),
    ("end", c.stop.toJson)] ++ collectionMember c.collection)

def ofJson? (j : Json) : Option RangeCriterion :=
  match j.fields? ["field", "operator", "start", "end", "collection"] with
  | some [field, operator, start, stop, collection] => do
    return {
      field := ← field.required Json.asText?
      operator := ← operator.required RangeOperator.ofJson?
      start := ← start.required Value.ofJson?
      stop := ← stop.required Value.ofJson?
      collection := ← collection.orElse [] (Json.listOf Json.asText?) }
  | _ => none

end RangeCriterion

/-! ## §3. Containers and filters. -/

namespace Container

/-- The member for a slot, left out when it is not populated. -/
def slotMember (name : String) : Option Json → List (String × Json)
  | none => []
  | some j => [(name, j)]

mutual

/-- **The interchange form of a container.** -/
def toJson : Container → Json
  | ⟨logic, single, range, group⟩ =>
    .object (("logic", logic.toJson) :: (slotMember "single" (single.map SingleCriterion.toJson) ++
      slotMember "range" (range.map RangeCriterion.toJson) ++ groupMember group))

/-- The member for a group, left out when there is none. -/
def groupMember : Option (List Container) → List (String × Json)
  | none => []
  | some containers => [("group", .array (toJsonAll containers))]

/-- The interchange forms of containers. -/
def toJsonAll : List Container → List Json
  | [] => []
  | c :: cs => c.toJson :: toJsonAll cs

end

/-- The container with a group and the other fields of an interchange form. -/
def withGroup? (j : Json) (group : Option (Option (List Container))) : Option Container :=
  match j.fields? ["logic", "single", "range", "group"], group with
  | some [logic, single, range, _], some group => do
    return {
      logic := ← logic.orElse .and Connective.ofJson?
      single := ← single.orElse none (Json.orNull SingleCriterion.ofJson?)
      range := ← range.orElse none (Json.orNull RangeCriterion.ofJson?)
      group := group }
  | _, _ => none

mutual

/-- **The container of an interchange form.** -/
def ofJson? : Json → Option Container
  | .object members => withGroup? (.object members) (groupNamed members)
  | .array items => withGroup? (.array items) (groupAt 3 items)
  | _ => none

/-- The group among members. -/
def groupNamed : List (String × Json) → Option (Option (List Container))
  | [] => some none
  | (name, j) :: members => if name = "group" then groupOf j else groupNamed members

/-- The group so many places further. -/
def groupAt : Nat → List Json → Option (Option (List Container))
  | _, [] => some none
  | 0, j :: _ => groupOf j
  | n + 1, _ :: items => groupAt n items

/-- The group of an interchange form, or null in its place. -/
def groupOf : Json → Option (Option (List Container))
  | .null => some none
  | .array items => (ofItems items).map some
  | _ => none

/-- The containers of items. -/
def ofItems : List Json → Option (List Container)
  | [] => some []
  | j :: js =>
    match ofJson? j, ofItems js with
    | some c, some cs => some (c :: cs)
    | _, _ => none

end

end Container

namespace FilterCriteria

def toJson (f : FilterCriteria) : Json :=
  .object [("containers", .array (Container.toJsonAll f.containers))]

/-- A list of containers. -/
def containersOf : Json → Option (List Container)
  | .array items => Container.ofItems items
  | _ => none

def ofJson? (j : Json) : Option FilterCriteria :=
  match j.fields? ["containers"] with
  | some [containers] => (containers.required containersOf).map (⟨·⟩)
  | _ => none

end FilterCriteria

/-! ## §4. Sorts. -/

namespace SortCriterion

def toJson (c : SortCriterion) : Json :=
  .object [("field", .text c.field), ("direction", c.direction.toJson)]

def ofJson? (j : Json) : Option SortCriterion :=
  match j.fields? ["field", "direction"] with
  | some [field, direction] => do
    return ⟨← field.required Json.asText?, ← direction.orElse .ascending Direction.ofJson?⟩
  | _ => none

end SortCriterion

namespace SortCriteria

def toJson (s : SortCriteria) : Json :=
  .object [("items", .array (s.items.map SortCriterion.toJson))]

def ofJson? (j : Json) : Option SortCriteria :=
  match j.fields? ["items"] with
  | some [items] => (items.required (Json.listOf SortCriterion.ofJson?)).map (⟨·⟩)
  | _ => none

end SortCriteria

end RecordSearch
