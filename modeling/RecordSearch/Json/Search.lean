/-
  RecordSearch.Json.Search
  ────────────────────────
  **Searches in interchange form.**

  Of a definition and of a configuration every field may be left out; the fields of a definition
  are written also when absent. All fields of a predicate and of a result must be given, except
  the two echoed ones of a result, and these only where fields are written by name.

      toJson, ofJson?   — the two directions, for each of the types
-/
import RecordSearch.Json.Criteria
import RecordSearch.Search

namespace RecordSearch

/-- The interchange form of a value that may be absent. -/
def jsonOrNull {α : Type} (toJson : α → Json) : Option α → Json
  | none => .null
  | some a => toJson a

namespace SearchDefinition

def toJson (d : SearchDefinition) : Json :=
  .object [
    ("page", jsonOrNull (fun n => .integer n.toInt) d.page),
    ("page_size", jsonOrNull (fun n => .integer n.toInt) d.pageSize),
    ("sort", jsonOrNull SortCriteria.toJson d.sort),
    ("filter", jsonOrNull FilterCriteria.toJson d.filter),
    ("pre_filter", jsonOrNull FilterCriteria.toJson d.preFilter)]

def ofJson? (j : Json) : Option SearchDefinition :=
  match j.fields? ["page", "page_size", "sort", "filter", "pre_filter"] with
  | some [page, pageSize, sort, filter, preFilter] => do
    return {
      page := ← page.orElse none (Json.orNull Json.asInt64?)
      pageSize := ← pageSize.orElse none (Json.orNull Json.asInt64?)
      sort := ← sort.orElse none (Json.orNull SortCriteria.ofJson?)
      filter := ← filter.orElse none (Json.orNull FilterCriteria.ofJson?)
      preFilter := ← preFilter.orElse none (Json.orNull FilterCriteria.ofJson?) }
  | _ => none

end SearchDefinition

namespace Predicate

def toJson (p : Predicate) : Json :=
  .object [("text", .text p.text), ("parameters", .array (Value.toJsonAll p.parameters))]

def ofJson? (j : Json) : Option Predicate :=
  match j.fields? ["text", "parameters"] with
  | some [text, parameters] => do
    return ⟨← text.required Json.asText?, ← parameters.required (Json.listOf Value.ofJson?)⟩
  | _ => none

end Predicate

namespace SearchResult

variable {α : Type}

def toJson (row : α → Json) (r : SearchResult α) : Json :=
  .object [
    ("page", jsonOrNull (fun n => .integer n.toInt) r.page),
    ("page_size", jsonOrNull (fun n => .integer n.toInt) r.pageSize),
    ("total_record_count", .integer r.total.toNat),
    ("filtered_record_count", .integer r.filtered.toNat),
    ("result_set", .array (r.rows.map row))]

def ofJson? (row : Json → Option α) (j : Json) : Option (SearchResult α) :=
  match j.fields?
    ["page", "page_size", "total_record_count", "filtered_record_count", "result_set"] with
  | some [page, pageSize, total, filtered, rows] => do
    return {
      page := ← page.optional Json.asInt64?
      pageSize := ← pageSize.optional Json.asInt64?
      total := ← total.required Json.asUInt64?
      filtered := ← filtered.required Json.asUInt64?
      rows := ← rows.required (Json.listOf row) }
  | _ => none

end SearchResult

namespace SearchConfig

def toJson (c : SearchConfig) : Json :=
  .object [("reserved_words", .array (c.reservedWords.map .text)),
    ("log_predicates", .bool c.logPredicates)]

def ofJson? (j : Json) : Option SearchConfig :=
  match j.fields? ["reserved_words", "log_predicates"] with
  | some [words, log] => do
    return ⟨← words.orElse [] (Json.listOf Json.asText?), ← log.orElse true Json.asBool?⟩
  | _ => none

end SearchConfig

end RecordSearch
