/-
  RecordSearch.Search
  ───────────────────
  **Searches.**

  A search runs a definition against a source in a fixed order of stages:

      pre-filter    if its criteria compile to a predicate
      total         always counted
      filter        if its criteria compile to a predicate
      filtered      always counted
      sort          if something is left and there are sort keys
      page          if something is left and both page and page size are given
      rows          always fetched

  Each filter is compiled by itself, so its placeholders start at zero. A source is a record of
  operations on a state of its own (`Source`), any of which may fail; the first failure is that of
  the search. Rows in memory are one source (`Source.rows`).
-/
import RecordSearch.Rows

namespace RecordSearch

/-! ## §1. What is asked for. -/

/-- Everything that one search asks for. Absent stages do nothing. -/
structure SearchDefinition where
  /-- The number of the page, counted from zero. -/
  page : Option Int64 := none
  pageSize : Option Int64 := none
  sort : Option SortCriteria := none
  filter : Option FilterCriteria := none
  preFilter : Option FilterCriteria := none

/-- How many rows to skip and how many to take, when both page and page size are given. The
product wraps around like every 64-bit product. -/
def SearchDefinition.window (d : SearchDefinition) : Option (Int64 × Int64) :=
  match d.page, d.pageSize with
  | some page, some size => some (page * size, size)
  | _, _ => none

/-- How searches are run. -/
structure SearchConfig where
  /-- Words that are reserved besides the built-in ones, in any ASCII case. -/
  reservedWords : List String := []
  /-- Are predicates and ordering clauses noted? -/
  logPredicates : Bool := true
  deriving DecidableEq

/-- The dialect that searches compile to. -/
def SearchConfig.dialect (c : SearchConfig) : Dialect := .ofWords c.reservedWords

/-! ## §2. What is answered. -/

/-- The outcome of a search. -/
structure SearchResult (α : Type) where
  /-- As in the definition. -/
  page : Option Int64
  /-- As in the definition. -/
  pageSize : Option Int64
  /-- Rows left by the pre-filter. -/
  total : UInt64
  /-- Rows left by the filter, before paging. -/
  filtered : UInt64
  rows : List α
  deriving DecidableEq

/-- Are there rows behind the page? Rows are counted up to the greatest 64-bit number. -/
def SearchResult.hasMore {α : Type} (r : SearchResult α) : Bool :=
  match r.page, r.pageSize with
  | some page, some size =>
    0 ≤ page.toInt && 0 < size.toInt &&
      min (UInt64.size - 1) ((page.toInt.toNat + 1) * size.toInt.toNat) < r.filtered.toNat
  | _, _ => false

/-! ## §3. Notes. -/

/-- The two filters of a search. -/
inductive FilterStage where
  | preFilter
  | filter
  deriving DecidableEq, Repr

def FilterStage.name : FilterStage → String
  | .preFilter => "pre-filter"
  | .filter => "filter"

/-- A note on the progress of a search. -/
inductive Note where
  /-- So many rows were left. -/
  | counted (stage : FilterStage) (rows : UInt64)
  /-- A filter was compiled to a predicate with so many parameters. -/
  | compiled (stage : FilterStage) (predicate : String) (parameters : Nat)
  /-- A sort was compiled to an ordering clause. -/
  | ordering (clause : String)
  | window (skip take : Int64)
  deriving DecidableEq

/-- The line of a log: the level and the note. -/
def Note.line : Note → String
  | .counted stage rows =>
      "TRACE search: " ++ toString rows.toNat ++ " record(s) after " ++ stage.name
  | .compiled stage predicate parameters =>
      "DEBUG " ++ stage.name ++ ": " ++ predicate ++ " (" ++ toString parameters ++ " parameter(s))"
  | .ordering clause => "DEBUG sort: " ++ clause
  | .window skip take =>
      "TRACE search: skip " ++ toString skip.toInt ++ ", take " ++ toString take.toInt

/-! ## §4. Sources. -/

/-- What is done to a source with state `σ`. The state is there also after a failure. -/
abbrev Action (σ : Type) := ExceptT SearchError (StateM σ)

/-- A data source: operations that narrow, count, order, page and fetch its rows, and a place for
notes. -/
structure Source (σ α : Type) where
  filter : Predicate → Action σ Unit
  count : Action σ UInt64
  orderBy : String → Action σ Unit
  skip : Int64 → Action σ Unit
  take : Int64 → Action σ Unit
  materialize : Action σ (List α)
  note : Note → StateM σ Unit := fun _ => pure ()

namespace Source

/-- Replaces the state if the change succeeds. -/
def change {σ : Type} (f : σ → Except SearchError σ) : Action σ Unit := do
  set (← f (← get))

/-- Rows in memory; the state is the rows that are left. -/
def rows {α : Type} [Searchable α] : Source (List α) α where
  filter p := change (filterRows p)
  count := return UInt64.ofNat (← get).length
  orderBy clause := change (orderRows clause)
  skip count := change fun rows => .ok (skipRows count rows)
  take count := change fun rows => .ok (takeRows count rows)
  materialize := get

/-- An action on one part of the state. -/
def onState {σ τ β : Type} (action : Action σ β) : Action (σ × τ) β := fun (s, t) =>
  let (result, s) := action s
  (result, (s, t))

/-- A source that keeps the notes it is given, the first one first. -/
def noted {σ α : Type} (source : Source σ α) : Source (σ × List Note) α where
  filter p := onState (source.filter p)
  count := onState source.count
  orderBy clause := onState (source.orderBy clause)
  skip count := onState (source.skip count)
  take count := onState (source.take count)
  materialize := onState source.materialize
  note n := modify fun (s, notes) => (s, notes ++ [n])

end Source

/-- One call of an operation of a source. -/
inductive SourceCall where
  | filter (p : Predicate)
  | count
  | orderBy (clause : String)
  | skip (count : Int64)
  | take (count : Int64)
  | materialize

/-- A source that keeps the calls it is given, failing ones among them, the first one first. -/
def Source.recorded {σ α : Type} (source : Source σ α) : Source (σ × List SourceCall) α where
  filter p := calling (.filter p) (source.filter p)
  count := calling .count source.count
  orderBy clause := calling (.orderBy clause) (source.orderBy clause)
  skip count := calling (.skip count) (source.skip count)
  take count := calling (.take count) (source.take count)
  materialize := calling .materialize source.materialize
  note n := fun (s, calls) =>
    let ((), s) := source.note n s
    ((), (s, calls))
where
  calling {β : Type} (call : SourceCall) (action : Action σ β) :
      Action (σ × List SourceCall) β := do
    modify fun (s, calls) => (s, calls ++ [call])
    onState action

/-! ## §5. Running a search. -/

section Running

variable {σ α : Type} (config : SearchConfig) (source : Source σ α)

/-- Narrows the source by one of the filters, unless there is nothing to filter by. -/
def applyFilter (stage : FilterStage) (criteria : Option FilterCriteria) : Action σ Unit :=
  match criteria with
  | none => pure ()
  | some criteria => do
    match ← criteria.compile config.dialect with
    | none => pure ()
    | some p =>
      if config.logPredicates then source.note (.compiled stage p.text p.parameters.length)
      source.filter p

/-- Orders the source, unless there is no sort key. -/
def applySort (sort : Option SortCriteria) : Action σ Unit :=
  match sort with
  | none => pure ()
  | some sort => do
    match ← sort.compile config.dialect with
    | none => pure ()
    | some clause =>
      if config.logPredicates then source.note (.ordering clause)
      source.orderBy clause

/-- Cuts the source down to a window, if there is one. -/
def applyWindow (window : Option (Int64 × Int64)) : Action σ Unit :=
  match window with
  | none => pure ()
  | some (skip, take) => do
    source.note (.window skip take)
    source.skip skip
    source.take take

/-- **A search.** Without a definition it asks for nothing in particular. -/
def search (definition : Option SearchDefinition) : Action σ (SearchResult α) := do
  let d := definition.getD {}
  applyFilter config source .preFilter d.preFilter
  let total ← source.count
  source.note (.counted .preFilter total)
  applyFilter config source .filter d.filter
  let filtered ← source.count
  source.note (.counted .filter filtered)
  if 0 < filtered then
    applySort config source d.sort
    applyWindow source d.window
  return ⟨d.page, d.pageSize, total, filtered, ← source.materialize⟩

/-- **Filtering alone**: the rows that both filters leave, neither sorted nor paged. -/
def filterOnly (definition : Option SearchDefinition) : Action σ (List α) := do
  match definition with
  | none => source.materialize
  | some d =>
    applyFilter config source .preFilter d.preFilter
    applyFilter config source .filter d.filter
    source.materialize

end Running

/-- A search over rows in memory. -/
def searchRows {α : Type} [Searchable α] (config : SearchConfig)
    (definition : Option SearchDefinition) (rows : List α) : Except SearchError (SearchResult α) :=
  ((search config Source.rows definition).run rows).1

/-- Filtering of rows in memory. -/
def filterRowsOnly {α : Type} [Searchable α] (config : SearchConfig)
    (definition : Option SearchDefinition) (rows : List α) : Except SearchError (List α) :=
  ((filterOnly config Source.rows definition).run rows).1

end RecordSearch
