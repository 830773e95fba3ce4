/-
  RecordSearch.Toml
  ─────────────────
  **Configuration documents.**

  A document is a table. It grows line by line: a header opens a table, a further element of a list
  of tables, or neither if the name is taken, and a line with a key adds a value to the open table.
  How a table came about decides what may be added later (`Origin`).

      Table.openTable, openElement   — the effect of a header
      Table.add                      — the effect of a key and its value
      Table.toToml                   — the document when it is complete
-/

namespace RecordSearch

/-- A value of a configuration document. -/
inductive Toml where
  | string (s : String)
  | bool (b : Bool)
  /-- An integer or a floating-point number, as it is written. -/
  | number (written : String)
  /-- A date, a time or both, as they are written. -/
  | moment (written : String)
  | array (items : List Toml)
  | table (entries : List (String × Toml))

instance : Inhabited Toml := ⟨.table []⟩

namespace Toml

/-! ## §1. Growing tables. -/

/-- How a table came about. -/
inductive Origin where
  /-- By a header of its own. -/
  | header
  /-- By the header of a table inside it. -/
  | implied
  /-- By a key with dots. -/
  | dotted
  deriving DecidableEq

/-- What a growing table has under a name. -/
inductive Node where
  | value (v : Toml)
  | table (origin : Origin) (entries : List (String × Node))
  /-- A list of tables, the last one first. -/
  | elements (last : List (String × Node)) (before : List (List (String × Node)))

/-- A growing table. -/
abbrev Table := List (String × Node)

namespace Table

/-- Sets the entry of a name, in its place if it is there already. -/
def put (name : String) (node : Node) : Table → Table
  | [] => [(name, node)]
  | (n, k) :: entries =>
      if n = name then (name, node) :: entries else (n, k) :: put name node entries

/-- What is done to a table, if it can be done. -/
abbrev Change := Table → Option Table

/-- Does something to the table that a header's path leads to. Of a list of tables this is the
last one; tables that are not there are implied. -/
def inside (path : List String) (change : Change) : Change := fun t =>
  match path with
  | [] => change t
  | name :: path =>
    match t.lookup name with
    | none => (inside path change []).map fun inner => put name (.table .implied inner) t
    | some (.table origin inner) =>
      (inside path change inner).map fun inner => put name (.table origin inner) t
    | some (.elements last before) =>
      (inside path change last).map fun last => put name (.elements last before) t
    | some (.value _) => none

/-- Opens a table by a header. A table that other headers implied may still be opened. -/
def openTable (name : String) : Change := fun t =>
  match t.lookup name with
  | none => some (put name (.table .header []) t)
  | some (.table .implied inner) => some (put name (.table .header inner) t)
  | some _ => none

/-- Opens a further element of a list of tables. -/
def openElement (name : String) : Change := fun t =>
  match t.lookup name with
  | none => some (put name (.elements [] []) t)
  | some (.elements last before) => some (put name (.elements [] (last :: before)) t)
  | some _ => none

/-- Sets a name that is not yet there. -/
def set (name : String) (v : Toml) : Change := fun t =>
  match t.lookup name with
  | none => some (put name (.value v) t)
  | some _ => none

/-- Adds a value under a key with dots. The table it goes to must have come about by dots, and none
on the way by a header. -/
def addDotted (origin : Origin) (name : String) (v : Toml) : List String → Change
  | [] => fun t => if origin = .dotted then set name v t else none
  | step :: path => fun t =>
    match t.lookup step with
    | none => (addDotted .dotted name v path []).map fun inner => put step (.table .dotted inner) t
    | some (.table .header _) => none
    | some (.table origin inner) =>
      (addDotted origin name v path inner).map fun inner => put step (.table origin inner) t
    | some (.elements last before) =>
      (addDotted .header name v path last).map fun last => put step (.elements last before) t
    | some (.value _) => none

/-- Adds a value under a key. -/
def add (path : List String) (name : String) (v : Toml) : Change :=
  if path.isEmpty then set name v else addDotted .header name v path

end Table

/-! ## §2. Complete tables. -/

mutual

/-- An entry when the document is complete. -/
def Node.toToml : Node → Toml
  | .value v => v
  | .table _ entries => .table (entriesToToml entries)
  | .elements last before => .array (elementsToToml before [.table (entriesToToml last)])

/-- The entries of a table when the document is complete. -/
def entriesToToml : List (String × Node) → List (String × Toml)
  | [] => []
  | (name, node) :: entries => (name, node.toToml) :: entriesToToml entries

/-- The elements of a list of tables, turned round, in front of others. -/
def elementsToToml : List (List (String × Node)) → List Toml → List Toml
  | [], after => after
  | entries :: before, after => elementsToToml before (.table (entriesToToml entries) :: after)

end

/-- The document of a table that is complete. -/
def Table.toToml (t : Table) : Toml := .table (entriesToToml t)

end Toml

end RecordSearch
