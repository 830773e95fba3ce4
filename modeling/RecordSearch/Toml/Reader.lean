/-
  RecordSearch.Toml.Reader
  ────────────────────────
  **Reading configuration documents.**

  A document is read line by line: headers, keys with values, comments and empty lines. Arrays go
  over several lines, tables in braces do not.

      Toml.read text   — the document, unless something in it is wrong
-/
import RecordSearch.Toml.Scalar

namespace RecordSearch.Toml

/-! ## §1. Between the words. -/

def skipSpace (text : List Char) : List Char := text.dropWhile isSpace

/-- Behind a comment, if there is one. -/
def skipComment (text : List Char) : List Char :=
  match text with
  | '#' :: rest => rest.dropWhile isInline
  | text => text

/-- Behind blanks, a comment and the end of the line or of the text. -/
def lineRestAt (text : List Char) : Option (List Char) :=
  match skipComment (skipSpace text) with
  | [] => some []
  | rest => lineEndAt rest

/-- Behind blanks, comments and line ends, as they may stand in arrays. -/
def skipLines : (steps : Nat) → List Char → List Char
  | 0, text => text
  | steps + 1, text =>
    let rest := skipComment (skipSpace text)
    match lineEndAt rest with
    | some rest => skipLines steps rest
    | none => rest

/-- How deep arrays and tables may lie in each other, and how many names a key may have. -/
def depthLimit : Nat := 80

/-! ## §2. Keys. -/

/-- May the character stand in a name without quotes? -/
def isBare (c : Char) : Bool := c.isAlphanum || c = '_' || c = '-'

/-- One name of a key. -/
def nameAt (text : List Char) : Option (String × List Char) :=
  match text with
  | '"' :: _ | '\'' :: _ => textAt text false
  | text =>
    let name := text.takeWhile isBare
    if name.isEmpty then none else some (String.ofList name, text.drop name.length)

/-- The names of a key, with dots between. -/
def namesAt : (steps : Nat) → List Char → Option (List String × List Char)
  | 0, _ => none
  | steps + 1, text => do
    let (name, rest) ← nameAt (skipSpace text)
    match skipSpace rest with
    | '.' :: rest =>
      let (names, rest) ← namesAt steps rest
      return (name :: names, rest)
    | rest => return ([name], rest)

/-- A key: the names before the last one, and the last one. -/
def keyAt (text : List Char) : Option (List String × String × List Char) := do
  let (names, rest) ← namesAt text.length text
  if depthLimit ≤ names.length then none
  else return (names.dropLast, ← names.getLast?, rest)

/-! ## §3. Values. -/

mutual

/-- A value, at most `depth` deep. -/
def valueAt (depth : Nat) : (steps : Nat) → List Char → Option (Toml × List Char)
  | 0, _ => none
  | steps + 1, text =>
    match text with
    | '"' :: _ | '\'' :: _ => (textAt text true).map fun (s, rest) => (.string s, rest)
    | '[' :: rest =>
      if depth = 0 then none
      else (itemsAt (depth - 1) steps rest).map fun (items, rest) => (.array items, rest)
    | '\x7b' :: rest =>
      if depth = 0 then none
      else
        match skipSpace rest with
        | '\x7d' :: rest => some (.table [], rest)
        | rest => (pairsAt (depth - 1) steps [] rest).map fun (t, rest) => (t.toToml, rest)
    | text => scalarAt text

/-- The items of an array up to its end. A comma may stand behind the last one. -/
def itemsAt (depth : Nat) : (steps : Nat) → List Char → Option (List Toml × List Char)
  | 0, _ => none
  | steps + 1, text =>
    match skipLines text.length text with
    | ']' :: rest => some ([], rest)
    | text =>
      match valueAt depth steps text with
      | none => none
      | some (v, rest) =>
        match skipLines rest.length rest with
        | ',' :: rest => (itemsAt depth steps rest).map fun (vs, rest) => (v :: vs, rest)
        | ']' :: rest => some ([v], rest)
        | _ => none

/-- The pairs of a table in braces up to its end, added to those before. -/
def pairsAt (depth : Nat) : (steps : Nat) → Table → List Char → Option (Table × List Char)
  | 0, _, _ => none
  | steps + 1, pairs, text =>
    match keyAt text with
    | some (path, name, '=' :: rest) =>
      match valueAt depth steps (skipSpace rest) with
      | none => none
      | some (v, rest) =>
        match Table.add path name v pairs, skipSpace rest with
        | some pairs, ',' :: rest => pairsAt depth steps pairs rest
        | some pairs, '\x7d' :: rest => some (pairs, rest)
        | _, _ => none
    | _ => none

end

/-! ## §4. Lines. -/

/-- The document so far, and the path of the table that is open. -/
structure Reading where
  document : Table
  path : List String

/-- A header, behind its opening bracket. -/
def headerAt (r : Reading) (text : List Char) : Option (Reading × List Char) := do
  let (isElement, text) :=
    match text with
    | '[' :: rest => (true, rest)
    | text => (false, text)
  let (path, name, rest) ← keyAt text
  let rest ←
    match isElement, rest with
    | true, ']' :: ']' :: rest => some rest
    | false, ']' :: rest => some rest
    | _, _ => none
  let change := if isElement then Table.openElement name else Table.openTable name
  let document ← Table.inside path change r.document
  return (⟨document, path ++ [name]⟩, ← lineRestAt rest)

/-- A key and its value. -/
def pairAt (r : Reading) (text : List Char) : Option (Reading × List Char) := do
  let (path, name, rest) ← keyAt text
  let rest ← markAt '=' rest
  let (v, rest) ← valueAt (depthLimit - 1) (rest.length + 1) (skipSpace rest)
  let document ← Table.inside r.path (Table.add path name v) r.document
  return (⟨document, r.path⟩, ← lineRestAt rest)

/-- All lines. -/
def linesAt : (steps : Nat) → Reading → List Char → Option Reading
  | 0, r, text => if text.isEmpty then some r else none
  | steps + 1, r, text =>
    match skipSpace text with
    | [] => some r
    | '[' :: rest => (headerAt r rest).bind fun (r, rest) => linesAt steps r rest
    | c :: rest =>
      if c = '#' ∨ c = '\n' ∨ c = '\r' then (lineRestAt (c :: rest)).bind (linesAt steps r)
      else (pairAt r (c :: rest)).bind fun (r, rest) => linesAt steps r rest

/-- **The document of a text.** A mark of the byte order may stand in front. -/
def read (text : String) : Option Toml :=
  let text :=
    match text.toList with
    | '\ufeff' :: rest => rest
    | text => text
  (linesAt (text.length + 1) ⟨[], []⟩ text).map fun r => r.document.toToml

end RecordSearch.Toml
