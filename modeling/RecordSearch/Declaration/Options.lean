/-
  RecordSearch.Declaration.Options
  ────────────────────────────────
  **How a field is shown.**

  The entries of a field's attributes are read in order; each changes the options or is the first
  fault of the field.

      readOptions field   — the options of a field
-/
import RecordSearch.Code.Lexer
import RecordSearch.Declaration

namespace RecordSearch.Declaration

open Code

/-- How a field is shown. -/
structure Options where
  /-- The name of the member. -/
  path : String
  skip : Bool := false
  nested : Bool := false
  collection : Bool := false
  deriving DecidableEq

/-! ## §1. Entries. -/

/-- Behind the first name of an entry: is its path longer, and what follows it? -/
def pathRest : List Token → Except Fault (Bool × List Token)
  | .mark ':' :: .mark ':' :: .name _ :: rest => (pathRest rest).map fun (_, rest) => (true, rest)
  | .mark ':' :: .mark ':' :: rest => .error (.expectedName rest.isEmpty)
  | rest => .ok (false, rest)

/-- Is the code a literal at the front? -/
def startsWithLiteral : List Token → Bool
  | .literal _ :: _ | .mark '-' :: .literal _ :: _ => true
  | _ => false

/-- The path of an entry, as its name when it is a single one, and what follows it. -/
def entryPath (code : List Token) : Except Fault (Option String × List Token) :=
  let (rooted, code) :=
    match code with
    | .mark ':' :: .mark ':' :: rest => (true, rest)
    | code => (false, code)
  match code with
  | .name n :: rest =>
    (pathRest rest).map fun (longer, rest) => (if rooted || longer then none else some n, rest)
  | [] => .error .missingEntry
  | code => .error (if startsWithLiteral code then .literalEntry else .strayEntry)

/-- The new name of a field, behind the word that announces it. -/
def newName : List Token → Except Fault (String × List Token)
  | .mark '=' :: rest =>
    match rest with
    | t :: rest =>
      match textValue? t with
      | some s => if s.isEmpty then .error .emptyName else .ok (s, rest)
      | none => .error (.expectedText false)
    | [] => .error (.expectedText true)
  | _ => .error (.expectedMark '=')

/-- The options after one entry, and what follows it. -/
def readEntry (o : Options) (code : List Token) : Except Fault (Options × List Token) := do
  let (name, rest) ← entryPath code
  match name with
  | some "skip" => return ({ o with skip := true }, rest)
  | some "nested" => return ({ o with nested := true }, rest)
  | some "collection" => return ({ o with collection := true }, rest)
  | some "rename" =>
    let (path, rest) ← newName rest
    return ({ o with path := path }, rest)
  | _ => throw .unknownEntry

/-- The options after entries with commas between; one may stand at the end. Each entry takes at
least one token. -/
def readEntries : (steps : Nat) → Options → List Token → Except Fault Options
  | 0, o, _ => .ok o
  | steps + 1, o, code => do
    let (o, rest) ← readEntry o code
    match rest with
    | [] | [.mark ','] => return o
    | .mark ',' :: rest => readEntries steps o rest
    | _ => throw (.expectedMark ',')

/-! ## §2. Attributes. -/

/-- The options after an attribute. Attributes for others change nothing. -/
def readAttribute (o : Options) (a : Attribute) : Except Fault Options :=
  if !a.isOurs then .ok o
  else
    match a.arguments with
    | .none => .error .noArguments
    | .assigned => .error .assigned
    | .list [] => .ok o
    | .list code => readEntries code.length o code

/-- A name without the mark of raw names. -/
def plainName (name : String) : String :=
  match name.toList with
  | 'r' :: '#' :: rest => String.ofList rest
  | _ => name

/-- **The options of a field.** Without a new name it is shown under its own. -/
def readOptions (f : FieldSource) : Except Fault Options :=
  f.attributes.foldlM readAttribute { path := plainName f.name }

end RecordSearch.Declaration
