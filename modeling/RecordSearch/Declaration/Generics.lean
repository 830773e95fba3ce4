/-
  RecordSearch.Declaration.Generics
  ─────────────────────────────────
  **Parameters of generic records.**

  The parameters of a declaration come back in two forms: with bounds and without defaults where
  they are introduced, and as bare names where they are used. In both, lifetimes come first, and
  each parameter keeps the comma that it had.

      introduced, used   — the two forms
      recordClause       — the where clause under which the record can be searched
-/
import RecordSearch.Declaration.Shape

namespace RecordSearch.Declaration

open Code

/-- The kinds of parameters. -/
inductive ParameterKind where
  | lifetime
  | type
  | constant
  deriving DecidableEq

/-- A parameter of a generic record. -/
structure Parameter where
  kind : ParameterKind
  /-- The name where it is used. -/
  name : List Token
  /-- Name, bounds or type where it is introduced. -/
  introduction : List Token
  /-- Did a comma follow? -/
  comma : Bool

/-! ## §1. Reading. -/

/-- A name with its bounds, if there are any. -/
def withBounds (name rest : List Token) : List Token :=
  match rest with
  | .mark ':' :: bound :: bounds => name ++ .mark ':' :: bound :: bounds
  | _ => name

/-- A parameter by its code, without its comma. -/
def Parameter.ofCode (code : List Token) (comma : Bool) : Parameter :=
  let code := ((piecesAt '=' 0 code).head?).getD []
  match code with
  | .mark '\'' :: n :: rest =>
    ⟨.lifetime, [.mark '\'', n], withBounds [.mark '\'', n] rest, comma⟩
  | .name "const" :: n :: _ => ⟨.constant, [n], code, comma⟩
  | n :: rest => ⟨.type, [n], withBounds [n] rest, comma⟩
  | [] => ⟨.type, [], [], comma⟩

/-- The parameters of pieces; each but the last is followed by a comma. -/
def parametersOf : List (List Token) → List Parameter
  | [] | [[]] => []
  | [code] => [.ofCode code false]
  | code :: rest => .ofCode code true :: parametersOf rest

/-- The parameters between angle brackets. -/
def parameters (generics : List Token) : List Parameter :=
  match generics with
  | .mark '<' :: rest => parametersOf (piecesAt ',' 0 rest.dropLast)
  | _ => []

/-! ## §2. Writing. -/

/-- A parameter in one of its forms, with its comma. -/
def Parameter.code (form : Parameter → List Token) (p : Parameter) : List Token :=
  form p ++ (if p.comma then [.mark ','] else [])

/-- The parameters in one of their forms, lifetimes first. A comma is put behind the lifetimes if
the last one had none and something follows. -/
def parameterList (form : Parameter → List Token) (ps : List Parameter) : List Token :=
  let lifetimes := ps.filter (·.kind = .lifetime)
  let others := ps.filter (·.kind ≠ .lifetime)
  let missing := lifetimes.getLast?.any (!·.comma) && !others.isEmpty
  if ps.isEmpty then []
  else
    .mark '<' :: (lifetimes.flatMap (·.code form) ++ (if missing then [.mark ','] else []) ++
      others.flatMap (·.code form) ++ [.mark '>'])

/-- The parameters where they are introduced. -/
def introduced (ps : List Parameter) : List Token := parameterList (·.introduction) ps

/-- The parameters where they are used. -/
def used (ps : List Parameter) : List Token := parameterList (·.name) ps

/-! ## §3. Where clauses. -/

/-- The code behind the keyword of a where clause. -/
def predicatesCode (clause : List Token) : List Token := clause.drop 1

/-- The where clause as it was declared; without predicates it is nothing. -/
def declaredClause (clause : List Token) : List Token :=
  if (predicatesCode clause).isEmpty then [] else clause

/-- What the type of a field must be for the record to be searched. -/
def ShownField.bound (f : ShownField) : List Token :=
  match f.shape with
  | .value => f.type ++ template ": ::sieve::FieldValue"
  | .nested target _ => target ++ template ": ::sieve::Record"
  | .collection element => element ++ template ": ::sieve::Record"

/-- The where clause under which a record can be searched: that of a generic record asks for
searchable fields. -/
def recordClause (r : ShownRecord) : List Token :=
  if (parameters r.generics).isEmpty then declaredClause r.whereClause
  else
    let declared := (piecesAt ',' 0 (predicatesCode r.whereClause)).filter (!·.isEmpty)
    template "where" ++
      (declared ++ r.fields.map ShownField.bound).flatMap fun p => p ++ [.mark ',']

end RecordSearch.Declaration
