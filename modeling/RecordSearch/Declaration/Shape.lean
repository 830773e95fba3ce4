/-
  RecordSearch.Declaration.Shape
  ──────────────────────────────
  **The shapes of declared fields.**

  A field is a value, a nested record (behind `Option` if it may be absent), or a collection, which
  must be a `Vec`. A type is one of these wrappers when the last name of its path is, and its first
  argument is a type.

      argumentOf wrapper type   — the type inside a wrapper
      readField f               — how a field is shown, or that it is skipped
      readItem item             — how the record is shown, or the first fault
-/
import RecordSearch.Declaration.Options

namespace RecordSearch.Declaration

open Code

/-! ## §1. Wrappers. -/

/-- The last segment of a path: its name and the code of its arguments. -/
structure Segment where
  name : String
  arguments : List Token

/-- The last segment of the path that the code consists of, at most so many segments. -/
def lastSegment : (steps : Nat) → List Token → Option Segment
  | 0, _ => none
  | steps + 1, code =>
    let behind (s : Segment) (rest : List Token) : Option Segment :=
      match rest with
      | [] => some s
      | .mark ':' :: .mark ':' :: rest => lastSegment steps rest
      | _ => none
    match code with
    | .name n :: .mark '<' :: rest | .name n :: .mark ':' :: .mark ':' :: .mark '<' :: rest =>
      (closeAt 0 rest).bind fun (inner, rest) => behind ⟨n, inner⟩ rest
    | .name n :: rest => behind ⟨n, []⟩ rest
    | _ => none

/-- The last segment of a type that is a path. -/
def typeSegment (type : List Token) : Option Segment :=
  match type with
  | .mark '<' :: rest =>
    match closeAt 0 rest with
    | some (_, .mark ':' :: .mark ':' :: rest) => lastSegment type.length rest
    | _ => none
  | .mark ':' :: .mark ':' :: rest => lastSegment type.length rest
  | type => lastSegment type.length type

/-- Is an argument a type? Lifetimes, constants and bindings of associated types are none. -/
def isType (argument : List Token) : Bool :=
  match argument with
  | [] => false
  | .mark '\'' :: .name _ :: rest => rest.head? = some (.mark '+')
  | .literal _ :: _ | .mark '-' :: .literal _ :: _ | .mark '\x7b' :: _ => false
  | .name "true" :: _ | .name "false" :: _ => false
  | .name _ :: rest =>
    let behind :=
      match rest with
      | .mark '<' :: rest =>
        match closeAt 0 rest with
        | some (_, rest) => rest
        | none => []
      | rest => rest
    match behind with
    | .mark '=' :: _ => false
    | .mark ':' :: .mark ':' :: _ => true
    | .mark ':' :: _ => false
    | _ => true
  | _ => true

/-- The type inside a wrapper of a given name. -/
def argumentOf (wrapper : String) (type : List Token) : Option (List Token) := do
  let segment ← typeSegment type
  let first ← (piecesAt ',' 0 segment.arguments).head?
  if segment.name = wrapper ∧ isType first then some first else none

/-! ## §2. Fields. -/

/-- How a field is shown. -/
inductive Shape where
  | value
  /-- A nested record of the target type. -/
  | nested (target : List Token) (isOptional : Bool)
  /-- A collection of records of the element type. -/
  | collection (element : List Token)
  deriving DecidableEq

/-- A field that is shown. -/
structure ShownField where
  name : String
  /-- The name of the member. -/
  path : String
  type : List Token
  shape : Shape
  deriving DecidableEq

/-- The shape of a field that is not skipped. -/
def shapeOf (o : Options) (type : List Token) : Except Fault Shape :=
  match o.nested, o.collection with
  | true, true => .error .nestedCollection
  | true, false =>
    match argumentOf "Option" type with
    | some target => .ok (.nested target true)
    | none => .ok (.nested type false)
  | false, true =>
    match argumentOf "Vec" type with
    | some element => .ok (.collection element)
    | none => .error .notVec
  | false, false => .ok .value

/-- **How a field is shown**, if it is. -/
def readField (f : FieldSource) : Except Fault (Option ShownField) := do
  let o ← readOptions f
  if o.skip then return none
  else return some ⟨f.name, o.path, f.type, ← shapeOf o f.type⟩

/-! ## §3. Records. -/

/-- A record that is shown. -/
structure ShownRecord where
  name : String
  generics : List Token
  whereClause : List Token
  fields : List ShownField

/-- The fields that are shown, up to the first fault. -/
def readFields (fs : List FieldSource) : Except Fault (List ShownField) := do
  return (← fs.mapM readField).filterMap id

/-- **How the record of an item is shown.** Of several faults, one of the item comes first, then
those of the fields in their order. -/
def readItem (item : Item) : Except Fault ShownRecord :=
  if item.attributes.any Attribute.isOurs then .error .attributeOnItem
  else
    match item.form with
    | .struct => do
      return ⟨item.name, item.generics, item.whereClause, ← readFields item.fields⟩
    | .tuple | .unit => .error .unnamedFields
    | .enum | .union => .error .notStruct

end RecordSearch.Declaration
