/-
  RecordSearch.Json.Value
  ───────────────────────
  **Values in interchange form.**

  A value is an object of its type and its payload, `type` and `value`; null has no payload. Such
  an object may also be written as the array of the two.

      Value.toJson, Value.ofJson?   — the two directions
-/
import RecordSearch.Json
import RecordSearch.Calendar.Reader
import RecordSearch.Value

namespace RecordSearch

namespace Value

/-! ## §1. Writing. -/

/-- A value of a type with a payload. -/
def tagged (type : String) (payload : Json) : Json :=
  .object [("type", .text type), ("value", payload)]

mutual

/-- **The interchange form of a value.** -/
def toJson : Value → Json
  | .null => .object [("type", .text "null")]
  | .bool b => tagged "bool" (.bool b)
  | .int n => tagged "int" (.integer n.toInt)
  | .uint n => tagged "u_int" (.integer n.toNat)
  | .float x => tagged "float" (.float x)
  | .text s => tagged "text" (.text s)
  | .uuid u => tagged "uuid" (.text u.text)
  | .dateTime t => tagged "date_time" (.text t.interchangeText)
  | .date d => tagged "date" (.text d.text)
  | .list items => tagged "list" (.array (toJsonAll items))

/-- The interchange forms of the items of a list. -/
def toJsonAll : List Value → List Json
  | [] => []
  | v :: vs => v.toJson :: toJsonAll vs

end

/-! ## §2. Reading. -/

/-- The name of a type. -/
def typeName? (j : Json) : Option String := j.variant?

mutual

/-- **The value of an interchange form.** -/
def ofJson? : Json → Option Value
  | .object members =>
    match (members.lookup "type").bind typeName? with
    | some type => ofMembers type members
    | none => none
  | .array [tag, payload] =>
    match typeName? tag with
    | some type => ofPayload type payload
    | none => none
  | _ => none

/-- The value of a type whose payload, if any, is among the members. -/
def ofMembers (type : String) : List (String × Json) → Option Value
  | [] => if type = "null" then some .null else none
  | (name, payload) :: members =>
    if name = "value" then ofPayload type payload else ofMembers type members

/-- The value of a type with a payload. -/
def ofPayload (type : String) : Json → Option Value
  | .null => if type = "null" then some .null else none
  | .bool b => if type = "bool" then some (.bool b) else none
  | .integer n =>
    if type = "int" then (int64? n).map .int
    else if type = "u_int" then (uint64? n).map .uint
    else if type = "float" then some (.float (.ofInt n))
    else none
  | .float x => if type = "float" then some (.float x) else none
  | .text s =>
    if type = "text" then some (.text s)
    else if type = "uuid" then (Uuid.read s).map .uuid
    else if type = "date_time" then (Instant.read s).map .dateTime
    else if type = "date" then (Date.read s).map .date
    else none
  | .array items => if type = "list" then (ofItems items).map .list else none
  | .object _ => none

/-- The values of the items of a list. -/
def ofItems : List Json → Option (List Value)
  | [] => some []
  | j :: js =>
    match ofJson? j, ofItems js with
    | some v, some vs => some (v :: vs)
    | _, _ => none

end

end Value

end RecordSearch
