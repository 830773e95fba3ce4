/-
  RecordSearch.Config
  ───────────────────
  **Reading the configuration of searches.**

  The configuration is a document with two entries, both of which may be left out; other entries
  are ignored.

      reserved_words = ["Order", "Select"]
      log_predicates = false
-/
import RecordSearch.Search
import RecordSearch.Toml.Reader

namespace RecordSearch

namespace Toml

def asText? : Toml → Option String
  | .string s => some s
  | _ => none

def asBool? : Toml → Option Bool
  | .bool b => some b
  | _ => none

/-- An array of texts. -/
def asTexts? : Toml → Option (List String)
  | .array items => items.mapM asText?
  | _ => none

/-- An entry of a table; the default if it is left out. -/
def entryOr? {α : Type} (name : String) (value : α) (read : Toml → Option α) : Toml → Option α
  | .table entries =>
    match entries.lookup name with
    | some v => read v
    | none => some value
  | _ => none

end Toml

namespace SearchConfig

/-- The configuration of a document. -/
def ofToml? (document : Toml) : Option SearchConfig := do
  return ⟨← document.entryOr? "reserved_words" [] Toml.asTexts?,
    ← document.entryOr? "log_predicates" true Toml.asBool?⟩

/-- **The configuration of a text.** -/
def ofText (text : String) : Except SearchError SearchConfig :=
  match (Toml.read text).bind ofToml? with
  | some config => .ok config
  | none => .error .config

/-- The configuration of a file, of which the text is given if it can be read. -/
def ofFile (text : Option String) : Except SearchError SearchConfig :=
  match text with
  | some text => ofText text
  | none => .error .io

end SearchConfig

end RecordSearch
