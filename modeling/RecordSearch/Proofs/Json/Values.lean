/-
  RecordSearch.Proofs.Json.Values
  ───────────────────────────────
  **Values are read back from their interchange forms.**

  A type is carried by interchange text when two things hold of the form of each of its values:
  the form is read as the value, and nothing of the form is lost in its text (`Json.Carries`); then
  the value is read back from the text (`Carries.roundTrips`), unless the form is deeper than a
  reader of texts goes.
  Lists and optional values are carried when what they hold is.

      Uuid.read_text                — an identifier, from its text
      Value.ofJson?_toJson          — a value of any depth, from its form
      Value.carries                 — the same from its text, if its floating-point numbers are

  The form of a value names its type, so no two types share a form: `int 1` is not `u_int 1`.
-/
import RecordSearch.Json.Value
import RecordSearch.Proofs.Calendar.ReadBack
import RecordSearch.Proofs.Json.Text

namespace RecordSearch

/-! ## §1. Carrying. -/

namespace Json

variable {α : Type}

/-- **The form of a value is read as the value, and nothing of it is lost in its text.** -/
structure Carries (toJson : α → Json) (ofJson? : Json → Option α) (a : α) : Prop where
  form : ofJson? (toJson a) = some a
  faithful : (toJson a).Faithful

/-- **The value is read back**, from its form, and from the text of its form if that is not too
deep.  A text that is too deep is refused. -/
structure RoundTrips (toJson : α → Json) (ofJson? : Json → Option α) (a : α) : Prop where
  form : ofJson? (toJson a) = some a
  text : (toJson a).depth ≤ maxDepth → (read (toJson a).write).bind ofJson? = some a
  refused : maxDepth < (toJson a).depth → read (toJson a).write = none

theorem Carries.roundTrips {toJson : α → Json} {ofJson? : Json → Option α} {a : α}
    (h : Carries toJson ofJson? a) : RoundTrips toJson ofJson? a where
  form := h.form
  text hdepth := by rw [h.faithful.read_write hdepth, Option.bind_some, h.form]
  refused := h.faithful.read_write_deep

/-- Items without items of their own. -/
theorem depthOfItems_map {toJson : α → Json} (h : ∀ a, (toJson a).depth = 0) (as : List α) :
    depthOfItems (as.map toJson) = 0 := by
  induction as with
  | nil => rfl
  | cons a as ih => rw [List.map_cons, depthOfItems, h, ih]; rfl

theorem carries_text (s : String) : Carries .text asText? s := ⟨rfl, .text s⟩

theorem carries_bool (b : Bool) : Carries .bool asBool? b := ⟨rfl, .bool b⟩

theorem carries_int64 (n : Int64) : Carries (fun n => .integer n.toInt) asInt64? n :=
  ⟨int64?_toInt n, .integer (.inl (by rw [int64?_toInt]; rfl))⟩

theorem carries_uint64 (n : UInt64) : Carries (fun n => .integer n.toNat) asUInt64? n :=
  ⟨uint64?_toNat n, .integer (.inr (by rw [uint64?_toNat]; rfl))⟩

/-- Lists are carried item by item. -/
theorem carries_list {toJson : α → Json} {ofJson? : Json → Option α} {as : List α}
    (h : ∀ a ∈ as, Carries toJson ofJson? a) :
    Carries (fun as => .array (as.map toJson)) (listOf ofJson?) as := by
  refine ⟨?_, .array fun j hj => ?_⟩
  · show (as.map toJson).mapM ofJson? = some as
    induction as with
    | nil => rfl
    | cons a as ih =>
        rw [List.map_cons, List.mapM_cons, (h a List.mem_cons_self).form,
          ih fun b hb => h b (List.mem_cons_of_mem _ hb)]
        rfl
  · obtain ⟨a, ha, rfl⟩ := List.mem_map.mp hj
    exact (h a ha).faithful

/-- A value that may be absent: absence is null, and nothing that is there is. -/
theorem orNull_some {ofJson? : Json → Option α} {j : Json} {a : α} (h : ofJson? j = some a)
    (hnull : j ≠ .null) : j.orNull ofJson? = some (some a) := by
  cases j with
  | null => exact absurd rfl hnull
  | _ => exact congrArg (Option.map some) h

end Json

/-! ## §2. Identifiers. -/

namespace Uuid

/-- The digits at the front are the number without its lower digits. -/
theorem hexNumber?_digits (u : Uuid) {count : Nat} (hcount : count ≤ 32) :
    hexNumber? ((List.range count).map fun i =>
        Nat.digitChar ((u.bits >>> (4 * (31 - i))).toNat % 16)) =
      some (u.bits.toNat / 16 ^ (32 - count)) := by
  induction count with
  | zero =>
      rw [Nat.div_eq_of_lt (Nat.lt_of_lt_of_le u.bits.isLt (by decide))]
      rfl
  | succ count ih =>
      obtain ⟨place, hplace, hlast⟩ : ∃ place, 32 - count = place + 1 ∧ 31 - count = place :=
        ⟨31 - count, by omega, rfl⟩
      have hdigit : (u.bits >>> (4 * place)).toNat = u.bits.toNat / 16 ^ place := by
        rw [BitVec.toNat_ushiftRight, Nat.shiftRight_eq_div_pow, Nat.pow_mul]
      rw [List.range_succ, List.map_append, List.map_singleton, hexNumber?_concat, ih (by omega),
        hplace, hlast, hdigit, (hexValue?_digitChar _ (Nat.mod_lt _ (by decide))).1,
        show 32 - (count + 1) = place by omega, Nat.pow_succ, ← Nat.div_div_eq_div_mul]
      show some (16 * (u.bits.toNat / 16 ^ place / 16) + u.bits.toNat / 16 ^ place % 16) = _
      rw [Nat.div_add_mod]

theorem length_digits (u : Uuid) : u.digits.length = 32 := by
  rw [digits, List.length_map, List.length_range]

theorem readDigits_digits (u : Uuid) : readDigits u.digits = some u := by
  have hread := u.hexNumber?_digits (Nat.le_refl 32)
  rw [Nat.sub_self, Nat.pow_zero, Nat.div_one] at hread
  rw [readDigits, if_pos u.length_digits]
  unfold digits
  rw [hread, Option.map_some, BitVec.ofNat_toNat, BitVec.setWidth_eq]

/-- Groups with hyphens between are read as the digits of all of them. -/
theorem readHyphenated_groups {a b c d e : List Char} (ha : a.length = 8) (hb : b.length = 4)
    (hc : c.length = 4) (hd : d.length = 4) (he : e.length = 12) :
    readHyphenated (a ++ '-' :: b ++ '-' :: c ++ '-' :: d ++ '-' :: e) =
      readDigits (a ++ b ++ c ++ d ++ e) := by
  have hmarks : (a ++ '-' :: b ++ '-' :: c ++ '-' :: d ++ '-' :: e).length = 36 ∧
      [8, 13, 18, 23].all (fun i =>
        (a ++ '-' :: b ++ '-' :: c ++ '-' :: d ++ '-' :: e)[i]? = some '-') := by
    simp [ha, hb, hc, hd, he, List.getElem?_append]
  rw [readHyphenated, if_pos hmarks]
  simp (disch := omega) [ha, hb, hc, hd, List.drop_append, List.drop_eq_nil_of_le]

/-- **An identifier is read back.** -/
theorem read_text (u : Uuid) : read u.text = some u := by
  have hdigits := u.length_digits
  have hlength : u.text.toList.length = 36 := by simp [text, hdigits]
  have hgroups := readHyphenated_groups (a := u.digits.take 8) (b := (u.digits.drop 8).take 4)
    (c := (u.digits.drop 12).take 4) (d := (u.digits.drop 16).take 4) (e := u.digits.drop 20)
    (by simp [hdigits]) (by simp [hdigits]) (by simp [hdigits]) (by simp [hdigits])
    (by simp [hdigits])
  -- The groups side by side are all digits.
  rw [← List.take_add, ← List.take_add, ← List.take_add, List.take_append_drop,
    readDigits_digits] at hgroups
  simp only [read, hlength]
  rw [← hgroups, text, String.toList_ofList]

end Uuid

/-! ## §3. Values. -/

namespace Value

mutual

/-- The floating-point numbers in a value. -/
def floats : Value → List Binary64
  | .float x => [x]
  | .list items => floatsOfAll items
  | _ => []

/-- The floating-point numbers in the items of a list. -/
def floatsOfAll : List Value → List Binary64
  | [] => []
  | v :: vs => v.floats ++ floatsOfAll vs

end

theorem ofJson?_tagged (type : String) (payload : Json) :
    ofJson? (tagged type payload) = ofPayload type payload := rfl

mutual

/-- **A value is read back from its form.** -/
theorem ofJson?_toJson : ∀ v : Value, ofJson? v.toJson = some v
  | .null => rfl
  | .bool _ | .float _ | .text _ => rfl
  | .int n => by
      rw [toJson, ofJson?_tagged, ofPayload, if_pos rfl, int64?_toInt]
      rfl
  | .uint n => by
      rw [toJson, ofJson?_tagged, ofPayload, if_neg (by decide), if_pos rfl, uint64?_toNat]
      rfl
  | .uuid u => by
      rw [toJson, ofJson?_tagged, ofPayload, if_neg (by decide), if_pos rfl, u.read_text]
      rfl
  | .dateTime t => by
      rw [toJson, ofJson?_tagged, ofPayload, if_neg (by decide), if_neg (by decide), if_pos rfl,
        t.read_interchangeText]
      rfl
  | .date d => by
      rw [toJson, ofJson?_tagged, ofPayload, if_neg (by decide), if_neg (by decide),
        if_neg (by decide), if_pos rfl, d.read_text]
      rfl
  | .list items => by
      rw [toJson, ofJson?_tagged, ofPayload, if_pos rfl, ofItems_toJsonAll items]
      rfl

theorem ofItems_toJsonAll : ∀ vs : List Value, ofItems (toJsonAll vs) = some vs
  | [] => rfl
  | v :: vs => by rw [toJsonAll, ofItems, ofJson?_toJson v, ofItems_toJsonAll vs]

end

theorem faithful_tagged {type : String} {payload : Json} (h : payload.Faithful) :
    (tagged type payload).Faithful :=
  .object (show ["type", "value"].Nodup by decide)
    (Json.faithful_cons (.text type) (Json.faithful_cons h Json.faithful_nil))

mutual

theorem faithful_toJson : ∀ v : Value, (∀ x ∈ v.floats, x.ReadsBack) → v.toJson.Faithful
  | .null, _ => .object (by decide) (Json.faithful_cons (.text "null") Json.faithful_nil)
  | .bool b, _ => faithful_tagged (.bool b)
  | .int n, _ => faithful_tagged (Json.carries_int64 n).faithful
  | .uint n, _ => faithful_tagged (Json.carries_uint64 n).faithful
  | .float x, h => faithful_tagged (.float (h x List.mem_cons_self))
  | .text s, _ => faithful_tagged (.text s)
  | .uuid u, _ => faithful_tagged (.text u.text)
  | .dateTime t, _ => faithful_tagged (.text t.interchangeText)
  | .date d, _ => faithful_tagged (.text d.text)
  | .list items, h => faithful_tagged (.array (faithful_toJsonAll items h))

theorem faithful_toJsonAll : ∀ vs : List Value, (∀ x ∈ floatsOfAll vs, x.ReadsBack) →
    ∀ j ∈ toJsonAll vs, j.Faithful
  | [], _, _, hj => absurd hj List.not_mem_nil
  | v :: vs, h, j, hj => by
      rw [floatsOfAll, List.forall_mem_append] at h
      rw [toJsonAll] at hj
      rcases List.mem_cons.mp hj with rfl | hj
      · exact faithful_toJson v h.1
      · exact faithful_toJsonAll vs h.2 j hj

end

/-- **A value is carried if its floating-point numbers are.** -/
theorem carries {v : Value} (h : ∀ x ∈ v.floats, x.ReadsBack) : Json.Carries toJson ofJson? v :=
  ⟨v.ofJson?_toJson, v.faithful_toJson h⟩

theorem toJsonAll_eq_map (vs : List Value) : toJsonAll vs = vs.map toJson := by
  induction vs with
  | nil => rfl
  | cons v vs ih => rw [toJsonAll, ih, List.map_cons]

end Value

end RecordSearch
