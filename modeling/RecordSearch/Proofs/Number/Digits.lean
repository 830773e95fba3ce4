/-
  RecordSearch.Proofs.Number.Digits
  ─────────────────────────────────
  **Digits are read back.**

  What readers of digits make of digits that were written, in base 10 and in base 16, whatever
  follows them:

      takeWhile_isDigit_append — where a run of digits ends
      head?_toDigits           — only zero starts with a zero
      hexNumber?_concat        — base 16, digit by digit
      int64?_toInt             — integers of 64 bits fit 64 bits
-/
import RecordSearch.Number.Digits
import RecordSearch.Number.Word

namespace RecordSearch

/-! ## §1. Base 10. -/

theorem toNat_of_isDigit {c : Char} (h : c.isDigit = true) : 48 ≤ c.toNat ∧ c.toNat ≤ 57 := by
  simp only [Char.isDigit, Bool.and_eq_true, decide_eq_true_eq, UInt32.le_iff_toNat_le] at h
  exact h

theorem isDigit_of_mem_toDigits {n : Nat} : ∀ c ∈ Nat.toDigits 10 n, c.isDigit = true :=
  fun _ hc => Nat.isDigit_of_mem_toDigits (by decide) (by decide) hc

/-- What passes the test ends where the first character behind it does not pass. -/
theorem takeWhile_append_of_head? {p : Char → Bool} {cs rest : List Char}
    (hrest : ∀ c ∈ rest.head?, p c = false) : (cs ++ rest).takeWhile p = cs.takeWhile p := by
  induction cs with
  | nil =>
      cases rest with
      | nil => rfl
      | cons c rest => exact List.takeWhile_cons_of_neg (by rw [hrest c rfl]; simp)
  | cons c cs ih => rw [List.cons_append, List.takeWhile_cons, List.takeWhile_cons, ih]

theorem takeWhile_isDigit_append {digits rest : List Char}
    (hdigits : ∀ c ∈ digits, c.isDigit = true) (hrest : ∀ c ∈ rest.head?, c.isDigit = false) :
    (digits ++ rest).takeWhile Char.isDigit = digits := by
  rw [takeWhile_append_of_head? hrest]
  have hall : (digits ++ []).takeWhile Char.isDigit = digits ++ [] :=
    List.takeWhile_append_of_pos hdigits
  rwa [List.append_nil] at hall

/-- **Only zero starts with a zero.** -/
theorem head?_toDigits {n : Nat} (hn : n ≠ 0) : (Nat.toDigits 10 n).head? ≠ some '0' := by
  induction n using Nat.strongRecOn with
  | _ n ih =>
      rcases Nat.lt_or_ge n 10 with hlt | hge
      · have hdigit : ∀ d < 10, d ≠ 0 → Nat.digitChar d ≠ '0' := by decide
        rw [Nat.toDigits_of_lt_base hlt]
        exact fun h => hdigit n hlt hn (Option.some.inj h)
      · have hfront := ih (n / 10) (Nat.div_lt_self (by omega) (by decide)) (by omega)
        obtain ⟨d, ds, hds⟩ := List.exists_cons_of_ne_nil (Nat.toDigits_ne_nil (n := n / 10))
        rw [Nat.toDigits_of_base_le (by decide) hge, hds]
        rw [hds] at hfront
        exact hfront

/-! ## §2. Base 16. -/

theorem hexValue?_digitChar : ∀ d < 16, hexValue? (Nat.digitChar d) = some d ∧
    Nat.digitChar d ≠ '_' ∧ Nat.digitChar d ≠ '\x7d' := by
  decide

theorem hexNumber?_concat (digits : List Char) (c : Char) :
    hexNumber? (digits ++ [c]) =
      (hexNumber? digits).bind fun n => (hexValue? c).map (16 * n + ·) := by
  rw [hexNumber?, List.foldlM_append]
  show (hexNumber? digits).bind _ = _
  cases hexNumber? digits with
  | none => rfl
  | some n => exact bind_pure _

/-! ## §3. Words. -/

theorem int64?_toInt (n : Int64) : int64? n.toInt = some n := by
  rw [int64?, if_pos ⟨n.minValue_le_toInt, n.toInt_le⟩, Int64.ofInt_toInt]

theorem uint64?_toNat (n : UInt64) : uint64? n.toNat = some n := by
  rw [uint64?, if_pos ⟨Int.natCast_nonneg _, Int.ofNat_lt.mpr n.toNat_lt⟩, Int.toNat_natCast,
    UInt64.ofNat_toNat]

end RecordSearch
