/-
  RecordSearch.Proofs.Declaration.Literal
  ───────────────────────────────────────
  **Text literals in emitted code are read back.**

  Names go into code as text literals.  Whatever characters a name consists of, the literal stands
  for it:

      hexDigits_spec         — a code in base 16 is read back, and nothing in it ends the code
      unescape_visible       — one character is read back
      textValue?_textLiteral — a text is read back
-/
import Mathlib.Tactic.SplitIfs
import RecordSearch.Code.Lexer
import RecordSearch.Proofs.Number.Digits

namespace RecordSearch

open Code Text

/-! ## §1. Codes. -/

/-- The last digit is the remainder, those before it are the quotient's. -/
theorem hexDigits_spec (n : Nat) :
    hexNumber? (hexDigits n) = some n ∧ ∀ c ∈ hexDigits n, c ≠ '_' ∧ c ≠ '\x7d' := by
  induction n using Nat.strongRecOn with
  | _ n ih =>
      rcases Nat.lt_or_ge n 16 with hn | hn
      · obtain ⟨hvalue, hplain⟩ := hexValue?_digitChar n hn
        rw [hexDigits, Nat.toDigits_of_lt_base hn]
        refine ⟨?_, fun d hd => List.mem_singleton.mp hd ▸ hplain⟩
        have hsingle := hexNumber?_concat [] (Nat.digitChar n)
        rwa [hvalue, show hexNumber? [] = some 0 from rfl, Option.bind_some, Option.map_some,
          Nat.mul_zero, Nat.zero_add] at hsingle
      · obtain ⟨hfront, hfrontPlain⟩ := ih (n / 16) (Nat.div_lt_self (by omega) (by decide))
        obtain ⟨hvalue, hplain⟩ := hexValue?_digitChar (n % 16) (Nat.mod_lt n (by decide))
        rw [hexDigits, Nat.toDigits_of_base_le (by decide) hn]
        rw [hexDigits] at hfront hfrontPlain
        refine ⟨?_, ?_⟩
        · rw [hexNumber?_concat, hfront, hvalue]
          show some (16 * (n / 16) + n % 16) = some n
          rw [Nat.div_add_mod]
        · intro c hc
          rcases List.mem_append.mp hc with hc | hc
          · exact hfrontPlain c hc
          · obtain rfl := List.mem_singleton.mp hc
            exact hplain

theorem codedChar?_hexDigits (c : Char) : codedChar? (hexDigits c.toNat) = some c := by
  obtain ⟨hvalue, hplain⟩ := hexDigits_spec c.toNat
  have hfilter : (hexDigits c.toNat).filter (· ≠ '_') = hexDigits c.toNat :=
    List.filter_eq_self.mpr fun d hd => by simpa using (hplain d hd).1
  rw [codedChar?, hfilter, hvalue]
  exact congrArg some (Char.ofNat_toNat c)

/-! ## §2. Characters. -/

theorem unescape_byCode (c : Char) (steps : Nat) (rest : List Char) :
    Code.unescape (steps + 1) (byCode c ++ rest) = (Code.unescape steps rest).map (c :: ·) := by
  have hplain : ∀ d ∈ hexDigits c.toNat, decide (d ≠ '\x7d') = true := fun d hd => by
    simpa using ((hexDigits_spec c.toNat).2 d hd).2
  have hdigits : (hexDigits c.toNat ++ '\x7d' :: rest).takeWhile (· ≠ '\x7d') =
      hexDigits c.toNat := by
    rw [List.takeWhile_append_of_pos hplain]
    simp
  have hrest : (hexDigits c.toNat ++ '\x7d' :: rest).drop ((hexDigits c.toNat).length + 1) =
      rest := by
    rw [List.drop_append, Nat.add_sub_cancel_left, List.drop_eq_nil_of_le (Nat.le_succ _)]
    rfl
  rw [byCode, List.cons_append, List.cons_append, List.cons_append, List.append_assoc,
    List.singleton_append, Code.unescape]
  dsimp only
  rw [hdigits, codedChar?_hexDigits, Option.bind_some, hrest]

theorem unescape_plain {c : Char} (hquote : c ≠ '"') (hslash : c ≠ '\\') (hreturn : c ≠ '\r')
    (steps : Nat) (rest : List Char) :
    Code.unescape (steps + 1) (c :: rest) = (Code.unescape steps rest).map (c :: ·) := by
  -- Every other way of reading starts with a character that `c` is not.
  rw [Code.unescape] <;> intros <;> contradiction

/-- A character that is written out stands for itself. -/
theorem unescape_visible (c : Char) (steps : Nat) (rest : List Char) :
    Code.unescape (steps + 1) (visible c ++ rest) = (Code.unescape steps rest).map (c :: ·) := by
  unfold visible
  split_ifs with hzero htab hreturn hline hquote hcode
  · subst hzero
    rfl
  · subst htab
    rfl
  · subst hreturn
    rfl
  · subst hline
    rfl
  · rcases hquote with rfl | rfl <;> rfl
  · exact unescape_byCode c steps rest
  · obtain ⟨hquote, hslash⟩ := not_or.mp hquote
    exact unescape_plain hquote hslash hreturn steps rest

/-! ## §3. Texts. -/

theorem length_visible_pos (c : Char) : 0 < (visible c).length := by
  unfold visible
  split_ifs <;> exact Nat.succ_pos _

/-- The literal is no shorter than its text, so its length bounds the steps that reading takes. -/
theorem length_le_literalChars (cs : List Char) : cs.length ≤ (literalChars cs).length := by
  induction cs with
  | nil => exact Nat.zero_le _
  | cons c cs ih =>
      have hc := length_visible_pos c
      rw [literalChars]
      split_ifs
      · simp only [List.length_cons, List.cons_append, List.nil_append]
        omega
      · rw [List.length_append, List.length_cons]
        omega

theorem unescape_literalChars (cs : List Char) {steps : Nat} (h : cs.length < steps) :
    Code.unescape steps (literalChars cs ++ ['"']) = some cs := by
  induction cs generalizing steps with
  | nil =>
      obtain ⟨steps, rfl⟩ := Nat.exists_eq_add_one.mpr h
      rfl
  | cons c cs ih =>
      obtain ⟨steps, rfl⟩ := Nat.exists_eq_add_one.mpr (Nat.zero_lt_of_lt h)
      have hrest := ih (Nat.lt_of_succ_lt_succ h)
      rw [literalChars]
      split_ifs with hzero
      · -- The code zero before a digit is written out in two digits.
        obtain ⟨rfl, -⟩ := hzero
        show (Code.unescape steps (literalChars cs ++ ['"'])).map _ = _
        rw [hrest]
        rfl
      · rw [List.append_assoc, unescape_visible, hrest]
        rfl

/-- **A text literal stands for its text.** -/
theorem textValue?_textLiteral (s : String) : textValue? (textLiteral s) = some s := by
  have hsteps : s.toList.length < (literalChars s.toList ++ ['"']).length + 1 := by
    have hle := length_le_literalChars s.toList
    rw [List.length_append, List.length_singleton]
    omega
  have hread := unescape_literalChars s.toList hsteps
  rw [textLiteral, textValue?]
  simp only [String.toList_ofList, String.length_ofList, List.length_cons, hread, Option.map_some,
    String.ofList_toList]

end RecordSearch
