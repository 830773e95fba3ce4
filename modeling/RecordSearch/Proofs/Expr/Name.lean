/-
  RecordSearch.Proofs.Expr.Name
  ─────────────────────────────
  **The characters of names.**

  A name is told apart from what stands around it by its characters alone.  The classes of
  characters that meet in predicate text:

    • the first character of a name is no blank, no space and no digit,
    • a digit may stand in a name, a dot may not,
    • a keyword is reserved in every dialect of words.
-/
import RecordSearch.Dialect
import RecordSearch.Expr.Token
import RecordSearch.Proofs.Number.Digits

namespace RecordSearch

/-! ## §1. Tables of code points. -/

theorem Text.Ranges.exists_of_holds {rs : Text.Ranges} {n : Nat} (h : rs.holds n = true) :
    ∃ r ∈ rs, r.1 ≤ n ∧ n ≤ r.2 := by
  induction rs with
  | nil => simp [Text.Ranges.holds] at h
  | cons r rs ih =>
      obtain ⟨low, high⟩ := r
      simp only [Text.Ranges.holds] at h
      split at h
      · exact absurd h (by simp)
      · split at h
        · exact ⟨(low, high), by simp, by simp; omega⟩
        · obtain ⟨r, hr, hn⟩ := ih h
          exact ⟨r, List.mem_cons_of_mem _ hr, hn⟩

/-- The table of blanks is short, so its code points can be looked up one by one. -/
theorem Text.not_alphabetic_of_blank_range :
    ∀ r ∈ Text.blankRanges, ∀ n ∈ List.range' r.1 (r.2 - r.1 + 1),
      Text.alphabeticRanges.holds n = false := by
  decide +kernel

/-- Among the first 128 characters the letters begin with the capitals. -/
theorem Text.le_toNat_of_isAlpha {c : Char} (h : c.isAlpha = true) : 65 ≤ c.toNat := by
  have hletter : (decide (65 ≤ c.val ∧ c.val ≤ 90) ||
      decide (97 ≤ c.val) && decide (c.val ≤ 122)) = true := h
  simp only [Bool.or_eq_true, Bool.and_eq_true, decide_eq_true_eq, UInt32.le_iff_toNat_le]
    at hletter
  rcases hletter with hcapital | hsmall
  · exact hcapital.1
  · exact Nat.le_trans (by decide) hsmall.1

/-- **No letter is a blank.** -/
theorem Text.isBlank_of_isAlphabetic {c : Char} (h : Text.isAlphabetic c = true) :
    Text.isBlank c = false := by
  unfold Text.isAlphabetic at h
  unfold Text.isBlank
  by_cases hc : c.toNat < 128
  · rw [if_pos hc] at h ⊢
    have hn : 65 ≤ c.toNat := Text.le_toNat_of_isAlpha h
    simp only [Bool.or_eq_false_iff, Bool.and_eq_false_imp, beq_eq_false_iff_ne,
      decide_eq_true_eq, decide_eq_false_iff_not]
    omega
  · rw [if_neg hc] at h ⊢
    rw [Bool.eq_false_iff]
    intro hb
    -- Both classes are tables here: the code point lies in a range of blanks.
    obtain ⟨r, hr, hlow, hhigh⟩ := Text.Ranges.exists_of_holds hb
    have hmem : c.toNat ∈ List.range' r.1 (r.2 - r.1 + 1) := by
      rw [List.mem_range'_1]
      omega
    rw [Text.not_alphabetic_of_blank_range r hr c.toNat hmem] at h
    exact absurd h (by simp)

/-! ## §2. Characters of names. -/

theorem isBlank_of_isNameStart {c : Char} (h : isNameStart c = true) : Text.isBlank c = false := by
  simp only [isNameStart, Bool.or_eq_true, decide_eq_true_eq] at h
  rcases h with h | h
  · exact Text.isBlank_of_isAlphabetic h
  · subst h
    decide

theorem isSpace_of_isNameStart {c : Char} (h : isNameStart c = true) : isSpace c = false := by
  rw [Bool.eq_false_iff]
  intro hs
  simp only [isSpace, Bool.or_eq_true, decide_eq_true_eq] at hs
  rcases hs with ((hs | hs) | hs) | hs <;> subst hs <;> exact absurd h (by decide)

theorem isNamePart_of_isDigit {c : Char} (h : c.isDigit = true) : isNamePart c = true := by
  have hc := toNat_of_isDigit h
  have hn : Text.isNumeral c = true := by
    rw [Text.isNumeral, if_pos (by omega)]
    exact h
  simp [isNamePart, hn]

theorem isDigit_of_isNameStart {c : Char} (h : isNameStart c = true) : c.isDigit = false := by
  rw [Bool.eq_false_iff]
  intro hd
  have hc := toNat_of_isDigit hd
  simp only [isNameStart, Text.isAlphabetic, Bool.or_eq_true, decide_eq_true_eq] at h
  rw [if_pos (by omega)] at h
  rcases h with h | h
  · exact absurd (Nat.le_trans (Text.le_toNat_of_isAlpha h) hc.2) (by decide)
  · subst h
    exact absurd hc.2 (by decide)

/-! ## §3. Names. -/

theorem isName_cons {c : Char} {cs : List Char} :
    isName (c :: cs) = true ↔ isNameStart c = true ∧ ∀ x ∈ cs, isNamePart x = true := by
  simp [isName, List.all_eq_true]

/-! ## §4. Reserved words. -/

theorem Dialect.reserved_ofWords_of_keyword {words : List String} {name : String}
    (h : isKeyword name = true) : (Dialect.ofWords words).isReserved name = true := by
  have hsub : ∀ word ∈ keywords, word ∈ builtinReserved := by decide
  simp only [isKeyword, List.contains_iff_mem] at h
  simp only [Dialect.isReserved, Dialect.ofWords, List.contains_iff_mem, List.mem_append]
  exact Or.inl (hsub _ h)

end RecordSearch
