/-
  RecordSearch.Proofs.Json.Tokens
  ───────────────────────────────
  **Interchange text is cut as it was written.**

  Written values stand one behind the other without spaces, so each token must end where the next
  one starts.  Marks, words and texts end by themselves.  A number ends where the character behind
  it does not go on with it; behind a value stand only the characters that separate or close
  (`Ends`), and none of these does.

      Cuts text ts rest       — in front of the rest, the text is cut into these tokens
      codesAt_quoted          — a text, whatever its characters, is read up to its closing quote
      numberAt_append         — a number is the same with more text behind it
      numberAt_integer        — an integer of 64 bits is read back
-/
import Mathlib.Tactic.SplitIfs
import RecordSearch.Json.Printer
import RecordSearch.Json.Reader
import RecordSearch.Proofs.Number.Digits

namespace RecordSearch.Json

/-! ## §1. Cutting. -/

/-- In front of the rest, the text is cut into these tokens.  As many steps as there are characters
suffice, and leave enough of them for the rest. -/
def Cuts (text : List Char) (ts : List Token) (rest : List Char) : Prop :=
  ∀ steps, (text ++ rest).length ≤ steps → ∃ steps', rest.length ≤ steps' ∧
    tokens steps (text ++ rest) = (tokens steps' rest).map (ts ++ ·)

/-- Nothing follows, or a character that separates values or closes something. -/
def Ends (rest : List Char) : Prop := ∀ c ∈ rest.head?, c = ',' ∨ c = ']' ∨ c = '\x7d'

theorem Cuts.append {a b rest : List Char} {ts us : List Token} (ha : Cuts a ts (b ++ rest))
    (hb : Cuts b us rest) : Cuts (a ++ b) (ts ++ us) rest := by
  intro steps hsteps
  rw [List.append_assoc] at hsteps ⊢
  obtain ⟨steps₁, hsteps₁, htokens₁⟩ := ha steps hsteps
  obtain ⟨steps₂, hsteps₂, htokens₂⟩ := hb steps₁ hsteps₁
  refine ⟨steps₂, hsteps₂, ?_⟩
  rw [htokens₁, htokens₂, Option.map_map]
  refine congrArg (Option.map · _) (funext fun vs => ?_)
  rw [Function.comp_apply, List.append_assoc]

theorem Cuts.token {c : Char} {cs rest : List Char} {t : Token} (hspace : isSpace c = false)
    (hat : tokenAt c (cs ++ rest) = some (t, rest)) : Cuts (c :: cs) [t] rest := by
  intro steps hsteps
  rw [List.cons_append, List.length_cons, List.length_append] at hsteps
  obtain ⟨steps, rfl⟩ := Nat.exists_eq_add_one.mpr (Nat.lt_of_lt_of_le (Nat.succ_pos _) hsteps)
  refine ⟨steps, by omega, ?_⟩
  rw [List.cons_append, tokens, if_neg (by rw [hspace]; exact Bool.false_ne_true), hat]
  show ((tokens steps rest).bind fun ts => some (t :: ts)) = _
  cases tokens steps rest <;> rfl

theorem Cuts.tokens_eq {text : List Char} {ts : List Token} (h : Cuts text ts []) :
    tokens text.length text = some ts := by
  obtain ⟨steps, -, htokens⟩ := h text.length (by simp)
  rw [List.append_nil] at htokens
  rw [htokens]
  cases steps <;> simp [tokens]

/-! ## §2. Words. -/

theorem cuts_null (rest : List Char) : Cuts "null".toList [.scalar .null] rest := .token rfl rfl

theorem cuts_bool (b : Bool) (rest : List Char) :
    Cuts (write (.bool b)).toList [.scalar (.bool b)] rest := by
  cases b <;> exact .token rfl rfl

/-! ## §3. Texts. -/

/-- The code of a control character has two digits behind two zeros. -/
theorem hexNumber?_code {n : Nat} (hn : n < 32) :
    hexNumber? ['0', '0', Nat.digitChar (n / 16), Nat.digitChar (n % 16)] = some n := by
  have hfront := hexNumber?_concat ['0', '0'] (Nat.digitChar (n / 16))
  have hback := hexNumber?_concat ['0', '0', Nat.digitChar (n / 16)] (Nat.digitChar (n % 16))
  rw [(hexValue?_digitChar (n / 16) (by omega)).1] at hfront
  rw [(hexValue?_digitChar (n % 16) (by omega)).1] at hback
  refine hback.trans ?_
  rw [show ['0', '0', Nat.digitChar (n / 16)] = ['0', '0'] ++ [Nat.digitChar (n / 16)] from rfl,
    hfront]
  show some (16 * (16 * 0 + n / 16) + n % 16) = some n
  congr 1
  omega

theorem codesAt_plain {c : Char} (hquote : c ≠ '"') (hslash : c ≠ '\\') (hcontrol : ¬c.toNat < 32)
    (rest : List Char) :
    codesAt (c :: rest) = (codesAt rest).map fun (codes, rest) => (c.toNat :: codes, rest) := by
  rw [codesAt.eq_def]
  dsimp only
  rw [if_neg hquote, if_neg hslash, if_neg hcontrol]
  cases codesAt rest <;> rfl

theorem codesAt_letter {e : Char} {code : Nat} (hletter : e ≠ 'u')
    (hcode : escapeCode? e = some code) (rest : List Char) :
    codesAt ('\\' :: e :: rest) =
      (codesAt rest).map fun (codes, rest) => (code :: codes, rest) := by
  rw [codesAt.eq_def]
  dsimp only
  rw [if_neg (by decide), if_pos rfl]
  split
  · next heq => exact absurd (List.cons.inj heq).1 hletter
  · next heq =>
      obtain ⟨rfl, rfl⟩ := List.cons.inj heq
      rw [hcode]
      cases codesAt rest <;> rfl
  · next heq => cases heq

theorem codesAt_code {n : Nat} (hn : n < 32) (rest : List Char) :
    codesAt ('\\' :: 'u' :: '0' :: '0' ::
        Nat.digitChar (n / 16) :: Nat.digitChar (n % 16) :: rest) =
      (codesAt rest).map fun (codes, rest) => (n :: codes, rest) := by
  rw [codesAt.eq_def]
  dsimp only
  rw [if_neg (by decide), if_pos rfl]
  show (hexNumber? ['0', '0', Nat.digitChar (n / 16), Nat.digitChar (n % 16)]).bind _ = _
  rw [hexNumber?_code hn]
  cases codesAt rest <;> rfl

/-- An escaped character is read back. -/
theorem codesAt_escaped (c : Char) (rest : List Char) :
    codesAt (escaped c ++ rest) =
      (codesAt rest).map fun (codes, rest) => (c.toNat :: codes, rest) := by
  unfold escaped
  split_ifs with hquote hslash hback hform hline hreturn htab hcontrol
  · subst hquote
    exact codesAt_letter (by decide) rfl rest
  · subst hslash
    exact codesAt_letter (by decide) rfl rest
  · rw [hback]
    exact codesAt_letter (by decide) rfl rest
  · rw [hform]
    exact codesAt_letter (by decide) rfl rest
  · subst hline
    exact codesAt_letter (by decide) rfl rest
  · subst hreturn
    exact codesAt_letter (by decide) rfl rest
  · subst htab
    exact codesAt_letter (by decide) rfl rest
  · exact codesAt_code hcontrol rest
  · exact codesAt_plain hquote hslash hcontrol rest

/-- **The characters of a text are read up to its closing quote.** -/
theorem codesAt_quoted (cs rest : List Char) :
    codesAt (cs.flatMap escaped ++ '"' :: rest) = some (cs.map Char.toNat, rest) := by
  induction cs with
  | nil =>
      rw [List.flatMap_nil, List.nil_append, codesAt.eq_def]
      rfl
  | cons c cs ih =>
      rw [List.flatMap_cons, List.append_assoc, codesAt_escaped, ih]
      rfl

/-- No character is half of a pair. -/
theorem not_isHigh_and_not_isLow (c : Char) : isHigh c.toNat = false ∧ isLow c.toNat = false := by
  have hvalid : c.toNat < 0xD800 ∨ 0xDFFF < c.toNat ∧ c.toNat < 0x110000 := c.valid
  simp only [isHigh, isLow, Bool.and_eq_false_iff, decide_eq_false_iff_not]
  omega

theorem charsOf_map_toNat (cs : List Char) : charsOf (cs.map Char.toNat) = some cs := by
  induction cs with
  | nil => rfl
  | cons c cs ih =>
      obtain ⟨hhigh, hlow⟩ := not_isHigh_and_not_isLow c
      rw [List.map_cons, charsOf.eq_def]
      dsimp only
      rw [if_neg (by simp [hhigh]), if_neg (by simp [hlow]), ih, Char.ofNat_toNat]
      rfl

theorem cuts_quoted (s : String) (rest : List Char) :
    Cuts (quoted s).toList [.scalar (.text s)] rest := by
  have htext : textAt (s.toList.flatMap escaped ++ ['"'] ++ rest) = some (.text s, rest) := by
    rw [List.append_assoc, List.singleton_append, textAt, codesAt_quoted]
    show ((charsOf (s.toList.map Char.toNat)).bind fun cs =>
      some (Json.text (String.ofList cs), rest)) = _
    rw [charsOf_map_toNat, Option.bind_some, String.ofList_toList]
  rw [quoted, String.toList_ofList]
  refine .token rfl ?_
  show (textAt (s.toList.flatMap escaped ++ ['"'] ++ rest)).map _ = _
  rw [htext]
  rfl

/-! ## §4. Numbers. -/

section Numbers

variable {rest : List Char}

theorem Ends.isDigit_eq_false (h : Ends rest) : ∀ c ∈ rest.head?, c.isDigit = false := by
  intro c hc
  rcases h c hc with rfl | rfl | rfl <;> rfl

/-- Where the digits at the front end. -/
theorem drop_digits (text : List Char) :
    (text ++ rest).drop (text.takeWhile Char.isDigit).length =
      text.drop (text.takeWhile Char.isDigit).length ++ rest :=
  List.drop_append_of_le_length (List.takeWhile_prefix _).length_le

theorem fractionAt_of_ne {text : List Char} (h : ∀ c ∈ text.head?, c ≠ '.') :
    fractionAt text = some ([], text) := by
  unfold fractionAt
  split
  · exact absurd rfl (h '.' rfl)
  · rfl

theorem exponentAt_of_ne {text : List Char} (h : ∀ c ∈ text.head?, c ≠ 'e' ∧ c ≠ 'E') :
    exponentAt text = some (none, text) := by
  cases text with
  | nil => rfl
  | cons c cs =>
      rw [exponentAt, if_neg]
      rintro (rfl | rfl)
      · exact (h 'e' rfl).1 rfl
      · exact (h 'E' rfl).2 rfl

theorem fractionAt_append (hrest : Ends rest) {text digits after : List Char}
    (h : fractionAt text = some (digits, after)) :
    fractionAt (text ++ rest) = some (digits, after ++ rest) := by
  by_cases hpoint : text.head? = some '.'
  · obtain ⟨cs, rfl⟩ := List.head?_eq_some_iff.mp hpoint
    rw [fractionAt] at h
    rw [List.cons_append, fractionAt, takeWhile_append_of_head? hrest.isDigit_eq_false,
      drop_digits]
    split at h
    · cases h
    · next hdigits =>
        cases h
        exact if_neg hdigits
  · have hhead : ∀ c ∈ text.head?, c ≠ '.' := by
      rintro c hc rfl
      exact hpoint hc
    -- The rest, which may be all there is, does not start with a point either.
    have hhead' : ∀ c ∈ (text ++ rest).head?, c ≠ '.' := by
      rintro c hc rfl
      cases text with
      | nil => rcases hrest '.' hc with h | h | h <;> cases h
      | cons c cs => exact hpoint hc
    rw [fractionAt_of_ne hhead] at h
    cases h
    exact fractionAt_of_ne hhead'

/-- A power of ten behind its sign. -/
def powerDigitsAt (negative : Bool) (text : List Char) : Option (Int × List Char) :=
  let digits := text.takeWhile Char.isDigit
  if digits.isEmpty then none
  else some (signed negative (decimalValue digits), text.drop digits.length)

theorem powerAt_minus (text : List Char) : powerAt ('-' :: text) = powerDigitsAt true text := rfl

theorem powerAt_plus (text : List Char) : powerAt ('+' :: text) = powerDigitsAt false text := rfl

theorem powerAt_of_ne {c : Char} (hminus : c ≠ '-') (hplus : c ≠ '+') (text : List Char) :
    powerAt (c :: text) = powerDigitsAt false (c :: text) := by
  unfold powerAt
  split
  next heq =>
    split at heq
    · next heq' => exact absurd (List.cons.inj heq').1 hminus
    · next heq' => exact absurd (List.cons.inj heq').1 hplus
    · cases heq
      rfl

theorem powerDigitsAt_append (hrest : Ends rest) {negative : Bool} {text after : List Char}
    {power : Int} (h : powerDigitsAt negative text = some (power, after)) :
    powerDigitsAt negative (text ++ rest) = some (power, after ++ rest) := by
  simp only [powerDigitsAt] at h ⊢
  rw [takeWhile_append_of_head? hrest.isDigit_eq_false, drop_digits]
  split at h
  · cases h
  · next hdigits =>
      cases h
      exact if_neg hdigits

theorem powerAt_append (hrest : Ends rest) {text after : List Char} {power : Int}
    (h : powerAt text = some (power, after)) :
    powerAt (text ++ rest) = some (power, after ++ rest) := by
  cases text with
  | nil => cases h
  | cons c cs =>
      rw [List.cons_append]
      by_cases hminus : c = '-'
      · subst hminus
        rw [powerAt_minus] at h ⊢
        exact powerDigitsAt_append hrest h
      · by_cases hplus : c = '+'
        · subst hplus
          rw [powerAt_plus] at h ⊢
          exact powerDigitsAt_append hrest h
        · rw [powerAt_of_ne hminus hplus] at h ⊢
          exact powerDigitsAt_append hrest h

theorem exponentAt_append (hrest : Ends rest) {text after : List Char} {exponent : Option Int}
    (h : exponentAt text = some (exponent, after)) :
    exponentAt (text ++ rest) = some (exponent, after ++ rest) := by
  cases text with
  | nil =>
      cases h
      refine exponentAt_of_ne fun c hc => ?_
      rcases hrest c hc with rfl | rfl | rfl <;> decide
  | cons c cs =>
      rw [exponentAt] at h
      rw [List.cons_append, exponentAt]
      split at h
      · next hmark =>
          obtain ⟨⟨power, after'⟩, hpower, heq⟩ := Option.map_eq_some_iff.mp h
          cases heq
          rw [if_pos hmark, powerAt_append hrest hpower]
          rfl
      · next hmark =>
          cases h
          exact if_neg hmark

/-- A number behind its sign. -/
def unsignedAt (negative : Bool) (text : List Char) : Option (Json × List Char) := do
  let digits := text.takeWhile Char.isDigit
  let whole := if digits.head? = some '0' then ['0'] else digits
  if whole.isEmpty then none
  else
    let (fraction, rest) ← fractionAt (text.drop whole.length)
    let (exponent, rest) ← exponentAt rest
    return (← numberOf negative whole fraction exponent, rest)

theorem numberAt_minus (text : List Char) : numberAt ('-' :: text) = unsignedAt true text := rfl

theorem numberAt_of_ne {c : Char} (hc : c ≠ '-') (text : List Char) :
    numberAt (c :: text) = unsignedAt false (c :: text) := by
  have hhead : ¬(c :: text).head? = some '-' := fun h => hc (Option.some.inj h)
  unfold numberAt unsignedAt
  simp only [if_neg hhead, decide_eq_false hhead]

theorem unsignedAt_append (hrest : Ends rest) {negative : Bool} {text after : List Char} {j : Json}
    (h : unsignedAt negative text = some (j, after)) :
    unsignedAt negative (text ++ rest) = some (j, after ++ rest) := by
  simp only [unsignedAt] at h ⊢
  rw [takeWhile_append_of_head? hrest.isDigit_eq_false]
  generalize hdigits : text.takeWhile Char.isDigit = digits at h ⊢
  -- The digits before the point, or the zero that stands alone there, are at the front.
  have hle : (if digits.head? = some '0' then ['0'] else digits).length ≤ text.length := by
    have hfront : digits.length ≤ text.length := hdigits ▸ (List.takeWhile_prefix _).length_le
    split
    · next hzero =>
        obtain ⟨ds, rfl⟩ := List.head?_eq_some_iff.mp hzero
        exact Nat.le_trans (Nat.succ_le_succ (Nat.zero_le _)) hfront
    · exact hfront
  generalize (if digits.head? = some '0' then ['0'] else digits) = whole at h hle ⊢
  split at h
  · cases h
  · next hwhole =>
      obtain ⟨⟨fraction, after₁⟩, hfraction, h⟩ := Option.bind_eq_some_iff.mp h
      obtain ⟨⟨exponent, after₂⟩, hexponent, h⟩ := Option.bind_eq_some_iff.mp h
      obtain ⟨n, hn, h⟩ := Option.bind_eq_some_iff.mp h
      cases h
      rw [if_neg hwhole, List.drop_append_of_le_length hle, fractionAt_append hrest hfraction]
      show (exponentAt (after₁ ++ rest)).bind _ = _
      rw [exponentAt_append hrest hexponent]
      show (numberOf negative whole fraction exponent).bind _ = _
      rw [hn]
      rfl

/-- **A number is the same with more text behind it.** -/
theorem numberAt_append (hrest : Ends rest) {text after : List Char} {j : Json}
    (h : numberAt text = some (j, after)) :
    numberAt (text ++ rest) = some (j, after ++ rest) := by
  cases text with
  | nil => cases h
  | cons c cs =>
      rw [List.cons_append]
      by_cases hc : c = '-'
      · subst hc
        rw [numberAt_minus] at h ⊢
        exact unsignedAt_append hrest h
      · rw [numberAt_of_ne hc] at h ⊢
        exact unsignedAt_append hrest h

/-- A number starts with its sign or a digit. -/
def IsNumberStart (c : Char) : Prop := c = '-' ∨ c.isDigit = true

theorem isNumberStart_of_numberAt {c : Char} {cs after : List Char} {j : Json}
    (h : numberAt (c :: cs) = some (j, after)) : IsNumberStart c := by
  by_cases hc : c = '-'
  · exact .inl hc
  · by_cases hdigit : c.isDigit = true
    · exact .inr hdigit
    · -- Without a digit at the front there is no whole part.
      rw [numberAt_of_ne hc] at h
      simp only [unsignedAt] at h
      rw [List.takeWhile_cons_of_neg hdigit] at h
      cases h

theorem IsNumberStart.ne {c d : Char} (h : IsNumberStart c) (hminus : d ≠ '-')
    (hdigit : d.isDigit = false) : c ≠ d := by
  rintro rfl
  rcases h with h | h
  · exact hminus h
  · rw [h] at hdigit
    cases hdigit

theorem IsNumberStart.isSpace_eq_false {c : Char} (h : IsNumberStart c) : isSpace c = false := by
  have hne : ∀ d ∈ [' ', '\t', '\n', '\r'], c ≠ d := by
    intro d hd
    simp only [List.mem_cons, List.not_mem_nil, or_false] at hd
    rcases hd with rfl | rfl | rfl | rfl <;> exact h.ne (by decide) rfl
  simp [isSpace, hne]

/-- What starts like a number is read as one. -/
theorem IsNumberStart.tokenAt_eq {c : Char} (h : IsNumberStart c) (cs : List Char) :
    tokenAt c cs = (numberAt (c :: cs)).map fun (j, after) => (.scalar j, after) := by
  unfold tokenAt
  rw [if_neg (h.ne (by decide) rfl), if_neg (h.ne (by decide) rfl), if_neg (h.ne (by decide) rfl),
    if_neg (h.ne (by decide) rfl), if_neg (h.ne (by decide) rfl), if_neg (h.ne (by decide) rfl),
    if_neg (h.ne (by decide) rfl), if_neg (h.ne (by decide) rfl), if_neg (h.ne (by decide) rfl),
    if_neg (h.ne (by decide) rfl)]

theorem cuts_number (hrest : Ends rest) {text : List Char} {j : Json}
    (h : numberAt text = some (j, [])) : Cuts text [.scalar j] rest := by
  cases text with
  | nil => cases h
  | cons c cs =>
      have hc := isNumberStart_of_numberAt h
      refine .token hc.isSpace_eq_false ?_
      rw [hc.tokenAt_eq, ← List.cons_append, numberAt_append hrest h]
      rfl

/-- The digits of a natural number are an integer, if 64 bits hold it. -/
theorem unsignedAt_toDigits {negative : Bool} {n : Nat}
    (h : isInteger negative (signed negative n) = true) :
    unsignedAt negative (Nat.toDigits 10 n) = some (.integer (signed negative n), []) := by
  have hdigits : (Nat.toDigits 10 n).takeWhile Char.isDigit = Nat.toDigits 10 n := by
    have happend : (Nat.toDigits 10 n ++ []).takeWhile Char.isDigit = Nat.toDigits 10 n :=
      takeWhile_isDigit_append isDigit_of_mem_toDigits nofun
    rwa [List.append_nil] at happend
  have hwhole : (if (Nat.toDigits 10 n).head? = some '0' then ['0'] else Nat.toDigits 10 n) =
      Nat.toDigits 10 n := by
    by_cases hn : n = 0
    · subst hn
      rfl
    · exact if_neg (head?_toDigits hn)
  have hvalue : decimalValue (Nat.toDigits 10 n) = n := Nat.ofDigitChars_ten_toDigits
  have hnumber : numberOf negative (Nat.toDigits 10 n) [] none =
      some (.integer (signed negative n)) := by
    simp only [numberOf, hvalue]
    rw [if_pos (by simpa using h)]
  simp only [unsignedAt, hdigits, hwhole]
  rw [if_neg (by simp [Nat.toDigits_ne_nil]), List.drop_length]
  show (numberOf negative (Nat.toDigits 10 n) [] none).bind _ = _
  rw [hnumber]
  rfl

/-- **An integer of 64 bits is read back.** -/
theorem numberAt_integer {n : Int} (h : (int64? n).isSome ∨ (uint64? n).isSome) :
    numberAt (toString n).toList = some (.integer n, []) := by
  have hfits : ((int64? n).isSome || (uint64? n).isSome) = true := by simpa using h
  rw [Int.toString_eq_repr, Int.repr_eq_if]
  by_cases hn : 0 ≤ n
  · obtain ⟨m, rfl⟩ := Int.eq_ofNat_of_zero_le hn
    have hread : unsignedAt false (Nat.toDigits 10 m) = some (.integer m, []) := by
      refine unsignedAt_toDigits ?_
      rw [isInteger, show signed false m = (m : Int) from rfl, hfits]
      simp
    rw [if_pos hn, Int.toNat_natCast, Nat.repr_eq_ofList_toDigits, String.toList_ofList]
    obtain ⟨d, ds, hds⟩ := List.exists_cons_of_ne_nil (Nat.toDigits_ne_nil (n := m) (b := 10))
    have hd : d.isDigit = true := isDigit_of_mem_toDigits d (hds ▸ List.mem_cons_self)
    rw [hds] at hread ⊢
    rw [numberAt_of_ne (by rintro rfl; cases hd)]
    exact hread
  · obtain ⟨m, rfl⟩ : ∃ m : Nat, n = -(m : Int) := ⟨(-n).toNat, by omega⟩
    have hread : unsignedAt true (Nat.toDigits 10 m) = some (.integer (-(m : Int)), []) := by
      refine unsignedAt_toDigits ?_
      rw [isInteger, show signed true m = -(m : Int) from rfl, hfits]
      simpa using hn
    have htext : ("-" ++ String.ofList (Nat.toDigits 10 m)).toList = '-' :: Nat.toDigits 10 m := by
      simp
    rw [if_neg hn, Int.neg_neg, Int.toNat_natCast, Nat.repr_eq_ofList_toDigits, htext,
      numberAt_minus, hread]

end Numbers

end RecordSearch.Json
