/-
  RecordSearch.Proofs.Expr.Lexing
  ───────────────────────────────
  **Text that is read as given tokens.**

  Tokens are the longest ones, so what a piece of text is read as depends on what follows it.  Two
  relations say how far:

      Closed cs ts   — `cs` is read as `ts` whatever follows
      Lexes cs ts    — `cs` is read as `ts` if what follows goes on with no word or number

  Both compose by appending (`Closed.append`, `Lexes.append`), so the tokens of a written
  expression are those of its pieces.  Places play no part: `tokens` forgets them.
-/
import RecordSearch.Proofs.Expr.Name

namespace RecordSearch

/-! ## §1. Tokens without places. -/

/-- The tokens of a text after `taken` more characters of the token before. -/
def tokensFrom : (taken : Nat) → List Char → List Token
  | _, [] => []
  | taken + 1, _ :: cs => tokensFrom taken cs
  | 0, c :: cs =>
      if isSpace c then tokensFrom 0 cs
      else
        let (token, taken) := tokenAt c cs
        token :: if token.isLast then [] else tokensFrom taken cs

/-- The tokens of a text. -/
def tokens (text : List Char) : List Token := tokensFrom 0 text

theorem map_token_lexemesFrom (cs : List Char) :
    ∀ (taken position : Nat),
      (lexemesFrom taken position cs).map (·.token) = tokensFrom taken cs := by
  induction cs with
  | nil => intro taken position; cases taken <;> rfl
  | cons c cs ih =>
      intro taken position
      cases taken with
      | succ taken => exact ih taken _
      | zero =>
          simp only [lexemesFrom, tokensFrom]
          split
          · exact ih 0 _
          · simp only [List.map_cons]
            split
            · rfl
            · rw [ih]

theorem map_token_lexemes (text : List Char) :
    (lexemes text).map (·.token) = tokens text :=
  map_token_lexemesFrom text 0 0

theorem tokensFrom_length_append (cs rest : List Char) :
    tokensFrom cs.length (cs ++ rest) = tokens rest := by
  induction cs with
  | nil => rfl
  | cons c cs ih => exact ih

/-- **One token is cut off** when it takes exactly the characters `cs` behind its first one. -/
theorem tokens_cons {c : Char} {cs rest : List Char} {t : Token} (hc : isSpace c = false)
    (ht : tokenAt c (cs ++ rest) = (t, cs.length)) (hlast : t.isLast = false) :
    tokens (c :: (cs ++ rest)) = t :: tokens rest := by
  simp only [tokens, tokensFrom, hc, ht, hlast, Bool.false_eq_true, if_false]
  rw [tokensFrom_length_append]
  rfl

/-! ## §2. Pieces of text. -/

/-- What follows goes on with no word or number. -/
def Apart (rest : List Char) : Prop := ∀ c ∈ rest.head?, isNamePart c = false

/-- The text is read as the tokens whatever follows. -/
def Closed (cs : List Char) (ts : List Token) : Prop :=
  ∀ rest, tokens (cs ++ rest) = ts ++ tokens rest

/-- The text is read as the tokens if what follows goes on with no word or number. -/
def Lexes (cs : List Char) (ts : List Token) : Prop :=
  ∀ rest, Apart rest → tokens (cs ++ rest) = ts ++ tokens rest

theorem apart_nil : Apart [] := by
  intro c hc
  exact absurd hc (by simp)

theorem apart_cons {c : Char} {rest : List Char} (hc : isNamePart c = false) :
    Apart (c :: rest) := by
  intro x hx
  rw [List.head?_cons, Option.mem_some_iff] at hx
  exact hx ▸ hc

theorem Apart.append {cs rest : List Char} (h : Apart cs) (hrest : Apart rest) :
    Apart (cs ++ rest) := by
  cases cs with
  | nil => exact hrest
  | cons c cs => exact apart_cons (h c rfl)

theorem Closed.lexes {cs : List Char} {ts : List Token} (h : Closed cs ts) : Lexes cs ts :=
  fun rest _ => h rest

theorem Closed.append {as bs : List Char} {us ts : List Token} (ha : Closed as us)
    (hb : Lexes bs ts) : Lexes (as ++ bs) (us ++ ts) := by
  intro rest hrest
  rw [List.append_assoc, ha, hb rest hrest, List.append_assoc]

/-- Text may be put behind a piece that ends in a word if it goes on with none. -/
theorem Lexes.append {as bs : List Char} {us ts : List Token} (ha : Lexes as us)
    (hb : Lexes bs ts) (hapart : Apart bs) : Lexes (as ++ bs) (us ++ ts) := by
  intro rest hrest
  rw [List.append_assoc, ha _ (hapart.append hrest), hb rest hrest, List.append_assoc]

/-- All tokens of a text are those that it is read as. -/
theorem Lexes.tokens_eq {cs : List Char} {ts : List Token} (h : Lexes cs ts) : tokens cs = ts := by
  have h := h [] apart_nil
  rw [List.append_nil] at h
  rw [h]
  exact List.append_nil ts

/-! ## §3. Words and parameters. -/

theorem takeWhile_append_of_apart {p : Char → Bool} {cs rest : List Char}
    (hp : ∀ c, p c = true → isNamePart c = true) (hcs : ∀ c ∈ cs, p c = true)
    (hrest : Apart rest) : (cs ++ rest).takeWhile p = cs := by
  rw [List.takeWhile_append_of_pos hcs]
  cases rest with
  | nil => rw [List.takeWhile_nil, List.append_nil]
  | cons c rest =>
      -- What follows cannot be part of a name, so the run of characters ends there.
      have hc : ¬ p c = true := fun h => by
        have := hrest c rfl
        rw [hp c h] at this
        exact absurd this (by simp)
      rw [List.takeWhile_cons_of_neg hc, List.append_nil]

/-- **A name is one word.** -/
theorem lexes_word {cs : List Char} (h : isName cs = true) :
    Lexes cs [.word (String.ofList cs)] := by
  intro rest hrest
  cases cs with
  | nil => exact absurd h (by simp [isName])
  | cons c cs =>
      obtain ⟨hc, hcs⟩ := isName_cons.mp h
      refine tokens_cons (isSpace_of_isNameStart hc) ?_ rfl
      rw [tokenAt, if_pos hc, takeWhile_append_of_apart (fun _ h => h) hcs hrest]

/-- **A name behind the escape mark is one escaped word.** -/
theorem lexes_escaped {cs : List Char} (h : isName cs = true) :
    Lexes (escapeMark :: cs) [.escaped (String.ofList cs)] := by
  intro rest hrest
  refine tokens_cons (by decide) ?_ rfl
  cases cs with
  | nil => exact absurd h (by simp [isName])
  | cons c cs =>
      obtain ⟨hc, hcs⟩ := isName_cons.mp h
      show escapedToken (c :: (cs ++ rest)) = _
      rw [escapedToken, if_neg (by rw [isDigit_of_isNameStart hc]; simp), if_pos hc,
        takeWhile_append_of_apart (fun _ h => h) hcs hrest]

/-- **A number of 64 bits behind the escape mark is a parameter.** -/
theorem lexes_placeholder {index : Nat} (h : index < UInt64.size) :
    Lexes (Dialect.placeholder index).toList [.parameter index] := by
  intro rest hrest
  rw [Dialect.placeholder, String.toList_ofList]
  refine tokens_cons (by decide) ?_ rfl
  have hdigits : ∀ c ∈ Nat.toDigits 10 index, c.isDigit = true := fun c hc =>
    Nat.isDigit_of_mem_toDigits (by decide) (by decide) hc
  -- The digits of a number, read back, are that number.
  have hvalue : decimalValue (Nat.toDigits 10 index) = index := Nat.ofDigitChars_ten_toDigits
  show escapedToken (Nat.toDigits 10 index ++ rest) = _
  cases hd : Nat.toDigits 10 index with
  | nil => exact absurd hd Nat.toDigits_ne_nil
  | cons c cs =>
      rw [hd] at hdigits hvalue
      rw [List.cons_append, escapedToken, if_pos (hdigits c (by simp)),
        takeWhile_append_of_apart (fun _ => isNamePart_of_isDigit)
          (fun x hx => hdigits x (List.mem_cons_of_mem _ hx)) hrest]
      simp only [hvalue, if_pos h]

end RecordSearch
