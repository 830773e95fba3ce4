/-
  RecordSearch.Proofs.Expr.Places
  ───────────────────────────────
  **Where tokens stand.**

  A text can be cut off in front of any of its tokens and go on with something else.  The tokens
  in front of the cut are still there, each in its place, if what is put behind it starts with a
  character that no token goes on with (`Parts`), as blanks and quotes do:

      tokenAt_cut               — the token in front of the cut, whatever it is
      exists_cut                — all tokens in front of the cut, and where the cut is
      exists_escaped_of_error   — what a quote that is never closed could be closed behind

  Tokens are cut off greedily and the ends of some are seen only in what follows them, which is why
  the cut must not go on with them: where `1.` is cut behind the point, a name makes a member of a
  number, and a digit would make another number.
-/
import RecordSearch.Proofs.Expr.Spelling

namespace RecordSearch

variable {before after more : List Char} {c x : Char} {t : Token} {n : Nat}

/-! ## §1. Bytes. -/

theorem byteLength_cons (c : Char) (cs : List Char) :
    byteLength (c :: cs) = c.utf8Size + byteLength cs := rfl

theorem byteLength_append (cs ds : List Char) :
    byteLength (cs ++ ds) = byteLength cs + byteLength ds := by
  induction cs with
  | nil => exact (Nat.zero_add _).symm
  | cons c cs ih => rw [List.cons_append, byteLength_cons, byteLength_cons, ih, Nat.add_assoc]

/-- Places are counted in bytes of the encoded text. -/
theorem utf8ByteSize_ofList (cs : List Char) : (String.ofList cs).utf8ByteSize = byteLength cs := by
  induction cs with
  | nil => rfl
  | cons c cs ih =>
      rw [← List.singleton_append, String.ofList_append, String.utf8ByteSize_append, ih]
      exact congrArg (· + byteLength cs) String.utf8ByteSize_singleton

/-! ## §2. One token. -/

/-- No token goes on with the character. -/
def Parts (c : Char) : Prop := isNamePart c = false ∧ c ∉ ['.', '=', '>', '&', '|', '?']

theorem parts_space : Parts ' ' := ⟨by decide, by decide⟩

theorem parts_quote : Parts '"' := ⟨by decide, by decide⟩

theorem Parts.isDigit (hx : Parts x) : x.isDigit = false := by
  rw [Bool.eq_false_iff]
  exact fun hd => absurd (isNamePart_of_isDigit hd) (by rw [hx.1]; decide)

/-- A run of characters that ends in front of the cut ends there also if the cut parts. -/
theorem takeWhile_cut {p : Char → Bool} (hx : p x = false)
    (h : ((before ++ after).takeWhile p).length ≤ before.length) :
    (before ++ x :: more).takeWhile p = (before ++ after).takeWhile p := by
  -- Both runs are those of what stands in front of the cut: the character at the cut ends the one,
  -- and the other one ends before it.
  rw [takeWhile_append_of_head? (by rintro y ⟨⟩; exact hx)]
  induction before with
  | nil => exact (List.eq_nil_of_length_eq_zero (Nat.le_zero.mp h)).symm
  | cons b before ih =>
      rw [List.cons_append, List.takeWhile_cons] at h ⊢
      rw [List.takeWhile_cons]
      split
      · next hb => rw [ih (by simpa [hb] using h)]
      · rfl

theorem numberToken_of_head? {negative : Bool} {digits rest : List Char} (h : '.' ∉ rest.head?) :
    numberToken negative digits rest = (integerToken negative digits, 0) := by
  unfold numberToken
  split
  · exact absurd rfl h
  · rfl

/-- Where a point is no part of the number, no fraction follows it. -/
theorem numberToken_of_snd {negative : Bool} {digits rest : List Char}
    (h : (numberToken negative digits rest).2 = 0) :
    numberToken negative digits rest = (integerToken negative digits, 0) := by
  unfold numberToken at h ⊢
  split at h
  · dsimp only at h ⊢
    split at h
    · rw [if_pos ‹_›]
    · cases h
  · rfl

theorem numberToken_cut {negative : Bool} {digits : List Char}
    (hn : (numberToken negative digits (before ++ after)).2 ≤ before.length) (hx : Parts x) :
    numberToken negative digits (before ++ x :: more) =
      numberToken negative digits (before ++ after) := by
  cases before with
  | nil =>
      -- The point, if there was one, stood behind the cut and was no part of the number.
      have hdot : '.' ∉ (x :: more).head? := by
        rintro ⟨⟩
        exact hx.2 (by simp)
      rw [numberToken_of_snd (Nat.le_zero.mp hn)]
      exact numberToken_of_head? hdot
  | cons b before =>
      by_cases hb : b = '.'
      · -- The point stands in front of the cut, so the digits of the fraction do, too.
        subst hb
        simp only [List.cons_append, numberToken] at hn ⊢
        have hfraction : ((before ++ after).takeWhile Char.isDigit).length ≤ before.length := by
          split at hn
          · next hempty => simp [List.isEmpty_iff.mp hempty]
          · exact Nat.le_of_succ_le_succ hn
        rw [takeWhile_cut hx.isDigit hfraction]
      · have hhead : ∀ rest : List Char, '.' ∉ (b :: rest).head? := by
          rintro rest ⟨⟩
          exact hb rfl
        rw [List.cons_append, List.cons_append, numberToken_of_head? (hhead _),
          numberToken_of_head? (hhead _)]

theorem head?_cut {d : Char} (hd : x ≠ d) (h : (before ++ after).head? = some d → before ≠ []) :
    (before ++ x :: more).head? = some d ↔ (before ++ after).head? = some d := by
  cases before with
  | nil => exact iff_of_false (fun heq => hd (Option.some.inj heq)) fun heq => h heq rfl
  | cons b before => rfl

/-- Whether two signs make a token is seen in the second one, which the cut leaves where it is. -/
theorem pair_cut {second : Char} {double single : Token}
    (h : pair second double single (before ++ after) = (t, n)) (hn : n ≤ before.length)
    (hx : x ≠ second) : pair second double single (before ++ x :: more) = (t, n) := by
  have hhead : (before ++ after).head? = some second → before ≠ [] := by
    rintro hsecond rfl
    rw [pair, if_pos hsecond] at h
    cases h
    exact absurd hn (by decide)
  rw [← h, pair, pair]
  simp only [head?_cut hx hhead]

/-- An escape mark with nothing behind it is no token. -/
theorem escapedToken_zero (h : escapedToken after = (t, 0)) : t.isLast = true := by
  cases after with
  | nil => cases h; rfl
  | cons c cs =>
      rw [escapedToken] at h
      split at h
      · dsimp only at h
        split at h
        · cases h
        · cases h; rfl
      · split at h
        · cases h
        · cases h; rfl

theorem escapedToken_cut (h : escapedToken (before ++ after) = (t, n)) (hlast : t.isLast = false)
    (hn : n ≤ before.length) (hx : Parts x) : escapedToken (before ++ x :: more) = (t, n) := by
  cases before with
  | nil =>
      -- A number or a word takes at least one character.
      obtain rfl : n = 0 := Nat.le_zero.mp hn
      rw [escapedToken_zero h] at hlast
      cases hlast
  | cons b before =>
      rw [List.cons_append, escapedToken] at h ⊢
      split at h
      · next hdigit =>
          dsimp only at h
          split at h
          · cases h
            rw [if_pos hdigit, takeWhile_cut hx.isDigit (Nat.le_of_succ_le_succ hn)]
            exact if_pos ‹_›
          · cases h
            cases hlast
      · next hdigit =>
          split at h
          · next hname =>
              cases h
              rw [if_neg hdigit, if_pos hname, takeWhile_cut hx.1 (Nat.le_of_succ_le_succ hn)]
          · cases h
            cases hlast

/-! ## §3. Quotes. -/

/-- What a backslash and any character behind it stand for. -/
theorem Escaped.escape {cs body : List Char} (h : Escaped cs body) (c : Char) :
    Escaped (unescape c :: cs) ('\\' :: c :: body) := by
  unfold unescape
  split
  · next hn => exact hn ▸ .newline h
  · next hn =>
      split
      · next ht => exact ht ▸ .tab h
      · next ht => exact .slash hn ht h

/-- **What stands behind an opening quote**: a text, and behind it either the closing quote, or at
most a lone backslash at the end. -/
theorem exists_escaped_quotedText : ∀ cs : List Char, ∃ text body, Escaped text body ∧
    ((∃ rest, cs = body ++ '"' :: rest) ∨
      ∃ lone ∈ [[], ['\\']], cs = body ++ lone ∧ quotedText cs = .error (byteLength body))
  | [] => ⟨[], [], .nil, .inr ⟨[], by simp, rfl, rfl⟩⟩
  | c :: cs => by
      by_cases hquote : c = '"'
      · exact ⟨[], [], .nil, .inl ⟨cs, by rw [hquote]; rfl⟩⟩
      by_cases hslash : c = '\\'
      · -- A backslash takes the character behind it along, also if that is a quote.
        subst hslash
        cases cs with
        | nil => exact ⟨[], [], .nil, .inr ⟨['\\'], by simp, rfl, rfl⟩⟩
        | cons d cs =>
            obtain ⟨text, body, hbody, ⟨rest, rfl⟩ | ⟨lone, hlone, rfl, hread⟩⟩ :=
              exists_escaped_quotedText cs
            · exact ⟨_, _, hbody.escape d, .inl ⟨rest, rfl⟩⟩
            · refine ⟨_, _, hbody.escape d, .inr ⟨lone, hlone, rfl, ?_⟩⟩
              rw [quotedText_slash, hread, byteLength_cons, byteLength_cons, ← Nat.add_assoc]
      · obtain ⟨text, body, hbody, ⟨rest, rfl⟩ | ⟨lone, hlone, rfl, hread⟩⟩ :=
          exists_escaped_quotedText cs
        · exact ⟨_, _, hbody.plain hquote hslash, .inl ⟨rest, rfl⟩⟩
        · refine ⟨_, _, hbody.plain hquote hslash, .inr ⟨lone, hlone, rfl, ?_⟩⟩
          rw [quotedText_plain hquote hslash, hread, byteLength_cons]

/-- A text between quotes ends with the closing quote. -/
theorem exists_escaped_of_ok {cs text : List Char} (h : quotedText cs = .ok (text, n)) :
    ∃ body rest, Escaped text body ∧ cs = body ++ '"' :: rest ∧ n = body.length + 1 := by
  obtain ⟨_, body, hbody, ⟨rest, rfl⟩ | ⟨_, _, _, hread⟩⟩ := exists_escaped_quotedText cs
  · rw [quotedText_of_escaped hbody] at h
    cases h
    exact ⟨body, rest, hbody, rfl, rfl⟩
  · rw [hread] at h
    cases h

theorem exists_escaped_of_error {cs : List Char} {bytes : Nat} (h : quotedText cs = .error bytes) :
    ∃ text body lone, Escaped text body ∧ lone ∈ [[], ['\\']] ∧ cs = body ++ lone ∧
      bytes = byteLength body := by
  obtain ⟨text, body, hbody, ⟨rest, rfl⟩ | ⟨lone, hlone, rfl, hread⟩⟩ :=
    exists_escaped_quotedText cs
  · rw [quotedText_of_escaped hbody] at h
    cases h
  · rw [hread] at h
    cases h
    exact ⟨text, body, lone, hbody, hlone, rfl, rfl⟩

/-- A text between quotes stays what it is, whatever stands behind the closing quote. -/
theorem quotedText_cut {text : List Char} (h : quotedText (before ++ after) = .ok (text, n))
    (hn : n ≤ before.length) : quotedText (before ++ more) = .ok (text, n) := by
  obtain ⟨body, rest, hbody, heq, rfl⟩ := exists_escaped_of_ok h
  have hclosed : body ++ ['"'] <+: before := by
    refine List.prefix_of_prefix_length_le ?_ (List.prefix_append before after) (by simpa using hn)
    rw [heq]
    exact ⟨rest, by rw [List.append_assoc]; rfl⟩
  obtain ⟨inner, rfl⟩ := hclosed
  rw [List.append_assoc, List.append_assoc]
  exact quotedText_of_escaped hbody (inner ++ more)

/-! ## §4. Tokens by their first character. -/

/-- The number whose digits start with the given ones and go on behind them. -/
def numberAt (negative : Bool) (digits rest : List Char) : Token × Nat :=
  let more := rest.takeWhile Char.isDigit
  let number := numberToken negative (digits ++ more) (rest.drop more.length)
  (number.1, more.length + number.2)

/-- **How the token that a character starts is read off what is behind it.** -/
inductive Starts (c : Char) : (List Char → Token × Nat) → Prop where
  | word (h : isNameStart c = true) : Starts c fun rest =>
      (.word (String.ofList (c :: rest.takeWhile isNamePart)), (rest.takeWhile isNamePart).length)
  | natural (h : c.isDigit = true) : Starts c (numberAt false [c])
  | negative (h : c = '-') : Starts c fun rest =>
      if (rest.takeWhile Char.isDigit).isEmpty then (.unknown, 0) else numberAt true [] rest
  | mark (h : c = escapeMark) : Starts c escapedToken
  | quote (h : c = '"') : Starts c fun rest =>
      match quotedText rest with
      | .ok (text, taken) => (.quoted (String.ofList text), taken)
      | .error bytes => (.unclosed bytes, 0)
  | less (h : c = '<') : Starts c fun rest =>
      if rest.head? = some '>' then (.comparison .notEqual, 1)
      else pair '=' (.comparison .lessOrEqual) (.comparison .less) rest
  | pair {second : Char} {double single : Token} (h : second ∈ ['=', '&', '|', '?'])
      (hdouble : ∀ bytes, double ≠ .unclosed bytes) (hsingle : ∀ bytes, single ≠ .unclosed bytes) :
      Starts c (pair second double single)
  | sign {t : Token} (h : ∀ bytes, t ≠ .unclosed bytes) : Starts c fun _ => (t, 0)

/-- Every character starts a token in one of these ways, if it starts one at all. -/
theorem starts_tokenAt (c : Char) : Starts c (tokenAt c) := by
  by_cases hname : isNameStart c = true
  · rw [show tokenAt c = _ from funext fun rest => if_pos hname]
    exact .word hname
  by_cases hdigit : c.isDigit = true
  · rw [show tokenAt c = _ from funext fun rest => (if_neg hname).trans (if_pos hdigit)]
    exact .natural hdigit
  by_cases hc : c ∈ ['-', '@', '"', '<']
  · simp only [List.mem_cons, List.not_mem_nil, or_false] at hc
    rcases hc with rfl | rfl | rfl | rfl
    · exact .negative rfl
    · exact .mark rfl
    · exact .quote rfl
    · exact .less rfl
  by_cases hsigns : c ∈ ['=', '!', '>', '&', '|', '?']
  · simp only [List.mem_cons, List.not_mem_nil, or_false] at hsigns
    rcases hsigns with rfl | rfl | rfl | rfl | rfl | rfl
    all_goals exact .pair (by simp) nofun nofun
  by_cases hsign : c ∈ ['.', ',', '(', ')']
  · simp only [List.mem_cons, List.not_mem_nil, or_false] at hsign
    rcases hsign with rfl | rfl | rfl | rfl
    all_goals exact .sign nofun
  · -- No other character starts a token.
    have hunknown : tokenAt c = fun _ => (.unknown, 0) := by
      funext rest
      simp only [List.mem_cons, List.not_mem_nil, or_false, not_or] at hc hsigns hsign
      simp [tokenAt, escapeMark, hname, hdigit, hc, hsigns, hsign]
    rw [hunknown]
    exact .sign nofun

theorem le_of_numberAt {negative : Bool} {digits rest : List Char}
    (h : numberAt negative digits rest = (t, n)) : (rest.takeWhile Char.isDigit).length ≤ n := by
  rw [← (Prod.mk.inj h).2]
  exact Nat.le_add_right _ _

theorem numberAt_cut {negative : Bool} {digits : List Char}
    (h : numberAt negative digits (before ++ after) = (t, n)) (hn : n ≤ before.length)
    (hx : Parts x) : numberAt negative digits (before ++ x :: more) = (t, n) := by
  have hdigits := Nat.le_trans (le_of_numberAt h) hn
  dsimp only [numberAt] at h ⊢
  obtain ⟨rfl, rfl⟩ := Prod.mk.inj h
  rw [takeWhile_cut hx.isDigit hdigits]
  -- The fraction, if there is one, is cut off what is left in front of the cut.
  rw [List.drop_append_of_le_length hdigits] at hn ⊢
  rw [List.drop_append_of_le_length hdigits, numberToken_cut _ hx]
  rw [List.length_drop]
  omega

/-- **The token in front of a cut** stays what it is: it is cut off again if what is behind it is
another text that no token goes on with. -/
theorem tokenAt_cut (h : tokenAt c (before ++ after) = (t, n)) (hlast : t.isLast = false)
    (hn : n ≤ before.length) (hx : Parts x) : tokenAt c (before ++ x :: more) = (t, n) := by
  have hne : ∀ d ∈ ['.', '=', '>', '&', '|', '?'], x ≠ d := fun d hd heq => hx.2 (heq ▸ hd)
  have hstarts := starts_tokenAt c
  generalize tokenAt c = scan at h hstarts ⊢
  cases hstarts with
  | word hname =>
      cases h
      simp only [takeWhile_cut hx.1 hn]
  | natural => exact numberAt_cut h hn hx
  | negative =>
      dsimp only at h ⊢
      split at h
      · cases h
        cases hlast
      · next hdigits =>
          rw [takeWhile_cut hx.isDigit (Nat.le_trans (le_of_numberAt h) hn), if_neg hdigits]
          exact numberAt_cut h hn hx
  | mark => exact escapedToken_cut h hlast hn hx
  | quote =>
      dsimp only at h ⊢
      split at h
      · next hread =>
          cases h
          rw [quotedText_cut hread hn]
      · cases h
        cases hlast
  | less =>
      -- Here two signs can follow: the cut is behind the first of them, or neither follows.
      dsimp only at h ⊢
      have hhead : (before ++ after).head? = some '>' → before ≠ [] := by
        rintro hgreater rfl
        rw [if_pos hgreater] at h
        cases h
        exact absurd hn (by decide)
      simp only [head?_cut (hne '>' (by simp)) hhead]
      split at h
      · next hgreater => rw [if_pos hgreater, ← h]
      · next hgreater =>
          rw [if_neg hgreater]
          exact pair_cut h hn (hne '=' (by simp))
  | pair hsecond =>
      refine pair_cut h hn (hne _ ?_)
      revert hsecond
      simp only [List.mem_cons]
      tauto
  | sign => exact h

theorem numberToken_le (negative : Bool) (digits rest : List Char) :
    (numberToken negative digits rest).2 ≤ rest.length := by
  unfold numberToken
  split
  · next after =>
      dsimp only
      split
      · exact Nat.zero_le _
      · exact Nat.succ_le_succ (List.takeWhile_prefix _).length_le
  · exact Nat.zero_le _

theorem numberAt_le (negative : Bool) (digits rest : List Char) :
    (numberAt negative digits rest).2 ≤ rest.length := by
  have hdigits := (List.takeWhile_prefix (l := rest) Char.isDigit).length_le
  have hnumber := numberToken_le negative (digits ++ rest.takeWhile Char.isDigit)
    (rest.drop (rest.takeWhile Char.isDigit).length)
  rw [List.length_drop] at hnumber
  dsimp only [numberAt]
  omega

theorem pair_le (second : Char) (double single : Token) (rest : List Char) :
    (pair second double single rest).2 ≤ rest.length := by
  unfold pair
  split
  · next hsecond => exact List.length_pos_of_mem (List.mem_of_mem_head? hsecond)
  · exact Nat.zero_le _

theorem escapedToken_le (rest : List Char) : (escapedToken rest).2 ≤ rest.length := by
  unfold escapedToken
  split
  · exact Nat.zero_le _
  · dsimp only
    repeat' split
    all_goals first
      | exact Nat.zero_le _
      | exact Nat.succ_le_succ (List.takeWhile_prefix _).length_le

/-- A token takes no more than there is. -/
theorem tokenAt_le {cs : List Char} (h : tokenAt c cs = (t, n)) : n ≤ cs.length := by
  have hstarts := starts_tokenAt c
  generalize tokenAt c = scan at h hstarts
  obtain ⟨-, rfl⟩ := Prod.mk.inj h
  cases hstarts with
  | word => exact (List.takeWhile_prefix _).length_le
  | natural => exact numberAt_le _ _ _
  | negative =>
      dsimp only
      split
      · exact Nat.zero_le _
      · exact numberAt_le _ _ _
  | mark => exact escapedToken_le cs
  | quote =>
      dsimp only
      split
      · next hread =>
          obtain ⟨body, rest, -, rfl, rfl⟩ := exists_escaped_of_ok hread
          simp
      · exact Nat.zero_le _
  | less =>
      dsimp only
      split
      · next hgreater => exact List.length_pos_of_mem (List.mem_of_mem_head? hgreater)
      · exact pair_le _ _ _ _
  | pair => exact pair_le _ _ _ _
  | sign => exact Nat.zero_le _

theorem numberToken_ne_unclosed (negative : Bool) (digits rest : List Char) (bytes : Nat) :
    (numberToken negative digits rest).1 ≠ .unclosed bytes := by
  have hinteger : integerToken negative digits ≠ .unclosed bytes := by
    unfold integerToken
    split <;> nofun
  unfold numberToken
  split
  · dsimp only
    split
    · exact hinteger
    · nofun
  · exact hinteger

theorem escapedToken_ne_unclosed (rest : List Char) (bytes : Nat) :
    (escapedToken rest).1 ≠ .unclosed bytes := by
  unfold escapedToken
  dsimp only
  repeat' split
  all_goals nofun

/-- Only a quote starts a text that is never closed. -/
theorem quotedText_of_unclosed {cs : List Char} {bytes : Nat}
    (h : (tokenAt c cs).1 = .unclosed bytes) : c = '"' ∧ quotedText cs = .error bytes := by
  have hstarts := starts_tokenAt c
  generalize tokenAt c = scan at h hstarts
  cases hstarts with
  | word => cases h
  | natural => exact absurd h (numberToken_ne_unclosed _ _ _ _)
  | negative =>
      dsimp only at h
      split at h
      · cases h
      · exact absurd h (numberToken_ne_unclosed _ _ _ _)
  | mark => exact absurd h (escapedToken_ne_unclosed _ _)
  | quote hquote =>
      dsimp only at h
      split at h
      · cases h
      · next hread =>
          cases h
          exact ⟨hquote, hread⟩
  | less =>
      dsimp only [pair] at h
      repeat' split at h
      all_goals cases h
  | pair _ hdouble hsingle =>
      unfold pair at h
      split at h
      · exact absurd h (hdouble _)
      · exact absurd h (hsingle _)
  | sign ht => exact absurd h (ht _)

/-! ## §5. All tokens in front of a cut. -/

/-- Where no blank stands, a token starts. -/
theorem lexemesFrom_cons (hspace : isSpace c = false) (position : Nat) (cs : List Char) :
    ∃ ls, lexemesFrom 0 position (c :: cs) = ⟨(tokenAt c cs).1, position⟩ :: ls := by
  rw [lexemesFrom, if_neg (Bool.eq_false_iff.mp hspace)]
  exact ⟨_, rfl⟩

theorem lexemesFrom_token {cs : List Char} {position : Nat} (hspace : isSpace c = false)
    (htoken : tokenAt c cs = (t, n)) (hlast : t.isLast = false) :
    lexemesFrom 0 position (c :: cs) =
      ⟨t, position⟩ :: lexemesFrom n (position + c.utf8Size) cs := by
  simp only [lexemesFrom, hspace, htoken, hlast, Bool.false_eq_true, if_false]

/-- **A text can be cut in front of any of its tokens**, or at its end: the tokens in front of the
cut are still there, each in its place, if no token goes on with what is put behind it. -/
theorem exists_cut : ∀ {cs : List Char} {taken position : Nat} {ls tail : List Lexeme},
    taken ≤ cs.length → lexemesFrom taken position cs = ls ++ tail →
      (∀ l ∈ ls, l.token.isLast = false) →
      ∃ before after, cs = before ++ after ∧ taken ≤ before.length ∧
        (∀ c ∈ after.head?, isSpace c = false) ∧
        tail = lexemesFrom 0 (position + byteLength before) after ∧
        ∀ x more, Parts x → lexemesFrom taken position (before ++ x :: more) =
          ls ++ lexemesFrom 0 (position + byteLength before) (x :: more)
  | [], 0, position, ls, tail, _, h, _ => by
      obtain ⟨rfl, rfl⟩ := List.nil_eq_append_iff.mp h
      exact ⟨[], [], rfl, Nat.le_refl 0, by simp, rfl, fun x more _ => rfl⟩
  | c :: cs, taken + 1, position, ls, tail, htaken, h, hlast => by
      -- Inside a token that has been cut off, nothing starts.
      obtain ⟨before, after, rfl, hbefore, hafter, htail, hcut⟩ :=
        exists_cut (Nat.le_of_succ_le_succ htaken) h hlast
      rw [Nat.add_assoc, ← byteLength_cons] at htail hcut
      exact ⟨c :: before, after, rfl, Nat.succ_le_succ hbefore, hafter, htail, hcut⟩
  | c :: cs, 0, position, ls, tail, _, h, hlast => by
      rw [lexemesFrom] at h
      by_cases hspace : isSpace c = true
      · rw [if_pos hspace] at h
        obtain ⟨before, after, rfl, -, hafter, htail, hcut⟩ := exists_cut (Nat.zero_le _) h hlast
        rw [Nat.add_assoc, ← byteLength_cons] at htail hcut
        refine ⟨c :: before, after, rfl, Nat.zero_le _, hafter, htail, fun x more hx => ?_⟩
        rw [List.cons_append, lexemesFrom, if_pos hspace]
        exact hcut x more hx
      cases ls with
      | nil =>
          -- The cut is right here, in front of this token.
          refine ⟨[], c :: cs, rfl, Nat.le_refl 0, ?_, ?_, fun x more _ => rfl⟩
          · rintro d ⟨⟩
            exact Bool.eq_false_iff.mpr hspace
          · rw [lexemesFrom]
            exact h.symm
      | cons l ls =>
          obtain ⟨hlast, hrest⟩ := List.forall_mem_cons.mp hlast
          cases htoken : tokenAt c cs with
          | mk t n =>
              rw [if_neg hspace, htoken] at h
              obtain ⟨rfl, hbehind⟩ := List.cons.inj h
              rw [if_neg (Bool.eq_false_iff.mp hlast)] at hbehind
              obtain ⟨before, after, rfl, hbefore, hafter, htail, hcut⟩ :=
                exists_cut (tokenAt_le htoken) hbehind hrest
              rw [Nat.add_assoc, ← byteLength_cons] at htail hcut
              refine ⟨c :: before, after, rfl, Nat.zero_le _, hafter, htail, fun x more hx => ?_⟩
              -- The token takes nothing from behind the cut, so it stays what it is.
              rw [List.cons_append, lexemesFrom_token (Bool.eq_false_iff.mpr hspace)
                (tokenAt_cut htoken hlast hbefore hx) hlast, hcut x more hx, List.cons_append]

end RecordSearch
