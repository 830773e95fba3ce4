/-
  RecordSearch.Proofs.Expr.Spelling
  ─────────────────────────────────
  **How tokens are spelt, and how a text is laid out.**

  A token can often be spelt in more than one way, and blanks may stand around it.  Two relations
  say so without the functions that cut a text:

      Spelling t cs   — the characters are a way to spell the token
      Laid ts cs      — the characters are the tokens, each spelt in one of its ways, with blanks
                        around them

  Tokens are cut off greedily, so a token must not run into the next one.  A word is kept from it
  by a blank, which the layout asks for.  The other tokens may stand without blanks, but not all of
  them next to each other (`Token.Meets`): `1.5` is no member of a number.

      Spelling.tokens_append   — a token is read back if what follows does not go on with it
      Laid.tokens_eq           — a text is read as the tokens that it is laid out from
-/
import Mathlib.Data.List.Chain
import RecordSearch.Proofs.Expr.Lexing
import RecordSearch.Proofs.Number.Digits

namespace RecordSearch

/-! ## §1. Spellings. -/

/-- The second list, between quotes, stands for the first: a quote and a backslash need a backslash
before them, other characters may have one, and two letters name a blank. -/
inductive Escaped : List Char → List Char → Prop where
  | nil : Escaped [] []
  | plain {c : Char} {cs body : List Char} (hquote : c ≠ '"') (hslash : c ≠ '\\')
      (h : Escaped cs body) : Escaped (c :: cs) (c :: body)
  | slash {c : Char} {cs body : List Char} (hn : c ≠ 'n') (ht : c ≠ 't') (h : Escaped cs body) :
      Escaped (c :: cs) ('\\' :: c :: body)
  | newline {cs body : List Char} (h : Escaped cs body) :
      Escaped ('\n' :: cs) ('\\' :: 'n' :: body)
  | tab {cs body : List Char} (h : Escaped cs body) : Escaped ('\t' :: cs) ('\\' :: 't' :: body)

/-- The tokens spelt with signs that no further sign can join. -/
def closedSymbols : List (Token × List Char) := [
  (.comparison .equal, ['=', '=']), (.comparison .notEqual, ['!', '=']),
  (.comparison .notEqual, ['<', '>']), (.comparison .greaterOrEqual, ['>', '=']),
  (.comparison .lessOrEqual, ['<', '=']), (.both, ['&', '&']), (.either, ['|', '|']),
  (.coalesce, ['?', '?']), (.dot, ['.']), (.comma, [',']), (.opening, ['(']), (.closing, [')'])]

/-- The tokens spelt with one sign that a second one would make another token of. -/
def openSymbols : List (Token × List Char) := [
  (.comparison .equal, ['=']), (.comparison .greater, ['>']), (.comparison .less, ['<']),
  (.bang, ['!'])]

/-- **The ways to spell a token.** -/
inductive Spelling : Token → List Char → Prop where
  | word {cs : List Char} (h : isName cs = true) : Spelling (.word (String.ofList cs)) cs
  | escaped {cs : List Char} (h : isName cs = true) :
      Spelling (.escaped (String.ofList cs)) ('@' :: cs)
  /-- Zeros may stand in front of the number. -/
  | parameter {digits : List Char} {index : Nat} (hne : digits ≠ [])
      (hdigits : ∀ c ∈ digits, c.isDigit = true) (hvalue : decimalValue digits = index)
      (hsize : index < UInt64.size) : Spelling (.parameter index) ('@' :: digits)
  | natural {digits : List Char} {n : Int64} (hne : digits ≠ [])
      (hdigits : ∀ c ∈ digits, c.isDigit = true) (hvalue : n.toInt = decimalValue digits) :
      Spelling (.integer n) digits
  | negative {digits : List Char} {n : Int64} (hne : digits ≠ [])
      (hdigits : ∀ c ∈ digits, c.isDigit = true) (hvalue : n.toInt = -(decimalValue digits : Int)) :
      Spelling (.integer n) ('-' :: digits)
  | quoted {cs body : List Char} (h : Escaped cs body) :
      Spelling (.quoted (String.ofList cs)) ('"' :: (body ++ ['"']))
  | symbol {t : Token} {cs : List Char} (h : (t, cs) ∈ closedSymbols ++ openSymbols) :
      Spelling t cs

/-! ## §2. Tokens that stand next to each other. -/

namespace Token

/-- Is the token a keyword or a name? -/
def isNamed : Token → Bool
  | .word _ | .escaped _ => true
  | _ => false

/-- Would a digit right behind the token be read with it, or with the number before it? -/
def takesDigit : Token → Bool
  | .integer _ | .parameter _ | .dot => true
  | _ => false

/-- Would a second sign right behind the token be read with it? -/
def takesSign : Token → Bool
  | .comparison _ | .bang => true
  | _ => false

/-- May the token start with a digit? -/
def startsWithDigit : Token → Bool
  | .integer _ => true
  | _ => false

/-- May the token start with a sign that is the second one of a comparison? -/
def startsWithSign : Token → Bool
  | .comparison _ => true
  | _ => false

/-- The tokens can stand next to each other, even without a blank. -/
structure Meets (t u : Token) : Prop where
  digit : t.takesDigit = true → u.startsWithDigit = false
  sign : t.takesSign = true → u.startsWithSign = false

/-- What follows does not go on with the token. -/
def EndsBefore (rest : List Char) : Token → Prop
  | .word _ | .escaped _ => Apart rest
  | .parameter _ => ∀ c ∈ rest.head?, c.isDigit = false
  | .integer _ => ∀ c ∈ rest.head?, c.isDigit = false ∧
      (c = '.' → ∀ d ∈ rest.tail.head?, d.isDigit = false)
  | .comparison _ | .bang => ∀ c ∈ rest.head?, c ≠ '=' ∧ c ≠ '>'
  | _ => True

end Token

/-! ## §3. Reading one token. -/

theorem quotedText_slash (c : Char) (cs : List Char) :
    quotedText ('\\' :: c :: cs) =
      match quotedText cs with
      | .ok (text, taken) => .ok (unescape c :: text, taken + 2)
      | .error bytes => .error ('\\'.utf8Size + c.utf8Size + bytes) :=
  rfl

theorem quotedText_plain {c : Char} (hquote : c ≠ '"') (hslash : c ≠ '\\') (cs : List Char) :
    quotedText (c :: cs) =
      match quotedText cs with
      | .ok (text, taken) => .ok (c :: text, taken + 1)
      | .error bytes => .error (c.utf8Size + bytes) := by
  conv => lhs; unfold quotedText
  split
  · next heq => cases heq
  · next heq => exact absurd (List.cons.inj heq).1 hslash
  · next heq => exact absurd (List.cons.inj heq).1 hslash
  · next heq =>
      obtain ⟨rfl, rfl⟩ := List.cons.inj heq
      exact if_neg hquote

theorem quotedText_of_escaped {cs body : List Char} (h : Escaped cs body) (rest : List Char) :
    quotedText (body ++ '"' :: rest) = .ok (cs, body.length + 1) := by
  induction h with
  | nil => rfl
  | plain hquote hslash h ih => rw [List.cons_append, quotedText_plain hquote hslash, ih]; rfl
  | slash hn ht h ih =>
      rw [List.cons_append, List.cons_append, quotedText_slash, ih]
      simp only [unescape, if_neg hn, if_neg ht]
      rfl
  | newline h ih => rw [List.cons_append, List.cons_append, quotedText_slash, ih]; rfl
  | tab h ih => rw [List.cons_append, List.cons_append, quotedText_slash, ih]; rfl

/-- Digits are a whole number if neither a digit nor a fraction follows. -/
theorem numberToken_of_endsBefore (negative : Bool) {digits rest : List Char} {n : Int64}
    (hvalue : n.toInt = signed negative (decimalValue digits))
    (hrest : (Token.integer n).EndsBefore rest) :
    numberToken negative digits rest = (.integer n, 0) := by
  have htoken : integerToken negative digits = .integer n := by
    rw [integerToken, ← hvalue, int64?_toInt]
  unfold numberToken
  split
  · next after =>
      have hfraction : (after.takeWhile Char.isDigit).isEmpty = true := by
        have hafter := (hrest '.' rfl).2 rfl
        have hnone : ([] ++ after).takeWhile Char.isDigit = [] :=
          takeWhile_isDigit_append (by simp) hafter
        rw [List.isEmpty_iff]
        exact hnone
      simp only [hfraction, if_true, htoken]
  · rw [htoken]

theorem tokens_parameter {digits rest : List Char} (hne : digits ≠ [])
    (hdigits : ∀ c ∈ digits, c.isDigit = true) (hsize : decimalValue digits < UInt64.size)
    (hrest : ∀ c ∈ rest.head?, c.isDigit = false) :
    tokens ('@' :: digits ++ rest) = .parameter (decimalValue digits) :: tokens rest := by
  refine tokens_cons (by decide) ?_ rfl
  cases digits with
  | nil => exact absurd rfl hne
  | cons d digits =>
      have hmore := takeWhile_isDigit_append
        (fun c hc => hdigits c (List.mem_cons_of_mem _ hc)) hrest
      show escapedToken (d :: (digits ++ rest)) = _
      rw [escapedToken, if_pos (hdigits d (by simp)), hmore]
      exact if_pos hsize

theorem tokens_natural {digits rest : List Char} {n : Int64} (hne : digits ≠ [])
    (hdigits : ∀ c ∈ digits, c.isDigit = true) (hvalue : n.toInt = decimalValue digits)
    (hrest : (Token.integer n).EndsBefore rest) :
    tokens (digits ++ rest) = .integer n :: tokens rest := by
  cases digits with
  | nil => exact absurd rfl hne
  | cons d digits =>
      have hd : d.isDigit = true := hdigits d (by simp)
      have hname : ¬ isNameStart d = true := fun h => by
        rw [isDigit_of_isNameStart h] at hd
        exact absurd hd (by simp)
      have hspace : isSpace d = false := by
        rw [Bool.eq_false_iff]
        intro hs
        simp only [isSpace, Bool.or_eq_true, decide_eq_true_eq] at hs
        rcases hs with ((hs | hs) | hs) | hs <;> subst hs <;> exact absurd hd (by decide)
      have hmore := takeWhile_isDigit_append
        (fun c hc => hdigits c (List.mem_cons_of_mem _ hc)) fun c hc => (hrest c hc).1
      refine tokens_cons hspace ?_ rfl
      rw [tokenAt, if_neg hname, if_pos hd]
      simp only [hmore, List.drop_left]
      rw [numberToken_of_endsBefore false hvalue hrest]
      rfl

theorem tokens_negative {digits rest : List Char} {n : Int64} (hne : digits ≠ [])
    (hdigits : ∀ c ∈ digits, c.isDigit = true) (hvalue : n.toInt = -(decimalValue digits : Int))
    (hrest : (Token.integer n).EndsBefore rest) :
    tokens ('-' :: digits ++ rest) = .integer n :: tokens rest := by
  have hmore := takeWhile_isDigit_append hdigits fun c hc => (hrest c hc).1
  refine tokens_cons (by decide) ?_ rfl
  rw [tokenAt, if_neg (by decide), if_neg (by decide), if_pos rfl]
  simp only [hmore, List.drop_left]
  rw [if_neg (by simpa using hne), numberToken_of_endsBefore true hvalue hrest]
  rfl

theorem tokens_closedSymbol {t : Token} {cs : List Char} (h : (t, cs) ∈ closedSymbols)
    (rest : List Char) : tokens (cs ++ rest) = t :: tokens rest := by
  simp only [closedSymbols, List.mem_cons, Prod.mk.injEq, List.not_mem_nil, or_false] at h
  rcases h with ⟨rfl, rfl⟩ | ⟨rfl, rfl⟩ | ⟨rfl, rfl⟩ | ⟨rfl, rfl⟩ | ⟨rfl, rfl⟩ | ⟨rfl, rfl⟩ |
    ⟨rfl, rfl⟩ | ⟨rfl, rfl⟩ | ⟨rfl, rfl⟩ | ⟨rfl, rfl⟩ | ⟨rfl, rfl⟩ | ⟨rfl, rfl⟩ <;> rfl

theorem tokens_single {c : Char} {rest : List Char} {t : Token} (hc : isSpace c = false)
    (ht : tokenAt c rest = (t, 0)) (hlast : t.isLast = false) :
    tokens ([c] ++ rest) = t :: tokens rest := by
  rw [← List.nil_append rest] at ht
  exact tokens_cons hc ht hlast

/-- A single sign is a token of its own if no second one follows. -/
theorem tokens_openSymbol {t : Token} {cs : List Char} (h : (t, cs) ∈ openSymbols)
    {rest : List Char} (hrest : ∀ c ∈ rest.head?, c ≠ '=' ∧ c ≠ '>') :
    tokens (cs ++ rest) = t :: tokens rest := by
  have hequal : ¬ rest.head? = some '=' := fun heq => (hrest _ heq).1 rfl
  have hgreater : ¬ rest.head? = some '>' := fun heq => (hrest _ heq).2 rfl
  have hpair : ∀ double single : Token, pair '=' double single rest = (single, 0) :=
    fun _ _ => if_neg hequal
  simp only [openSymbols, List.mem_cons, Prod.mk.injEq, List.not_mem_nil, or_false] at h
  rcases h with ⟨rfl, rfl⟩ | ⟨rfl, rfl⟩ | ⟨rfl, rfl⟩ | ⟨rfl, rfl⟩
  · exact tokens_single (by decide) (hpair _ _) rfl
  · exact tokens_single (by decide) (hpair _ _) rfl
  · refine tokens_single (by decide) ?_ rfl
    show (if rest.head? = some '>' then _ else pair '=' _ _ rest) = _
    rw [if_neg hgreater, hpair]
  · exact tokens_single (by decide) (hpair _ _) rfl

theorem takesSign_of_mem_openSymbols {t : Token} {cs : List Char} (h : (t, cs) ∈ openSymbols) :
    t.takesSign = true := by
  simp only [openSymbols, List.mem_cons, Prod.mk.injEq, List.not_mem_nil, or_false] at h
  rcases h with ⟨rfl, rfl⟩ | ⟨rfl, rfl⟩ | ⟨rfl, rfl⟩ | ⟨rfl, rfl⟩ <;> rfl

theorem tokens_quoted {cs body : List Char} (h : Escaped cs body) (rest : List Char) :
    tokens ('"' :: (body ++ ['"']) ++ rest) = .quoted (String.ofList cs) :: tokens rest := by
  have htext : quotedText (body ++ ['"'] ++ rest) = .ok (cs, body.length + 1) := by
    rw [List.append_assoc]
    exact quotedText_of_escaped h rest
  refine tokens_cons (by decide) ?_ rfl
  have htoken : tokenAt '"' (body ++ ['"'] ++ rest) =
      match quotedText (body ++ ['"'] ++ rest) with
      | .ok (text, taken) => (.quoted (String.ofList text), taken)
      | .error bytes => (.unclosed bytes, 0) := rfl
  rw [htoken, htext]
  simp

/-- **A token is read back** in each of its spellings if what follows does not go on with it. -/
theorem Spelling.tokens_append {t : Token} {cs rest : List Char} (h : Spelling t cs)
    (hrest : t.EndsBefore rest) : tokens (cs ++ rest) = t :: tokens rest := by
  cases h with
  | word h => exact lexes_word h rest hrest
  | escaped h => exact lexes_escaped h rest hrest
  | parameter hne hdigits hvalue hsize =>
      subst hvalue
      exact tokens_parameter hne hdigits hsize hrest
  | natural hne hdigits hvalue => exact tokens_natural hne hdigits hvalue hrest
  | negative hne hdigits hvalue => exact tokens_negative hne hdigits hvalue hrest
  | quoted h => exact tokens_quoted h rest
  | symbol h =>
      rcases List.mem_append.mp h with h | h
      · exact tokens_closedSymbol h rest
      · have hsign := takesSign_of_mem_openSymbols h
        refine tokens_openSymbol h ?_
        cases t with
        | comparison | bang => exact hrest
        | _ => exact absurd hsign (by simp [Token.takesSign])

/-! ## §4. Layout. -/

/-- **The text is the tokens**, with blanks before and behind them.  A blank is due where a keyword
or name would run into what follows. -/
inductive Laid : List Token → List Char → Prop where
  | blanks {gap : List Char} (hgap : ∀ c ∈ gap, c ∈ [' ', '\t', '\r', '\n']) : Laid [] gap
  | token {t : Token} {ts : List Token} {gap cs rest : List Char}
      (hgap : ∀ c ∈ gap, c ∈ [' ', '\t', '\r', '\n']) (ht : Spelling t cs)
      (hapart : t.isNamed = true → Apart rest) (h : Laid ts rest) :
      Laid (t :: ts) (gap ++ (cs ++ rest))

theorem isSpace_iff {c : Char} : isSpace c = true ↔ c ∈ [' ', '\t', '\r', '\n'] := by
  simp [isSpace, or_assoc]

theorem tokens_blanks_append {gap : List Char} (hgap : ∀ c ∈ gap, c ∈ [' ', '\t', '\r', '\n'])
    (rest : List Char) : tokens (gap ++ rest) = tokens rest := by
  induction gap with
  | nil => rfl
  | cons c gap ih =>
      have hc : isSpace c = true := isSpace_iff.mpr (hgap c (by simp))
      rw [← ih fun x hx => hgap x (List.mem_cons_of_mem _ hx), List.cons_append, tokens, tokensFrom,
        if_pos hc]
      rfl

/-- How the spellings of a token can start. -/
theorem Spelling.exists_cons {t : Token} {cs : List Char} (h : Spelling t cs) :
    ∃ c more, cs = c :: more ∧ (t.startsWithDigit = false → c.isDigit = false) ∧
      (t.startsWithSign = false → c ≠ '=' ∧ c ≠ '>') ∧ (c = '.' → t = .dot ∧ more = []) := by
  have hsign : ∀ c : Char, (c.isDigit = true ∨ isNameStart c = true) →
      c ≠ '=' ∧ c ≠ '>' ∧ c ≠ '.' := by
    intro c hc
    refine ⟨?_, ?_, ?_⟩ <;> rintro rfl <;> revert hc <;> decide
  cases h with
  | @word cs h =>
      cases cs with
      | nil => exact absurd h (by simp [isName])
      | cons c more =>
          have hc := (isName_cons.mp h).1
          obtain ⟨hequal, hgreater, hdot⟩ := hsign c (.inr hc)
          exact ⟨c, more, rfl, fun _ => isDigit_of_isNameStart hc, fun _ => ⟨hequal, hgreater⟩,
            fun h => absurd h hdot⟩
  | natural hne hdigits hvalue =>
      cases cs with
      | nil => exact absurd rfl hne
      | cons c more =>
          obtain ⟨hequal, hgreater, hdot⟩ := hsign c (.inl (hdigits c (by simp)))
          exact ⟨c, more, rfl, by simp [Token.startsWithDigit], fun _ => ⟨hequal, hgreater⟩,
            fun h => absurd h hdot⟩
  | symbol h =>
      simp only [closedSymbols, openSymbols, List.cons_append, List.nil_append, List.mem_cons,
        Prod.mk.injEq, List.not_mem_nil, or_false] at h
      rcases h with ⟨rfl, rfl⟩ | ⟨rfl, rfl⟩ | ⟨rfl, rfl⟩ | ⟨rfl, rfl⟩ | ⟨rfl, rfl⟩ | ⟨rfl, rfl⟩ |
        ⟨rfl, rfl⟩ | ⟨rfl, rfl⟩ | ⟨rfl, rfl⟩ | ⟨rfl, rfl⟩ | ⟨rfl, rfl⟩ | ⟨rfl, rfl⟩ | ⟨rfl, rfl⟩ |
        ⟨rfl, rfl⟩ | ⟨rfl, rfl⟩ | ⟨rfl, rfl⟩ <;>
        exact ⟨_, _, rfl, by decide, by decide, by simp⟩
  | escaped | parameter | negative | quoted =>
      exact ⟨_, _, rfl, fun _ => by decide, fun _ => by decide, by simp⟩

/-- A property that blanks have, and that the first token's spellings start with, is one of the
first character of the text. -/
theorem Laid.head {p : Char → Prop} (hblank : ∀ c ∈ [' ', '\t', '\r', '\n'], p c) {ts : List Token}
    {cs : List Char} (h : Laid ts cs)
    (hfirst : ∀ t ∈ ts.head?, ∀ c more, Spelling t (c :: more) → p c) : ∀ c ∈ cs.head?, p c := by
  intro c hc
  cases h with
  | blanks hgap => exact hblank c (hgap c (List.mem_of_mem_head? hc))
  | @token t ts gap cs rest hgap ht hapart h =>
      cases gap with
      | cons x gap =>
          obtain rfl : x = c := Option.some.inj hc
          exact hblank x (hgap x (by simp))
      | nil =>
          obtain ⟨x, more, rfl, -⟩ := ht.exists_cons
          obtain rfl : x = c := Option.some.inj hc
          exact hfirst t rfl x more ht

theorem Laid.head_isDigit {ts : List Token} {cs : List Char} (h : Laid ts cs)
    (hfirst : ∀ t ∈ ts.head?, t.startsWithDigit = false) : ∀ c ∈ cs.head?, c.isDigit = false := by
  refine h.head (by simp) fun t ht c more hspelt => ?_
  obtain ⟨x, _, heq, hdigit, -⟩ := hspelt.exists_cons
  obtain ⟨rfl, -⟩ := List.cons_eq_cons.mp heq
  exact hdigit (hfirst t ht)

theorem Laid.head_ne_sign {ts : List Token} {cs : List Char} (h : Laid ts cs)
    (hfirst : ∀ t ∈ ts.head?, t.startsWithSign = false) :
    ∀ c ∈ cs.head?, c ≠ '=' ∧ c ≠ '>' := by
  refine h.head (by simp) fun t ht c more hspelt => ?_
  obtain ⟨x, _, heq, -, hsign, -⟩ := hspelt.exists_cons
  obtain ⟨rfl, -⟩ := List.cons_eq_cons.mp heq
  exact hsign (hfirst t ht)

/-- Behind a dot that starts the text there is no digit: a fraction is no member. -/
theorem Laid.tail_isDigit {ts : List Token} {cs : List Char} (h : Laid ts cs)
    (hchain : ts.IsChain Token.Meets) (hdot : '.' ∈ cs.head?) :
    ∀ c ∈ cs.tail.head?, c.isDigit = false := by
  cases h with
  | blanks hgap => exact absurd (hgap '.' (List.mem_of_mem_head? hdot)) (by decide)
  | @token t ts gap cs rest hgap ht hapart h =>
      cases gap with
      | cons x gap =>
          obtain rfl : x = '.' := Option.some.inj hdot
          exact absurd (hgap '.' (by simp)) (by decide)
      | nil =>
          obtain ⟨x, more, rfl, -, -, hx⟩ := ht.exists_cons
          obtain rfl : x = '.' := Option.some.inj hdot
          obtain ⟨rfl, rfl⟩ := hx rfl
          refine h.head_isDigit fun u hu => ?_
          cases ts with
          | nil => exact absurd hu (by simp)
          | cons v ts =>
              obtain rfl : v = u := Option.some.inj hu
              exact (List.isChain_cons_cons.mp hchain).1.digit rfl

/-- What is laid out behind a token does not go on with it. -/
theorem Laid.endsBefore {t : Token} {ts : List Token} {rest : List Char} (h : Laid ts rest)
    (hchain : (t :: ts).IsChain Token.Meets) (hapart : t.isNamed = true → Apart rest) :
    t.EndsBefore rest := by
  have hmeets : ∀ u ∈ ts.head?, t.Meets u := by
    intro u hu
    cases ts with
    | nil => exact absurd hu (by simp)
    | cons v ts =>
        obtain rfl : v = u := Option.some.inj hu
        exact (List.isChain_cons_cons.mp hchain).1
  cases t with
  | word | escaped => exact hapart rfl
  | parameter => exact h.head_isDigit fun u hu => (hmeets u hu).digit rfl
  | integer =>
      intro c hc
      refine ⟨h.head_isDigit (fun u hu => (hmeets u hu).digit rfl) c hc, ?_⟩
      rintro rfl
      exact h.tail_isDigit hchain.tail hc
  | comparison | bang => exact h.head_ne_sign fun u hu => (hmeets u hu).sign rfl
  | _ => trivial

/-- **A text is read as the tokens that it is laid out from**, if these can stand next to each
other. -/
theorem Laid.tokens_eq {ts : List Token} {cs : List Char} (h : Laid ts cs)
    (hchain : ts.IsChain Token.Meets) : tokens cs = ts := by
  induction h with
  | @blanks gap hgap =>
      have hgap' := tokens_blanks_append hgap []
      rwa [List.append_nil] at hgap'
  | @token t ts gap cs rest hgap ht hapart h ih =>
      rw [tokens_blanks_append hgap, ht.tokens_append (h.endsBefore hchain hapart),
        ih hchain.tail]

/-- Every token that can be spelt can be laid out: one blank before each is enough. -/
theorem exists_laid {ts : List Token} (h : ∀ t ∈ ts, ∃ cs, Spelling t cs) :
    ∃ cs, Laid ts cs ∧ Apart cs := by
  induction ts with
  | nil => exact ⟨[], .blanks (by simp), apart_nil⟩
  | cons t ts ih =>
      obtain ⟨cs, hspelt⟩ := h t (by simp)
      obtain ⟨rest, hrest, hapart⟩ := ih fun u hu => h u (List.mem_cons_of_mem _ hu)
      exact ⟨[' '] ++ (cs ++ rest), .token (by simp) hspelt (fun _ => hapart) hrest,
        apart_cons (by decide)⟩

end RecordSearch
