/-
  RecordSearch.Proofs.Expr.Rendering
  ──────────────────────────────────
  **Every way to write an expression is read back.**

  The predicate language leaves much to whoever writes it: which spelling of an operator, the case
  of a keyword, blanks, parentheses that are not needed.  `Rendering n ts e` has one constructor for
  each production of the language, for the tokens `ts` and the strength `n`:

      1 Or    2 And    3 Not    4 comparison, In    5 ??    6 access, calls, operands

  A text renders an expression when it is laid out from such tokens (`Renders`).

      Rendering.phrase           — the productions are those that the machine reads
      Rendering.seamless         — in a rendering no token runs into the next one
      Expr.Expressible.writable  — every expression of the language has a rendering
      Renders.parsePredicate     — an expression is read back from each of its renderings
-/
import RecordSearch.Proofs.Expr.Spelling
import RecordSearch.Proofs.Expr.Written

namespace RecordSearch

/-! ## §1. Renderings. -/

/-- The token names a member or method: any word, keywords among them, escaped or not. -/
inductive NamesMember : Token → String → Prop where
  | word (n : String) : NamesMember (.word n) n
  | escaped (n : String) : NamesMember (.escaped n) n

mutual

/-- **The tokens write the expression**, with an operator outermost that binds at least as tightly
as the number says. -/
inductive Rendering : Nat → List Token → Expr → Prop where
  | null {w : String} (h : lowered w = "null") : Rendering 6 [.word w] (.literal .null)
  | true {w : String} (h : lowered w = "true") : Rendering 6 [.word w] (.literal (.bool true))
  | false {w : String} (h : lowered w = "false") : Rendering 6 [.word w] (.literal (.bool false))
  | integer (n : Int64) : Rendering 6 [.integer n] (.literal (.int n))
  | quoted (s : String) : Rendering 6 [.quoted s] (.literal (.text s))
  | parameter (index : Nat) : Rendering 6 [.parameter index] (.parameter index)
  | name {n : String} (h : isKeyword n = false) : Rendering 6 [.word n] (.name n)
  | escaped (n : String) : Rendering 6 [.escaped n] (.name n)
  | group {ts : List Token} {e : Expr} (h : Rendering 1 ts e) :
      Rendering 6 (.opening :: (ts ++ [.closing])) e
  | member {ts : List Token} {e : Expr} {t : Token} {n : String} (h : Rendering 6 ts e)
      (ht : NamesMember t n) : Rendering 6 (ts ++ [.dot, t]) (.member e n)
  | call {ts as : List Token} {e : Expr} {es : List Expr} {t : Token} {n : String}
      (h : Rendering 6 ts e) (ht : NamesMember t n) (ha : RenderingOfAll as es) :
      Rendering 6 (ts ++ (.dot :: t :: .opening :: (as ++ [.closing]))) (.call e n es)
  /-- Two alternatives group to the right: the left operand is an access or tighter. -/
  | coalesce {ls rs : List Token} {l r : Expr} (hl : Rendering 6 ls l) (hr : Rendering 5 rs r) :
      Rendering 5 (ls ++ (.coalesce :: rs)) (.coalesce l r)
  /-- Comparisons do not chain: both operands bind more tightly. -/
  | compare {ls rs : List Token} {l r : Expr} (c : Comparison) (hl : Rendering 5 ls l)
      (hr : Rendering 5 rs r) : Rendering 4 (ls ++ (.comparison c :: rs)) (.compare c l r)
  | isIn {ls rs : List Token} {l r : Expr} {w : String} (h : lowered w = "in")
      (hl : Rendering 5 ls l) (hr : Rendering 5 rs r) :
      Rendering 4 (ls ++ (.word w :: rs)) (.isIn l r)
  | notWord {ts : List Token} {e : Expr} {w : String} (h : lowered w = "not")
      (he : Rendering 3 ts e) : Rendering 3 (.word w :: ts) (.not e)
  | notSign {ts : List Token} {e : Expr} (he : Rendering 3 ts e) :
      Rendering 3 (.bang :: ts) (.not e)
  | andWord {ls rs : List Token} {l r : Expr} {w : String} (h : lowered w = "and")
      (hl : Rendering 2 ls l) (hr : Rendering 3 rs r) :
      Rendering 2 (ls ++ (.word w :: rs)) (.and l r)
  | andSign {ls rs : List Token} {l r : Expr} (hl : Rendering 2 ls l) (hr : Rendering 3 rs r) :
      Rendering 2 (ls ++ (.both :: rs)) (.and l r)
  | orWord {ls rs : List Token} {l r : Expr} {w : String} (h : lowered w = "or")
      (hl : Rendering 1 ls l) (hr : Rendering 2 rs r) :
      Rendering 1 (ls ++ (.word w :: rs)) (.or l r)
  | orSign {ls rs : List Token} {l r : Expr} (hl : Rendering 1 ls l) (hr : Rendering 2 rs r) :
      Rendering 1 (ls ++ (.either :: rs)) (.or l r)
  /-- What binds more tightly needs no parentheses where something looser may stand. -/
  | loosen {n : Nat} {ts : List Token} {e : Expr} (h : Rendering (n + 1) ts e) : Rendering n ts e

/-- The tokens write expressions with commas between them. -/
inductive RenderingOfAll : List Token → List Expr → Prop where
  | none : RenderingOfAll [] []
  | one {ts : List Token} {e : Expr} (h : Rendering 1 ts e) : RenderingOfAll ts [e]
  | cons {ts as : List Token} {e f : Expr} {es : List Expr} (h : Rendering 1 ts e)
      (ha : RenderingOfAll as (f :: es)) :
      RenderingOfAll (ts ++ (.comma :: as)) (e :: f :: es)

end

/-- **The text renders the expression.** -/
def Renders (text : String) (e : Expr) : Prop := ∃ ts, Rendering 1 ts e ∧ Laid ts text.toList

/-! ## §2. Renderings are phrases. -/

theorem NamesMember.memberName? {t : Token} {n : String} (h : NamesMember t n) :
    t.memberName? = some n := by
  cases h <;> rfl

theorem binary?_word_or {w : String} (h : lowered w = "or") :
    (Token.word w).binary? = some .or := by
  simp [Token.binary?, Token.isWord, h]

theorem binary?_word_and {w : String} (h : lowered w = "and") :
    (Token.word w).binary? = some .and := by
  simp [Token.binary?, Token.isWord, h]

theorem binary?_word_in {w : String} (h : lowered w = "in") :
    (Token.word w).binary? = some .isIn := by
  simp [Token.binary?, Token.isWord, h]

theorem Arguments.items {ts : List Token} {e : Expr} {es : List Expr}
    (h : Arguments ts (e :: es)) : Items ts (e :: es) := by
  cases h with
  | some items => exact items

mutual

/-- The productions of the language are those that the machine reads. -/
theorem Rendering.phrase : ∀ {n : Nat} {ts : List Token} {e : Expr}, Rendering n ts e →
    Phrase n ts e
  | _, _, _, .null h => .operand (by simp [Token.operand?, Token.isWord, h])
  | _, _, _, .true h => .operand (by simp [Token.operand?, Token.isWord, h])
  | _, _, _, .false h => .operand (by simp [Token.operand?, Token.isWord, h])
  | _, _, _, .integer _ | _, _, _, .quoted _ | _, _, _, .parameter _ | _, _, _, .escaped _ =>
      .operand rfl
  | _, _, _, .name h => .operand (operand?_word_of_isKeyword h)
  | _, _, _, .group h => .group h.phrase
  | _, _, _, .member h ht => .member h.phrase ht.memberName?
  | _, _, _, .call h ht ha => .call h.phrase ht.memberName? ha.arguments
  | _, _, _, .coalesce hl hr => @Phrase.binary _ _ _ _ _ .coalesce rfl hl.phrase hr.phrase
  | _, _, _, .compare c hl hr => @Phrase.binary _ _ _ _ _ (.compare c) rfl hl.phrase hr.phrase
  | _, _, _, .isIn h hl hr => @Phrase.binary _ _ _ _ _ .isIn (binary?_word_in h) hl.phrase hr.phrase
  | _, _, _, .notWord h he => .negation (by simp [Token.isNegation, Token.isWord, h]) he.phrase
  | _, _, _, .notSign he => .negation rfl he.phrase
  | _, _, _, .andWord h hl hr =>
      @Phrase.binary _ _ _ _ _ .and (binary?_word_and h) hl.phrase hr.phrase
  | _, _, _, .andSign hl hr => @Phrase.binary _ _ _ _ _ .and rfl hl.phrase hr.phrase
  | _, _, _, .orWord h hl hr => @Phrase.binary _ _ _ _ _ .or (binary?_word_or h) hl.phrase hr.phrase
  | _, _, _, .orSign hl hr => @Phrase.binary _ _ _ _ _ .or rfl hl.phrase hr.phrase
  | _, _, _, .loosen h => .loosen h.phrase

theorem RenderingOfAll.arguments : ∀ {as : List Token} {es : List Expr}, RenderingOfAll as es →
    Arguments (as ++ [.closing]) es
  | _, _, .none => .none
  | _, _, .one h => .some (.last h.phrase)
  | _, _, .cons h ha => by
      rw [List.append_assoc, List.cons_append]
      exact .some (.cons h.phrase ha.arguments.items)

end

/-! ## §3. No token runs into the next one. -/

/-- The tokens can be written without blanks, and between operators. -/
structure Seamless (ts : List Token) : Prop where
  ne_nil : ts ≠ []
  chain : ts.IsChain Token.Meets
  first : ∀ t ∈ ts.head?, t.startsWithSign = false
  last : ∀ t ∈ ts.getLast?, t.takesSign = false

theorem seamless_singleton {t : Token} (hfirst : t.startsWithSign = false)
    (hlast : t.takesSign = false) : Seamless [t] where
  ne_nil := List.cons_ne_nil t []
  chain := .singleton t
  first := by
    rintro u ⟨⟩
    exact hfirst
  last := by
    rintro u ⟨⟩
    exact hlast

namespace Seamless

variable {ls rs ts as : List Token} {t : Token}

/-- A token that no digit joins may stand in front, unless it is a comparison. -/
theorem cons (h : Seamless ts) (hdigit : t.takesDigit = false) (hsign : t.startsWithSign = false) :
    Seamless (t :: ts) where
  ne_nil := List.cons_ne_nil t ts
  chain := List.isChain_cons.mpr
    ⟨fun u hu => ⟨fun ht => absurd (hdigit ▸ ht) (by simp), fun _ => h.first u hu⟩, h.chain⟩
  first := by
    rintro u ⟨⟩
    exact hsign
  last := by
    rw [List.getLast?_cons_of_ne_nil h.ne_nil]
    exact h.last

theorem append (hl : Seamless ls) (hr : Seamless rs)
    (h : ∀ u ∈ rs.head?, u.startsWithDigit = false) : Seamless (ls ++ rs) where
  ne_nil := List.append_ne_nil_of_left_ne_nil hl.ne_nil rs
  chain := List.isChain_append.mpr ⟨hl.chain, hr.chain, fun t ht u hu =>
    ⟨fun _ => h u hu, fun hs => absurd (hl.last t ht ▸ hs) (by simp)⟩⟩
  first := by
    rw [List.head?_append_of_ne_nil ls hl.ne_nil]
    exact hl.first
  last := by
    rw [List.getLast?_append_of_ne_nil ls hr.ne_nil]
    exact hr.last

/-- An operator may stand between two operands, comparisons among them. -/
theorem between (hl : Seamless ls) (hr : Seamless rs) (hdigit : t.takesDigit = false)
    (hstart : t.startsWithDigit = false) : Seamless (ls ++ (t :: rs)) where
  ne_nil := List.append_ne_nil_of_left_ne_nil hl.ne_nil _
  chain := by
    refine List.isChain_append.mpr ⟨hl.chain, List.isChain_cons.mpr ⟨?_, hr.chain⟩, ?_⟩
    · intro u hu
      exact ⟨fun ht => absurd (hdigit ▸ ht) (by simp), fun _ => hr.first u hu⟩
    · rintro u hu v ⟨⟩
      exact ⟨fun _ => hstart, fun hs => absurd (hl.last u hu ▸ hs) (by simp)⟩
  first := by
    rw [List.head?_append_of_ne_nil ls hl.ne_nil]
    exact hl.first
  last := by
    rw [List.getLast?_append_of_ne_nil ls (List.cons_ne_nil t rs),
      List.getLast?_cons_of_ne_nil hr.ne_nil]
    exact hr.last

theorem enclosed (h : as = [] ∨ Seamless as) : Seamless (.opening :: (as ++ [.closing])) := by
  have hclosing : Seamless [.closing] := seamless_singleton rfl rfl
  refine cons ?_ rfl rfl
  rcases h with rfl | h
  · exact hclosing
  · exact h.append hclosing (by rintro u ⟨⟩; rfl)

end Seamless

/-- The dot takes a digit that would follow, but a name starts with none. -/
theorem NamesMember.seamless {t : Token} {n : String} (ht : NamesMember t n) :
    Seamless [.dot, t] := by
  have hname : Seamless [t] := by cases ht <;> exact seamless_singleton rfl rfl
  have hmeets : Token.dot.Meets t := by
    cases ht <;> exact ⟨fun _ => rfl, fun hs => absurd hs (by simp [Token.takesSign])⟩
  exact ⟨by simp, List.isChain_pair.mpr hmeets, by rintro u ⟨⟩; rfl, hname.last⟩

mutual

/-- **In a rendering no token runs into the next one.** -/
theorem Rendering.seamless : ∀ {n : Nat} {ts : List Token} {e : Expr}, Rendering n ts e →
    Seamless ts
  | _, _, _, .null _ | _, _, _, .true _ | _, _, _, .false _ | _, _, _, .integer _
  | _, _, _, .quoted _ | _, _, _, .parameter _ | _, _, _, .name _ | _, _, _, .escaped _ =>
      seamless_singleton rfl rfl
  | _, _, _, .group h => .enclosed (.inr h.seamless)
  | _, _, _, .member h ht => h.seamless.append ht.seamless (by rintro u ⟨⟩; rfl)
  | _, _, _, .call h ht ha =>
      h.seamless.append
        (ht.seamless.append (.enclosed (ha.seamless.imp_left And.right)) (by rintro u ⟨⟩; rfl))
        (by rintro u ⟨⟩; rfl)
  | _, _, _, .notWord _ he | _, _, _, .notSign he => he.seamless.cons rfl rfl
  | _, _, _, .coalesce hl hr | _, _, _, .compare _ hl hr | _, _, _, .isIn _ hl hr
  | _, _, _, .andWord _ hl hr | _, _, _, .andSign hl hr | _, _, _, .orWord _ hl hr
  | _, _, _, .orSign hl hr => hl.seamless.between hr.seamless rfl rfl
  | _, _, _, .loosen h => h.seamless

theorem RenderingOfAll.seamless : ∀ {as : List Token} {es : List Expr}, RenderingOfAll as es →
    (es = [] ∧ as = []) ∨ Seamless as
  | _, _, .none => .inl ⟨rfl, rfl⟩
  | _, _, .one h => .inr h.seamless
  | _, _, .cons h ha => by
      have hrest := ha.seamless.resolve_left fun hnone => List.cons_ne_nil _ _ hnone.1
      exact .inr (h.seamless.between hrest rfl rfl)

end

/-! ## §4. Every expression of the language has a rendering. -/

/-- **The expressions of the language.**  Floats, bare lists and the other values have no literal,
and a name that is none cannot be written. -/
inductive Expr.Expressible : Expr → Prop where
  | null : Expressible (.literal .null)
  | bool (b : Bool) : Expressible (.literal (.bool b))
  | int (n : Int64) : Expressible (.literal (.int n))
  | text (s : String) : Expressible (.literal (.text s))
  | parameter {index : Nat} (h : index < UInt64.size) : Expressible (.parameter index)
  | name {n : String} (h : isName n.toList = true) : Expressible (.name n)
  | member {e : Expr} {n : String} (h : Expressible e) (hn : isName n.toList = true) :
      Expressible (.member e n)
  | call {e : Expr} {n : String} {es : List Expr} (h : Expressible e)
      (hn : isName n.toList = true) (hes : ∀ a ∈ es, Expressible a) : Expressible (.call e n es)
  | not {e : Expr} (h : Expressible e) : Expressible (.not e)
  | and {l r : Expr} (hl : Expressible l) (hr : Expressible r) : Expressible (.and l r)
  | or {l r : Expr} (hl : Expressible l) (hr : Expressible r) : Expressible (.or l r)
  | compare (c : Comparison) {l r : Expr} (hl : Expressible l) (hr : Expressible r) :
      Expressible (.compare c l r)
  | isIn {l r : Expr} (hl : Expressible l) (hr : Expressible r) : Expressible (.isIn l r)
  | coalesce {l r : Expr} (hl : Expressible l) (hr : Expressible r) : Expressible (.coalesce l r)

/-- The token can be spelt. -/
def Token.Spellable (t : Token) : Prop := ∃ cs, Spelling t cs

theorem spellable_word {n : String} (h : isName n.toList = true) : (Token.word n).Spellable :=
  ⟨n.toList, by simpa using Spelling.word h⟩

theorem spellable_escaped {n : String} (h : isName n.toList = true) :
    (Token.escaped n).Spellable :=
  ⟨'@' :: n.toList, by simpa using Spelling.escaped h⟩

theorem spellable_parameter {index : Nat} (h : index < UInt64.size) :
    (Token.parameter index).Spellable :=
  ⟨'@' :: Nat.toDigits 10 index,
    .parameter Nat.toDigits_ne_nil isDigit_of_mem_toDigits Nat.ofDigitChars_ten_toDigits h⟩

theorem spellable_integer (n : Int64) : (Token.integer n).Spellable := by
  have hvalue : decimalValue (Nat.toDigits 10 n.toInt.natAbs) = n.toInt.natAbs :=
    Nat.ofDigitChars_ten_toDigits
  by_cases hn : 0 ≤ n.toInt
  · exact ⟨_, .natural Nat.toDigits_ne_nil isDigit_of_mem_toDigits (by rw [hvalue]; omega)⟩
  · exact ⟨_, .negative Nat.toDigits_ne_nil isDigit_of_mem_toDigits (by rw [hvalue]; omega)⟩

theorem exists_escaped (cs : List Char) : ∃ body, Escaped cs body := by
  induction cs with
  | nil => exact ⟨[], .nil⟩
  | cons c cs ih =>
      obtain ⟨body, hbody⟩ := ih
      by_cases hslash : c = '"' ∨ c = '\\'
      · refine ⟨'\\' :: c :: body, .slash ?_ ?_ hbody⟩ <;> rintro rfl <;> simp at hslash
      · exact ⟨c :: body, .plain (fun h => hslash (.inl h)) (fun h => hslash (.inr h)) hbody⟩

theorem spellable_quoted (s : String) : (Token.quoted s).Spellable := by
  obtain ⟨body, hbody⟩ := exists_escaped s.toList
  exact ⟨_, by simpa using Spelling.quoted hbody⟩

theorem spellable_comparison (c : Comparison) : (Token.comparison c).Spellable :=
  ⟨c.symbol.toList, .symbol (by cases c <;> simp [closedSymbols, openSymbols, Comparison.symbol])⟩

theorem spellable_sign {t : Token}
    (h : t ∈ [.bang, .both, .either, .coalesce, .dot, .comma, .opening, .closing]) :
    t.Spellable := by
  simp only [List.mem_cons, List.not_mem_nil, or_false] at h
  rcases h with rfl | rfl | rfl | rfl | rfl | rfl | rfl | rfl <;>
    exact ⟨_, .symbol (by simp [closedSymbols, openSymbols]; rfl)⟩

/-- The expression can be written with an operator outermost that binds at least as tightly as the
number says. -/
def Expr.Writable (n : Nat) (e : Expr) : Prop := ∃ ts, Rendering n ts e ∧ ∀ t ∈ ts, t.Spellable

theorem Rendering.weaken {m n : Nat} {ts : List Token} {e : Expr} (h : Rendering n ts e)
    (hmn : m ≤ n) : Rendering m ts e := by
  obtain ⟨k, rfl⟩ := Nat.exists_eq_add_of_le hmn
  induction k with
  | zero => exact h
  | succ k ih => exact ih (.loosen h) (Nat.le_add_right m k)

namespace Expr.Writable

variable {n m : Nat} {e l r : Expr}

theorem weaken (h : Writable n e) (hmn : m ≤ n) : Writable m e := by
  obtain ⟨ts, hts, hspell⟩ := h
  exact ⟨ts, hts.weaken hmn, hspell⟩

theorem single {t : Token} (h : Rendering n [t] e) (ht : t.Spellable) : Writable n e :=
  ⟨[t], h, by simpa using ht⟩

theorem group (h : Writable n e) (hn : 1 ≤ n) : Writable 6 e := by
  obtain ⟨ts, hts, hspell⟩ := h
  refine ⟨.opening :: (ts ++ [.closing]), .group (hts.weaken hn), ?_⟩
  simp only [List.mem_cons, List.mem_append, List.not_mem_nil, or_false]
  rintro t (rfl | ht | rfl)
  · exact spellable_sign (by simp)
  · exact hspell t ht
  · exact spellable_sign (by simp)

theorem member {name : String} (h : Writable 6 e) (hname : isName name.toList = true) :
    Writable 6 (.member e name) := by
  obtain ⟨ts, hts, hspell⟩ := h
  refine ⟨ts ++ [.dot, .word name], .member hts (.word name), ?_⟩
  simp only [List.mem_append, List.mem_cons, List.not_mem_nil, or_false]
  rintro t (ht | rfl | rfl)
  · exact hspell t ht
  · exact spellable_sign (by simp)
  · exact spellable_word hname

theorem exists_renderingOfAll {es : List Expr} (h : ∀ a ∈ es, Writable 1 a) :
    ∃ as, RenderingOfAll as es ∧ ∀ t ∈ as, t.Spellable := by
  induction es with
  | nil => exact ⟨[], .none, by simp⟩
  | cons e es ih =>
      obtain ⟨ts, hts, hspell⟩ := h e (by simp)
      obtain ⟨as, has, haspell⟩ := ih fun a ha => h a (List.mem_cons_of_mem _ ha)
      cases es with
      | nil => exact ⟨ts, .one hts, hspell⟩
      | cons f es =>
          refine ⟨ts ++ (.comma :: as), .cons hts has, ?_⟩
          simp only [List.mem_append, List.mem_cons]
          rintro t (ht | rfl | ht)
          · exact hspell t ht
          · exact spellable_sign (by simp)
          · exact haspell t ht

theorem call {name : String} {es : List Expr} (h : Writable 6 e)
    (hname : isName name.toList = true) (hes : ∀ a ∈ es, Writable 6 a) :
    Writable 6 (.call e name es) := by
  obtain ⟨ts, hts, hspell⟩ := h
  obtain ⟨as, has, haspell⟩ := exists_renderingOfAll fun a ha => (hes a ha).weaken (by decide)
  refine ⟨ts ++ (.dot :: .word name :: .opening :: (as ++ [.closing])),
    .call hts (.word name) has, ?_⟩
  simp only [List.mem_append, List.mem_cons, List.not_mem_nil, or_false]
  rintro t (ht | rfl | rfl | rfl | ht | rfl)
  · exact hspell t ht
  · exact spellable_sign (by simp)
  · exact spellable_word hname
  · exact spellable_sign (by simp)
  · exact haspell t ht
  · exact spellable_sign (by simp)

theorem negation (h : Writable 6 e) : Writable 6 (.not e) := by
  obtain ⟨ts, hts, hspell⟩ := h
  refine group (n := 3) ⟨.bang :: ts, .notSign (hts.weaken (by decide)), ?_⟩ (by decide)
  simp only [List.mem_cons]
  rintro t (rfl | ht)
  · exact spellable_sign (by simp)
  · exact hspell t ht

/-- An operator between two operands, all of it in parentheses. -/
theorem between {t : Token} (hl : Writable 6 l) (hr : Writable 6 r) (ht : t.Spellable)
    (hn : 1 ≤ n)
    (h : ∀ {ls rs}, Rendering 6 ls l → Rendering 6 rs r → Rendering n (ls ++ (t :: rs)) e) :
    Writable 6 e := by
  obtain ⟨ls, hls, hlspell⟩ := hl
  obtain ⟨rs, hrs, hrspell⟩ := hr
  refine group ⟨ls ++ (t :: rs), h hls hrs, ?_⟩ hn
  simp only [List.mem_append, List.mem_cons]
  rintro u (hu | rfl | hu)
  · exact hlspell u hu
  · exact ht
  · exact hrspell u hu

end Expr.Writable

/-- **Every expression of the language can be written**: with parentheses around each operator. -/
theorem Expr.Expressible.writable {e : Expr} (h : e.Expressible) : e.Writable 6 := by
  induction h with
  | null => exact .single (.null (w := "null") (by decide)) (spellable_word (by decide))
  | bool b =>
      cases b with
      | false => exact .single (.false (w := "false") (by decide)) (spellable_word (by decide))
      | true => exact .single (.true (w := "true") (by decide)) (spellable_word (by decide))
  | int n => exact .single (.integer n) (spellable_integer n)
  | text s => exact .single (.quoted s) (spellable_quoted s)
  | parameter h => exact .single (.parameter _) (spellable_parameter h)
  | name h => exact .single (.escaped _) (spellable_escaped h)
  | member h hn ih => exact ih.member hn
  | call h hn hes ih ihes => exact ih.call hn ihes
  | not h ih => exact ih.negation
  | and hl hr ihl ihr =>
      exact ihl.between ihr (spellable_sign (by simp)) (by decide) fun hls hrs =>
        .andSign (hls.weaken (by decide)) (hrs.weaken (by decide))
  | or hl hr ihl ihr =>
      exact ihl.between ihr (spellable_sign (by simp)) (by decide) fun hls hrs =>
        .orSign (hls.weaken (by decide)) (hrs.weaken (by decide))
  | compare c hl hr ihl ihr =>
      exact ihl.between ihr (spellable_comparison c) (by decide) fun hls hrs =>
        .compare c (hls.weaken (by decide)) (hrs.weaken (by decide))
  | isIn hl hr ihl ihr =>
      exact ihl.between ihr (spellable_word (by decide)) (by decide) fun hls hrs =>
        .isIn (w := "in") (by decide) (hls.weaken (by decide)) (hrs.weaken (by decide))
  | coalesce hl hr ihl ihr =>
      exact ihl.between ihr (spellable_sign (by simp)) (by decide) fun hls hrs =>
        .coalesce hls (hrs.weaken (by decide))

theorem Expr.Expressible.exists_renders {e : Expr} (h : e.Expressible) :
    ∃ text, Renders text e := by
  obtain ⟨ts, hts, hspell⟩ := h.writable
  obtain ⟨cs, hlaid, -⟩ := exists_laid hspell
  exact ⟨String.ofList cs, ts, hts.weaken (by decide), by rwa [String.toList_ofList]⟩

/-! ## §5. Every rendering is read back. -/

theorem Renders.parsePredicate {text : String} {e : Expr} (h : Renders text e) :
    parsePredicate text = .ok e := by
  obtain ⟨ts, hts, hlaid⟩ := h
  exact parsePredicate_of_phrase (hlaid.tokens_eq hts.seamless.chain) hts.phrase

/-- **Every way to write an expression is read back**: an expression of the language can be
written, and whoever writes it, in whatever way, has it read as just that expression. -/
theorem Expr.Expressible.parsePredicate_renders {e : Expr} (h : e.Expressible) :
    (∃ text, Renders text e) ∧ ∀ text, Renders text e → parsePredicate text = .ok e :=
  ⟨h.exists_renders, fun _ ht => ht.parsePredicate⟩

/-- A keyword in capitals, an escaped keyword that is a name, and an operator between a name and a
sign without a blank. -/
theorem Expr.Expressible.parsePredicate_renders_negation :
    parsePredicate "NOT @in<>-1" =
      .ok (.not (.compare .notEqual (.name "in") (.literal (.int (-1))))) := by
  refine (Expr.Expressible.parsePredicate_renders
    (.not (.compare .notEqual (.name (by decide)) (.int (-1))))).2 _
      ⟨[.word "NOT", .escaped "in", .comparison .notEqual, .integer (-1)], ?_, ?_⟩
  · exact .loosen (.loosen (.notWord (by decide) (.loosen
      (.compare .notEqual (.loosen (.escaped "in")) (.loosen (.integer (-1)))))))
  · show Laid _ ([] ++ (['N', 'O', 'T'] ++ ([' '] ++ (['@', 'i', 'n'] ++ ([] ++ (['<', '>'] ++
      ([] ++ (['-', '1'] ++ []))))))))
    exact .token (by simp) (@Spelling.word ['N', 'O', 'T'] (by decide))
      (fun _ => apart_cons (by decide))
      (.token (by simp) (@Spelling.escaped ['i', 'n'] (by decide)) (fun _ => apart_cons (by decide))
        (.token (by simp) (.symbol (by simp [closedSymbols])) (fun h => absurd h (by decide))
          (.token (by simp) (@Spelling.negative ['1'] (-1) (by decide) (by simp) (by decide))
            (fun h => absurd h (by decide)) (.blanks (by simp)))))

end RecordSearch
