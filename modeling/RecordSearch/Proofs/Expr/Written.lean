/-
  RecordSearch.Proofs.Expr.Written
  ────────────────────────────────
  **Texts that write expressions.**

  `Written n text e` says that `text` is read as tokens that are a phrase for `e` of strength `n`.
  It composes as texts are put together: one lemma for each way in which a longer text is made
  from shorter ones, so that what a text is read as follows its construction.

      Written.parsePredicate     — a written expression is read back
      writtenPath_names          — a path writes the chain of its names, reserved ones escaped
-/
import RecordSearch.Proofs.Expr.Grammar

namespace RecordSearch

/-- The text writes the expression, with an operator outermost that binds at least as tightly as
the number says. -/
def Written (n : Nat) (text : String) (e : Expr) : Prop :=
  ∃ ts, Phrase n ts e ∧ Lexes text.toList ts

/-- **A written expression is read back.** -/
theorem Written.parsePredicate {text : String} {e : Expr} (h : Written 1 text e) :
    parsePredicate text = .ok e := by
  obtain ⟨ts, hphrase, hlexes⟩ := h
  exact parsePredicate_of_phrase hlexes.tokens_eq hphrase

theorem Written.weaken {m n : Nat} {text : String} {e : Expr} (h : Written n text e)
    (hmn : m ≤ n) : Written m text e := by
  obtain ⟨ts, hphrase, hlexes⟩ := h
  exact ⟨ts, hphrase.weaken hmn, hlexes⟩

/-! ## §1. Operands. -/

theorem written_null : Written 6 "null" (.literal .null) := by
  refine ⟨[.word "null"], .operand ?_, ?_⟩
  · simp [Token.operand?, Token.isWord, show lowered "null" = "null" by decide]
  · exact lexes_word (by decide : isName ['n', 'u', 'l', 'l'] = true)

theorem written_emptyText : Written 6 "\"\"" (.literal (.text "")) :=
  ⟨[.quoted ""], .operand rfl, fun _ _ => rfl⟩

theorem written_placeholder {index : Nat} (h : index < UInt64.size) :
    Written 6 (Dialect.placeholder index) (.parameter index) :=
  ⟨[.parameter index], .operand rfl, lexes_placeholder h⟩

/-! ## §2. Parentheses and operators. -/

theorem Written.parens {text : String} {e : Expr} (h : Written 1 text e) :
    Written 6 ("(" ++ text ++ ")") e := by
  obtain ⟨ts, hphrase, hlexes⟩ := h
  refine ⟨.opening :: (ts ++ [.closing]), .group hphrase, ?_⟩
  have hopen : Closed ['('] [.opening] := fun _ => rfl
  have hclose : Closed [')'] [.closing] := fun _ => rfl
  have hinner := hlexes.append hclose.lexes (apart_cons (by decide))
  simpa using hopen.append hinner

theorem Written.negation {text : String} {e : Expr} (h : Written 3 text e) :
    Written 3 ("Not " ++ text) (.not e) := by
  obtain ⟨ts, hphrase, hlexes⟩ := h
  have hnot : Closed ['N', 'o', 't', ' '] [.word "Not"] := fun _ => rfl
  refine ⟨.word "Not" :: ts, .negation (by decide) hphrase, ?_⟩
  simpa using hnot.append hlexes

/-- **Two operands with an operator between them**, set apart by a blank on either side. -/
theorem Written.binary {op : Binary} {left symbol right : String} {l r : Expr} {t : Token}
    (hl : Written op.absorbs left l) (hr : Written op.operandStrength right r)
    (ht : t.binary? = some op) (hsymbol : Closed (symbol.toList ++ [' ']) [t]) :
    Written op.strength (left ++ " " ++ symbol ++ " " ++ right) (op.build l r) := by
  obtain ⟨ls, hlphrase, hllexes⟩ := hl
  obtain ⟨rs, hrphrase, hrlexes⟩ := hr
  refine ⟨ls ++ (t :: rs), .binary ht hlphrase hrphrase, ?_⟩
  have hblank : Closed [' '] [] := fun _ => rfl
  have hright := hblank.append (hsymbol.append hrlexes)
  simpa using hllexes.append hright (apart_cons (by decide))

theorem Written.comparison {left right : String} {l r : Expr} (c : Comparison)
    (hl : Written 5 left l) (hr : Written 5 right r) :
    Written 4 (left ++ " " ++ c.symbol ++ " " ++ right) (.compare c l r) := by
  have hsymbol : Closed (c.symbol.toList ++ [' ']) [.comparison c] := by
    intro rest
    cases c <;> rfl
  show Written (Binary.compare c).strength _ ((Binary.compare c).build l r)
  exact Written.binary hl hr rfl hsymbol

theorem Written.membership {left right : String} {l r : Expr} (hl : Written 5 left l)
    (hr : Written 5 right r) : Written 4 (left ++ " " ++ "In" ++ " " ++ right) (.isIn l r) := by
  have hsymbol : Closed ("In".toList ++ [' ']) [.word "In"] := fun _ => rfl
  show Written Binary.isIn.strength _ (Binary.isIn.build l r)
  exact Written.binary hl hr (by decide) hsymbol

theorem Written.alternative {left right : String} {l r : Expr} (hl : Written 6 left l)
    (hr : Written 5 right r) :
    Written 5 (left ++ " " ++ "??" ++ " " ++ right) (.coalesce l r) := by
  have hsymbol : Closed ("??".toList ++ [' ']) [.coalesce] := fun _ => rfl
  show Written Binary.coalesce.strength _ (Binary.coalesce.build l r)
  exact Written.binary hl hr rfl hsymbol

theorem Written.conjunction {left right : String} {l r : Expr} (hl : Written 2 left l)
    (hr : Written 3 right r) :
    Written 2 (left ++ " " ++ "And" ++ " " ++ right) (.and l r) := by
  have hsymbol : Closed ("And".toList ++ [' ']) [.word "And"] := fun _ => rfl
  show Written Binary.and.strength _ (Binary.and.build l r)
  exact Written.binary hl hr (by decide) hsymbol

theorem Written.disjunction {left right : String} {l r : Expr} (hl : Written 1 left l)
    (hr : Written 2 right r) : Written 1 (left ++ " " ++ "Or" ++ " " ++ right) (.or l r) := by
  have hsymbol : Closed ("Or".toList ++ [' ']) [.word "Or"] := fun _ => rfl
  show Written Binary.or.strength _ (Binary.or.build l r)
  exact Written.binary hl hr (by decide) hsymbol

/-! ## §3. Members and calls. -/

/-- The dialect writes a name as one token that names a member. -/
theorem Dialect.lexes_escape (d : Dialect) {name : String} (h : isName name.toList = true) :
    ∃ t, Lexes (d.escape name).toList [t] ∧ t.memberName? = some name := by
  by_cases hr : d.isReserved name = true
  · refine ⟨.escaped name, ?_, rfl⟩
    rw [Dialect.escape, if_pos hr]
    simpa using lexes_escaped h
  · refine ⟨.word name, ?_, rfl⟩
    rw [Dialect.escape, if_neg hr]
    simpa using lexes_word h

theorem Written.callNone {text method : String} {e : Expr} (h : Written 6 text e)
    (hmethod : isName method.toList = true) :
    Written 6 (text ++ "." ++ method ++ "()") (.call e method []) := by
  obtain ⟨ts, hphrase, hts⟩ := h
  refine ⟨ts ++ [.dot, .word method, .opening, .closing], .call hphrase rfl .none, ?_⟩
  have hdot : Closed ['.'] [.dot] := fun _ => rfl
  have hparens : Closed ['(', ')'] [.opening, .closing] := fun _ => rfl
  have hcall := (lexes_word hmethod).append hparens.lexes (apart_cons (by decide))
  simpa using hts.append (hdot.append hcall) (apart_cons (by decide))

theorem Written.callOne {text method argument : String} {e a : Expr} (h : Written 6 text e)
    (hmethod : isName method.toList = true) (ha : Written 1 argument a) :
    Written 6 (text ++ "." ++ method ++ "(" ++ argument ++ ")") (.call e method [a]) := by
  obtain ⟨ts, hphrase, hts⟩ := h
  obtain ⟨as, haphrase, has⟩ := ha
  refine ⟨ts ++ (.dot :: .word method :: .opening :: (as ++ [.closing])),
    .call hphrase rfl (.some (.last haphrase)), ?_⟩
  have hdot : Closed ['.'] [.dot] := fun _ => rfl
  have hopen : Closed ['('] [.opening] := fun _ => rfl
  have hclose : Closed [')'] [.closing] := fun _ => rfl
  have hargument := hopen.append (has.append hclose.lexes (apart_cons (by decide)))
  have hcall := (lexes_word hmethod).append hargument (apart_cons (by decide))
  simpa using hts.append (hdot.append hcall) (apart_cons (by decide))

/-! ## §4. Paths. -/

/-- The chain of member accesses that the names of a path stand for. -/
def Expr.ofNames : List String → Expr
  | [] => default
  | n :: ns => ns.foldl .member (.name n)

/-- The tokens write a chain of member accesses with nothing around it. -/
inductive PathTokens : List Token → Expr → Prop where
  | name {t : Token} {n : String} (ht : t.operand? = some (.name n)) : PathTokens [t] (.name n)
  | member {ts : List Token} {e : Expr} {t : Token} {n : String} (h : PathTokens ts e)
      (ht : t.memberName? = some n) : PathTokens (ts ++ [.dot, t]) (.member e n)

theorem PathTokens.phrase {ts : List Token} {e : Expr} (h : PathTokens ts e) : Phrase 6 ts e := by
  induction h with
  | name ht => exact .operand ht
  | member h ht ih => exact .member ih ht

/-- The text is a path for the chain of member accesses. -/
def WrittenPath (text : String) (e : Expr) : Prop :=
  ∃ ts, PathTokens ts e ∧ Lexes text.toList ts

theorem WrittenPath.written {text : String} {e : Expr} (h : WrittenPath text e) :
    Written 6 text e := by
  obtain ⟨ts, hpath, hlexes⟩ := h
  exact ⟨ts, hpath.phrase, hlexes⟩

theorem WrittenPath.member {text written n : String} {e : Expr} {t : Token}
    (h : WrittenPath text e) (hlexes : Lexes written.toList [t]) (ht : t.memberName? = some n) :
    WrittenPath (text ++ "." ++ written) (.member e n) := by
  obtain ⟨ts, hpath, hts⟩ := h
  refine ⟨ts ++ [.dot, t], .member hpath ht, ?_⟩
  have hdot : Closed ['.'] [.dot] := fun _ => rfl
  simpa using hts.append (hdot.append hlexes) (apart_cons (by decide))

/-- A word that is no keyword is a bare name. -/
theorem operand?_word_of_isKeyword {n : String} (h : isKeyword n = false) :
    (Token.word n).operand? = some (.name n) := by
  -- As no keyword it is none of the words for null and for truth values either.
  have hword : ∀ keyword ∈ keywords, (Token.word n).isWord keyword = false := by
    intro keyword hmem
    rw [Bool.eq_false_iff]
    intro hw
    have hn : lowered n = keyword := by simpa [Token.isWord] using hw
    rw [isKeyword, hn] at h
    simp [hmem] at h
  simp [Token.operand?, hword "null" (by decide), hword "true" (by decide),
    hword "false" (by decide), h]

/-- A first name is a bare name: a keyword would be reserved, and so escaped. -/
theorem writtenPath_name {words : List String} {n : String} (h : isName n.toList = true) :
    WrittenPath ((Dialect.ofWords words).escape n) (.name n) := by
  by_cases hr : (Dialect.ofWords words).isReserved n = true
  · refine ⟨[.escaped n], .name rfl, ?_⟩
    rw [Dialect.escape, if_pos hr]
    simpa using lexes_escaped h
  · have hkeyword : isKeyword n = false := by
      rw [Bool.eq_false_iff]
      exact fun hk => hr (Dialect.reserved_ofWords_of_keyword hk)
    refine ⟨[.word n], .name (operand?_word_of_isKeyword hkeyword), ?_⟩
    rw [Dialect.escape, if_neg hr]
    simpa using lexes_word h

theorem writtenPath_members (d : Dialect) {ns : List String}
    (h : ∀ n ∈ ns, isName n.toList = true) : ∀ {text : String} {e : Expr}, WrittenPath text e →
      WrittenPath (".".intercalate (text :: ns.map d.escape)) (ns.foldl .member e) := by
  induction ns with
  | nil => intro text e htext; simpa using htext
  | cons n ns ih =>
      intro text e htext
      obtain ⟨t, hlexes, ht⟩ := d.lexes_escape (h n (by simp))
      have hmember := htext.member hlexes ht
      have hrest := ih (fun m hm => h m (List.mem_cons_of_mem _ hm)) hmember
      -- The fold takes the first member into its target, and so does joining the texts.
      rw [String.append_assoc, String.intercalate_cons_append,
        String.intercalate_cons_append] at hrest
      simpa [String.append_assoc] using hrest

/-- **A path writes the chain of its names**, reserved ones behind the escape mark. -/
theorem writtenPath_names (words : List String) {ns : List String} (hne : ns ≠ [])
    (h : ∀ n ∈ ns, isName n.toList = true) :
    WrittenPath (".".intercalate (ns.map (Dialect.ofWords words).escape)) (.ofNames ns) := by
  cases ns with
  | nil => exact absurd rfl hne
  | cons n ns =>
      exact writtenPath_members _ (fun m hm => h m (List.mem_cons_of_mem _ hm))
        (writtenPath_name (h n (by simp)))

end RecordSearch
