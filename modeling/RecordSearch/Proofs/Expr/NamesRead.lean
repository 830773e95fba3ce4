/-
  RecordSearch.Proofs.Expr.NamesRead
  ──────────────────────────────────
  **Where the names of an expression come from.**

  Reading makes up no name.  The member and method names of an expression are words of its text, in
  the order in which they stand there, and the words of a text are all of one kind: a letter or an
  underscore, and behind it any number of letters, numerals and underscores (`identifiers`).

  A machine that reads holds names in what it has read, in its pending operators and in its open
  parentheses.  One token adds at most the word that it is, and no other name comes in.

      isName_of_mem_wordsOf     — the words of a text are names
      Progress.names_of_next?   — the names that one token adds
      names_of_parsePredicate   — the names of a predicate are words of its text
      names_of_parseOrdering    — so are those of the keys of an ordering clause
-/
import Mathlib.Computability.Language
import RecordSearch.Proofs.Expr.Stops

namespace RecordSearch

open scoped Computability

/-! ## §1. The pattern of names. -/

/-- The texts of one character of a class. -/
def oneOf (p : Char → Bool) : Language Char := {cs | ∃ c, p c = true ∧ cs = [c]}

/-- **The pattern of names**: one character that a name can start with, then any number of those
that it can go on with. -/
def identifiers : Language Char := oneOf isNameStart * (oneOf isNamePart)∗

theorem mem_kstar_oneOf {p : Char → Bool} {cs : List Char} :
    cs ∈ (oneOf p)∗ ↔ ∀ c ∈ cs, p c = true := by
  rw [Language.mem_kstar]
  constructor
  · rintro ⟨parts, rfl, hparts⟩ c hc
    obtain ⟨part, hpart, hmem⟩ := List.mem_flatten.mp hc
    obtain ⟨d, hd, rfl⟩ := hparts part hpart
    obtain rfl := List.mem_singleton.mp hmem
    exact hd
  · intro h
    -- The text is cut into its characters.
    refine ⟨cs.map fun c => [c], ?_, ?_⟩
    · rw [← List.flatMap_def, List.flatMap_singleton']
    · intro part hpart
      obtain ⟨c, hc, rfl⟩ := List.mem_map.mp hpart
      exact ⟨c, h c hc, rfl⟩

/-- **What is checked of a name is the pattern.** -/
theorem mem_identifiers_iff {cs : List Char} : cs ∈ identifiers ↔ isName cs = true := by
  rw [identifiers, Language.mem_mul]
  simp only [mem_kstar_oneOf]
  constructor
  · rintro ⟨_, ⟨c, hc, rfl⟩, more, hmore, rfl⟩
    exact isName_cons.mpr ⟨hc, hmore⟩
  · intro h
    cases cs with
    | nil => cases h
    | cons c cs =>
        obtain ⟨hc, hcs⟩ := isName_cons.mp h
        exact ⟨[c], ⟨c, hc, rfl⟩, cs, hcs, rfl⟩

/-! ## §2. The words of a text. -/

/-- The name that a token is, if it is a word. -/
def Token.names (t : Token) : List String := t.memberName?.toList

/-- **The words of a text**, from left to right. -/
def wordsOf (text : String) : List String := (tokens text.toList).flatMap Token.names

theorem isName_cons_takeWhile {c : Char} (hc : isNameStart c = true) (cs : List Char) :
    isName (c :: cs.takeWhile isNamePart) = true := by
  rw [isName, hc, List.all_takeWhile]
  rfl

theorem isName_of_escapedToken {cs : List Char} {n : String}
    (h : (escapedToken cs).1.memberName? = some n) : isName n.toList = true := by
  unfold escapedToken at h
  split at h
  · cases h
  · next c cs =>
      dsimp only at h
      split at h
      · -- A number behind the mark is a parameter, or too great for one.
        split at h <;> cases h
      · split at h
        · next hc =>
            cases h
            rw [String.toList_ofList]
            exact isName_cons_takeWhile hc cs
        · cases h

theorem memberName?_numberToken (negative : Bool) (digits rest : List Char) :
    (numberToken negative digits rest).1.memberName? = none := by
  have hinteger : (integerToken negative digits).memberName? = none := by
    unfold integerToken
    split <;> rfl
  unfold numberToken
  split
  · dsimp only
    split
    · exact hinteger
    · rfl
  · exact hinteger

theorem memberName?_pair {second : Char} {double single : Token}
    (hdouble : double.memberName? = none) (hsingle : single.memberName? = none)
    (rest : List Char) : (pair second double single rest).1.memberName? = none := by
  unfold pair
  split
  · exact hdouble
  · exact hsingle

/-- Only the characters that a name can start with, and the escape mark, start a word. -/
theorem memberName?_tokenAt {c : Char} (hname : ¬ isNameStart c = true) (hmark : c ≠ escapeMark)
    (cs : List Char) : (tokenAt c cs).1.memberName? = none := by
  by_cases hdigit : c.isDigit = true
  · rw [tokenAt, if_neg hname, if_pos hdigit]
    exact memberName?_numberToken _ _ _
  by_cases hc : c ∈ ['-', '"', '<']
  · simp only [List.mem_cons, List.not_mem_nil, or_false] at hc
    rcases hc with rfl | rfl | rfl
    · show (if (cs.takeWhile Char.isDigit).isEmpty then _ else _ : Token × Nat).1.memberName? = none
      split
      · rfl
      · exact memberName?_numberToken _ _ _
    · rw [tokenAt, if_neg hname, if_neg hdigit, if_neg (by decide), if_neg hmark, if_pos rfl]
      split <;> rfl
    · show (if cs.head? = some '>' then _ else _ : Token × Nat).1.memberName? = none
      split
      · rfl
      · exact memberName?_pair rfl rfl cs
  by_cases hsigns : c ∈ ['=', '!', '>', '&', '|', '?']
  · simp only [List.mem_cons, List.not_mem_nil, or_false] at hsigns
    rcases hsigns with rfl | rfl | rfl | rfl | rfl | rfl
    all_goals exact memberName?_pair rfl rfl cs
  by_cases hsign : c ∈ ['.', ',', '(', ')']
  · simp only [List.mem_cons, List.not_mem_nil, or_false] at hsign
    rcases hsign with rfl | rfl | rfl | rfl
    all_goals rfl
  · -- No other character starts a token.
    simp only [List.mem_cons, List.not_mem_nil, or_false, not_or] at hc hsigns hsign
    rw [escapeMark] at hmark
    simp [tokenAt, escapeMark, hname, hdigit, hmark, hc, hsigns, hsign, Token.memberName?]

theorem isName_of_tokenAt {c : Char} {cs : List Char} {n : String}
    (h : (tokenAt c cs).1.memberName? = some n) : isName n.toList = true := by
  by_cases hname : isNameStart c = true
  · rw [tokenAt, if_pos hname] at h
    cases h
    rw [String.toList_ofList]
    exact isName_cons_takeWhile hname cs
  by_cases hmark : c = escapeMark
  · subst hmark
    exact isName_of_escapedToken h
  · rw [memberName?_tokenAt hname hmark] at h
    cases h

theorem isName_of_mem_tokensFrom {t : Token} {n : String} (hn : t.memberName? = some n)
    (cs : List Char) : ∀ taken, t ∈ tokensFrom taken cs → isName n.toList = true := by
  induction cs with
  | nil =>
      intro taken h
      cases taken <;> cases h
  | cons c cs ih =>
      intro taken h
      cases taken with
      | succ taken => exact ih taken h
      | zero =>
          simp only [tokensFrom] at h
          split at h
          · exact ih 0 h
          · rcases List.mem_cons.mp h with rfl | hrest
            · exact isName_of_tokenAt hn
            · -- The rest of the text is cut up only if the token does not end it.
              split at hrest
              · cases hrest
              · exact ih _ hrest

/-- **The words of a text are names**, those behind the escape mark and the others. -/
theorem isName_of_mem_wordsOf {text n : String} (h : n ∈ wordsOf text) :
    isName n.toList = true := by
  obtain ⟨t, ht, hn⟩ := List.mem_flatMap.mp h
  exact isName_of_mem_tokensFrom (Option.mem_toList.mp hn) text.toList 0 ht

/-! ## §3. The names that are held. -/

mutual

/-- **The member and method names of an expression**, from left to right. -/
def Expr.names : Expr → List String
  | .literal _ | .parameter _ => []
  | .name n => [n]
  | .member target n => target.names ++ [n]
  | .call target method arguments => target.names ++ method :: namesOfAll arguments
  | .not inner => inner.names
  | .and left right | .or left right | .compare _ left right | .isIn left right
  | .coalesce left right => left.names ++ right.names

/-- The names of the expressions in a list. -/
def namesOfAll : List Expr → List String
  | [] => []
  | e :: es => e.names ++ namesOfAll es

end

/-- The names of the keys of an ordering clause. -/
def namesOfKeys (keys : List OrderingKey) : List String := keys.flatMap (·.expr.names)

/-- The names in front of a pending operator. -/
def Pending.names : Pending → List String
  | .not => []
  | .binary _ left => left.names

/-- The names in front of pending operators, of which the innermost is the first in the list and
the last in the text. -/
def pendingNames : List Pending → List String
  | [] => []
  | p :: ps => pendingNames ps ++ p.names

/-- The names in front of an open parenthesis, and in the arguments that have been read. -/
def Bracket.names : Bracket → List String
  | .group => []
  | .arguments target method before => target.names ++ method :: namesOfAll before

/-- The names in front of open parentheses and of the operators pending around them. -/
def openNames : List (Bracket × List Pending) → List String
  | [] => []
  | (bracket, outer) :: rest => openNames rest ++ pendingNames outer ++ bracket.names

/-- The names in what has been read last. -/
def Stage.names : Stage → List String
  | .operand | .firstArgument | .nextArgument _ => []
  | .memberName target => target.names
  | .complete e => e.names
  | .accessed target n => target.names ++ [n]

/-- **The names that a state holds**, in the order of the text. -/
def Progress.names (s : Progress) : List String :=
  openNames s.brackets ++ pendingNames s.pending ++ s.stage.names

theorem namesOfAll_concat (es : List Expr) (e : Expr) :
    namesOfAll (es ++ [e]) = namesOfAll es ++ e.names := by
  induction es with
  | nil => exact List.append_nil e.names
  | cons x es ih =>
      show x.names ++ namesOfAll (es ++ [e]) = _
      rw [ih, ← List.append_assoc]
      rfl

theorem Pending.names_close (p : Pending) (e : Expr) :
    (p.close e).names = p.names ++ e.names := by
  cases p with
  | not => rfl
  | binary op left => cases op <;> rfl

/-- Completing operators keeps all names, each in its place. -/
theorem names_closeAll (ps : List Pending) :
    ∀ e, (closeAll e ps).names = pendingNames ps ++ e.names := by
  induction ps with
  | nil => intro e; rfl
  | cons p ps ih =>
      intro e
      show (closeAll (p.close e) ps).names = _
      rw [ih, p.names_close, ← List.append_assoc]
      rfl

theorem names_reduce (least : Nat) (ps : List Pending) :
    ∀ e, pendingNames (reduce least e ps).2 ++ (reduce least e ps).1.names =
      pendingNames ps ++ e.names := by
  induction ps with
  | nil => intro e; rfl
  | cons p ps ih =>
      intro e
      rw [reduce]
      split
      · rw [ih, p.names_close, ← List.append_assoc]
        rfl
      · rfl

theorem Token.names_of_operand? {t : Token} {e : Expr} (h : t.operand? = some e) :
    e.names.Sublist t.names := by
  cases t with
  | word text =>
      unfold operand? at h
      dsimp only at h
      -- The words for null and for truth values are literals, and other keywords are no operands.
      split at h
      · cases h
        exact List.nil_sublist _
      split at h
      · cases h
        exact List.nil_sublist _
      split at h
      · cases h
        exact List.nil_sublist _
      split at h
      · cases h
      · cases h
        exact List.Sublist.refl _
  | escaped text =>
      cases h
      exact List.Sublist.refl _
  | parameter | quoted | integer | decimal =>
      cases h
      exact List.nil_sublist _
  | _ => cases h

/-! ## §4. One token. -/

namespace Progress

variable {goal : Goal} {s s' : Progress} {l : Lexeme} {t : Token} {e : Expr}

theorem names_eq_of_operand? (h : s.operand? = some e) :
    s.names = openNames s.brackets ++ pendingNames s.pending ++ e.names := by
  obtain ⟨stage, pending, brackets⟩ := s
  cases stage with
  | complete | accessed =>
      cases h
      rfl
  | _ => cases h

theorem names_of_startOperand? (h : s.startOperand? goal t = some s') :
    s'.names.Sublist (s.names ++ t.names) := by
  unfold startOperand? at h
  split at h
  · -- What is pending stays in front of the parenthesis, and nothing is pending behind it.
    cases h
    simp [names, openNames, pendingNames, Bracket.names, Stage.names]
  · split at h
    · split at h
      · cases h
        simp [names, pendingNames, Pending.names, Stage.names]
      · cases h
    · obtain ⟨e, he, rfl⟩ := Option.map_eq_some_iff.mp h
      exact (List.sublist_append_left _ _).append (Token.names_of_operand? he)

theorem names_of_endCall? (h : s.endCall? = some s') : s'.names.Sublist s.names := by
  unfold endCall? at h
  split at h
  · next hbrackets =>
      -- Whatever were pending inside the parentheses would be dropped.
      cases h
      simp [names, hbrackets, openNames, Bracket.names, Stage.names, Expr.names]
  · cases h

theorem names_of_close? (he : s.operand? = some e) (h : s.close? e = some s') :
    s'.names = s.names := by
  rw [names_eq_of_operand? he]
  unfold close? at h
  split at h
  · cases h
  · next hbrackets =>
      cases h
      simp [names, hbrackets, openNames, Bracket.names, Stage.names, names_closeAll]
  · next hbrackets =>
      -- The last argument goes behind those before it, and the method in front of them.
      cases h
      simp [names, hbrackets, openNames, Bracket.names, Stage.names, Expr.names,
        namesOfAll_concat, names_closeAll]

theorem names_of_separate? {comma : Nat} (he : s.operand? = some e)
    (h : s.separate? e comma = some s') : s'.names = s.names := by
  rw [names_eq_of_operand? he]
  unfold separate? at h
  split at h
  · next hbrackets =>
      cases h
      simp [names, hbrackets, openNames, pendingNames, Bracket.names, Stage.names,
        namesOfAll_concat, names_closeAll]
  · cases h

theorem names_of_join? {op : Binary} (he : s.operand? = some e)
    (h : s.join? goal e op = some s') : s'.names = s.names := by
  rw [names_eq_of_operand? he]
  unfold join? at h
  dsimp only at h
  split at h
  · cases h
    simp [names, pendingNames, Pending.names, Stage.names, names_reduce]
  · cases h

theorem names_of_continue? (he : s.operand? = some e) (h : s.continue? goal e l = some s') :
    s'.names = s.names := by
  unfold continue? at h
  split at h
  · cases h
    exact (names_eq_of_operand? he).symm
  · exact names_of_close? he h
  · exact names_of_separate? he h
  · obtain ⟨op, -, hjoin⟩ := Option.bind_eq_some_iff.mp h
    exact names_of_join? he hjoin

/-- **One token adds at most the word that it is.** -/
theorem names_of_next? (h : s.next? goal l = some s') :
    s'.names.Sublist (s.names ++ l.token.names) := by
  -- A token behind an operand that is no member name adds nothing.
  have hcontinue : ∀ e, s.operand? = some e → s.continue? goal e l = some s' →
      s'.names.Sublist (s.names ++ l.token.names) := by
    intro e he h
    rw [names_of_continue? he h]
    exact List.sublist_append_left _ _
  unfold next? at h
  split at h
  · exact (names_of_endCall? h).trans (List.sublist_append_left _ _)
  · exact names_of_startOperand? h
  · exact names_of_startOperand? h
  · exact names_of_startOperand? h
  · next hstage =>
      obtain ⟨n, hn, rfl⟩ := Option.map_eq_some_iff.mp h
      simp [names, hstage, Stage.names, Token.names, hn]
  · next hstage _ =>
      cases h
      simp [names, openCall, hstage, openNames, pendingNames, Bracket.names, Stage.names,
        namesOfAll]
  · next hstage _ =>
      refine hcontinue _ ?_ h
      rw [operand?, hstage]
  · next hstage =>
      refine hcontinue _ ?_ h
      rw [operand?, hstage]

end Progress

/-! ## §5. Whole texts. -/

section Machines

variable {S α : Type} {m : Machine S α} {held : S → List String} {found : α → List String}

/-- **The machine draws its names from the tokens that it reads**: `held` are the names that a
state holds, and `found` those of what has been read in the end. -/
structure Machine.Draws (m : Machine S α) (held : S → List String) (found : α → List String) :
    Prop where
  start : held m.start = []
  step : ∀ {s s' l}, m.step s l = .ok s' → (held s').Sublist (held s ++ l.token.names)
  finish : ∀ {s length a}, m.finish s length = .ok a → (found a).Sublist (held s)

/-- A run adds at most the words that it reads, in their order. -/
theorem Machine.Draws.run (hm : m.Draws held found) (ls : List Lexeme) :
    ∀ {s s'}, ls.foldlM m.step s = .ok s' →
      (held s').Sublist (held s ++ (ls.map (·.token)).flatMap Token.names) := by
  induction ls with
  | nil =>
      intro s s' h
      cases h
      exact List.sublist_append_left _ _
  | cons l ls ih =>
      intro s s' h
      rw [List.foldlM_cons, bind_eq_ok_iff] at h
      obtain ⟨s₁, hstep, hrest⟩ := h
      have hboth := (ih hrest).trans ((hm.step hstep).append_right _)
      rwa [List.append_assoc] at hboth

/-- **What is read from a text has names that are words of the text**, in the same order. -/
theorem Machine.Draws.names_of_read (hm : m.Draws held found) {text : String} {a : α}
    (h : m.read text = .ok a) : (found a).Sublist (wordsOf text) := by
  obtain ⟨s, hrun, hfinish⟩ := bind_eq_ok_iff.mp h
  have hwords := hm.run (lexemes text.toList) hrun
  rw [hm.start, List.nil_append, map_token_lexemes] at hwords
  exact (hm.finish hfinish).trans hwords

end Machines

theorem Machine.draws_predicates : predicates.Draws Progress.names Expr.names where
  start := rfl
  step h := Progress.names_of_next? (Progress.step_eq_ok_iff.mp h)
  finish := by
    intro s length e h
    replace h : s.finish length = .ok e := h
    unfold Progress.finish at h
    split at h
    · next x hx hbrackets =>
        -- No parenthesis is open, so the pending operators and the operand hold all names.
        cases h
        rw [names_closeAll, Progress.names_eq_of_operand? hx, hbrackets]
        exact List.Sublist.refl _
    · cases h

/-! ## §6. Ordering clauses. -/

/-- The names in the key that is being read. -/
def ClauseStage.names : ClauseStage → List String
  | .first | .next _ => []
  | .key s => s.names
  | .directed last => last.expr.names

/-- The names in the keys that are complete, and in the one that is being read. -/
def ClauseProgress.names (c : ClauseProgress) : List String :=
  namesOfKeys c.keys ++ c.stage.names

namespace ClauseProgress

variable {c c' : ClauseProgress} {l : Lexeme} {s : Progress} {e : Expr}

theorem namesOfKeys_concat (keys : List OrderingKey) (key : OrderingKey) :
    namesOfKeys (keys ++ [key]) = namesOfKeys keys ++ key.expr.names := by
  simp [namesOfKeys]

theorem names_of_keyOperand? (h : keyOperand? s = some e) : e.names.Sublist s.names := by
  rw [Progress.names_eq_of_operand? (Progress.keyOperand?_eq_some h).2]
  exact List.sublist_append_right _ _

theorem names_of_startKey {refusal : SyntaxError} (h : c.startKey l refusal = .ok c') :
    c'.names.Sublist (namesOfKeys c.keys ++ l.token.names) := by
  unfold startKey at h
  split at h
  · next hstart =>
      cases h
      exact (Progress.names_of_startOperand? hstart).append_left _
  · cases h
  · cases h

/-- One token adds at most the word that it is, and a direction is no name. -/
theorem names_of_step (h : c.step l = .ok c') : c'.names.Sublist (c.names ++ l.token.names) := by
  obtain ⟨keys, stage⟩ := c
  show c'.names.Sublist (namesOfKeys keys ++ stage.names ++ l.token.names)
  cases stage with
  | first | next =>
      rw [ClauseStage.names, List.append_nil]
      exact names_of_startKey h
  | key s =>
      rw [List.append_assoc]
      unfold ClauseProgress.step at h
      dsimp only at h
      split at h
      · next he _ =>
          -- A key has no operators outside parentheses, so it is complete as it stands.
          cases h
          exact ((names_of_keyOperand? he).trans (List.sublist_append_left _ _)).append_left _
      · next he _ _ =>
          -- The comma puts the key to those that are complete.
          cases h
          rw [ClauseProgress.names, namesOfKeys_concat, ClauseStage.names, List.append_nil]
          exact ((names_of_keyOperand? he).trans (List.sublist_append_left _ _)).append_left _
      · cases hstep : s.step .key l with
        | error e =>
            rw [hstep] at h
            cases h
        | ok s' =>
            rw [hstep] at h
            cases h
            exact (Progress.names_of_next? (Progress.step_eq_ok_iff.mp hstep)).append_left _
  | directed key =>
      unfold ClauseProgress.step at h
      dsimp only at h
      split at h
      · cases h
        rw [ClauseProgress.names, namesOfKeys_concat, ClauseStage.names, List.append_nil]
        exact List.sublist_append_left _ _
      · cases h

theorem names_of_finish {length : Nat} {keys : List OrderingKey} (h : c.finish length = .ok keys) :
    (namesOfKeys keys).Sublist c.names := by
  obtain ⟨before, stage⟩ := c
  cases stage with
  | first | next => cases h
  | key s =>
      unfold ClauseProgress.finish at h
      dsimp only at h
      split at h
      · next he =>
          cases h
          rw [namesOfKeys_concat]
          exact (names_of_keyOperand? he).append_left _
      · cases h
  | directed key =>
      cases h
      rw [namesOfKeys_concat]
      exact List.Sublist.refl _

end ClauseProgress

theorem Machine.draws_clauses : clauses.Draws ClauseProgress.names namesOfKeys where
  start := rfl
  step h := ClauseProgress.names_of_step h
  finish h := ClauseProgress.names_of_finish h

/-! ## §7. Predicates and clauses. -/

/-- **The names of a predicate are words of its text**, in the order of the text. -/
theorem names_of_parsePredicate {text : String} {e : Expr} (h : parsePredicate text = .ok e) :
    e.names.Sublist (wordsOf text) :=
  Machine.draws_predicates.names_of_read h

/-- **The names of an ordering clause are words of its text**, in the order of the text. -/
theorem names_of_parseOrdering {text : String} {keys : List OrderingKey}
    (h : parseOrdering text = .ok keys) : (namesOfKeys keys).Sublist (wordsOf text) :=
  Machine.draws_clauses.names_of_read h

end RecordSearch
