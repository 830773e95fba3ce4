/-
  RecordSearch.Proofs.Expr.Clause
  ───────────────────────────────
  **Reading ordering clauses.**

  A written clause is a list of keys with commas between, each a path and a direction.  A name that
  is also a direction, such as `asc`, makes no difference: the machine asks for a direction only
  behind a complete path, and there only a dot, a comma or the direction itself is written.

      KeyTokens ts keys          — the tokens write the keys
      WrittenClause text keys    — the text is read as tokens that write the keys
      parseOrdering_of_written   — a written clause is read as its keys
-/
import RecordSearch.Proofs.Expr.Written

namespace RecordSearch

/-! ## §1. Keys as tokens. -/

/-- The tokens write the keys, each with its direction. -/
inductive KeyTokens : List Token → List OrderingKey → Prop where
  | last {ts : List Token} {e : Expr} (direction : Direction) (h : PathTokens ts e) :
      KeyTokens (ts ++ [.word direction.word]) [⟨e, direction⟩]
  | cons {ts us : List Token} {e : Expr} {keys : List OrderingKey} (direction : Direction)
      (h : PathTokens ts e) (hrest : KeyTokens us keys) :
      KeyTokens (ts ++ (.word direction.word :: .comma :: us)) (⟨e, direction⟩ :: keys)

theorem direction?_word (direction : Direction) :
    (Token.word direction.word).direction? = some direction := by
  cases direction <;> decide

/-! ## §2. Steps of the machine. -/

namespace ClauseProgress

/-- A key must start here. -/
def AwaitsKey (c : ClauseProgress) : Prop :=
  ∀ lexeme, ∃ refusal, c.step lexeme = c.startKey lexeme refusal

/-- Behind the keys, the operand of one more has been read. -/
def InKey (keys : List OrderingKey) (e : Expr) (c : ClauseProgress) : Prop :=
  ∃ s, c = ⟨keys, .key s⟩ ∧ s.operand? = some e ∧ s.brackets = []

/-- Behind the keys, one more has been read with its direction. -/
def Directed (keys : List OrderingKey) (key : OrderingKey) (c : ClauseProgress) : Prop :=
  c = ⟨keys, .directed key⟩

theorem awaitsKey_first (keys : List OrderingKey) : AwaitsKey ⟨keys, .first⟩ :=
  fun _ => ⟨_, rfl⟩

theorem awaitsKey_next (keys : List OrderingKey) (comma : Nat) : AwaitsKey ⟨keys, .next comma⟩ :=
  fun _ => ⟨_, rfl⟩

theorem keyOperand?_of_operand? {s : Progress} {e : Expr} (h : s.operand? = some e)
    (hbrackets : s.brackets = []) : keyOperand? s = some e := by
  rw [keyOperand?, hbrackets, h]
  rfl

theorem step_of_operand? {c : ClauseProgress} {t : Token} {e : Expr} (hc : c.AwaitsKey)
    (ht : t.operand? = some e) (position : Nat) :
    c.step ⟨t, position⟩ = .ok ⟨c.keys, .key ⟨.complete e, [], []⟩⟩ := by
  obtain ⟨refusal, hstep⟩ := hc ⟨t, position⟩
  rw [hstep, startKey, Progress.startOperand?_of_operand? ht]
  rfl

theorem step_dot {keys : List OrderingKey} {s : Progress} {e : Expr} (h : s.operand? = some e)
    (hbrackets : s.brackets = []) (position : Nat) :
    (ClauseProgress.mk keys (.key s)).step ⟨.dot, position⟩ =
      .ok ⟨keys, .key { s with stage := .memberName e }⟩ := by
  have hnext : s.next? .key ⟨.dot, position⟩ = some { s with stage := .memberName e } := by
    rw [Progress.next?_of_operand? h (by simp)]
    rfl
  unfold ClauseProgress.step
  simp only [keyOperand?_of_operand? h hbrackets]
  show (s.step .key ⟨.dot, position⟩).map _ = _
  rw [Progress.step, hnext]
  rfl

theorem step_memberName {keys : List OrderingKey} {s : Progress} {e : Expr} {t : Token}
    {n : String} (ht : t.memberName? = some n) (hbrackets : s.brackets = []) (position : Nat) :
    (ClauseProgress.mk keys (.key { s with stage := .memberName e })).step ⟨t, position⟩ =
      .ok ⟨keys, .key { s with stage := .accessed e n }⟩ := by
  have hnext : ({ s with stage := .memberName e } : Progress).next? .key ⟨t, position⟩ =
      some { s with stage := .accessed e n } := by
    show t.memberName?.map _ = _
    rw [ht]
    rfl
  -- Behind the dot no path is complete, so a word that is also a direction is a name here.
  have hnone : keyOperand? { s with stage := .memberName e } = none := by
    rw [keyOperand?, hbrackets]
    rfl
  unfold ClauseProgress.step
  simp only [hnone]
  show (Progress.step .key _ ⟨t, position⟩).map _ = _
  rw [Progress.step, hnext]
  rfl

theorem step_direction {keys : List OrderingKey} {s : Progress} {e : Expr}
    (h : s.operand? = some e) (hbrackets : s.brackets = []) (direction : Direction)
    (position : Nat) :
    (ClauseProgress.mk keys (.key s)).step ⟨.word direction.word, position⟩ =
      .ok ⟨keys, .directed ⟨e, direction⟩⟩ := by
  unfold ClauseProgress.step
  simp only [keyOperand?_of_operand? h hbrackets, direction?_word]

/-! ## §3. Reading keys. -/

/-- The induction is on the path: each member is a dot and a name more. -/
theorem reads_path {ts : List Token} {e : Expr} (h : PathTokens ts e) {c : ClauseProgress}
    (hc : c.AwaitsKey) : ReadsBy step c ts (InKey c.keys e) := by
  induction h with
  | name ht =>
      refine ReadsBy.cons fun position => ⟨_, step_of_operand? hc ht position, ReadsBy.nil ?_⟩
      exact ⟨_, rfl, rfl, rfl⟩
  | member h ht ih =>
      refine ih.append fun c' hc' => ?_
      obtain ⟨s, rfl, hs, hbrackets⟩ := hc'
      refine ReadsBy.cons fun position => ⟨_, step_dot hs hbrackets position, ?_⟩
      refine ReadsBy.cons fun position => ⟨_, step_memberName ht hbrackets position, ReadsBy.nil ?_⟩
      exact ⟨_, rfl, rfl, hbrackets⟩

theorem reads_key {ts : List Token} {e : Expr} (h : PathTokens ts e) (direction : Direction)
    {c : ClauseProgress} (hc : c.AwaitsKey) :
    ReadsBy step c (ts ++ [.word direction.word]) (Directed c.keys ⟨e, direction⟩) := by
  refine (reads_path h hc).append fun c' hc' => ?_
  obtain ⟨s, rfl, hs, hbrackets⟩ := hc'
  exact ReadsBy.cons fun position => ⟨_, step_direction hs hbrackets direction position,
    ReadsBy.nil rfl⟩

/-- **All keys are read**, those that are there staying in front. -/
theorem reads_keys {ts : List Token} {keys : List OrderingKey} (h : KeyTokens ts keys) :
    ∀ {c : ClauseProgress}, c.AwaitsKey → ReadsBy step c ts fun c' =>
      ∃ before last, Directed before last c' ∧ before ++ [last] = c.keys ++ keys := by
  induction h with
  | last direction h =>
      intro c hc
      exact (reads_key h direction hc).mono fun c' hc' => ⟨c.keys, _, hc', rfl⟩
  | @cons ts us e keys direction h hrest ih =>
      intro c hc
      rw [show ts ++ (Token.word direction.word :: .comma :: us) =
        (ts ++ [.word direction.word]) ++ (.comma :: us) by simp]
      refine (reads_key h direction hc).append fun c' hc' => ?_
      obtain rfl : c' = ⟨c.keys, .directed ⟨e, direction⟩⟩ := hc'
      -- The comma puts the key behind those that are there, and another one must follow.
      refine ReadsBy.cons fun position => ⟨_, rfl, ?_⟩
      refine (ih (awaitsKey_next (c.keys ++ [⟨e, direction⟩]) position)).mono fun c'' hc'' => ?_
      obtain ⟨before, last, hdirected, hkeys⟩ := hc''
      exact ⟨before, last, hdirected, by rw [hkeys]; simp⟩

end ClauseProgress

/-! ## §4. Clauses. -/

/-- The text is read as tokens that write the keys. -/
def WrittenClause (text : String) (keys : List OrderingKey) : Prop :=
  ∃ ts, KeyTokens ts keys ∧ Lexes text.toList ts

/-- **A written clause is read as its keys.** -/
theorem parseOrdering_of_written {text : String} {keys : List OrderingKey}
    (h : WrittenClause text keys) : parseOrdering text = .ok keys := by
  obtain ⟨ts, hkeys, hlexes⟩ := h
  have htokens : (lexemes text.toList).map (·.token) = ts := by
    rw [map_token_lexemes, hlexes.tokens_eq]
  obtain ⟨c, hfold, before, last, hdirected, hall⟩ :=
    ClauseProgress.reads_keys hkeys (ClauseProgress.awaitsKey_first []) _ htokens
  obtain rfl : c = ⟨before, .directed last⟩ := hdirected
  unfold parseOrdering
  rw [hfold]
  exact congrArg Except.ok hall

theorem lexes_direction (direction : Direction) :
    Lexes direction.word.toList [.word direction.word] := by
  have h : isName direction.word.toList = true := by cases direction <;> decide
  simpa using lexes_word h

theorem WrittenPath.key {text : String} {e : Expr} (h : WrittenPath text e)
    (direction : Direction) :
    WrittenClause (text ++ " " ++ direction.word) [⟨e, direction⟩] := by
  obtain ⟨ts, hpath, hts⟩ := h
  refine ⟨_, .last direction hpath, ?_⟩
  have hspace : Closed [' '] [] := fun _ => rfl
  simpa using hts.append (hspace.append (lexes_direction direction)) (apart_cons (by decide))

theorem WrittenPath.keys {text rest : String} {e : Expr} {keys : List OrderingKey}
    (h : WrittenPath text e) (direction : Direction) (hrest : WrittenClause rest keys) :
    WrittenClause (text ++ " " ++ direction.word ++ ", " ++ rest) (⟨e, direction⟩ :: keys) := by
  obtain ⟨ts, hpath, hts⟩ := h
  obtain ⟨us, hkeys, hus⟩ := hrest
  refine ⟨_, .cons direction hpath hkeys, ?_⟩
  have hspace : Closed [' '] [] := fun _ => rfl
  have hcomma : Closed [',', ' '] [.comma] := fun _ => rfl
  have hbehind := (lexes_direction direction).append (hcomma.append hus) (apart_cons (by decide))
  simpa using hts.append (hspace.append hbehind) (apart_cons (by decide))

end RecordSearch
