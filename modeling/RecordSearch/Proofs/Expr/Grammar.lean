/-
  RecordSearch.Proofs.Expr.Grammar
  ────────────────────────────────
  **The grammar that predicates are read by.**

  `Phrase n ts e` says that the tokens `ts` write the expression `e`, whose outermost operator
  binds at least as tightly as `n`.  It is a grammar with one level for each strength:

      1 Or    2 And    3 Not    4 comparison, In    5 ??    6 access, calls, operands

  The machine of `Expr.Parser` reads every phrase (`Phrase.read`).  It does not build the
  expression at once: behind a phrase, the operators of its right edge are still pending.  The
  invariant `Progress.HasRead` says that completing them yields the expression, and that each of
  them binds at least as tightly as the phrase does, so the next operator completes them first.

      parsePredicate_of_phrase   — a text whose tokens are a phrase is read as its expression
-/
import RecordSearch.Expr.Parser
import RecordSearch.Proofs.Expr.Lexing

namespace RecordSearch

/-! ## §1. Phrases. -/

/-- How tightly the right operand of the operator has to bind. -/
def Binary.operandStrength : Binary → Nat
  | .or => 2
  | .and => 3
  | .compare _ | .isIn | .coalesce => 5

/-- How tightly the operand that the pending operator waits for has to bind. -/
def Pending.operandStrength : Pending → Nat
  | .not => 3
  | .binary op _ => op.operandStrength

mutual

/-- The tokens write the expression, with an operator outermost that binds at least as tightly
as the number says. -/
inductive Phrase : Nat → List Token → Expr → Prop where
  | operand {t : Token} {e : Expr} (ht : t.operand? = some e) : Phrase 6 [t] e
  | group {ts : List Token} {e : Expr} (h : Phrase 1 ts e) :
      Phrase 6 (.opening :: (ts ++ [.closing])) e
  | member {ts : List Token} {e : Expr} {t : Token} {n : String} (h : Phrase 6 ts e)
      (ht : t.memberName? = some n) : Phrase 6 (ts ++ [.dot, t]) (.member e n)
  | call {ts as : List Token} {e : Expr} {es : List Expr} {t : Token} {n : String}
      (h : Phrase 6 ts e) (ht : t.memberName? = some n) (ha : Arguments as es) :
      Phrase 6 (ts ++ (.dot :: t :: .opening :: as)) (.call e n es)
  | negation {ts : List Token} {e : Expr} {t : Token} (ht : t.isNegation = true)
      (h : Phrase 3 ts e) : Phrase 3 (t :: ts) (.not e)
  | binary {ls rs : List Token} {l r : Expr} {t : Token} {op : Binary}
      (ht : t.binary? = some op) (hl : Phrase op.absorbs ls l)
      (hr : Phrase op.operandStrength rs r) : Phrase op.strength (ls ++ (t :: rs)) (op.build l r)
  /-- What binds more tightly also binds tightly enough. -/
  | loosen {n : Nat} {ts : List Token} {e : Expr} (h : Phrase (n + 1) ts e) : Phrase n ts e

/-- The tokens write the arguments of a call, its closing parenthesis included. -/
inductive Arguments : List Token → List Expr → Prop where
  | none : Arguments [.closing] []
  | some {ts : List Token} {es : List Expr} (h : Items ts es) : Arguments ts es

/-- The tokens write one argument or more, up to the closing parenthesis. -/
inductive Items : List Token → List Expr → Prop where
  | last {ts : List Token} {e : Expr} (h : Phrase 1 ts e) : Items (ts ++ [.closing]) [e]
  | cons {ts as : List Token} {e : Expr} {es : List Expr} (h : Phrase 1 ts e)
      (ha : Items as es) : Items (ts ++ (.comma :: as)) (e :: es)

end

theorem Phrase.weaken {m n : Nat} {ts : List Token} {e : Expr} (h : Phrase n ts e)
    (hmn : m ≤ n) : Phrase m ts e := by
  obtain ⟨k, rfl⟩ := Nat.exists_eq_add_of_le hmn
  -- The grammar loosens one level at a time.
  induction k with
  | zero => exact h
  | succ k ih => exact ih (.loosen h) (Nat.le_add_right m k)

/-! ## §2. Strengths. -/

theorem Binary.strength_lt (op : Binary) : op.strength < 6 := by
  cases op <;> simp [Binary.strength]

theorem Pending.strength_lt (p : Pending) : p.strength < 6 := by
  cases p with
  | not => simp [Pending.strength]
  | binary op left => exact op.strength_lt

theorem Binary.strength_le_absorbs (op : Binary) : op.strength ≤ op.absorbs := by
  cases op <;> simp [Binary.strength, Binary.absorbs]

theorem Binary.strength_le_operandStrength (op : Binary) : op.strength ≤ op.operandStrength := by
  cases op <;> simp [Binary.strength, Binary.operandStrength]

/-- Where an operator fits behind a pending one, it does not take its left operand from before
it, and it may follow it. -/
theorem Pending.strength_of_operandStrength_le {p : Pending} {op : Binary}
    (h : p.operandStrength ≤ op.strength) :
    p.strength < op.absorbs ∧ (p.strength < op.strength ∨ op = .coalesce) := by
  cases p with
  | not => cases op <;> revert h <;> simp [Pending.operandStrength, Pending.strength,
      Binary.strength, Binary.absorbs]
  | binary other left =>
      cases op <;> cases other <;> revert h <;>
        simp [Pending.operandStrength, Binary.operandStrength, Pending.strength,
          Binary.strength, Binary.absorbs]

theorem Pending.strength_le_three {p : Pending} (h : p.operandStrength ≤ 3) :
    p.strength ≤ 3 := by
  cases p with
  | not => exact Nat.le_refl 3
  | binary op left => cases op <;> revert h <;> simp [Pending.operandStrength,
      Binary.operandStrength, Pending.strength, Binary.strength]

/-- An operand of strength `n` is not torn apart by the operator that waits for it. -/
def Fits (n : Nat) (pending : List Pending) : Prop :=
  ∀ p ∈ pending.head?, p.operandStrength ≤ n

theorem Fits.mono {m n : Nat} {ps : List Pending} (h : Fits m ps) (hmn : m ≤ n) : Fits n ps :=
  fun p hp => Nat.le_trans (h p hp) hmn

theorem fits_nil (n : Nat) : Fits n [] := by
  intro p hp
  exact absurd hp (by simp)

theorem fits_cons (p : Pending) (ps : List Pending) : Fits p.operandStrength (p :: ps) := by
  intro q hq
  obtain rfl : p = q := Option.some.inj hq
  exact Nat.le_refl _

theorem closeAll_append (e : Expr) (ps qs : List Pending) :
    closeAll e (ps ++ qs) = closeAll (closeAll e ps) qs := by
  simp only [closeAll, List.foldl_append]

theorem reduce_append {n : Nat} {qs : List Pending} (h : ∀ q ∈ qs, n ≤ q.strength)
    (ps : List Pending) : ∀ e, reduce n e (qs ++ ps) = reduce n (closeAll e qs) ps := by
  induction qs with
  | nil => intro e; rfl
  | cons q qs ih =>
      intro e
      -- The nearest operator is completed first, and what it yields is the operand of the next.
      rw [List.cons_append, reduce, if_pos (h q (by simp))]
      exact ih (fun p hp => h p (List.mem_cons_of_mem _ hp)) (q.close e)

theorem reduce_of_lt {n : Nat} {ps : List Pending} (h : ∀ p ∈ ps.head?, p.strength < n)
    (e : Expr) : reduce n e ps = (e, ps) := by
  cases ps with
  | nil => rfl
  | cons p ps => rw [reduce, if_neg (Nat.not_le_of_lt (h p rfl))]

/-! ## §3. Reading tokens. -/

/-- Reading the tokens step by step, wherever they stand in the text, ends in a state as wanted. -/
def ReadsBy {S : Type} (step : S → Lexeme → Except SyntaxError S) (s : S) (ts : List Token)
    (wanted : S → Prop) : Prop :=
  ∀ ls : List Lexeme, ls.map (·.token) = ts → ∃ s', ls.foldlM step s = .ok s' ∧ wanted s'

namespace ReadsBy

variable {S : Type} {step : S → Lexeme → Except SyntaxError S} {s : S} {ts us : List Token}
  {wanted middle : S → Prop}

theorem nil (h : wanted s) : ReadsBy step s [] wanted := by
  intro ls hls
  rw [List.map_eq_nil_iff] at hls
  subst hls
  exact ⟨s, rfl, h⟩

theorem cons {t : Token}
    (h : ∀ position, ∃ s', step s ⟨t, position⟩ = .ok s' ∧ ReadsBy step s' ts wanted) :
    ReadsBy step s (t :: ts) wanted := by
  intro ls hls
  obtain ⟨⟨_, position⟩, ls, rfl, rfl, htail⟩ := List.map_eq_cons_iff.mp hls
  obtain ⟨s', hstep, hreads⟩ := h position
  obtain ⟨s'', hfold, hwanted⟩ := hreads ls htail
  refine ⟨s'', ?_, hwanted⟩
  rw [List.foldlM_cons, hstep]
  exact hfold

theorem append (h : ReadsBy step s ts middle)
    (hmiddle : ∀ s', middle s' → ReadsBy step s' us wanted) :
    ReadsBy step s (ts ++ us) wanted := by
  intro ls hls
  obtain ⟨ls, ms, rfl, hls, hms⟩ := List.map_eq_append_iff.mp hls
  obtain ⟨s', hfold, hs'⟩ := h ls hls
  obtain ⟨s'', hfold', hs''⟩ := hmiddle s' hs' ms hms
  refine ⟨s'', ?_, hs''⟩
  rw [List.foldlM_append, hfold]
  exact hfold'

theorem mono (h : ReadsBy step s ts middle) (hmiddle : ∀ s', middle s' → wanted s') :
    ReadsBy step s ts wanted := by
  intro ls hls
  obtain ⟨s', hfold, hs'⟩ := h ls hls
  exact ⟨s', hfold, hmiddle s' hs'⟩

end ReadsBy

namespace Progress

/-- The tokens are read by the machine for expressions. -/
abbrev Reads (goal : Goal) (s : Progress) (ts : List Token) (wanted : Progress → Prop) : Prop :=
  ReadsBy (Progress.step goal) s ts wanted

/-- **The invariant of reading**: the expression has been read when completing the operators
pending above `outer` yields it; they bind at least as tightly as `n`. -/
def HasRead (n : Nat) (e : Expr) (outer : List Pending) (brackets : List (Bracket × List Pending))
    (s : Progress) : Prop :=
  ∃ x inner, s.operand? = some x ∧ s.pending = inner ++ outer ∧ s.brackets = brackets ∧
    (∀ p ∈ inner, n ≤ p.strength) ∧ closeAll x inner = e

variable {goal : Goal} {s : Progress} {ts us : List Token} {wanted middle : Progress → Prop}

theorem Reads.cons {t : Token}
    (h : ∀ position, ∃ s', s.next? goal ⟨t, position⟩ = some s' ∧ s'.Reads goal ts wanted) :
    s.Reads goal (t :: ts) wanted := by
  refine ReadsBy.cons fun position => ?_
  obtain ⟨s', hnext, hreads⟩ := h position
  refine ⟨s', ?_, hreads⟩
  rw [Progress.step, hnext]

/-! ## §4. Steps of the machine. -/

/-- An operand is no negation, since `not` is a keyword and so no bare name. -/
theorem isNegation_of_operand? {t : Token} {e : Expr} (h : t.operand? = some e) :
    t.isNegation = false := by
  cases t with
  | word text =>
      rw [Bool.eq_false_iff]
      intro hnot
      have htext : lowered text = "not" := by simpa [Token.isNegation, Token.isWord] using hnot
      -- `lowered` leaves one way to write each keyword, so the table decides.
      have hnone : (Token.word text).operand? = none := by
        simp [Token.operand?, Token.isWord, isKeyword, keywords, htext]
      rw [hnone] at h
      exact absurd h (by simp)
  | bang => exact absurd h (by simp [Token.operand?])
  | _ => rfl

theorem startOperand?_of_operand? {t : Token} {e : Expr} (h : t.operand? = some e) :
    s.startOperand? goal t = some { s with stage := .complete e } := by
  unfold startOperand?
  split
  · exact absurd h (by simp [Token.operand?])
  · rw [if_neg (by rw [isNegation_of_operand? h]; simp), h]
    rfl

theorem startOperand?_of_isNegation {t : Token} (h : t.isNegation = true)
    (hgoal : s.admitsOperators goal = true) (hfits : Fits 3 s.pending) :
    s.startOperand? goal t = some { s with stage := .operand, pending := .not :: s.pending } := by
  have hpending : s.pending.head?.all (·.strength ≤ 3) = true := by
    cases hp : s.pending.head? with
    | none => rfl
    | some p => simpa using Pending.strength_le_three (hfits p hp)
  unfold startOperand?
  split
  · exact absurd h (by simp [Token.isNegation, Token.isWord])
  · rw [if_pos h, if_pos (by rw [hgoal, hpending]; rfl)]

/-- **An operator** completes what has been read as its left operand. -/
theorem join?_of_hasRead {op : Binary} {l x : Expr} {inner outer : List Pending}
    (hpending : s.pending = inner ++ outer) (hinner : ∀ p ∈ inner, op.absorbs ≤ p.strength)
    (hclose : closeAll x inner = l) (hgoal : s.admitsOperators goal = true)
    (hfits : Fits op.strength outer) :
    s.join? goal x op = some { s with stage := .operand, pending := .binary op l :: outer } := by
  -- The right edge of the phrase is completed, and nothing below it is.
  have hreduce : reduce op.absorbs x s.pending = (l, outer) := by
    rw [hpending, reduce_append hinner, hclose]
    exact reduce_of_lt (fun p hp => (Pending.strength_of_operandStrength_le (hfits p hp)).1) l
  -- Comparisons do not follow each other, so the operator below must bind less tightly.
  have hfollows : outer.head?.all (fun p => p.strength < op.strength || op = .coalesce) = true := by
    cases hp : outer.head? with
    | none => rfl
    | some p => simpa using (Pending.strength_of_operandStrength_le (hfits p hp)).2
  unfold join?
  rw [hreduce]
  simp only [hgoal, hfollows, Bool.and_self, if_true]

theorem continue?_of_binary? {lexeme : Lexeme} {op : Binary} {x : Expr}
    (h : lexeme.token.binary? = some op) : s.continue? goal x lexeme = s.join? goal x op := by
  unfold continue?
  split
  · next ht => rw [ht] at h; exact absurd h (by simp [Token.binary?, Token.isWord])
  · next ht => rw [ht] at h; exact absurd h (by simp [Token.binary?, Token.isWord])
  · next ht => rw [ht] at h; exact absurd h (by simp [Token.binary?, Token.isWord])
  · rw [h]
    rfl

theorem next?_of_expectsOperand {lexeme : Lexeme} (hs : s.expectsOperand = true)
    (ht : lexeme.token ≠ .closing) : s.next? goal lexeme = s.startOperand? goal lexeme.token := by
  obtain ⟨stage, pending, brackets⟩ := s
  cases stage with
  | firstArgument =>
      -- Here a closing parenthesis would be the end of an empty list of arguments.
      unfold Progress.next?
      split
      · next _ _ h => exact absurd h ht
      all_goals simp_all
  | _ => first | rfl | exact absurd hs (by simp [expectsOperand])

theorem next?_of_operand? {lexeme : Lexeme} {x : Expr} (hx : s.operand? = some x)
    (ht : lexeme.token ≠ .opening) : s.next? goal lexeme = s.continue? goal x lexeme := by
  obtain ⟨stage, pending, brackets⟩ := s
  cases stage with
  | complete e =>
      obtain rfl : e = x := Option.some.inj hx
      rfl
  | accessed target n =>
      obtain rfl : Expr.member target n = x := Option.some.inj hx
      unfold Progress.next?
      split
      all_goals simp_all
  | _ => exact absurd hx (by simp [operand?])

/-! ## §5. Reading phrases, case by case. -/

theorem HasRead.loosen {n : Nat} {e : Expr} {outer : List Pending}
    {brackets : List (Bracket × List Pending)} (h : HasRead (n + 1) e outer brackets s) :
    HasRead n e outer brackets s := by
  obtain ⟨x, inner, hx, hpending, hbrackets, hinner, hclose⟩ := h
  exact ⟨x, inner, hx, hpending, hbrackets, fun p hp => Nat.le_of_succ_le (hinner p hp), hclose⟩

/-- Behind an operand nothing more is pending than before it. -/
theorem HasRead.of_six {e : Expr} {outer : List Pending}
    {brackets : List (Bracket × List Pending)} (h : HasRead 6 e outer brackets s) :
    s.operand? = some e ∧ s.pending = outer ∧ s.brackets = brackets := by
  obtain ⟨x, inner, hx, hpending, hbrackets, hinner, hclose⟩ := h
  cases inner with
  | nil => exact ⟨hclose ▸ hx, hpending, hbrackets⟩
  | cons p inner =>
      -- No operator binds as tightly as an operand does.
      have hp := hinner p (by simp)
      have := p.strength_lt
      omega

theorem hasRead_of_operand? {n : Nat} {e : Expr} (h : s.operand? = some e) :
    HasRead n e s.pending s.brackets s :=
  ⟨e, [], h, rfl, rfl, by simp, rfl⟩

theorem reads_operand {t : Token} {e : Expr} (ht : t.operand? = some e)
    (hs : s.expectsOperand = true) :
    s.Reads goal [t] (HasRead 6 e s.pending s.brackets) := by
  have hclosing : t ≠ .closing := by rintro rfl; exact absurd ht (by simp [Token.operand?])
  refine Reads.cons fun position => ⟨{ s with stage := .complete e }, ?_, ReadsBy.nil ?_⟩
  · rw [next?_of_expectsOperand hs hclosing]
    exact startOperand?_of_operand? ht
  · exact hasRead_of_operand? rfl

/-- An open parenthesis hides what is pending around it until it is closed. -/
theorem reads_group {e : Expr} (hs : s.expectsOperand = true)
    (h : ∀ s' : Progress, s'.expectsOperand = true → s'.pending = [] → s'.brackets ≠ [] →
      s'.Reads goal ts (HasRead 1 e [] s'.brackets)) :
    s.Reads goal (.opening :: (ts ++ [.closing])) (HasRead 6 e s.pending s.brackets) := by
  refine Reads.cons fun position => ⟨⟨.operand, [], (.group, s.pending) :: s.brackets⟩, ?_, ?_⟩
  · rw [next?_of_expectsOperand hs (by simp)]
    rfl
  · refine (h ⟨.operand, [], (.group, s.pending) :: s.brackets⟩ rfl rfl (by simp)).append ?_
    rintro s' ⟨x, inner, hx, hpending, hbrackets, -, hclose⟩
    -- The parenthesis completes all that is pending inside, and brings back what was outside.
    refine Reads.cons fun position => ⟨⟨.complete e, s.pending, s.brackets⟩, ?_, ReadsBy.nil ?_⟩
    · rw [next?_of_operand? hx (by simp)]
      show s'.close? x = _
      rw [close?, hbrackets, hpending, List.append_nil, hclose]
    · exact hasRead_of_operand? rfl

theorem reads_member {e : Expr} {t : Token} {n : String} (ht : t.memberName? = some n)
    (h : s.Reads goal ts (HasRead 6 e s.pending s.brackets)) :
    s.Reads goal (ts ++ [.dot, t])
      (fun s' => s' = ⟨.accessed e n, s.pending, s.brackets⟩) := by
  refine h.append fun s' hs' => ?_
  obtain ⟨hx, hpending, hbrackets⟩ := hs'.of_six
  refine Reads.cons fun position => ⟨⟨.memberName e, s.pending, s.brackets⟩, ?_, ?_⟩
  · rw [next?_of_operand? hx (by simp), ← hpending, ← hbrackets]
    rfl
  · refine Reads.cons fun position => ⟨_, ?_, ReadsBy.nil rfl⟩
    show t.memberName?.map _ = _
    rw [ht]
    rfl

theorem reads_negation {e : Expr} {t : Token} (ht : t.isNegation = true)
    (hs : s.expectsOperand = true) (hgoal : s.admitsOperators goal = true)
    (hfits : Fits 3 s.pending)
    (h : ∀ s' : Progress, s'.expectsOperand = true → s'.admitsOperators goal = true →
      Fits 3 s'.pending → s'.Reads goal ts (HasRead 3 e s'.pending s'.brackets)) :
    s.Reads goal (t :: ts) (HasRead 3 (.not e) s.pending s.brackets) := by
  have hclosing : t ≠ .closing := by
    rintro rfl
    exact absurd ht (by simp [Token.isNegation, Token.isWord])
  refine Reads.cons fun position =>
    ⟨⟨.operand, .not :: s.pending, s.brackets⟩, ?_, ?_⟩
  · rw [next?_of_expectsOperand hs hclosing]
    exact startOperand?_of_isNegation ht hgoal hfits
  · refine (h ⟨.operand, .not :: s.pending, s.brackets⟩ rfl hgoal
      (fits_cons .not s.pending)).mono ?_
    rintro s' ⟨x, inner, hx, hpending, hbrackets, hinner, hclose⟩
    -- the negation is still pending, below the operators of its operand
    refine ⟨x, inner ++ [.not], hx, by simp [hpending], hbrackets, ?_, ?_⟩
    · intro p hp
      rcases List.mem_append.mp hp with hp | hp
      · exact hinner p hp
      · rw [List.mem_singleton.mp hp]
        exact Nat.le_refl 3
    · rw [closeAll_append, hclose]
      rfl

theorem reads_binary {op : Binary} {l r : Expr} {t : Token} (ht : t.binary? = some op)
    (hgoal : s.admitsOperators goal = true) (hfits : Fits op.strength s.pending)
    (hl : s.Reads goal ts (HasRead op.absorbs l s.pending s.brackets))
    (hr : ∀ s' : Progress, s'.expectsOperand = true → s'.admitsOperators goal = true →
      Fits op.operandStrength s'.pending →
      s'.Reads goal us (HasRead op.operandStrength r s'.pending s'.brackets)) :
    s.Reads goal (ts ++ (t :: us)) (HasRead op.strength (op.build l r) s.pending s.brackets) := by
  have hopening : t ≠ .opening := by
    rintro rfl
    exact absurd ht (by simp [Token.binary?, Token.isWord])
  refine hl.append ?_
  rintro s' ⟨x, inner, hx, hpending, hbrackets, hinner, hclose⟩
  have hgoal' : s'.admitsOperators goal = true := by
    rw [← hgoal, admitsOperators, admitsOperators, hbrackets]
  refine Reads.cons fun position =>
    ⟨⟨.operand, .binary op l :: s.pending, s'.brackets⟩, ?_, ?_⟩
  · rw [next?_of_operand? hx hopening, continue?_of_binary? ht]
    exact join?_of_hasRead hpending hinner hclose hgoal' hfits
  · refine (hr ⟨.operand, .binary op l :: s.pending, s'.brackets⟩ rfl hgoal'
      (fits_cons (.binary op l) s.pending)).mono ?_
    rintro s'' ⟨y, inner', hy, hpending', hbrackets', hinner', hclose'⟩
    -- the operator itself is still pending, below those of its right operand
    refine ⟨y, inner' ++ [.binary op l], hy, by simp [hpending'], hbrackets'.trans hbrackets,
      ?_, ?_⟩
    · intro p hp
      rcases List.mem_append.mp hp with hp | hp
      · exact Nat.le_trans op.strength_le_operandStrength (hinner' p hp)
      · rw [List.mem_singleton.mp hp]
        exact Nat.le_refl _
    · rw [closeAll_append, hclose']
      rfl

/-! ## §6. Reading arguments, case by case. -/

variable {target e : Expr} {method : String} {before es : List Expr} {outer : List Pending}
  {brackets : List (Bracket × List Pending)}

/-- Inside the parenthesis of a call, behind some of its arguments. -/
def InCall (target : Expr) (method : String) (before : List Expr) (outer : List Pending)
    (brackets : List (Bracket × List Pending)) (s : Progress) : Prop :=
  s.expectsOperand = true ∧ s.pending = [] ∧
    s.brackets = (.arguments target method before, outer) :: brackets

theorem InCall.admitsOperators (h : InCall target method before outer brackets s) :
    s.admitsOperators goal = true := by
  simp [Progress.admitsOperators, h.2.2]

theorem reads_last (hs : InCall target method before outer brackets s)
    (h : s.Reads goal ts (HasRead 1 e s.pending s.brackets)) :
    s.Reads goal (ts ++ [.closing])
      (fun s' => s' = ⟨.complete (.call target method (before ++ [e])), outer, brackets⟩) := by
  obtain ⟨-, hnone, hcall⟩ := hs
  refine h.append ?_
  rintro s' ⟨x, inner, hx, hpending, hbrackets, -, hclose⟩
  refine Reads.cons fun position => ⟨_, ?_, ReadsBy.nil rfl⟩
  rw [next?_of_operand? hx (by simp)]
  show s'.close? x = _
  rw [close?, hbrackets, hcall, hpending, hnone, List.append_nil]
  simp only [hclose]

theorem reads_next (hs : InCall target method before outer brackets s)
    (h : s.Reads goal ts (HasRead 1 e s.pending s.brackets))
    (hrest : ∀ s', InCall target method (before ++ [e]) outer brackets s' →
      s'.Reads goal us wanted) :
    s.Reads goal (ts ++ (.comma :: us)) wanted := by
  obtain ⟨-, hnone, hcall⟩ := hs
  refine h.append ?_
  rintro s' ⟨x, inner, hx, hpending, hbrackets, -, hclose⟩
  refine Reads.cons fun position => ⟨⟨.nextArgument position, [],
    (.arguments target method (before ++ [e]), outer) :: brackets⟩, ?_,
    hrest _ ⟨rfl, rfl, rfl⟩⟩
  rw [next?_of_operand? hx (by simp)]
  show s'.separate? x position = _
  rw [separate?, hbrackets, hcall, hpending, hnone, List.append_nil]
  simp only [hclose]

theorem reads_call {t : Token} {n : String} {as : List Token} (ht : t.memberName? = some n)
    (h : s.Reads goal ts (HasRead 6 e s.pending s.brackets))
    (ha : (openCall ⟨.accessed e n, s.pending, s.brackets⟩ e n).Reads goal as
      (fun s' => s' = ⟨.complete (.call e n es), s.pending, s.brackets⟩)) :
    s.Reads goal (ts ++ (.dot :: t :: .opening :: as))
      (HasRead 6 (.call e n es) s.pending s.brackets) := by
  -- A call is first read as a member; the parenthesis behind it makes it a call.
  have hmember := reads_member ht h
  rw [show ts ++ (.dot :: t :: .opening :: as) = ts ++ [.dot, t] ++ (.opening :: as) by simp]
  refine hmember.append ?_
  rintro s' rfl
  refine Reads.cons fun position => ⟨_, rfl, ha.mono ?_⟩
  rintro s'' rfl
  exact hasRead_of_operand? rfl

end Progress

/-! ## §7. Every phrase is read. -/

mutual

/-- **Every phrase is read** where an operand is expected that may bind as loosely as it does.
The induction is on the phrase; each case is the step of the machine of the same name. -/
theorem Phrase.read (goal : Goal) : ∀ {n : Nat} {ts : List Token} {e : Expr}, Phrase n ts e →
    ∀ s : Progress, s.expectsOperand = true → (n < 6 → s.admitsOperators goal = true) →
      Fits n s.pending → s.Reads goal ts (Progress.HasRead n e s.pending s.brackets)
  | _, _, _, .operand ht, s, hs, _, _ => Progress.reads_operand ht hs
  | _, _, _, .group h, s, hs, _, _ =>
      Progress.reads_group hs fun s' hs' hpending hbrackets => by
        have hgoal : s'.admitsOperators goal = true := by
          simpa [Progress.admitsOperators] using Or.inr hbrackets
        rw [← hpending]
        exact h.read goal s' hs' (fun _ => hgoal) (hpending ▸ fits_nil 1)
  | _, _, _, .member h ht, s, hs, hgoal, hfits => by
      refine (Progress.reads_member ht (h.read goal s hs hgoal hfits)).mono ?_
      rintro s' rfl
      exact Progress.hasRead_of_operand? rfl
  | _, _, _, .call h ht ha, s, hs, hgoal, hfits =>
      Progress.reads_call ht (h.read goal s hs hgoal hfits) (ha.read goal _ _ _ _)
  | _, _, _, .negation ht h, s, hs, hgoal, hfits =>
      Progress.reads_negation ht hs (hgoal (by decide)) hfits fun s' hs' hgoal' hfits' =>
        h.read goal s' hs' (fun _ => hgoal') hfits'
  | _, _, _, @Phrase.binary _ _ _ _ _ op ht hl hr, s, hs, hgoal, hfits =>
      Progress.reads_binary ht (hgoal op.strength_lt) hfits
        (hl.read goal s hs (fun _ => hgoal op.strength_lt) (hfits.mono op.strength_le_absorbs))
        fun s' hs' hgoal' hfits' => hr.read goal s' hs' (fun _ => hgoal') hfits'
  | _, _, _, .loosen h, s, hs, hgoal, hfits =>
      (h.read goal s hs (fun hn => hgoal (Nat.lt_of_succ_lt hn))
        (hfits.mono (Nat.le_succ _))).mono fun _ => Progress.HasRead.loosen

/-- The arguments of a call are read behind its opening parenthesis. -/
theorem Arguments.read (goal : Goal) : ∀ {ts : List Token} {es : List Expr}, Arguments ts es →
    ∀ (e : Expr) (n : String) (outer : List Pending) (brackets : List (Bracket × List Pending)),
      (Progress.openCall ⟨.accessed e n, outer, brackets⟩ e n).Reads goal ts
        (fun s => s = ⟨.complete (.call e n es), outer, brackets⟩)
  | _, _, .none, e, n, outer, brackets =>
      Progress.Reads.cons fun _ => ⟨_, rfl, ReadsBy.nil rfl⟩
  | _, _, .some h, e, n, outer, brackets => by
      have hcall : Progress.InCall e n [] outer brackets
          (Progress.openCall ⟨.accessed e n, outer, brackets⟩ e n) := ⟨rfl, rfl, rfl⟩
      exact h.read goal _ hcall

/-- The arguments that are left are read behind those that have been. -/
theorem Items.read (goal : Goal) : ∀ {ts : List Token} {es : List Expr}, Items ts es →
    ∀ {e : Expr} {n : String} {before : List Expr} {outer : List Pending}
      {brackets : List (Bracket × List Pending)} (s : Progress),
      Progress.InCall e n before outer brackets s →
      s.Reads goal ts (fun s => s = ⟨.complete (.call e n (before ++ es)), outer, brackets⟩)
  | _, _, .last h, _, _, _, _, _, s, hs =>
      Progress.reads_last hs
        (h.read goal s hs.1 (fun _ => hs.admitsOperators) (hs.2.1 ▸ fits_nil 1))
  | _, _, .cons h ha, _, _, _, _, _, s, hs =>
      Progress.reads_next hs
        (h.read goal s hs.1 (fun _ => hs.admitsOperators) (hs.2.1 ▸ fits_nil 1))
        fun s' hs' => by
          have h := ha.read goal s' hs'
          rwa [List.append_assoc] at h

end

/-! ## §8. Predicates. -/

/-- **A text whose tokens are a phrase is read as its expression.** -/
theorem parsePredicate_of_phrase {text : String} {ts : List Token} {e : Expr}
    (htext : tokens text.toList = ts) (h : Phrase 1 ts e) : parsePredicate text = .ok e := by
  obtain ⟨s, hfold, x, inner, hx, hpending, hbrackets, -, hclose⟩ :=
    h.read .predicate .start rfl (fun _ => rfl) (fits_nil 1) (lexemes text.toList)
      ((map_token_lexemes text.toList).trans htext)
  -- Below the phrase nothing was pending, so completing its right edge completes everything.
  unfold parsePredicate
  rw [hfold]
  show s.finish _ = _
  unfold Progress.finish
  rw [hx, hbrackets, hpending]
  simp only [Progress.start, List.append_nil, hclose]

end RecordSearch
