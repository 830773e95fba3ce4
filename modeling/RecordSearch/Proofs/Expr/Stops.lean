/-
  RecordSearch.Proofs.Expr.Stops
  ──────────────────────────────
  **Where reading stops.**

  The place of an error is one that the text can be cut at: what stands in front of it is the start
  of a text that is read (`StopsAt`), it cuts no character in two, and no blank stands there.

  Predicates and ordering clauses are read by a `Machine` each, and both machines are `Viable`:
  whatever they have read, some more tokens complete it (an operand, if one is missing, and a
  closing parenthesis for each open one).  So an error stands in front of the token that is refused,
  with three exceptions that are starts of readable texts too: a comma that nothing fitting follows
  is taken back, a quote that is never closed is read as far as it goes, and a text that ends too
  early is read to its end.

      Machine.Viable.stopsAt_of_read   — where a viable machine stops
      stopsAt_of_error                 — where predicates and clauses are refused
-/
import RecordSearch.Proofs.Expr.Clause
import RecordSearch.Proofs.Expr.Places
import RecordSearch.Proofs.Outcome

namespace RecordSearch

variable {S α : Type} {text : String} {e : SyntaxError}

/-! ## §1. Places to stop at. -/

/-- Up to the position, the text is the start of one that is read.  The position cuts no character
in two, and no blank stands there. -/
def StopsAt (read : String → Except SyntaxError α) (text : String) (position : Nat) : Prop :=
  ∃ before after : String, text = before ++ after ∧ before.utf8ByteSize = position ∧
    (∀ c ∈ after.toList.head?, c ∉ [' ', '\t', '\r', '\n']) ∧
    ∃ more a, read (before ++ more) = .ok a

theorem stopsAt_of_append {read : String → Except SyntaxError α} {before after more : List Char}
    {a : α} (htext : text.toList = before ++ after) (hafter : ∀ c ∈ after.head?, isSpace c = false)
    (hread : read (String.ofList (before ++ more)) = .ok a) :
    StopsAt read text (byteLength before) := by
  refine ⟨String.ofList before, String.ofList after, ?_, utf8ByteSize_ofList before, ?_,
    String.ofList more, a, ?_⟩
  · rw [← String.ofList_append, ← htext, String.ofList_toList]
  · intro c hc
    rw [String.toList_ofList] at hc
    have hspace := hafter c hc
    simpa [isSpace, and_assoc] using hspace
  · rwa [← String.ofList_append]

/-! ## §2. Machines. -/

/-- A machine that reads a text token by token. -/
structure Machine (S α : Type) where
  start : S
  step : S → Lexeme → Except SyntaxError S
  /-- What has been read, at the end of a text of the given length. -/
  finish : S → Nat → Except SyntaxError α

namespace Machine

variable {m : Machine S α} {s : S} {l : Lexeme} {ls tail : List Lexeme} {comma? : S → Option Nat}

/-- Reads a text. -/
def read (m : Machine S α) (text : String) : Except SyntaxError α := do
  let s ← (lexemes text.toList).foldlM m.step m.start
  m.finish s (byteLength text.toList)

/-- The machine that reads predicates. -/
def predicates : Machine Progress Expr := ⟨.start, Progress.step .predicate, Progress.finish⟩

/-- The machine that reads ordering clauses. -/
def clauses : Machine ClauseProgress (List OrderingKey) :=
  ⟨⟨[], .first⟩, ClauseProgress.step, ClauseProgress.finish⟩

theorem parsePredicate_eq_read : parsePredicate = predicates.read := rfl

theorem parseOrdering_eq_read : parseOrdering = clauses.read := rfl

/-- From the state on, the tokens are read, and a text may end behind them. -/
def Accepts (m : Machine S α) (s : S) (ts : List Token) : Prop :=
  ReadsBy m.step s ts fun s' => ∀ length, ∃ a, m.finish s' length = .ok a

/-- The token is refused with an error that is reported at the token, at the comma in front of it,
or at the end of a quote that would have been read had it been closed. -/
def Refuses (step : S → Lexeme → Except SyntaxError S) (comma? : S → Option Nat) (s : S)
    (l : Lexeme) (e : SyntaxError) : Prop :=
  e.position = l.position ∨ e.position ∈ comma? s ∨
    ∃ bytes, l.token = .unclosed bytes ∧ e.position = l.position + 1 + bytes ∧
      ∀ quoted, ∃ s', ∀ position, step s ⟨.quoted quoted, position⟩ = .ok s'

/-- **Whatever the machine has read can be completed**, and its errors stand where reading could
have gone on otherwise.  `comma?` is the comma that a state stands behind. -/
structure Viable (m : Machine S α) (comma? : S → Option Nat) : Prop where
  completes : ∀ s, ∃ more, m.Accepts s (tokens more)
  /-- Nothing is read past a token that ends a text. -/
  isLast : ∀ {s s' l}, m.step s l = .ok s' → l.token.isLast = false
  comma_start : comma? m.start = none
  comma_step : ∀ {s s' l}, m.step s l = .ok s' → ∀ position ∈ comma? s', l.position = position
  refuses : ∀ {s l e}, m.step s l = .error e → Refuses m.step comma? s l e
  unfinished : ∀ {s length e}, m.finish s length = .error e →
    e.position = length ∨ e.position ∈ comma? s

/-- What has been read goes on with all that the state accepts. -/
theorem exists_read_of_accepts {ts : List Token} (hlexemes : lexemes text.toList = ls ++ tail)
    (hfold : ls.foldlM m.step m.start = .ok s) (htail : tail.map (·.token) = ts)
    (h : m.Accepts s ts) : ∃ a, m.read text = .ok a := by
  obtain ⟨s', htail, hfinish⟩ := h tail htail
  obtain ⟨a, ha⟩ := hfinish (byteLength text.toList)
  refine ⟨a, ?_⟩
  rw [read, hlexemes, List.foldlM_append, hfold, ok_bind, htail]
  exact ha

/-! ## §3. Where a viable machine stops. -/

namespace Viable

/-- **Behind the tokens that have been read** the text can be cut, and it goes on there with all
that the state accepts and no token goes on with. -/
theorem exists_cut_of_foldlM (hm : m.Viable comma?) (hlexemes : lexemes text.toList = ls ++ tail)
    (hfold : ls.foldlM m.step m.start = .ok s) :
    ∃ before after, text.toList = before ++ after ∧ (∀ c ∈ after.head?, isSpace c = false) ∧
      tail = lexemesFrom 0 (byteLength before) after ∧
      ∀ x more, Parts x → m.Accepts s (tokens (x :: more)) →
        ∃ a, m.read (String.ofList (before ++ x :: more)) = .ok a := by
  obtain ⟨before, after, htext, -, hafter, htail, hcut⟩ := exists_cut (Nat.zero_le _) hlexemes
    (forall_of_foldlM_eq_ok (fun hstep => hm.isLast hstep) hfold)
  rw [Nat.zero_add] at htail hcut
  refine ⟨before, after, htext, hafter, htail, fun x more hx haccepts => ?_⟩
  have hlexemes' : lexemes (String.ofList (before ++ x :: more)).toList =
      ls ++ lexemesFrom 0 (byteLength before) (x :: more) := by
    rw [String.toList_ofList]
    exact hcut x more hx
  exact exists_read_of_accepts hlexemes' hfold (map_token_lexemesFrom _ 0 _) haccepts

/-- A machine may stop in front of the next token, or at the end if there is none. -/
theorem stopsAt_tail (hm : m.Viable comma?) (hlexemes : lexemes text.toList = ls ++ tail)
    (hfold : ls.foldlM m.step m.start = .ok s) :
    ∃ position, StopsAt m.read text position ∧ (∀ l ∈ tail.head?, l.position = position) ∧
      (tail = [] → byteLength text.toList = position) := by
  obtain ⟨before, after, htext, hafter, htail, hread⟩ := hm.exists_cut_of_foldlM hlexemes hfold
  obtain ⟨more, hmore⟩ := hm.completes s
  obtain ⟨a, ha⟩ := hread ' ' more parts_space hmore
  refine ⟨byteLength before, stopsAt_of_append htext hafter ha, ?_⟩
  cases after with
  | nil =>
      subst htail
      exact ⟨nofun, fun _ => by rw [htext, List.append_nil]⟩
  | cons c cs =>
      -- No blank stands behind the cut, so the next token does.
      obtain ⟨ms, hms⟩ := lexemesFrom_cons (hafter c rfl) (byteLength before) cs
      rw [htail, hms]
      refine ⟨?_, nofun⟩
      rintro l ⟨⟩
      rfl

/-- A comma that nothing fitting follows is the token read last, and can be taken back. -/
theorem stopsAt_comma (hm : m.Viable comma?) (hlexemes : lexemes text.toList = ls ++ tail)
    (hfold : ls.foldlM m.step m.start = .ok s) {position : Nat} (hcomma : position ∈ comma? s) :
    StopsAt m.read text position := by
  rcases List.eq_nil_or_concat ls with rfl | ⟨before, l, rfl⟩
  · -- Before the first token no comma has been read.
    cases hfold
    rw [hm.comma_start] at hcomma
    cases hcomma
  · -- The comma has been read last, so its place is that of the token behind all others.
    rw [List.concat_eq_append] at hfold hlexemes
    rw [List.append_assoc] at hlexemes
    obtain ⟨s₁, hbefore, hstep⟩ := foldlM_concat_eq_ok hfold
    obtain ⟨_, hstops, hhead, -⟩ := hm.stopsAt_tail hlexemes hbefore
    rw [← hm.comma_step hstep position hcomma, hhead l rfl]
    exact hstops

/-- A quote that is never closed can be closed where its readable part ends. -/
theorem stopsAt_quote (hm : m.Viable comma?) (hlexemes : lexemes text.toList = ls ++ l :: tail)
    (hfold : ls.foldlM m.step m.start = .ok s) {bytes : Nat} (hl : l.token = .unclosed bytes)
    (hquoted : ∀ quoted, ∃ s', ∀ position, m.step s ⟨.quoted quoted, position⟩ = .ok s') :
    StopsAt m.read text (l.position + 1 + bytes) := by
  obtain ⟨before, after, htext, hafter, htail, hread⟩ := hm.exists_cut_of_foldlM hlexemes hfold
  cases after with
  | nil => cases htail
  | cons c cs =>
      obtain ⟨ms, hms⟩ := lexemesFrom_cons (hafter c rfl) (byteLength before) cs
      obtain ⟨rfl, -⟩ := List.cons.inj (htail.trans hms)
      obtain ⟨rfl, herror⟩ := quotedText_of_unclosed hl
      obtain ⟨quoted, body, lone, hbody, hlone, rfl, rfl⟩ := exists_escaped_of_error herror
      -- Behind the closing quote the machine goes on from where the quoted text leads to.
      obtain ⟨s', hs'⟩ := hquoted (String.ofList quoted)
      obtain ⟨more, hmore⟩ := hm.completes s'
      have haccepts : m.Accepts s (tokens ('"' :: (body ++ ['"']) ++ more)) := by
        rw [tokens_quoted hbody]
        exact ReadsBy.cons fun position => ⟨s', hs' position, hmore⟩
      obtain ⟨a, ha⟩ := hread '"' _ parts_quote haccepts
      have hlength :
          byteLength (before ++ '"' :: body) = byteLength before + 1 + byteLength body := by
        rw [byteLength_append, byteLength_cons, ← Nat.add_assoc]
        rfl
      rw [← hlength]
      have htext' : text.toList = before ++ '"' :: body ++ lone := by simpa using htext
      have ha' : m.read (String.ofList (before ++ '"' :: body ++ '"' :: more)) = .ok a := by
        simpa using ha
      refine stopsAt_of_append htext' ?_ ha'
      -- Behind the readable part there is nothing, or the lone backslash.
      simp only [List.mem_cons, List.not_mem_nil, or_false] at hlone
      rcases hlone with rfl | rfl
      · exact nofun
      · rintro c ⟨⟩
        rfl

/-- **A viable machine stops at the start of a text that it reads.** -/
theorem stopsAt_of_read (hm : m.Viable comma?) (h : m.read text = .error e) :
    StopsAt m.read text e.position := by
  rcases bind_eq_error_iff.mp h with hfold | ⟨s, hfold, hfinish⟩
  · obtain ⟨before, l, after, s, hlexemes, hbefore, hstep⟩ := foldlM_eq_error hfold
    rcases hm.refuses hstep with hposition | hcomma | ⟨bytes, hl, hposition, hquoted⟩
    · obtain ⟨_, hstops, hhead, -⟩ := hm.stopsAt_tail hlexemes hbefore
      rw [hposition, hhead l rfl]
      exact hstops
    · exact hm.stopsAt_comma hlexemes hbefore hcomma
    · rw [hposition]
      exact hm.stopsAt_quote hlexemes hbefore hl hquoted
  · -- All tokens have been read, but the text may not end behind them.
    have hlexemes : lexemes text.toList = lexemes text.toList ++ [] := (List.append_nil _).symm
    rcases hm.unfinished hfinish with hposition | hcomma
    · obtain ⟨_, hstops, -, hend⟩ := hm.stopsAt_tail hlexemes hfold
      rw [hposition, hend rfl]
      exact hstops
    · exact hm.stopsAt_comma hlexemes hfold hcomma

end Viable

end Machine

/-! ## §4. Completing an expression. -/

theorem tokens_closings (n : Nat) :
    tokens (List.replicate n ')') = List.replicate n Token.closing := by
  induction n with
  | zero => rfl
  | succ n ih => exact congrArg (Token.closing :: ·) ih

theorem tokens_word_closings (n : Nat) :
    tokens ('a' :: List.replicate n ')') = .word "a" :: List.replicate n Token.closing := by
  have hapart : Apart (List.replicate n ')') := by
    cases n with
    | zero => exact apart_nil
    | succ n => exact apart_cons (by decide)
  have hword : Lexes ['a'] [.word "a"] := lexes_word (by decide)
  rw [← tokens_closings]
  exact hword _ hapart

namespace Progress

variable {goal : Goal} {s s' : Progress} {l : Lexeme} {step : S → Lexeme → Except SyntaxError S}
  {embed : Progress → S}

theorem operand?_word : (Token.word "a").operand? = some (.name "a") := rfl

/-- Where an operand can start, or a member be named, a word will do. -/
theorem exists_next?_word (goal : Goal) (h : s.operand? = none) :
    ∃ s' x, (∀ position, s.next? goal ⟨.word "a", position⟩ = some s') ∧
      s'.operand? = some x ∧ s'.brackets = s.brackets := by
  by_cases hs : s.expectsOperand = true
  · refine ⟨{ s with stage := .complete (.name "a") }, .name "a", fun position => ?_, rfl, rfl⟩
    rw [next?_of_expectsOperand hs (by simp)]
    exact startOperand?_of_operand? operand?_word
  · -- No operand is expected and none has been read, so this is behind a dot.
    obtain ⟨stage, pending, brackets⟩ := s
    cases stage with
    | memberName target =>
        exact ⟨⟨.accessed target "a", pending, brackets⟩, _, fun position => rfl, rfl, rfl⟩
    | complete | accessed => cases h
    | operand | firstArgument | nextArgument => exact absurd rfl hs

/-- A closing parenthesis behind an operand closes the innermost open one. -/
theorem exists_next?_closing {x : Expr} {bracket : Bracket × List Pending}
    {brackets : List (Bracket × List Pending)} (goal : Goal) (hx : s.operand? = some x)
    (hbrackets : s.brackets = bracket :: brackets) :
    ∃ s' y, (∀ position, s.next? goal ⟨.closing, position⟩ = some s') ∧
      s'.operand? = some y ∧ s'.brackets = brackets := by
  obtain ⟨bracket, outer⟩ := bracket
  have hclose : ∃ y, s.close? x = some ⟨.complete y, outer, brackets⟩ := by
    rw [close?, hbrackets]
    cases bracket with
    | group => exact ⟨_, rfl⟩
    | arguments => exact ⟨_, rfl⟩
  obtain ⟨y, hy⟩ := hclose
  refine ⟨⟨.complete y, outer, brackets⟩, y, fun position => ?_, rfl, rfl⟩
  rw [next?_of_operand? hx (by simp)]
  exact hy

/-- The state is one of the machine that `embed` puts it into: it goes on with a token as an
expression does, until it is complete. -/
def Embeds (goal : Goal) (step : S → Lexeme → Except SyntaxError S) (embed : Progress → S) : Prop :=
  ∀ s l, ClauseProgress.keyOperand? s = none → step (embed s) l = (s.step goal l).map embed

/-- An expression has been read, with no parenthesis open. -/
def Completed (embed : Progress → S) (s : S) : Prop :=
  ∃ p x, s = embed p ∧ ClauseProgress.keyOperand? p = some x

theorem Embeds.cons {t : Token} {ts : List Token} {wanted : S → Prop}
    (h : Embeds goal step embed) (hs : ClauseProgress.keyOperand? s = none)
    (hnext : ∀ position, s.next? goal ⟨t, position⟩ = some s')
    (hrest : ReadsBy step (embed s') ts wanted) : ReadsBy step (embed s) (t :: ts) wanted := by
  refine ReadsBy.cons fun position => ⟨embed s', ?_, hrest⟩
  rw [h s _ hs, Progress.step, hnext position]
  rfl

/-- Behind an operand all open parentheses can be closed.  The induction is on the parentheses. -/
theorem Embeds.reads_closings (h : Embeds goal step embed) :
    ∀ (brackets : List (Bracket × List Pending)) {s : Progress} {x : Expr}, s.brackets = brackets →
      s.operand? = some x →
      ReadsBy step (embed s) (List.replicate brackets.length .closing) (Completed embed)
  | [], _, x, hbrackets, hx =>
      ReadsBy.nil ⟨_, x, rfl, ClauseProgress.keyOperand?_of_operand? hx hbrackets⟩
  | bracket :: brackets, s, x, hbrackets, hx => by
      have hopen : ClauseProgress.keyOperand? s = none := by
        rw [ClauseProgress.keyOperand?, hbrackets]
        rfl
      obtain ⟨s', y, hnext, hy, hbrackets'⟩ := exists_next?_closing goal hx hbrackets
      exact h.cons hopen hnext (h.reads_closings brackets hbrackets' hy)

/-- **Every state of an expression can be completed**: an operand where one is missing, then a
closing parenthesis for each open one. -/
theorem Embeds.exists_reads (h : Embeds goal step embed) (s : Progress) :
    ∃ more, ReadsBy step (embed s) (tokens more) (Completed embed) := by
  cases hx : s.operand? with
  | some x =>
      refine ⟨List.replicate s.brackets.length ')', ?_⟩
      rw [tokens_closings]
      exact h.reads_closings s.brackets rfl hx
  | none =>
      have hopen : ClauseProgress.keyOperand? s = none := by
        rw [ClauseProgress.keyOperand?, hx]
        exact ite_self none
      obtain ⟨s', x, hnext, hx', hbrackets⟩ := exists_next?_word goal hx
      refine ⟨'a' :: List.replicate s.brackets.length ')', ?_⟩
      rw [tokens_word_closings]
      exact h.cons hopen hnext (h.reads_closings s.brackets hbrackets hx')

theorem keyOperand?_eq_some {x : Expr} (h : ClauseProgress.keyOperand? s = some x) :
    s.brackets = [] ∧ s.operand? = some x := by
  unfold ClauseProgress.keyOperand? at h
  split at h
  · next hbrackets => exact ⟨List.isEmpty_iff.mp hbrackets, h⟩
  · cases h

theorem exists_finish {x : Expr} (h : ClauseProgress.keyOperand? s = some x) (length : Nat) :
    ∃ e, s.finish length = .ok e := by
  obtain ⟨hbrackets, hx⟩ := keyOperand?_eq_some h
  refine ⟨closeAll x s.pending, ?_⟩
  unfold finish
  rw [hbrackets, hx]

theorem stuck_of_finish {length : Nat} (h : s.finish length = .error e) : s.stuck length = e := by
  unfold finish at h
  split at h
  · cases h
  · exact Except.error.inj h

/-! ## §5. Refusing a token in an expression. -/

/-- The comma that an argument must follow. -/
def comma? (s : Progress) : Option Nat :=
  match s.stage with
  | .nextArgument comma => some comma
  | _ => none

theorem next?_of_isLast (h : l.token.isLast = true) : s.next? goal l = none := by
  obtain ⟨t, position⟩ := l
  obtain ⟨stage, pending, brackets⟩ := s
  cases t with
  | unclosed | unknown => cases stage <;> rfl
  | _ => cases h

theorem comma?_of_startOperand? {t : Token} (h : s.startOperand? goal t = some s') :
    s'.comma? = none := by
  unfold startOperand? at h
  split at h
  · cases h
    rfl
  · split at h
    · split at h
      · cases h
        rfl
      · cases h
    · obtain ⟨x, -, rfl⟩ := Option.map_eq_some_iff.mp h
      rfl

theorem comma?_of_continue? {x : Expr} (h : s.continue? goal x l = some s') :
    ∀ position ∈ s'.comma?, l.position = position := by
  unfold continue? at h
  split at h
  · cases h
    exact nofun
  · unfold close? at h
    split at h <;> cases h
    all_goals exact nofun
  · -- Only going on to the next argument leads behind a comma.
    unfold separate? at h
    split at h <;> cases h
    rintro position ⟨⟩
    rfl
  · obtain ⟨op, -, hjoin⟩ := Option.bind_eq_some_iff.mp h
    unfold join? at hjoin
    dsimp only at hjoin
    split at hjoin <;> cases hjoin
    exact nofun

/-- A state behind a comma has just read it. -/
theorem comma?_of_next? (h : s.next? goal l = some s') :
    ∀ position ∈ s'.comma?, l.position = position := by
  have hnone : s'.comma? = none → ∀ position ∈ s'.comma?, l.position = position := by
    intro hs'
    rw [hs']
    exact nofun
  unfold next? at h
  split at h
  · unfold endCall? at h
    split at h <;> cases h
    exact nofun
  · exact hnone (comma?_of_startOperand? h)
  · exact hnone (comma?_of_startOperand? h)
  · exact hnone (comma?_of_startOperand? h)
  · obtain ⟨n, -, rfl⟩ := Option.map_eq_some_iff.mp h
    exact nofun
  · cases h
    exact nofun
  · exact comma?_of_continue? h
  · exact comma?_of_continue? h

theorem position_stuck (s : Progress) (position : Nat) :
    (s.stuck position).position = position ∨ (s.stuck position).position ∈ s.comma? := by
  obtain ⟨stage, pending, brackets⟩ := s
  cases stage with
  | nextArgument comma => exact .inr rfl
  | complete | accessed =>
      refine .inl ?_
      dsimp only [stuck]
      split <;> rfl
  | _ => exact .inl rfl

/-- A token is refused where it stands, at the comma before it, or inside a quote. -/
theorem position_refuse (s : Progress) (l : Lexeme) :
    (s.refuse l).position = l.position ∨ (s.refuse l).position ∈ s.comma? ∨
      ∃ bytes, l.token = .unclosed bytes ∧ (s.refuse l).position = l.position + 1 + bytes ∧
        s.expectsOperand = true := by
  unfold refuse
  split
  · next bytes ht =>
      split
      · next hs => exact .inr (.inr ⟨bytes, ht, rfl, hs⟩)
      · exact (s.position_stuck l.position).imp_right .inl
  · exact (s.position_stuck l.position).imp_right .inl

theorem step_eq_ok_iff : s.step goal l = .ok s' ↔ s.next? goal l = some s' := by
  unfold Progress.step
  cases s.next? goal l <;> simp

theorem refuse_of_step (h : s.step goal l = .error e) : s.refuse l = e := by
  unfold Progress.step at h
  split at h
  · cases h
  · exact Except.error.inj h

theorem step_quoted (hs : s.expectsOperand = true) (quoted : String) (position : Nat) :
    s.step goal ⟨.quoted quoted, position⟩ =
      .ok { s with stage := .complete (.literal (.text quoted)) } := by
  rw [step_eq_ok_iff, next?_of_expectsOperand hs (by simp)]
  exact startOperand?_of_operand? rfl

theorem refuses_of_step (h : s.step goal l = .error e) :
    Machine.Refuses (Progress.step goal) comma? s l e := by
  rw [← refuse_of_step h]
  rcases s.position_refuse l with hposition | hcomma | ⟨bytes, ht, hposition, hs⟩
  · exact .inl hposition
  · exact .inr (.inl hcomma)
  · exact .inr (.inr ⟨bytes, ht, hposition, fun quoted => ⟨_, step_quoted hs quoted⟩⟩)

theorem isLast_of_next? (h : s.next? goal l = some s') : l.token.isLast = false := by
  rw [Bool.eq_false_iff]
  intro hlast
  rw [next?_of_isLast hlast] at h
  cases h

end Progress

/-- **The machine for predicates is viable.** -/
theorem Machine.viable_predicates : predicates.Viable Progress.comma? where
  completes s := by
    have hembeds : Progress.Embeds .predicate predicates.step id := by
      intro s l _
      show Progress.step .predicate s l = (Progress.step .predicate s l).map id
      rw [Except.map_id]
      rfl
    obtain ⟨more, hmore⟩ := hembeds.exists_reads s
    refine ⟨more, hmore.mono ?_⟩
    rintro _ ⟨p, x, rfl, hp⟩ length
    exact Progress.exists_finish hp length
  isLast h := Progress.isLast_of_next? (Progress.step_eq_ok_iff.mp h)
  comma_start := rfl
  comma_step h := Progress.comma?_of_next? (Progress.step_eq_ok_iff.mp h)
  refuses h := Progress.refuses_of_step h
  unfinished := by
    intro s length e h
    rw [← Progress.stuck_of_finish h]
    exact s.position_stuck length

/-! ## §6. Ordering clauses. -/

namespace ClauseProgress

variable {c c' : ClauseProgress} {l : Lexeme}

/-- The comma that a key, or an argument inside one, must follow. -/
def comma? (c : ClauseProgress) : Option Nat :=
  match c.stage with
  | .next comma => some comma
  | .key s => s.comma?
  | _ => none

/-- A key goes on like an expression until it is complete. -/
theorem embeds_key (keys : List OrderingKey) :
    Progress.Embeds .key ClauseProgress.step fun s => ⟨keys, .key s⟩ := by
  intro s l hs
  unfold ClauseProgress.step
  simp only [hs]

theorem accepts_of_completed {ts : List Token} {keys : List OrderingKey}
    (h : ReadsBy ClauseProgress.step c ts (Progress.Completed fun s => ⟨keys, .key s⟩)) :
    Machine.clauses.Accepts c ts := by
  refine h.mono ?_
  rintro _ ⟨p, x, rfl, hp⟩ length
  refine ⟨keys ++ [⟨x, .ascending⟩], ?_⟩
  show ClauseProgress.finish ⟨keys, .key p⟩ length = _
  unfold ClauseProgress.finish
  simp only [hp]

/-- Where a key must start, a word will do. -/
theorem accepts_word (hc : c.AwaitsKey) : Machine.clauses.Accepts c (tokens ['a']) := by
  have hkey : ReadsBy ClauseProgress.step c (tokens ['a'])
      (Progress.Completed fun s => ⟨c.keys, .key s⟩) := by
    refine ReadsBy.cons fun position => ?_
    refine ⟨_, step_of_operand? hc Progress.operand?_word position, ReadsBy.nil ?_⟩
    exact ⟨_, _, rfl, rfl⟩
  exact accepts_of_completed hkey

/-- **Every state of a clause can be completed.** -/
theorem exists_accepts (c : ClauseProgress) :
    ∃ more, Machine.clauses.Accepts c (tokens more) := by
  obtain ⟨keys, stage⟩ := c
  cases stage with
  | first => exact ⟨_, accepts_word (awaitsKey_first keys)⟩
  | next comma => exact ⟨_, accepts_word (awaitsKey_next keys comma)⟩
  | key s =>
      obtain ⟨more, hmore⟩ := (embeds_key keys).exists_reads s
      exact ⟨more, accepts_of_completed hmore⟩
  | directed key => exact ⟨[], ReadsBy.nil fun length => ⟨_, rfl⟩⟩

/-- **What a token can do in a clause**: it goes on with a key that is begun or begins one, ends it
with its direction, or separates it from the next. -/
theorem step_eq_ok (h : c.step l = .ok c') :
    (∃ s s' : Progress, s.next? .key l = some s' ∧ c' = { c with stage := .key s' }) ∨
    (∃ key, l.token.direction? ≠ none ∧ c' = { c with stage := .directed key }) ∨
    l.token = .comma ∧ ∃ keys, c' = ⟨keys, .next l.position⟩ := by
  -- The first token of a key is the first one of an expression.
  have hstart : ∀ refusal, c.startKey l refusal = .ok c' →
      ∃ s s' : Progress, s.next? .key l = some s' ∧ c' = { c with stage := .key s' } := by
    intro refusal h
    unfold startKey at h
    split at h
    · next s hs => exact ⟨.start, s, hs, (Except.ok.inj h).symm⟩
    all_goals cases h
  unfold ClauseProgress.step at h
  split at h
  · exact .inl (hstart _ h)
  · exact .inl (hstart _ h)
  · next s _ =>
      split at h
      · next hdirection =>
          refine .inr (.inl ⟨_, ?_, (Except.ok.inj h).symm⟩)
          rw [hdirection]
          exact nofun
      · next htoken _ => exact .inr (.inr ⟨htoken, _, (Except.ok.inj h).symm⟩)
      · cases hstep : s.step .key l with
        | error e =>
            rw [hstep] at h
            cases h
        | ok s' =>
            rw [hstep] at h
            exact .inl ⟨s, s', Progress.step_eq_ok_iff.mp hstep, (Except.ok.inj h).symm⟩
  · split at h
    · next htoken => exact .inr (.inr ⟨htoken, _, (Except.ok.inj h).symm⟩)
    · cases h

theorem isLast_of_step (h : c.step l = .ok c') : l.token.isLast = false := by
  rcases step_eq_ok h with ⟨s, s', hnext, -⟩ | ⟨key, hdirection, -⟩ | ⟨hcomma, -⟩
  · exact Progress.isLast_of_next? hnext
  · obtain ⟨t, position⟩ := l
    cases t with
    | unclosed | unknown => exact absurd rfl hdirection
    | _ => rfl
  · rw [hcomma]
    rfl

theorem comma?_of_step (h : c.step l = .ok c') : ∀ position ∈ c'.comma?, l.position = position := by
  rcases step_eq_ok h with ⟨s, s', hnext, rfl⟩ | ⟨key, -, rfl⟩ | ⟨-, keys, rfl⟩
  · exact Progress.comma?_of_next? hnext
  · exact nofun
  · rintro position ⟨⟩
    rfl

theorem refuses_of_startKey {refusal : SyntaxError} (hc : c.AwaitsKey)
    (hrefusal : refusal.position = l.position ∨ refusal.position ∈ c.comma?)
    (h : c.startKey l refusal = .error e) :
    Machine.Refuses ClauseProgress.step comma? c l e := by
  unfold startKey at h
  split at h
  · cases h
  · next bytes _ ht =>
      obtain rfl := Except.error.inj h
      refine .inr (.inr ⟨bytes, ht, ?_, fun quoted => ⟨_, step_of_operand? hc rfl⟩⟩)
      unfold Progress.refuse
      rw [ht]
      rfl
  · obtain rfl := Except.error.inj h
    exact hrefusal.imp_right .inl

/-- A quoted text ends no key and gives no direction. -/
theorem step_quoted (keys : List OrderingKey) (s : Progress) (quoted : String) (position : Nat) :
    (ClauseProgress.mk keys (.key s)).step ⟨.quoted quoted, position⟩ =
      (s.step .key ⟨.quoted quoted, position⟩).map fun s => ⟨keys, .key s⟩ := by
  unfold ClauseProgress.step
  dsimp only
  cases keyOperand? s <;> rfl

theorem refuses_of_step (h : c.step l = .error e) :
    Machine.Refuses ClauseProgress.step comma? c l e := by
  obtain ⟨keys, stage⟩ := c
  cases stage with
  | first => exact refuses_of_startKey (awaitsKey_first keys) (.inl rfl) h
  | next comma => exact refuses_of_startKey (awaitsKey_next keys comma) (.inr rfl) h
  | key s =>
      unfold ClauseProgress.step at h
      dsimp only at h
      split at h
      · cases h
      · cases h
      · cases hstep : s.step .key l with
        | ok s' =>
            rw [hstep] at h
            cases h
        | error e' =>
            rw [hstep] at h
            obtain rfl := Except.error.inj h
            refine (Progress.refuses_of_step hstep).imp_right (.imp_right ?_)
            rintro ⟨bytes, ht, hposition, hquoted⟩
            refine ⟨bytes, ht, hposition, fun quoted => ?_⟩
            obtain ⟨s', hs'⟩ := hquoted quoted
            refine ⟨⟨keys, .key s'⟩, fun position => ?_⟩
            rw [step_quoted, hs' position]
            rfl
  | directed key =>
      unfold ClauseProgress.step at h
      dsimp only at h
      split at h
      · cases h
      · obtain rfl := Except.error.inj h
        exact .inl rfl

theorem unfinished {length : Nat} (h : c.finish length = .error e) :
    e.position = length ∨ e.position ∈ c.comma? := by
  unfold ClauseProgress.finish at h
  split at h
  · obtain rfl := Except.error.inj h
    exact .inl rfl
  · next comma hstage =>
      obtain rfl := Except.error.inj h
      refine .inr ?_
      rw [comma?, hstage]
      rfl
  · next s hstage =>
      split at h
      · cases h
      · obtain rfl := Except.error.inj h
        rw [comma?, hstage]
        exact s.position_stuck length
  · cases h

end ClauseProgress

/-- **The machine for ordering clauses is viable.** -/
theorem Machine.viable_clauses : clauses.Viable ClauseProgress.comma? where
  completes := ClauseProgress.exists_accepts
  isLast := ClauseProgress.isLast_of_step
  comma_start := rfl
  comma_step := ClauseProgress.comma?_of_step
  refuses := ClauseProgress.refuses_of_step
  unfinished := ClauseProgress.unfinished

/-! ## §7. Predicates and clauses. -/

/-- **What is refused is refused where the start of a readable text ends**, on a boundary between
characters and at no blank. -/
theorem stopsAt_of_error (text : String) (e : SyntaxError) :
    (parsePredicate text = .error e → StopsAt parsePredicate text e.position) ∧
      (parseOrdering text = .error e → StopsAt parseOrdering text e.position) := by
  rw [Machine.parsePredicate_eq_read, Machine.parseOrdering_eq_read]
  exact ⟨Machine.viable_predicates.stopsAt_of_read, Machine.viable_clauses.stopsAt_of_read⟩

/-- A comma is taken back behind letters of two bytes, and a quote is read up to a lone
backslash. -/
theorem stopsAt_comma_and_backslash :
    parsePredicate "größe.b(1 , )" = .error ⟨12, false, some .closingParenthesis⟩ ∧
    StopsAt parsePredicate "größe.b(1 , )" 12 ∧
    parseOrdering "a, \"ö\\" = .error ⟨6, true, some .closingQuote⟩ ∧
    StopsAt parseOrdering "a, \"ö\\" 6 := by
  have hcomma : parsePredicate "größe.b(1 , )" =
      .error ⟨12, false, some .closingParenthesis⟩ := rfl
  have hquote : parseOrdering "a, \"ö\\" = .error ⟨6, true, some .closingQuote⟩ := rfl
  exact ⟨hcomma, (stopsAt_of_error _ _).1 hcomma, hquote, (stopsAt_of_error _ _).2 hquote⟩

end RecordSearch
