/-
  RecordSearch.Proofs.Expr.Appended
  ─────────────────────────────────
  **One ordering clause behind another.**

  Two clauses with a comma between them are a clause, whose keys are those of the first and then
  those of the second.  The machine has read the first clause when the comma comes, and what it
  reads from there on is what it reads of the second clause alone, but for two things: the keys of
  the first clause stand in front, and everything is in another place.

      unplaced                 — a state, apart from where a comma stood
      ClauseProgress.behind    — a state, behind other keys
      step_behind, run_behind  — the machine goes on alike behind other keys and in other places
      parseOrdering_append     — the keys of both clauses

  Places are only looked at when reading stops, so forgetting them changes no step that is made.
-/
import RecordSearch.Proofs.Expr.Stops

namespace RecordSearch

/-! ## §1. States without places. -/

/-- The token, wherever it stands. -/
def Lexeme.unplaced (l : Lexeme) : Lexeme := ⟨l.token, 0⟩

/-- The stage, wherever a comma stood. -/
def Stage.unplaced : Stage → Stage
  | .nextArgument _ => .nextArgument 0
  | stage => stage

namespace Progress

/-- The state, wherever a comma stood. -/
def unplaced (s : Progress) : Progress := { s with stage := s.stage.unplaced }

theorem operand?_unplaced (s : Progress) : s.unplaced.operand? = s.operand? := by
  obtain ⟨stage, pending, brackets⟩ := s
  cases stage <;> rfl

theorem startOperand?_unplaced (goal : Goal) (s : Progress) (t : Token) :
    s.unplaced.startOperand? goal t = (s.startOperand? goal t).map unplaced := by
  unfold startOperand?
  split
  · rfl
  · split
    · rw [apply_ite (Option.map unplaced)]
      rfl
    · rw [Option.map_map]
      rfl

theorem endCall?_unplaced (s : Progress) : s.unplaced.endCall? = s.endCall?.map unplaced := by
  obtain ⟨stage, pending, brackets⟩ := s
  rcases brackets with _ | ⟨⟨bracket, outer⟩, brackets⟩
  · rfl
  · cases bracket <;> rfl

theorem close?_unplaced (s : Progress) (e : Expr) :
    s.unplaced.close? e = (s.close? e).map unplaced := by
  obtain ⟨stage, pending, brackets⟩ := s
  rcases brackets with _ | ⟨⟨bracket, outer⟩, brackets⟩
  · rfl
  · cases bracket <;> rfl

/-- The place of the comma is kept, for an error behind it. -/
theorem separate?_unplaced (s : Progress) (e : Expr) (comma : Nat) :
    s.unplaced.separate? e 0 = (s.separate? e comma).map unplaced := by
  obtain ⟨stage, pending, brackets⟩ := s
  rcases brackets with _ | ⟨⟨bracket, outer⟩, brackets⟩
  · rfl
  · cases bracket <;> rfl

theorem join?_unplaced (goal : Goal) (s : Progress) (e : Expr) (op : Binary) :
    s.unplaced.join? goal e op = (s.join? goal e op).map unplaced := by
  rw [join?, join?, show s.unplaced.pending = s.pending from rfl]
  obtain ⟨left, pending⟩ := reduce op.absorbs e s.pending
  rw [apply_ite (Option.map unplaced)]
  rfl

theorem continue?_unplaced (goal : Goal) (s : Progress) (e : Expr) (l : Lexeme) :
    s.unplaced.continue? goal e l.unplaced = (s.continue? goal e l).map unplaced := by
  obtain ⟨t, position⟩ := l
  show Progress.continue? goal s.unplaced e ⟨t, 0⟩ = _
  unfold continue?
  dsimp only
  split
  · rfl
  · exact close?_unplaced s e
  · exact separate?_unplaced s e position
  · rw [Option.map_bind]
    exact congrArg _ (funext fun op => join?_unplaced goal s e op)

theorem next?_unplaced (goal : Goal) (s : Progress) (l : Lexeme) :
    s.unplaced.next? goal l.unplaced = (s.next? goal l).map unplaced := by
  obtain ⟨t, position⟩ := l
  obtain ⟨stage, pending, brackets⟩ := s
  cases stage with
  | operand => exact startOperand?_unplaced goal ⟨.operand, pending, brackets⟩ t
  | firstArgument =>
      by_cases ht : t = .closing
      · -- The call ends without an argument.
        subst ht
        exact endCall?_unplaced ⟨.firstArgument, pending, brackets⟩
      · rw [next?_of_expectsOperand rfl ht, next?_of_expectsOperand rfl ht]
        exact startOperand?_unplaced goal ⟨.firstArgument, pending, brackets⟩ t
  | nextArgument comma =>
      exact startOperand?_unplaced goal ⟨.nextArgument comma, pending, brackets⟩ t
  | memberName target =>
      show t.memberName?.map _ = (t.memberName?.map _).map _
      rw [Option.map_map]
      rfl
  | complete x => exact continue?_unplaced goal ⟨.complete x, pending, brackets⟩ x ⟨t, position⟩
  | accessed target n =>
      by_cases ht : t = .opening
      · subst ht
        rfl
      · rw [next?_of_operand? rfl ht, next?_of_operand? rfl ht]
        exact continue?_unplaced goal ⟨.accessed target n, pending, brackets⟩ _ ⟨t, position⟩

end Progress

/-! ## §2. Clauses behind other keys. -/

/-- The stage, wherever a comma stood.  The first key of a clause starts as one behind a comma. -/
def ClauseStage.unplaced : ClauseStage → ClauseStage
  | .first => .next 0
  | .next _ => .next 0
  | .key s => .key s.unplaced
  | .directed last => .directed last

namespace ClauseProgress

variable {c : ClauseProgress} {keys : List OrderingKey}

/-- **The state behind other keys**, wherever a comma stood. -/
def behind (before : List OrderingKey) (c : ClauseProgress) : ClauseProgress :=
  ⟨before ++ c.keys, c.stage.unplaced⟩

theorem keyOperand?_unplaced (s : Progress) : keyOperand? s.unplaced = keyOperand? s := by
  unfold keyOperand?
  rw [s.operand?_unplaced]
  rfl

/-- A key starts with the same tokens everywhere, whatever is wrong with the others. -/
theorem toOption_startKey (c : ClauseProgress) (l : Lexeme) (refusal : SyntaxError) :
    (c.startKey l refusal).toOption =
      (Progress.start.startOperand? .key l.token).map fun s => { c with stage := .key s } := by
  unfold startKey
  split
  · next hs => rw [hs]; rfl
  · next hs => rw [hs]; rfl
  · next hs _ => rw [hs]; rfl

/-- Inside a key, a token that neither ends nor follows it goes on with it. -/
theorem toOption_step_key {keys : List OrderingKey} {s : Progress} {l : Lexeme}
    (h : keyOperand? s = none ∨ l.token.direction? = none ∧ l.token ≠ .comma) :
    ((ClauseProgress.mk keys (.key s)).step l).toOption =
      (s.next? .key l).map fun s => ⟨keys, .key s⟩ := by
  have hgoesOn : (ClauseProgress.mk keys (.key s)).step l =
      (s.step .key l).map fun s => ⟨keys, .key s⟩ := by
    unfold step
    dsimp only
    split
    · next he hdirection => simp [he, hdirection] at h
    · next he hcomma _ => simp [he, hcomma] at h
    · rfl
  rw [hgoesOn, Progress.step]
  cases s.next? .key l <;> rfl

theorem startKey_behind (before : List OrderingKey) (c : ClauseProgress) (l : Lexeme)
    (refusal refusal' : SyntaxError) :
    ((c.behind before).startKey l.unplaced refusal').toOption =
      (c.startKey l refusal).toOption.map (behind before) := by
  have hstart := Progress.startOperand?_unplaced .key .start l.token
  rw [toOption_startKey, toOption_startKey, Option.map_map]
  show (Progress.start.unplaced.startOperand? .key l.token).map _ = _
  rw [hstart, Option.map_map]
  rfl

/-- **One token more**, behind other keys and in another place: the machine goes on alike. -/
theorem step_behind (before : List OrderingKey) (c : ClauseProgress) (l : Lexeme) :
    ((c.behind before).step l.unplaced).toOption = (c.step l).toOption.map (behind before) := by
  obtain ⟨keys, stage⟩ := c
  cases stage with
  | first => exact startKey_behind before ⟨keys, .first⟩ l _ _
  | next comma => exact startKey_behind before ⟨keys, .next comma⟩ l _ _
  | directed key =>
      obtain ⟨t, position⟩ := l
      unfold step
      dsimp only [behind, ClauseStage.unplaced, Lexeme.unplaced]
      split
      · rw [List.append_assoc]
        rfl
      · rfl
  | key s =>
      have hkey := keyOperand?_unplaced s
      by_cases hgoesOn : keyOperand? s = none ∨ l.token.direction? = none ∧ l.token ≠ .comma
      · -- The token belongs to the key, or to none.
        have hgoesOn' : keyOperand? s.unplaced = none ∨
            l.unplaced.token.direction? = none ∧ l.unplaced.token ≠ .comma := by rwa [hkey]
        show ((ClauseProgress.mk (before ++ keys) (.key s.unplaced)).step l.unplaced).toOption = _
        rw [toOption_step_key hgoesOn', toOption_step_key hgoesOn, s.next?_unplaced,
          Option.map_map, Option.map_map]
        rfl
      · -- The token ends the key, or follows it.
        obtain ⟨t, position⟩ := l
        rw [not_or, not_and_or, not_not] at hgoesOn
        obtain ⟨hcomplete, hends⟩ := hgoesOn
        obtain ⟨e, he⟩ := Option.ne_none_iff_exists'.mp hcomplete
        rw [he] at hkey
        show ((ClauseProgress.mk _ (.key s.unplaced)).step ⟨t, 0⟩).toOption =
          ((ClauseProgress.mk _ (.key s)).step ⟨t, position⟩).toOption.map _
        unfold step
        cases hdirection : t.direction? with
        | some direction =>
            simp only [hkey, he]
            rfl
        | none =>
            obtain rfl : t = .comma := by simpa [hdirection] using hends
            simp only [hkey, he, List.append_assoc]
            rfl

/-- **A run behind other keys and in other places** reads what it reads without them. -/
theorem run_behind (before : List OrderingKey) (c : ClauseProgress) (ls : List Lexeme) :
    ((ls.map Lexeme.unplaced).foldlM step (c.behind before)).toOption =
      (ls.foldlM step c).toOption.map (behind before) := by
  induction ls generalizing c with
  | nil => rfl
  | cons l ls ih =>
      rw [List.map_cons, List.foldlM_cons, List.foldlM_cons, toOption_bind, toOption_bind,
        step_behind, Option.bind_map, Option.map_bind]
      exact congrArg _ (funext fun c' => ih c')

theorem finish_behind (before : List OrderingKey) (c : ClauseProgress) (length length' : Nat) :
    ((c.behind before).finish length').toOption =
      (c.finish length).toOption.map (before ++ ·) := by
  obtain ⟨keys, stage⟩ := c
  cases stage with
  | first => rfl
  | next comma => rfl
  | directed key => exact congrArg some (List.append_assoc _ _ _)
  | key s =>
      have hkey := keyOperand?_unplaced s
      show (finish ⟨_, .key s.unplaced⟩ _).toOption = _
      unfold finish
      cases he : keyOperand? s with
      | none =>
          rw [he] at hkey
          simp only [hkey, he]
          rfl
      | some e =>
          rw [he] at hkey
          simp only [hkey, he]
          exact congrArg some (List.append_assoc _ _ _)

/-- What is read from the state on, and the keys at the end of the text. -/
theorem read_behind (before : List OrderingKey) (c : ClauseProgress) (ls : List Lexeme)
    (length length' : Nat) :
    ((ls.map Lexeme.unplaced).foldlM step (c.behind before) >>=
        fun c => c.finish length').toOption =
      (ls.foldlM step c >>= fun c => c.finish length).toOption.map (before ++ ·) := by
  rw [toOption_bind, toOption_bind, run_behind, Option.bind_map, Option.map_bind]
  exact congrArg _ (funext fun c => finish_behind before c length length')

/-- A comma may follow where a clause may end, and puts its last key to the others. -/
theorem step_comma (h : ∃ length, c.finish length = .ok keys) (position : Nat) :
    c.step ⟨.comma, position⟩ = .ok ⟨keys, .next position⟩ := by
  obtain ⟨length, h⟩ := h
  obtain ⟨before, stage⟩ := c
  cases stage with
  | first | next => cases h
  | directed key =>
      obtain rfl := Except.ok.inj h
      rfl
  | key s =>
      unfold finish at h
      unfold step
      cases he : keyOperand? s with
      | none =>
          simp only [he] at h
          cases h
      | some e =>
          simp only [he] at h
          obtain rfl := Except.ok.inj h
          have hcomma : Token.comma.direction? = none := by decide
          simp only [he, hcomma]

end ClauseProgress

/-! ## §3. Clauses. -/

theorem parts_comma : Parts ',' := ⟨by decide, by decide⟩

/-- A text that has been read goes on with a comma. -/
theorem exists_lexemes_comma {cs : List Char} (hlast : ∀ l ∈ lexemes cs, l.token.isLast = false)
    (rest : List Char) : ∃ position position' : Nat,
      lexemes (cs ++ ',' :: rest) =
        lexemes cs ++ ⟨.comma, position⟩ :: lexemesFrom 0 position' rest := by
  have hend : lexemesFrom 0 0 cs = lexemes cs ++ [] := (List.append_nil _).symm
  obtain ⟨before, after, rfl, -, hafter, htail, hcut⟩ := exists_cut (Nat.zero_le _) hend hlast
  -- No token is left, so the cut is at the end.
  obtain rfl : after = [] := by
    cases after with
    | nil => rfl
    | cons c after =>
        obtain ⟨ls, hls⟩ := lexemesFrom_cons (hafter c rfl) (0 + byteLength before) after
        cases htail.trans hls
  rw [List.append_nil] at hcut ⊢
  have hcomma (position : Nat) : lexemesFrom 0 position (',' :: rest) =
      ⟨.comma, position⟩ :: lexemesFrom 0 (position + ','.utf8Size) rest :=
    lexemesFrom_token (by decide) rfl rfl
  exact ⟨_, _, (hcut ',' rest parts_comma).trans (congrArg _ (hcomma _))⟩

/-- The same tokens stand in other places. -/
theorem map_unplaced_lexemesFrom (position : Nat) (cs : List Char) :
    (lexemesFrom 0 position cs).map Lexeme.unplaced = (lexemes cs).map Lexeme.unplaced := by
  have hunplaced : Lexeme.unplaced = (fun t => ⟨t, 0⟩) ∘ Lexeme.token := rfl
  rw [hunplaced, ← List.map_map, ← List.map_map, map_token_lexemesFrom, map_token_lexemes]
  rfl

/-- **Two clauses with a comma between them are read as the keys of both.** -/
theorem parseOrdering_append {first second : String} {keys others : List OrderingKey}
    (hfirst : parseOrdering first = .ok keys) (hsecond : parseOrdering second = .ok others) :
    parseOrdering (first ++ ", " ++ second) = .ok (keys ++ others) := by
  obtain ⟨c, hrun, hfinish⟩ := bind_eq_ok_iff.mp hfirst
  obtain ⟨position, position', hlexemes⟩ := exists_lexemes_comma
    (forall_of_foldlM_eq_ok ClauseProgress.isLast_of_step hrun) (' ' :: second.toList)
  have htext : (first ++ ", " ++ second).toList =
      first.toList ++ ',' :: ' ' :: second.toList := by simp
  have hspace : lexemesFrom 0 position' (' ' :: second.toList) =
      lexemesFrom 0 (position' + 1) second.toList := rfl
  unfold parseOrdering
  rw [htext, hlexemes, hspace, List.foldlM_append, hrun, ok_bind, List.foldlM_cons,
    ClauseProgress.step_comma ⟨_, hfinish⟩, ok_bind]
  generalize byteLength _ = length
  -- Behind the comma the second clause is read as it is alone, behind the keys of the first.
  have hstart : (ClauseProgress.mk keys (.next position)).behind [] =
      (ClauseProgress.mk [] .first).behind keys :=
    congrArg (ClauseProgress.mk · (.next 0)) (List.append_nil keys).symm
  have hbehind := ClauseProgress.read_behind [] ⟨keys, .next position⟩
    (lexemesFrom 0 (position' + 1) second.toList) length 0
  have hread := toOption_eq_some_iff.mpr hsecond
  unfold parseOrdering at hread
  rw [hstart, map_unplaced_lexemesFrom,
    ClauseProgress.read_behind keys _ _ (byteLength second.toList), hread] at hbehind
  exact toOption_eq_some_iff.mp (by simpa using hbehind.symm)

end RecordSearch
