/-
  RecordSearch.Proofs.Criteria.Compiled
  ─────────────────────────────────────
  **What compiled criteria are read as.**

  Compiling writes a text; reading it must give back the tree that the criteria stand for
  (`Proofs.Criteria.Tree`).  The proof goes up the tree: paths, clauses, collections, containers,
  lists of containers.  At each height the text has been written, and it writes the tree of its
  criterion (`Written`), in parentheses or as a call, so that it is one operand to what stands
  around it.

  Placeholders are words of 64 bits, so all of this is said of at most 2⁶⁴ operands; that there is
  a text at all is said of any number.
-/
import RecordSearch.Proofs.Criteria.Tree
import RecordSearch.Proofs.Outcome

namespace RecordSearch

/-! ## §1. Paths. -/

theorem not_all_isBlank_of_isPath {path : String} (h : IsPath path) :
    path.toList.all Text.isBlank = false := by
  have hsplit : ['.'].intercalate (path.toList.splitOn '.') = path.toList :=
    List.intercalate_splitOn _
  cases hs : path.toList.splitOn '.' with
  | nil => exact absurd hs (List.splitOn_ne_nil _ _)
  | cons segment segments =>
      -- The path starts with its first name, and no name starts with a blank.
      have hname := h segment (by rw [Dialect.segments, hs]; simp)
      cases segment with
      | nil => exact absurd hname (by simp [isName])
      | cons c cs =>
          rw [hs, List.intercalate_cons_cons_left] at hsplit
          rw [← hsplit, List.all_cons, isBlank_of_isNameStart (isName_cons.mp hname).1]
          rfl

/-- **A path of names is written**, whatever the words that the dialect reserves. -/
theorem Dialect.renderPath_of_isPath (d : Dialect) (context : PathContext) {path : String}
    (h : IsPath path) :
    d.renderPath context path = .ok (".".intercalate ((pathNames path).map d.escape)) := by
  have hsegments : ∀ segment ∈ Dialect.segments path,
      d.renderSegment context path segment = .ok (d.escape (String.ofList segment)) := by
    intro segment hmem
    rw [Dialect.renderSegment, if_pos (h segment hmem)]
  rw [Dialect.renderPath, not_all_isBlank_of_isPath h, mapM_eq_ok hsegments, pathNames,
    List.map_map]
  rfl

theorem pathNames_ne_nil (path : String) : pathNames path ≠ [] := by
  rw [pathNames, Ne, List.map_eq_nil_iff]
  exact List.splitOn_ne_nil _ _

theorem isName_of_mem_pathNames {path n : String} (h : IsPath path) (hn : n ∈ pathNames path) :
    isName n.toList = true := by
  obtain ⟨segment, hmem, rfl⟩ := List.mem_map.mp hn
  rw [String.toList_ofList]
  exact h segment hmem

/-- The text of a path, when there is one. -/
def Dialect.pathText (d : Dialect) (path : String) : String :=
  ".".intercalate ((pathNames path).map d.escape)

theorem writtenPath_ofPath (words : List String) {path : String} (h : IsPath path) :
    WrittenPath ((Dialect.ofWords words).pathText path) (.ofPath path) :=
  writtenPath_names words (pathNames_ne_nil path) fun _ hn => isName_of_mem_pathNames h hn

theorem written_ofPath (words : List String) {path : String} (h : IsPath path) :
    Written 6 ((Dialect.ofWords words).pathText path) (.ofPath path) :=
  (writtenPath_ofPath words h).written

/-! ## §2. Clauses. -/

theorem SingleCriterion.written_subject {c : SingleCriterion} {field : String}
    (h : Written 6 field (.ofPath c.field)) :
    Written 6 (match c.kind with
      | .text => "(" ++ field ++ " ?? \"\")"
      | .other => field ++ ".ToString()") c.subject := by
  unfold SingleCriterion.subject
  cases c.kind with
  | text =>
      have halternative := (h.alternative (written_emptyText.weaken (by decide))).weaken
        (show 1 ≤ 5 by decide)
      simpa [String.append_assoc] using halternative.parens
  | other =>
      have hcall : Written 6 (field ++ "." ++ "ToString" ++ "()") _ := h.callNone (by decide)
      simpa [String.append_assoc] using hcall

theorem Written.negationInParens {text : String} {e : Expr} (h : Written 3 text e) :
    Written 6 ("(Not " ++ text ++ ")") (.not e) := by
  have hnot := (h.negation.weaken (show 1 ≤ 3 by decide)).parens
  rwa [show "(" ++ ("Not " ++ text) = "(Not " ++ text by rw [← String.append_assoc]; rfl] at hnot

/-- The tree of a test and its negation, for the tree of the field and that of the operand. -/
def Test.tree (test : Test) (field subject operand : Expr) : Expr :=
  match test with
  | .isNull negated => .compare (if negated then .notEqual else .equal) field (.literal .null)
  | .comparison c => .compare c field operand
  | .membership negated =>
      if negated then .not (.isIn field operand) else .isIn field operand
  | .pattern p negated =>
      let call := Expr.call subject p.method [operand]
      if negated then .not call else call

/-- The sixteen operators are the tests and their negations. -/
theorem SingleCriterion.clauseTree_eq_test (c : SingleCriterion) (slot : Value → Expr) :
    c.clauseTree slot =
      c.operator.test.tree (.ofPath c.field) c.subject (slot (c.operands.headD .null)) := by
  unfold SingleCriterion.clauseTree SingleCriterion.operands
  cases c.operator <;> rfl

/-- **The clause of a single criterion writes its tree.** -/
theorem SingleCriterion.written_clause {c : SingleCriterion} {field : String} {next : Nat}
    (hfield : Written 6 field (.ofPath c.field))
    (hnext : next + c.operands.length ≤ UInt64.size) :
    Written 6 (c.clause field next) (c.clauseTree (Slot.numbered next)) := by
  -- A test for null has no operand, so there need not be a placeholder for one.
  have hslot : c.operands ≠ [] →
      Written 6 (Dialect.placeholder next) (.parameter next) := by
    intro hne
    have hlength := List.length_pos_iff.mpr hne
    exact written_placeholder (by omega)
  have hfield' := hfield.weaken (show 5 ≤ 6 by decide)
  rw [SingleCriterion.clauseTree_eq_test]
  show Written 6 _ (c.operator.test.tree (.ofPath c.field) c.subject (.parameter next))
  unfold SingleCriterion.clause
  unfold SingleCriterion.operands at hslot
  cases ht : c.operator.test with
  | isNull negated =>
      have hnull := hfield'.comparison (if negated then .notEqual else .equal)
        (written_null.weaken (by decide))
      simpa [Test.tree, String.append_assoc] using (hnull.weaken (show 1 ≤ 4 by decide)).parens
  | comparison comparison =>
      have hslot := (hslot (by simp [ht])).weaken (show 5 ≤ 6 by decide)
      have hclause := hfield'.comparison comparison hslot
      simpa [Test.tree, String.append_assoc] using (hclause.weaken (show 1 ≤ 4 by decide)).parens
  | membership negated =>
      have hslot := (hslot (by simp [ht])).weaken (show 5 ≤ 6 by decide)
      have hisIn := ((hfield'.membership hslot).weaken (show 1 ≤ 4 by decide)).parens
      cases negated with
      | false => simpa [Test.tree, String.append_assoc] using hisIn
      | true =>
          have hnot := (hisIn.weaken (show 3 ≤ 6 by decide)).negationInParens
          simpa [Test.tree, String.append_assoc] using hnot
  | pattern p negated =>
      have hslot := (hslot (by simp [ht])).weaken (show 1 ≤ 6 by decide)
      have hmethod : isName p.method.toList = true := by cases p <;> decide
      have hcall := (SingleCriterion.written_subject hfield).callOne hmethod hslot
      cases negated with
      | false => exact (hcall.weaken (show 1 ≤ 6 by decide)).parens
      | true => exact (hcall.weaken (show 3 ≤ 6 by decide)).negationInParens

/-- **The clause of a range criterion writes its tree.** -/
theorem RangeCriterion.written_clause {c : RangeCriterion} {field : String} {next : Nat}
    (hfield : Written 6 field (.ofPath c.field))
    (hnext : next + c.operands.length ≤ UInt64.size) :
    Written 6 (c.clause field next)
      (c.clauseTree (Slot.numbered next c.start) (Slot.numbered (next + 1) c.stop)) := by
  have hlength : c.operands.length = 2 := rfl
  have hbound : ∀ (comparison : Comparison) (index : Nat), index < UInt64.size →
      Written 6 ("(" ++ field ++ " " ++ comparison.symbol ++ " " ++
        Dialect.placeholder index ++ ")")
        (.compare comparison (.ofPath c.field) (.parameter index)) := by
    intro comparison index hindex
    have hclause := (hfield.weaken (show 5 ≤ 6 by decide)).comparison comparison
      ((written_placeholder hindex).weaken (by decide))
    simpa [String.append_assoc] using (hclause.weaken (show 1 ≤ 4 by decide)).parens
  unfold RangeCriterion.clause RangeCriterion.clauseTree
  cases c.operator with
  | between =>
      have hand := ((hbound .greaterOrEqual next (by omega)).weaken (by decide)).conjunction
        ((hbound .lessOrEqual (next + 1) (by omega)).weaken (by decide))
      simpa [Slot.numbered, String.append_assoc] using (hand.weaken (show 1 ≤ 2 by decide)).parens
  | notBetween =>
      have hor := ((hbound .less next (by omega)).weaken (by decide)).disjunction
        ((hbound .greater (next + 1) (by omega)).weaken (by decide))
      simpa [Slot.numbered, String.append_assoc] using hor.parens

/-! ## §3. Collections. -/

theorem written_insideCollections (words : List String) {paths : List String}
    (hpaths : ∀ path ∈ paths, IsPath path) {clause : String} {e : Expr}
    (h : Written 6 clause e) :
    Written 6 (insideCollections (paths.map (Dialect.ofWords words).pathText) clause)
      (.inside paths e) := by
  induction paths with
  | nil => exact h
  | cons path paths ih =>
      have hinner := ih fun p hp => hpaths p (List.mem_cons_of_mem _ hp)
      have hcall : Written 6 (_ ++ "." ++ "Any" ++ "(" ++ _ ++ ")") _ :=
        (written_ofPath words (hpaths path (by simp))).callOne (by decide)
          (hinner.weaken (show 1 ≤ 6 by decide))
      simpa [insideCollections, Expr.inside, String.append_assoc] using hcall

theorem renderCriterion_eq_ok (d : Dialect) {field : String} {collection : List String}
    (hfield : IsPath field) (hcollection : ∀ path ∈ collection, IsPath path)
    (clause : String → String) :
    renderCriterion d field collection clause =
      .ok (insideCollections (collection.map d.pathText) (clause (d.pathText field))) := by
  rw [renderCriterion, d.renderPath_of_isPath .filter hfield,
    mapM_eq_ok fun path hpath => d.renderPath_of_isPath .filter (hcollection path hpath)]
  rfl

/-! ## §4. Lists of containers. -/

/-- The text goes on, behind a first container, with containers that write these trees. -/
inductive WrittenOthers : String → List (Connective × Expr) → Prop where
  | nil : WrittenOthers "" []
  | cons {text others : String} {e : Expr} {parts : List (Connective × Expr)} (logic : Connective)
      (h : Written 6 text e) (hothers : WrittenOthers others parts) :
      WrittenOthers (" " ++ logic.word ++ " " ++ text ++ others) ((logic, e) :: parts)

/-- Runs that are complete stay on the left of the run that is being written. -/
theorem WrittenOthers.written_foldl {others : String} {parts : List (Connective × Expr)}
    (h : WrittenOthers others parts) :
    ∀ {complete run : String} {d e : Expr}, Written 1 complete d → Written 2 run e →
      Written 1 (complete ++ " " ++ "Or" ++ " " ++ (run ++ others))
        ((runsFrom e parts).foldl .or d) := by
  induction h with
  | nil =>
      intro complete run d e hd he
      rw [String.append_empty]
      exact hd.disjunction he
  | cons logic h hothers ih =>
      intro complete run d e hd he
      cases logic with
      | and =>
          -- The container joins the run that is being written.
          have hrun := ih hd (he.conjunction (h.weaken (by decide)))
          rw [runsFrom_and]
          simpa [Connective.word, String.append_assoc] using hrun
      | or =>
          -- The run is complete, and the container starts the next one.
          have hrun := ih (hd.disjunction he) (h.weaken (by decide))
          rw [runsFrom_or, List.foldl_cons]
          simpa [Connective.word, String.append_assoc] using hrun

/-- **A first container and those behind it write their runs.** -/
theorem WrittenOthers.written {others : String} {parts : List (Connective × Expr)}
    (h : WrittenOthers others parts) :
    ∀ {run : String} {e : Expr}, Written 2 run e →
      Written 1 (run ++ others) (joinLeft .or (runsFrom e parts)) := by
  induction h with
  | nil =>
      intro run e he
      rw [String.append_empty]
      exact he.weaken (by decide)
  | cons logic h hothers ih =>
      intro run e he
      cases logic with
      | and =>
          have hrun := ih (he.conjunction (h.weaken (by decide)))
          rw [runsFrom_and]
          simpa [Connective.word, String.append_assoc] using hrun
      | or =>
          -- From the first complete run on there is one on the left, which `written_foldl` carries.
          have hrun := hothers.written_foldl (he.weaken (by decide))
            (h.weaken (show 2 ≤ 6 by decide))
          rw [runsFrom_or]
          simpa [joinLeft, Connective.word, String.append_assoc] using hrun

/-! ## §5. Containers. -/

/-- The container has a text, and with placeholders of 64 bits the text writes its tree. -/
def Container.Compiles (words : List String) (c : Container) : Prop :=
  ∀ next, ∃ text, c.render (.ofWords words) next = .ok text ∧
    (next + c.operands.length ≤ UInt64.size → Written 6 text (c.tree .numbered next))

theorem renderOthers_eq_ok {words : List String} :
    ∀ {cs : List Container}, (∀ c ∈ cs, c.Compiles words) → ∀ next,
      ∃ others, renderOthers (.ofWords words) next cs = .ok others ∧
        (next + (operandsOfAll cs).length ≤ UInt64.size →
          WrittenOthers others (treesOfAll .numbered next cs))
  | [], _, _ => ⟨"", rfl, fun _ => .nil⟩
  | c :: cs, h, next => by
      obtain ⟨text, htext, hwritten⟩ := h c (by simp) next
      obtain ⟨others, hothers, hwrittens⟩ :=
        renderOthers_eq_ok (fun x hx => h x (List.mem_cons_of_mem _ hx))
          (next + c.operands.length)
      refine ⟨" " ++ c.logic.word ++ " " ++ text ++ others, ?_, fun hnext => ?_⟩
      · rw [renderOthers, htext]
        show (renderOthers _ _ cs).bind _ = _
        rw [hothers]
        rfl
      · -- Both the first container and the others end within the bound.
        rw [operandsOfAll, List.length_append] at hnext
        exact .cons c.logic (hwritten (by omega)) (hwrittens (by omega))

/-- The text of a list of containers: the first one, then each behind its connective. -/
theorem render_cons_eq_ok {words : List String} {c : Container} {cs : List Container}
    (h : ∀ x ∈ c :: cs, x.Compiles words) (next : Nat) :
    ∃ first others, c.render (.ofWords words) next = .ok first ∧
      renderOthers (.ofWords words) (next + c.operands.length) cs = .ok others ∧
      (next + (operandsOfAll (c :: cs)).length ≤ UInt64.size →
        Written 1 (first ++ others) (.ofRuns (treesOfAll .numbered next (c :: cs)))) := by
  obtain ⟨first, hfirst, hwritten⟩ := h c (by simp) next
  obtain ⟨others, hothers, hwrittens⟩ :=
    renderOthers_eq_ok (fun x hx => h x (List.mem_cons_of_mem _ hx)) (next + c.operands.length)
  refine ⟨first, others, hfirst, hothers, fun hnext => ?_⟩
  rw [operandsOfAll, List.length_append] at hnext
  rw [treesOfAll, Expr.ofRuns_cons]
  exact (hwrittens (by omega)).written ((hwritten (by omega)).weaken (by decide))

/-- **Every well-formed container compiles.**  The induction is on its depth. -/
theorem Container.WellFormed.compiles (words : List String) {c : Container} (h : c.WellFormed) :
    c.Compiles words := by
  induction h with
  | single logic c hfield hcollection =>
      intro next
      exact ⟨_, renderCriterion_eq_ok _ hfield hcollection _, fun hnext =>
        written_insideCollections words hcollection
          (SingleCriterion.written_clause (written_ofPath words hfield) hnext)⟩
  | range logic c hfield hcollection =>
      intro next
      exact ⟨_, renderCriterion_eq_ok _ hfield hcollection _, fun hnext =>
        written_insideCollections words hcollection
          (RangeCriterion.written_clause (written_ofPath words hfield) hnext)⟩
  | group logic containers hne _ ih =>
      intro next
      cases containers with
      | nil => exact absurd rfl hne
      | cons c cs =>
          obtain ⟨first, others, hfirst, hothers, hwritten⟩ := render_cons_eq_ok ih next
          refine ⟨"(" ++ first ++ others ++ ")", ?_, fun hnext => ?_⟩
          · rw [Container.ofGroup, Container.render, hfirst]
            show (renderOthers _ _ cs).bind _ = _
            rw [hothers]
            rfl
          · have hparens := (hwritten hnext).parens
            simpa [String.append_assoc, Container.ofGroup, Container.tree] using hparens

/-! ## §6. Filters. -/

/-- **What compiling a filter comes to**, unless it fails: nothing where there is nothing to filter
by, and otherwise the texts of the containers with the operands of all of them. -/
theorem FilterCriteria.of_compile {d : Dialect} {f : FilterCriteria} {outcome : Option Predicate}
    (h : f.compile d = .ok outcome) :
    (f.containers = [] ∧ outcome = none) ∨
      ∃ c cs first others, f.containers = c :: cs ∧ c.render d 0 = .ok first ∧
        renderOthers d c.operands.length cs = .ok others ∧
        outcome = some ⟨first ++ others, operandsOfAll (c :: cs)⟩ := by
  obtain ⟨containers⟩ := f
  cases containers with
  | nil => exact .inl ⟨rfl, (Except.ok.inj h).symm⟩
  | cons c cs =>
      obtain ⟨first, hfirst, h⟩ := bind_eq_ok_iff.mp h
      obtain ⟨others, hothers, h⟩ := bind_eq_ok_iff.mp h
      exact .inr ⟨c, cs, first, others, rfl, hfirst, hothers, (Except.ok.inj h).symm⟩

/-- Only where there is nothing to filter by there is no predicate. -/
theorem FilterCriteria.compile_eq_none_iff {d : Dialect} {f : FilterCriteria} :
    f.compile d = .ok none ↔ f.isEmpty = true := by
  constructor
  · intro h
    rcases of_compile h with ⟨hnil, -⟩ | ⟨c, cs, first, others, -, -, -, hsome⟩
    · exact List.isEmpty_iff.mpr hnil
    · cases hsome
  · intro h
    obtain ⟨containers⟩ := f
    obtain rfl : containers = [] := List.isEmpty_iff.mp h
    rfl

/-- A predicate has the operands of its filter as parameters. -/
theorem FilterCriteria.parameters_of_compile {d : Dialect} {f : FilterCriteria} {p : Predicate}
    (h : f.compile d = .ok (some p)) : p.parameters = operandsOfAll f.containers := by
  rcases of_compile h with ⟨-, hnone⟩ | ⟨c, cs, first, others, hcontainers, -, -, hsome⟩
  · cases hnone
  · cases hsome
    rw [hcontainers]

/-- A well-formed filter compiles to a predicate that binds its operands, and with placeholders of
64 bits the text writes the filter's tree. -/
theorem FilterCriteria.WellFormed.compile_eq_ok (words : List String) {f : FilterCriteria}
    (h : f.WellFormed) :
    ∃ text, f.compile (.ofWords words) = .ok (some ⟨text, operandsOfAll f.containers⟩) ∧
      ((operandsOfAll f.containers).length ≤ UInt64.size →
        Written 1 text (f.tree .numbered)) := by
  obtain ⟨containers⟩ := f
  obtain ⟨hne, hcontainers⟩ := h
  cases containers with
  | nil => exact absurd rfl hne
  | cons c cs =>
      obtain ⟨first, others, hfirst, hothers, hwritten⟩ :=
        render_cons_eq_ok (fun x hx => (hcontainers x hx).compiles words) 0
      refine ⟨first ++ others, ?_, fun hlength => hwritten (by simpa using hlength)⟩
      rw [Nat.zero_add] at hothers
      simp only [FilterCriteria.compile]
      rw [hfirst]
      show (renderOthers _ _ cs).bind _ = _
      rw [hothers]
      rfl

/-- **Compiling and reading back.**  A well-formed filter compiles to a predicate, and its text is
read as the tree of the filter: the placeholders are numbered from zero on, each number once, and
with the parameters in their places the tree is that of the filter's own operands. -/
theorem FilterCriteria.WellFormed.parsePredicate_compile (words : List String)
    {f : FilterCriteria} (h : f.WellFormed) :
    ∃ p, f.compile (.ofWords words) = .ok (some p) ∧
      (p.parameters.length ≤ UInt64.size → parsePredicate p.text = .ok (f.tree .numbered)) ∧
      (f.tree .numbered).placeholders = List.range p.parameters.length ∧
      (f.tree .numbered).fill p.parameters = f.tree .filled := by
  obtain ⟨text, hcompile, hwritten⟩ := h.compile_eq_ok words
  refine ⟨_, hcompile, fun hlength => ?_, ?_, ?_⟩
  · exact (hwritten hlength).parsePredicate
  · exact f.placeholders_tree
  · exact f.fill_tree

/-- Reserved names, collections inside collections, and both connectives at both depths. -/
theorem FilterCriteria.WellFormed.parsePredicate_compile_nested :
    let f : FilterCriteria := ⟨[
      .ofSingle .or ⟨"null.asc", .doesNotContain, .text "@0", ["Any", "in.It"], .text⟩,
      .ofGroup .or [
        .ofRange .or ⟨"Not", .notBetween, .int 1, .int 2, []⟩,
        .ofSingle .and ⟨"b", .isNull, .null, [], .other⟩,
        .ofSingle .or ⟨"c", .isNotIn, .text "x", ["d"], .other⟩],
      .ofSingle .and ⟨"e", .equals, .bool true, [], .other⟩]⟩
    f.WellFormed ∧ ∃ p, f.compile (.ofWords ["ASC"]) = .ok (some p) ∧
      parsePredicate p.text = .ok (f.tree .numbered) ∧
      (f.tree .numbered).placeholders = List.range 5 ∧
      (f.tree .numbered).fill p.parameters = f.tree .filled := by
  intro f
  have h : f.WellFormed := by
    refine ⟨by simp [f], fun c hc => ?_⟩
    simp only [f, List.mem_cons, List.not_mem_nil, or_false] at hc
    rcases hc with rfl | rfl | rfl
    · exact .single _ _ (by decide) (by decide)
    · refine .group _ _ (by simp) fun c hc => ?_
      simp only [List.mem_cons, List.not_mem_nil, or_false] at hc
      rcases hc with rfl | rfl | rfl
      · exact .range _ _ (by decide) (by decide)
      · exact .single _ _ (by decide) (by decide)
      · exact .single _ _ (by decide) (by decide)
    · exact .single _ _ (by decide) (by decide)
  obtain ⟨p, hcompile, hparse, hplaceholders, hfill⟩ := h.parsePredicate_compile ["ASC"]
  have hlength : 5 = p.parameters.length := by
    have hlength := congrArg List.length hplaceholders
    rwa [List.length_range] at hlength
  rw [← hlength] at hparse hplaceholders
  exact ⟨h, p, hcompile, hparse (by decide), hplaceholders, hfill⟩

/-! ## §7. What compiles is well-formed. -/

theorem Dialect.isPath_of_renderPath {d : Dialect} {context : PathContext} {path text : String}
    (h : d.renderPath context path = .ok text) : IsPath path := by
  intro segment hsegment
  unfold Dialect.renderPath at h
  split at h
  · cases h
  · obtain ⟨written, hwritten, -⟩ := bind_eq_ok_iff.mp h
    obtain ⟨y, hy⟩ := exists_ok_of_mapM hwritten segment hsegment
    unfold Dialect.renderSegment at hy
    split at hy
    · assumption
    · cases hy

theorem isPath_of_renderCriterion {d : Dialect} {field text : String} {collection : List String}
    {clause : String → String} (h : renderCriterion d field collection clause = .ok text) :
    IsPath field ∧ ∀ path ∈ collection, IsPath path := by
  obtain ⟨written, hfield, h⟩ := bind_eq_ok_iff.mp h
  obtain ⟨paths, hpaths, -⟩ := bind_eq_ok_iff.mp h
  refine ⟨d.isPath_of_renderPath hfield, fun path hpath => ?_⟩
  obtain ⟨y, hy⟩ := exists_ok_of_mapM hpaths path hpath
  exact d.isPath_of_renderPath hy

mutual

theorem Container.wellFormed_of_render {d : Dialect} : ∀ (c : Container) (next : Nat)
    (text : String), c.render d next = .ok text → c.WellFormed
  | ⟨logic, some c, none, none⟩, _, _, h => by
      rw [Container.render] at h
      obtain ⟨hfield, hcollection⟩ := isPath_of_renderCriterion h
      exact .single logic c hfield hcollection
  | ⟨logic, none, some c, none⟩, _, _, h => by
      rw [Container.render] at h
      obtain ⟨hfield, hcollection⟩ := isPath_of_renderCriterion h
      exact .range logic c hfield hcollection
  | ⟨_, none, none, some []⟩, _, _, h => by cases h
  | ⟨logic, none, none, some (c :: cs)⟩, next, text, h => by
      rw [Container.render] at h
      obtain ⟨first, hfirst, h⟩ := bind_eq_ok_iff.mp h
      obtain ⟨others, hothers, -⟩ := bind_eq_ok_iff.mp h
      have hc := c.wellFormed_of_render next first hfirst
      have hcs := wellFormed_of_renderOthers cs _ others hothers
      exact .group logic _ (List.cons_ne_nil c cs) (List.forall_mem_cons.mpr ⟨hc, hcs⟩)
  | ⟨_, none, none, none⟩, _, _, h | ⟨_, some _, some _, _⟩, _, _, h
  | ⟨_, some _, none, some _⟩, _, _, h | ⟨_, none, some _, some _⟩, _, _, h => by cases h

theorem wellFormed_of_renderOthers {d : Dialect} : ∀ (cs : List Container) (next : Nat)
    (others : String), renderOthers d next cs = .ok others → ∀ c ∈ cs, c.WellFormed
  | [], _, _, _ => fun _ hx => absurd hx (List.not_mem_nil)
  | c :: cs, next, others, h => by
      rw [renderOthers] at h
      obtain ⟨text, hfirst, h⟩ := bind_eq_ok_iff.mp h
      obtain ⟨rest, hrest, -⟩ := bind_eq_ok_iff.mp h
      have hc := c.wellFormed_of_render next text hfirst
      have hcs := wellFormed_of_renderOthers cs _ rest hrest
      exact List.forall_mem_cons.mpr ⟨hc, hcs⟩

end

/-- **A filter with a predicate is well-formed.** -/
theorem FilterCriteria.wellFormed_of_compile {d : Dialect} {f : FilterCriteria} {p : Predicate}
    (h : f.compile d = .ok (some p)) : f.WellFormed := by
  rcases of_compile h with ⟨-, hnone⟩ | ⟨c, cs, first, others, hcontainers, hfirst, hothers, -⟩
  · cases hnone
  · have hc := c.wellFormed_of_render 0 first hfirst
    have hcs := wellFormed_of_renderOthers cs _ others hothers
    refine ⟨?_, ?_⟩
    · rw [hcontainers]
      exact List.cons_ne_nil c cs
    · rw [hcontainers]
      exact List.forall_mem_cons.mpr ⟨hc, hcs⟩

/-- The text of a filter's predicate is read as the tree of the filter. -/
theorem FilterCriteria.parsePredicate_of_compile {words : List String} {f : FilterCriteria}
    {p : Predicate} (h : f.compile (.ofWords words) = .ok (some p))
    (hlength : p.parameters.length ≤ UInt64.size) :
    parsePredicate p.text = .ok (f.tree .numbered) := by
  obtain ⟨text, htext, hwritten⟩ := (wellFormed_of_compile h).compile_eq_ok words
  rw [htext] at h
  cases h
  exact (hwritten hlength).parsePredicate

end RecordSearch
