/-
  RecordSearch.Proofs.Criteria.Evaluated
  ──────────────────────────────────────
  **Evaluating compiled criteria gives their meaning.**

  The tree of a filter is evaluated by the rules of the predicate language; its meaning
  (`Proofs.Criteria.Meaning`) knows nothing of trees.  The two agree, errors included, on every
  record.  The proof follows the tree: what joins expressions, paths, clauses, collections,
  containers.  With what is known of compiled text (`Proofs.Criteria.Compiled`), the text that a
  filter compiles to is evaluated to the meaning of the filter.
-/
import RecordSearch.Expr.Eval
import RecordSearch.Proofs.Criteria.Compiled
import RecordSearch.Proofs.Criteria.Meaning

namespace RecordSearch

variable {values : List Value} {r : Record}

/-! ## §1. Joined expressions. -/

theorem truth_bool (b : Bool) (path : String) : (Member.value (.bool b)).truth path = pure b := rfl

theorem Expr.holds_and (a b : Expr) :
    (Expr.and a b).holds values r =
      (do if ← a.holds values r then b.holds values r else return false) := by
  simp only [Expr.holds, Expr.eval, bind_assoc]
  refine bind_congr fun m => bind_congr fun holds => ?_
  cases holds with
  | false => rfl
  | true => simp only [if_true, bind_assoc, pure_bind, truth_bool, bind_pure]

theorem Expr.holds_or (a b : Expr) :
    (Expr.or a b).holds values r =
      (do if ← a.holds values r then return true else b.holds values r) := by
  simp only [Expr.holds, Expr.eval, bind_assoc]
  refine bind_congr fun m => bind_congr fun holds => ?_
  cases holds with
  | true => rfl
  | false => simp only [Bool.false_eq_true, if_false, bind_assoc, pure_bind, truth_bool, bind_pure]

theorem anyM_map {α β : Type} (f : α → β) (test : β → Except SearchError Bool) (l : List α) :
    (l.map f).anyM test = l.anyM fun x => test (f x) := by
  induction l with
  | nil => rfl
  | cons x l ih => rw [List.map_cons, List.anyM_cons, List.anyM_cons, ih]

theorem anyM_congr {α : Type} {test test' : α → Except SearchError Bool} :
    ∀ {l : List α}, (∀ x ∈ l, test x = test' x) → l.anyM test = l.anyM test'
  | [], _ => rfl
  | x :: l, h => by
      rw [List.anyM_cons, List.anyM_cons, h x (by simp),
        anyM_congr fun y hy => h y (List.mem_cons_of_mem _ hy)]

/-- All of the joined expressions must hold; the induction moves the first two into one. -/
theorem Expr.holds_joinLeft_and {es : List Expr} (hne : es ≠ []) :
    (joinLeft .and es).holds values r = (es.map (·.holds values r)).allM id := by
  have hfold : ∀ (es : List Expr) (e : Expr), (es.foldl .and e).holds values r =
      ((e :: es).map (·.holds values r)).allM id := by
    intro es
    induction es with
    | nil =>
        intro e
        show e.holds values r = (e.holds values r).bind _
        cases e.holds values r with
        | error _ => rfl
        | ok holds => cases holds <;> rfl
    | cons x es ih =>
        intro e
        -- Left to right: the first expression decides before the second one is looked at.
        rw [List.foldl_cons, ih, List.map_cons, List.allM_cons, Expr.holds_and, List.map_cons,
          List.map_cons, List.allM_cons, List.allM_cons]
        show (Except.bind _ _).bind _ = (e.holds values r).bind _
        cases e.holds values r with
        | error _ => rfl
        | ok holds => cases holds <;> rfl
  cases es with
  | nil => exact absurd rfl hne
  | cons e es => exact hfold es e

theorem Expr.holds_joinLeft_or {es : List Expr} (hne : es ≠ []) :
    (joinLeft .or es).holds values r = es.anyM (·.holds values r) := by
  have hfold : ∀ (es : List Expr) (e : Expr), (es.foldl .or e).holds values r =
      (e :: es).anyM (·.holds values r) := by
    intro es
    induction es with
    | nil =>
        intro e
        show e.holds values r = (e.holds values r).bind _
        cases e.holds values r with
        | error _ => rfl
        | ok holds => cases holds <;> rfl
    | cons x es ih =>
        intro e
        rw [List.foldl_cons, ih, List.anyM_cons, Expr.holds_or, List.anyM_cons, List.anyM_cons]
        show (Except.bind _ _).bind _ = (e.holds values r).bind _
        cases e.holds values r with
        | error _ => rfl
        | ok holds => cases holds <;> rfl
  cases es with
  | nil => exact absurd rfl hne
  | cons e es => exact hfold es e

/-- **Joined expressions hold when some run of them holds altogether.** -/
theorem Expr.holds_ofRuns (parts : List (Connective × Expr)) :
    (Expr.ofRuns parts).holds values r =
      someRun (parts.map fun part => (part.1, part.2.holds values r)) := by
  by_cases hparts : parts = []
  · subst hparts
    rfl
  · -- Neither the list of runs nor any run is empty, so the joined expressions are real ones.
    have hruns : (runs parts).map (joinLeft .and) ≠ [] := by
      rw [Ne, List.map_eq_nil_iff, runs, List.map_eq_nil_iff]
      exact List.splitBy_ne_nil.mpr hparts
    have hand : ∀ run ∈ runs parts, (joinLeft Expr.and run).holds values r =
        (run.map (·.holds values r)).allM id := by
      intro run hrun
      obtain ⟨pairs, hpairs, rfl⟩ := List.mem_map.mp hrun
      apply Expr.holds_joinLeft_and
      rw [Ne, List.map_eq_nil_iff]
      exact List.ne_nil_of_mem_splitBy hpairs
    have houtcomes := runs_map (fun e : Expr => e.holds values r) parts
    rw [Expr.ofRuns, Expr.holds_joinLeft_or hruns, anyM_map, anyM_congr hand, someRun, houtcomes,
      anyM_map]

/-! ## §2. Paths. -/

theorem Expr.path_foldl_member (ns : List String) (e : Expr) :
    (ns.foldl Expr.member e).path = ".".intercalate (e.path :: ns) := by
  induction ns generalizing e with
  | nil => simp
  | cons n ns ih =>
      rw [List.foldl_cons, ih]
      show ".".intercalate ((e.path ++ "." ++ n) :: ns) = _
      rw [String.append_assoc, String.intercalate_cons_append, String.intercalate_cons_append]
      simp [String.append_assoc]

/-- Messages name the expression of a path by the path. -/
theorem Expr.path_ofPath (path : String) : (Expr.ofPath path).path = path := by
  have hpath : ".".intercalate (pathNames path) = path := by
    apply String.toList_injective
    rw [String.toList_intercalate, pathNames, Dialect.segments, List.map_map]
    simp [Function.comp_def]
  unfold Expr.ofPath
  cases hnames : pathNames path with
  | nil =>
      rw [pathNames, List.map_eq_nil_iff] at hnames
      exact absurd hnames (List.splitOn_ne_nil _ _)
  | cons n ns =>
      rw [hnames] at hpath
      exact (Expr.path_foldl_member ns (.name n)).trans hpath

/-- One step along a path, and what is found behind it. -/
theorem Member.follow_cons (m : Member) (path n : String) (ns : List String) :
    m.follow path (n :: ns) =
      (m.access n (path ++ "." ++ n) >>= fun found => found.follow (path ++ "." ++ n) ns) := by
  have hnull : (Member.value .null).follow (path ++ "." ++ n) ns = .ok (.value .null) := by
    cases ns <;> rfl
  cases m with
  | records elements => rfl
  | record members =>
      show _ = (Record.resolve members n _).bind _
      rw [Member.follow]
      unfold Record.resolve
      cases Record.member? members n <;> rfl
  | value v =>
      cases v with
      | null => exact hnull.symm
      | _ => rfl

theorem Expr.eval_foldl_member (ns : List String) (e : Expr) :
    (ns.foldl .member e).eval values r = (e.eval values r >>= fun m => m.follow e.path ns) := by
  induction ns generalizing e with
  | nil =>
      show e.eval values r = (e.eval values r).bind _
      cases e.eval values r with
      | error _ => rfl
      | ok m => cases m <;> rfl
  | cons n ns ih =>
      rw [List.foldl_cons, ih, Expr.eval, bind_assoc]
      exact bind_congr fun m => (m.follow_cons e.path n ns).symm

/-- **The expression of a path yields what is found at its end.** -/
theorem Expr.eval_ofPath (path : String) : (Expr.ofPath path).eval values r = r.follow path := by
  unfold Expr.ofPath Record.follow
  cases pathNames path with
  | nil => rfl
  | cons n ns =>
      dsimp only [Expr.ofNames]
      rw [Expr.eval_foldl_member, Expr.eval]
      unfold Record.resolve
      cases r.member? n <;> rfl

/-! ## §3. Comparisons. -/

theorem Value.ordering_eq (a b : Value) :
    a.ordering b = if a.comparable b then .ok (a.compare? b)
      else .error (.evaluation (.incomparable a.kind b.kind)) := by
  unfold Value.ordering Value.comparable
  by_cases hkind : a.kind = b.kind ∧ a.kind ≠ .list
  · rw [if_pos hkind, if_pos (by simpa using hkind)]
  · rw [if_neg hkind, if_neg (by simpa using hkind)]

theorem equalValues_eq (a b : Value) : equalValues a b = a.isEqual b := by
  have hordering : (if a.comparable b then .ok (a.compare? b == some .eq)
      else .error (.evaluation (.incomparable a.kind b.kind)) : Except SearchError Bool) =
        (do return (← a.ordering b) = some .eq) := by
    rw [Value.ordering_eq]
    by_cases h : a.comparable b
    · simp only [h, if_true]
      cases a.compare? b with
      | none => rfl
      | some o => cases o <;> rfl
    · simp only [h]
      rfl
  -- Null and lists are decided by themselves; all other pairs are ordered.
  cases a <;> cases b <;> first | rfl | exact hordering

theorem orderedValues_eq {accepts : Ordering → Bool} {orders : List Ordering}
    (h : ∀ o, accepts o = orders.contains o) (a b : Value) :
    orderedValues accepts a b = a.isOrdered orders b := by
  unfold orderedValues Value.isOrdered
  by_cases hnull : a.isNull ∨ b.isNull
  · rw [if_pos (by simpa using hnull), if_pos hnull]
  · rw [if_neg (by simpa using hnull), if_neg hnull, Value.ordering_eq]
    by_cases hcomparable : a.comparable b
    · rw [if_pos hcomparable, if_pos hcomparable, funext h]
      rfl
    · rw [if_neg hcomparable, if_neg hcomparable]
      rfl

theorem compareMembers_equal (m : Member) (v : Value) :
    compareMembers .equal m (.value v) = m.isEqual v := by
  cases m with
  | value a => exact equalValues_eq a v
  | record members => cases v <;> rfl
  | records elements => cases v <;> rfl

theorem compareMembers_notEqual (m : Member) (v : Value) :
    compareMembers .notEqual m (.value v) = (m.isEqual v).map (!·) := by
  cases m with
  | value a => exact congrArg (Except.map (!·)) (equalValues_eq a v)
  | record members => cases v <;> rfl
  | records elements => cases v <;> rfl

theorem compareMembers_ordered {c : Comparison} {orders : List Ordering} (hequal : c ≠ .equal)
    (hnotEqual : c ≠ .notEqual) (h : ∀ o, c.accepts o = orders.contains o) (m : Member)
    (v : Value) : compareMembers c m (.value v) = m.isOrdered orders v := by
  cases m with
  | value a =>
      have hvalues := orderedValues_eq h a v
      cases c <;> first | contradiction | exact hvalues
  | record members =>
      -- A record is compared with null alone, from which it differs.
      have hdiffers : (c == .notEqual) = false := by simpa using hnotEqual
      cases v with
      | null => exact congrArg Except.ok hdiffers
      | _ => rfl
  | records elements => cases v <;> rfl

/-! ## §4. Clauses. -/

theorem someM_eq_anyM {α : Type} (test : α → Except SearchError Bool) (l : List α) :
    someM test l = l.anyM test := by
  induction l with
  | nil => rfl
  | cons x l ih => rw [List.anyM_cons, someM, ih]

theorem occurs_iff_infix {pattern text : List Char} :
    Pattern.occurs pattern text = true ↔ pattern <:+: text := by
  induction text with
  | nil => rw [Pattern.occurs, List.isEmpty_iff, List.infix_nil]
  | cons c cs ih =>
      rw [Pattern.occurs, Bool.or_eq_true, List.isPrefixOf_iff_prefix, ih, List.infix_cons_iff]

/-- **A pattern is found exactly where it must stand.** -/
theorem Pattern.accepts_eq_matches (p : Pattern) (text pattern : List Char) :
    p.accepts text pattern = decide (p.Matches text pattern) := by
  rw [Bool.eq_iff_iff, decide_eq_true_iff]
  cases p with
  | startsWith => exact List.isPrefixOf_iff_prefix
  | endsWith => exact List.isSuffixOf_iff_suffix
  | contains => exact occurs_iff_infix

theorem callWith_method (p : Pattern) {v : Value} (operand : Value) :
    callWith p.method v operand = p.matchesValue v operand := by
  have hmethod : Pattern.ofMethod? p.method = some p := by cases p <;> decide
  have hcontains : sameWord p.method Pattern.contains.method = decide (p = .contains) := by
    cases p <;> decide
  unfold callWith Pattern.matchesValue
  cases v with
  | text s =>
      cases operand with
      | text pattern => simp only [hmethod, Pattern.accepts_eq_matches]
      | _ => rfl
  | list items =>
      simp only [hcontains, someM_eq_anyM, equalValues_eq]
      cases p <;> rfl
  | _ => rfl

theorem Member.callMethod_toString (m : Member) (path : String) :
    m.callMethod path "ToString" [] r =
      (m.receiver "ToString").map fun v => .text v.display := by
  have htoString : sameWord "ToString" "ToString" = true := by decide
  unfold Member.callMethod
  simp only [htoString, if_true]
  cases m.receiver "ToString" <;> rfl

theorem Member.callMethod_pattern (p : Pattern) {u v : Value} (hu : u.isNull = false)
    (path : String) {a : Argument} (ha : a.eval r = .ok (.value v)) :
    (Member.value u).callMethod path p.method [a] r = (p.matchesValue u v).map .bool := by
  have htoString : ¬sameWord p.method "ToString" = true := by cases p <;> decide
  unfold Member.callMethod
  show (if sameWord p.method "ToString" then _ else (a.eval r).bind _) = _
  rw [if_neg htoString, ha]
  show (if u.isNull then _ else (callWith p.method u v).bind _) = _
  rw [hu, callWith_method]
  cases p.matchesValue u v <;> rfl

/-- The member that a question yields. -/
def answered (outcome : Except SearchError Bool) : Except SearchError Member :=
  outcome.map fun b => .value (.bool b)

theorem Expr.holds_of_eval {e : Expr} {outcome : Except SearchError Bool}
    (h : e.eval values r = answered outcome) : e.holds values r = outcome := by
  unfold Expr.holds
  rw [h]
  cases outcome <;> rfl

theorem Expr.eval_not {e : Expr} {m : Except SearchError Member}
    {f : Member → Except SearchError Bool} (h : e.eval values r = answered (m >>= f)) :
    (Expr.not e).eval values r = answered (m >>= fun a => (f a).map (!·)) := by
  rw [Expr.eval, h]
  cases m with
  | error _ => rfl
  | ok a =>
      show (answered (f a)).bind _ = answered ((f a).map _)
      cases f a <;> rfl

theorem Expr.eval_and {a b : Expr} {m : Except SearchError Member}
    {f g : Member → Except SearchError Bool} (ha : a.eval values r = answered (m >>= f))
    (hb : b.eval values r = answered (m >>= g)) :
    (Expr.and a b).eval values r =
      answered (m >>= fun x => do if ← f x then g x else return false) := by
  rw [Expr.eval, ha, hb]
  cases m with
  | error _ => rfl
  | ok x =>
      show (answered (f x)).bind _ = answered ((f x).bind _)
      cases f x with
      | error _ => rfl
      | ok holds =>
          -- Only where the first answer leaves it open is the second one asked for.
          cases holds with
          | false => rfl
          | true =>
              show (answered (g x)).bind _ = answered (g x)
              cases g x <;> rfl

theorem Expr.eval_or {a b : Expr} {m : Except SearchError Member}
    {f g : Member → Except SearchError Bool} (ha : a.eval values r = answered (m >>= f))
    (hb : b.eval values r = answered (m >>= g)) :
    (Expr.or a b).eval values r =
      answered (m >>= fun x => do if ← f x then return true else g x) := by
  rw [Expr.eval, ha, hb]
  cases m with
  | error _ => rfl
  | ok x =>
      show (answered (f x)).bind _ = answered ((f x).bind _)
      cases f x with
      | error _ => rfl
      | ok holds =>
          cases holds with
          | true => rfl
          | false =>
              show (answered (g x)).bind _ = answered (g x)
              cases g x <;> rfl

/-- What a pattern is asked of, for what the field holds. -/
def SingleCriterion.subjectOf (c : SingleCriterion) (m : Member) : Except SearchError Member :=
  match c.kind, m with
  | .text, .value .null => .ok (.value (.text ""))
  | .text, m => .ok m
  | .other, m => (m.receiver "ToString").map fun v => .value (.text v.display)

theorem SingleCriterion.eval_subject (c : SingleCriterion) :
    c.subject.eval values r = (r.follow c.field >>= c.subjectOf) := by
  unfold SingleCriterion.subject SingleCriterion.subjectOf
  cases c.kind with
  | text =>
      show (Expr.coalesce (.ofPath c.field) _).eval values r = _
      rw [Expr.eval, Expr.eval_ofPath]
      refine bind_congr fun m => ?_
      cases m with
      | value v => cases v <;> rfl
      | _ => rfl
  | other =>
      have hany : ¬sameWord "ToString" "Any" = true := by decide
      show (Expr.call (.ofPath c.field) "ToString" []).eval values r = _
      rw [Expr.eval, Expr.eval_ofPath]
      refine bind_congr fun m => ?_
      rw [if_neg hany, argumentsOfAll, Member.callMethod_toString]
      cases m <;> rfl

theorem SingleCriterion.eval_subject_ne_null (c : SingleCriterion) :
    c.subject.eval values r ≠ .ok (.value .null) := by
  rw [c.eval_subject]
  cases r.follow c.field with
  | error _ => simp [bind, Except.bind]
  | ok m =>
      show c.subjectOf m ≠ _
      unfold SingleCriterion.subjectOf
      cases c.kind with
      | text =>
          cases m with
          | value v => cases v <;> simp
          | _ => simp
      | other => cases m <;> simp [Member.receiver, Except.map]

theorem SingleCriterion.matchesPattern_eq (c : SingleCriterion) (p : Pattern) (m : Member) :
    (c.subjectOf m >>= fun m => m.receiver p.method >>= (p.matchesValue · c.value)) =
      c.matchesPattern p m := by
  unfold SingleCriterion.subjectOf SingleCriterion.matchesPattern
  cases c.kind with
  | text =>
      cases m with
      | value v => cases v <;> rfl
      | _ => rfl
  | other => cases m <;> rfl

theorem isMember_asItems (c : SingleCriterion) (v : Value) :
    isMember v c.value.asItems = c.items.anyM v.isEqual := by
  have hitems : ∀ items, isMember v (.list items) = items.anyM v.isEqual := by
    intro items
    show someM (equalValues v) items = _
    rw [someM_eq_anyM, funext (equalValues_eq v)]
  unfold SingleCriterion.items
  cases c.value <;> exact hitems _

/-! ## §5. Clauses with an operand. -/

section Operands

variable {operand : Expr} {v : Value} (hslot : operand.eval values r = .ok (.value v))

include hslot

theorem Expr.eval_compare (c : Comparison) (path : String) :
    (Expr.compare c (.ofPath path) operand).eval values r =
      answered (r.follow path >>= fun m => compareMembers c m (.value v)) := by
  rw [Expr.eval, hslot, Expr.eval_ofPath]
  cases r.follow path with
  | error _ => rfl
  | ok m =>
      show (compareMembers c m (.value v)).bind _ = answered (compareMembers c m (.value v))
      cases compareMembers c m (.value v) <;> rfl

theorem Expr.eval_equal (path : String) :
    (Expr.compare .equal (.ofPath path) operand).eval values r =
      answered (r.follow path >>= (·.isEqual v)) :=
  (Expr.eval_compare hslot .equal path).trans
    (congrArg answered (bind_congr fun m => compareMembers_equal m v))

theorem Expr.eval_notEqual (path : String) :
    (Expr.compare .notEqual (.ofPath path) operand).eval values r =
      answered (r.follow path >>= fun m => (m.isEqual v).map (!·)) :=
  (Expr.eval_compare hslot .notEqual path).trans
    (congrArg answered (bind_congr fun m => compareMembers_notEqual m v))

theorem Expr.eval_ordered {c : Comparison} {orders : List Ordering} (hequal : c ≠ .equal)
    (hnotEqual : c ≠ .notEqual) (h : ∀ o, c.accepts o = orders.contains o) (path : String) :
    (Expr.compare c (.ofPath path) operand).eval values r =
      answered (r.follow path >>= (·.isOrdered orders v)) :=
  (Expr.eval_compare hslot c path).trans
    (congrArg answered (bind_congr fun m => compareMembers_ordered hequal hnotEqual h m v))

theorem Expr.eval_greater (path : String) :
    (Expr.compare .greater (.ofPath path) operand).eval values r =
      answered (r.follow path >>= (·.isOrdered [.gt] v)) :=
  Expr.eval_ordered hslot (by decide) (by decide) (fun o => by cases o <;> rfl) path

theorem Expr.eval_greaterOrEqual (path : String) :
    (Expr.compare .greaterOrEqual (.ofPath path) operand).eval values r =
      answered (r.follow path >>= (·.isOrdered [.gt, .eq] v)) :=
  Expr.eval_ordered hslot (by decide) (by decide) (fun o => by cases o <;> rfl) path

theorem Expr.eval_less (path : String) :
    (Expr.compare .less (.ofPath path) operand).eval values r =
      answered (r.follow path >>= (·.isOrdered [.lt] v)) :=
  Expr.eval_ordered hslot (by decide) (by decide) (fun o => by cases o <;> rfl) path

theorem Expr.eval_lessOrEqual (path : String) :
    (Expr.compare .lessOrEqual (.ofPath path) operand).eval values r =
      answered (r.follow path >>= (·.isOrdered [.lt, .eq] v)) :=
  Expr.eval_ordered hslot (by decide) (by decide) (fun o => by cases o <;> rfl) path

/-- A pattern is asked of the value of its target, which must not be null. -/
theorem Expr.eval_pattern (p : Pattern) {target : Expr}
    (hnull : target.eval values r ≠ .ok (.value .null)) :
    (Expr.call target p.method [operand]).eval values r =
      answered (target.eval values r >>= fun m =>
        m.receiver p.method >>= (p.matchesValue · v)) := by
  have hany : ¬sameWord p.method "Any" = true := by cases p <;> decide
  rw [Expr.eval, argumentsOfAll, argumentsOfAll]
  cases hm : target.eval values r with
  | error _ => rfl
  | ok m =>
      show (if sameWord p.method "Any" then _ else (m.callMethod _ _ _ r).bind _) =
        answered ((m.receiver p.method).bind _)
      rw [if_neg hany]
      cases m with
      | record members => rfl
      | records elements => rfl
      | value u =>
          -- A method of null is an error, and the target is not null.
          have hu : u.isNull = false := by
            cases u with
            | null => exact absurd hm hnull
            | _ => rfl
          rw [Member.callMethod_pattern p hu target.path hslot]
          show ((p.matchesValue u v).map _).bind _ = answered (p.matchesValue u v)
          cases p.matchesValue u v <;> rfl

end Operands

section Criteria

variable (c : SingleCriterion) {operand : Expr}

theorem SingleCriterion.eval_pattern (hslot : operand.eval values r = .ok (.value c.value))
    (p : Pattern) :
    (Expr.call c.subject p.method [operand]).eval values r =
      answered (r.follow c.field >>= c.matchesPattern p) := by
  rw [Expr.eval_pattern hslot p c.eval_subject_ne_null, c.eval_subject, bind_assoc]
  exact congrArg answered (bind_congr fun m => c.matchesPattern_eq p m)

/-- A field that holds no plain value is reported by its path. -/
theorem SingleCriterion.eval_isIn
    (hslot : operand.eval values r = .ok (.value c.value.asItems)) :
    (Expr.isIn (.ofPath c.field) operand).eval values r =
      answered (r.follow c.field >>= c.isAmongItems) := by
  rw [Expr.eval, hslot, Expr.eval_ofPath, Expr.path_ofPath]
  cases r.follow c.field with
  | error _ => rfl
  | ok m =>
      cases m with
      | value v =>
          show (isMember v c.value.asItems).bind _ = answered (c.items.anyM v.isEqual)
          rw [isMember_asItems]
          cases c.items.anyM v.isEqual <;> rfl
      | _ => rfl

/-- **The tree of a clause asks what its operator asks** of the field, when the slot yields the
operand. -/
theorem SingleCriterion.eval_clauseTree {slot : Value → Expr}
    (hslot : ∀ v ∈ c.operands, (slot v).eval values r = .ok (.value v)) :
    (c.clauseTree slot).eval values r = answered (r.follow c.field >>= c.asks) := by
  have hnull : (Expr.literal .null).eval values r = .ok (.value .null) := by rw [Expr.eval]
  unfold SingleCriterion.operands at hslot
  unfold SingleCriterion.clauseTree SingleCriterion.asks
  cases ho : c.operator <;> rw [ho] at hslot
  case equals => exact Expr.eval_equal (hslot _ (.head _)) _
  case notEquals => exact Expr.eval_notEqual (hslot _ (.head _)) _
  case greaterThan => exact Expr.eval_greater (hslot _ (.head _)) _
  case greaterThanOrEqualTo => exact Expr.eval_greaterOrEqual (hslot _ (.head _)) _
  case lessThan => exact Expr.eval_less (hslot _ (.head _)) _
  case lessThanOrEqualTo => exact Expr.eval_lessOrEqual (hslot _ (.head _)) _
  case isNull => exact Expr.eval_equal hnull _
  case isNotNull => exact Expr.eval_notEqual hnull _
  case startsWith => exact c.eval_pattern (hslot _ (.head _)) .startsWith
  case endsWith => exact c.eval_pattern (hslot _ (.head _)) .endsWith
  case contains => exact c.eval_pattern (hslot _ (.head _)) .contains
  case doesNotStartWith => exact Expr.eval_not (c.eval_pattern (hslot _ (.head _)) .startsWith)
  case doesNotEndWith => exact Expr.eval_not (c.eval_pattern (hslot _ (.head _)) .endsWith)
  case doesNotContain => exact Expr.eval_not (c.eval_pattern (hslot _ (.head _)) .contains)
  case isIn => exact c.eval_isIn (hslot _ (.head _))
  case isNotIn => exact Expr.eval_not (c.eval_isIn (hslot _ (.head _)))

end Criteria

/-! ## §6. Ranges. -/

/-- **The tree of a range asks for both bounds**, when the slots yield them. -/
theorem RangeCriterion.eval_clauseTree (c : RangeCriterion) {start stop : Expr}
    (hstart : start.eval values r = .ok (.value c.start))
    (hstop : stop.eval values r = .ok (.value c.stop)) :
    (c.clauseTree start stop).eval values r = answered (r.follow c.field >>= c.asks) := by
  unfold RangeCriterion.clauseTree RangeCriterion.asks
  cases c.operator with
  | between =>
      have hlower := Expr.eval_greaterOrEqual hstart c.field
      have hupper := Expr.eval_lessOrEqual hstop c.field
      exact Expr.eval_and hlower hupper
  | notBetween =>
      have hlower := Expr.eval_less hstart c.field
      have hupper := Expr.eval_greater hstop c.field
      exact Expr.eval_or hlower hupper

/-! ## §7. Collections. -/

theorem Expr.eval_any (path : String) (test : Expr) :
    (Expr.call (.ofPath path) "Any" [test]).eval values r =
      answered (r.follow path >>= fun m => match m with
        | .records elements => elements.anyM (test.holds values)
        | .value .null => return false
        | m => .error (.evaluation (.notCollection path m.kind))) := by
  have hany : sameWord "Any" "Any" = true := by decide
  rw [Expr.eval, argumentsOfAll, argumentsOfAll, Expr.eval_ofPath, Expr.path_ofPath]
  simp only [hany, if_true]
  cases r.follow path with
  | error _ => rfl
  | ok m =>
      cases m with
      | record members => rfl
      | value v => cases v <;> rfl
      | records elements =>
          show (someM (test.holds values) elements).bind _ =
            answered (elements.anyM (test.holds values))
          rw [someM_eq_anyM]
          cases elements.anyM (test.holds values) <;> rfl

/-- The induction goes inwards: the elements of a collection are the records of what is inside. -/
theorem Expr.holds_inside {e : Expr} {test : Record → Except SearchError Bool}
    (h : ∀ r, e.holds values r = test r) (paths : List String) (r : Record) :
    (Expr.inside paths e).holds values r = insideAll test paths r := by
  induction paths generalizing r with
  | nil => exact h r
  | cons path paths ih =>
      have hany : (Expr.call (.ofPath path) "Any" [.inside paths e]).holds values r = _ :=
        Expr.holds_of_eval (Expr.eval_any path _)
      rw [funext ih] at hany
      exact hany

/-! ## §8. Containers. -/

theorem eval_numbered {vs : List Value} {next : Nat} {v : Value}
    (h : Binds values next (v :: vs)) (r : Record) :
    (Slot.numbered next v).eval values r = .ok (.value v) := by
  show (Expr.parameter next).eval values r = _
  rw [Expr.eval, h.getElem?]

theorem SingleCriterion.holds_clauseTree {c : SingleCriterion} {next : Nat}
    (h : Binds values next c.operands) (r : Record) :
    (c.clauseTree (Slot.numbered next)).holds values r = (r.follow c.field >>= c.asks) := by
  apply Expr.holds_of_eval
  apply c.eval_clauseTree
  intro v hv
  -- A criterion has one operand at most, so this is the one that is bound.
  have hsingle : c.operands = [v] := by
    unfold SingleCriterion.operands at hv ⊢
    cases ht : c.operator.test <;> rw [ht] at hv <;> simp_all
  exact eval_numbered (hsingle ▸ h) r

theorem RangeCriterion.holds_clauseTree {c : RangeCriterion} {next : Nat}
    (h : Binds values next c.operands) (r : Record) :
    (c.clauseTree (Slot.numbered next c.start) (Slot.numbered (next + 1) c.stop)).holds values r =
      (r.follow c.field >>= c.asks) := by
  have hstop : Binds values (next + 1) [c.stop] :=
    (Binds.append (show Binds values next ([c.start] ++ [c.stop]) from h)).2
  apply Expr.holds_of_eval
  exact c.eval_clauseTree (eval_numbered h r) (eval_numbered hstop r)

mutual

/-- **The tree of a container holds as the container means.** -/
theorem Container.holds_tree : ∀ (c : Container) (next : Nat) (r : Record),
    Binds values next c.operands → (c.tree .numbered next).holds values r = c.meaning r
  | ⟨_, some c, none, none⟩, next, r, h => by
      rw [Container.tree, Container.meaning]
      exact Expr.holds_inside (SingleCriterion.holds_clauseTree h) c.collection r
  | ⟨_, none, some c, none⟩, next, r, h => by
      rw [Container.tree, Container.meaning]
      exact Expr.holds_inside (RangeCriterion.holds_clauseTree h) c.collection r
  | ⟨_, none, none, some containers⟩, next, r, h => by
      rw [Container.tree, Container.meaning, Expr.holds_ofRuns,
        holds_treesOfAll containers next r h]
  | ⟨_, none, none, none⟩, _, _, _ | ⟨_, some _, some _, _⟩, _, _, _
  | ⟨_, some _, none, some _⟩, _, _, _ | ⟨_, none, some _, some _⟩, _, _, _ => rfl

theorem holds_treesOfAll : ∀ (cs : List Container) (next : Nat) (r : Record),
    Binds values next (operandsOfAll cs) →
      (treesOfAll .numbered next cs).map (fun part => (part.1, part.2.holds values r)) =
        meaningsOfAll r cs
  | [], _, _, _ => rfl
  | c :: cs, next, r, h => by
      obtain ⟨hfirst, hrest⟩ := Binds.append h
      rw [treesOfAll, List.map_cons, meaningsOfAll, c.holds_tree next r hfirst,
        holds_treesOfAll cs _ r hrest]

end

/-- The tree of a filter, with its operands bound, holds as the filter means. -/
theorem FilterCriteria.holds_tree (f : FilterCriteria) (r : Record) :
    (f.tree .numbered).holds (operandsOfAll f.containers) r = f.meaning r := by
  have h : Binds (operandsOfAll f.containers) 0 (operandsOfAll f.containers) := List.prefix_refl _
  rw [FilterCriteria.tree, Expr.holds_ofRuns, holds_treesOfAll _ 0 r h, FilterCriteria.meaning]

/-! ## §9. Filters. -/

/-- Evaluating the predicate of a filter gives what the filter means. -/
theorem FilterCriteria.evaluate_of_compile {words : List String} {f : FilterCriteria}
    {p : Predicate} (h : f.compile (.ofWords words) = .ok (some p))
    (hsize : p.parameters.length ≤ UInt64.size) (r : Record) :
    evaluate p.text p.parameters r = f.meaning r := by
  unfold evaluate
  rw [FilterCriteria.parsePredicate_of_compile h hsize, FilterCriteria.parameters_of_compile h]
  exact f.holds_tree r

/-- **Compiling and evaluating.**  A well-formed filter compiles to a predicate, and evaluating its
text with its parameters, on any record, gives what the filter means there: the same truth value,
or the same error. -/
theorem FilterCriteria.WellFormed.evaluate_compile (words : List String) {f : FilterCriteria}
    (h : f.WellFormed) :
    ∃ p, f.compile (.ofWords words) = .ok (some p) ∧
      (p.parameters.length ≤ UInt64.size →
        ∀ r, evaluate p.text p.parameters r = f.meaning r) := by
  obtain ⟨text, hcompile, hwritten⟩ := h.compile_eq_ok words
  refine ⟨_, hcompile, fun hlength r => ?_⟩
  unfold evaluate
  rw [(hwritten hlength).parsePredicate]
  exact f.holds_tree r

/-- Null for a text, null on the way to a range, and the second element of a collection: the first
container holds, and so does the second run of the group. -/
theorem FilterCriteria.WellFormed.evaluate_compile_group :
    let f : FilterCriteria := ⟨[
      .ofSingle .or ⟨"name", .doesNotContain, .text "b", [], .text⟩,
      .ofGroup .and [
        .ofRange .and ⟨"child.age", .notBetween, .int 1, .int 5, []⟩,
        .ofSingle .or ⟨"null", .isIn, .int 3, ["any"], .other⟩]]⟩
    let r : Record := [("name", .value .null), ("child", .value .null),
      ("any", .records [[("null", .value (.int 2))], [("null", .value (.uint 3))]])]
    f.WellFormed ∧ ∃ p, f.compile (.ofWords ["NAME"]) = .ok (some p) ∧
      evaluate p.text p.parameters r = .ok true := by
  intro f r
  have h : f.WellFormed := by
    refine ⟨by simp [f], fun c hc => ?_⟩
    simp only [f, List.mem_cons, List.not_mem_nil, or_false] at hc
    rcases hc with rfl | rfl
    · exact .single _ _ (by decide) (by decide)
    · refine .group _ _ (by simp) fun c hc => ?_
      simp only [List.mem_cons, List.not_mem_nil, or_false] at hc
      rcases hc with rfl | rfl
      · exact .range _ _ (by decide) (by decide)
      · exact .single _ _ (by decide) (by decide)
  obtain ⟨p, hcompile, hevaluate⟩ := h.evaluate_compile ["NAME"]
  have hlength : p.parameters.length ≤ UInt64.size := by
    rw [FilterCriteria.parameters_of_compile hcompile]
    decide
  exact ⟨h, p, hcompile, (hevaluate hlength r).trans rfl⟩

end RecordSearch
