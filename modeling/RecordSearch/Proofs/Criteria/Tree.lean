/-
  RecordSearch.Proofs.Criteria.Tree
  ─────────────────────────────────
  **Criteria as expressions.**

  The expression that a list of containers stands for, said without any text.  What it puts in the
  place of an operand is left open (`Slot`): the placeholder with the operand's number, or the
  operand itself.

      Container.WellFormed   — one populated slot at every depth, no empty group, paths of names
      FilterCriteria.tree    — the expression, for a way to put operands into it
      Expr.placeholders      — the numbers of the placeholders, from left to right
      Expr.fill              — the expression with values in place of its placeholders

  The placeholders of a tree are the numbers from zero on, one for each operand
  (`FilterCriteria.placeholders_tree`), and filling them with the operands gives the tree of the
  operands themselves (`FilterCriteria.fill_tree`).
-/
import RecordSearch.Predicate
import RecordSearch.Proofs.Criteria.Runs
import RecordSearch.Proofs.Expr.Written

namespace RecordSearch

/-! ## §1. Well-formed criteria. -/

/-- The path consists of names with dots between. -/
def IsPath (path : String) : Prop := ∀ segment ∈ Dialect.segments path, isName segment = true

instance (path : String) : Decidable (IsPath path) :=
  inferInstanceAs (Decidable (∀ segment ∈ Dialect.segments path, isName segment = true))

/-- **Exactly one slot is populated at every depth**, no group is empty, and all paths consist of
names. -/
inductive Container.WellFormed : Container → Prop where
  | single (logic : Connective) (c : SingleCriterion) (hfield : IsPath c.field)
      (hcollection : ∀ path ∈ c.collection, IsPath path) : WellFormed (.ofSingle logic c)
  | range (logic : Connective) (c : RangeCriterion) (hfield : IsPath c.field)
      (hcollection : ∀ path ∈ c.collection, IsPath path) : WellFormed (.ofRange logic c)
  | group (logic : Connective) (containers : List Container) (hne : containers ≠ [])
      (h : ∀ c ∈ containers, WellFormed c) : WellFormed (.ofGroup logic containers)

/-- There is something to filter by, and all of it is well-formed. -/
structure FilterCriteria.WellFormed (f : FilterCriteria) : Prop where
  nonempty : f.containers ≠ []
  containers : ∀ c ∈ f.containers, c.WellFormed

/-- A group is well-formed if the filter that it holds is. -/
theorem Container.wellFormed_ofGroup_iff {logic : Connective} {f : FilterCriteria} :
    (Container.ofGroup logic f.containers).WellFormed ↔ f.WellFormed := by
  constructor
  · rintro (_ | _ | ⟨-, -, hne, hcontainers⟩)
    exact ⟨hne, hcontainers⟩
  · exact fun h => .group logic _ h.nonempty h.containers

/-! ## §2. Trees. -/

/-- What a tree puts in the place of an operand, by its number and its value. -/
abbrev Slot := Nat → Value → Expr

/-- Placeholders in the place of operands. -/
def Slot.numbered : Slot := fun index _ => .parameter index

/-- The operands in their own place. -/
def Slot.filled : Slot := fun _ v => .literal v

/-- The names of a path. -/
def pathNames (path : String) : List String := (Dialect.segments path).map String.ofList

/-- The chain of member accesses along a path. -/
def Expr.ofPath (path : String) : Expr := .ofNames (pathNames path)

/-- Some element of the first collection has some element of the next one, and so on, of which the
expression holds. -/
def Expr.inside (paths : List String) (e : Expr) : Expr :=
  paths.foldr (fun path inner => .call (.ofPath path) "Any" [inner]) e

/-- What a pattern is matched against: null counts as empty where the field is text, and any
other field is matched by its text. -/
def SingleCriterion.subject (c : SingleCriterion) : Expr :=
  match c.kind with
  | .text => .coalesce (.ofPath c.field) (.literal (.text ""))
  | .other => .call (.ofPath c.field) "ToString" []

/-- The tree of a single criterion, its collections set aside. -/
def SingleCriterion.clauseTree (c : SingleCriterion) (slot : Value → Expr) : Expr :=
  let field := Expr.ofPath c.field
  match c.operator with
  | .equals => .compare .equal field (slot c.value)
  | .notEquals => .compare .notEqual field (slot c.value)
  | .greaterThan => .compare .greater field (slot c.value)
  | .greaterThanOrEqualTo => .compare .greaterOrEqual field (slot c.value)
  | .lessThan => .compare .less field (slot c.value)
  | .lessThanOrEqualTo => .compare .lessOrEqual field (slot c.value)
  | .isNull => .compare .equal field (.literal .null)
  | .isNotNull => .compare .notEqual field (.literal .null)
  | .startsWith => .call c.subject "StartsWith" [slot c.value]
  | .endsWith => .call c.subject "EndsWith" [slot c.value]
  | .contains => .call c.subject "Contains" [slot c.value]
  | .doesNotStartWith => .not (.call c.subject "StartsWith" [slot c.value])
  | .doesNotEndWith => .not (.call c.subject "EndsWith" [slot c.value])
  | .doesNotContain => .not (.call c.subject "Contains" [slot c.value])
  | .isIn => .isIn field (slot c.value.asItems)
  | .isNotIn => .not (.isIn field (slot c.value.asItems))

/-- The tree of a range criterion, its collections set aside. -/
def RangeCriterion.clauseTree (c : RangeCriterion) (start stop : Expr) : Expr :=
  let field := Expr.ofPath c.field
  match c.operator with
  | .between => .and (.compare .greaterOrEqual field start) (.compare .lessOrEqual field stop)
  | .notBetween => .or (.compare .less field start) (.compare .greater field stop)

mutual

/-- The tree of a container, its operands numbered from `next`.  One that is malformed has no
tree of its own. -/
def Container.tree (slot : Slot) (next : Nat) : Container → Expr
  | ⟨_, some c, none, none⟩ => .inside c.collection (c.clauseTree (slot next))
  | ⟨_, none, some c, none⟩ =>
      .inside c.collection (c.clauseTree (slot next c.start) (slot (next + 1) c.stop))
  | ⟨_, none, none, some containers⟩ => .ofRuns (treesOfAll slot next containers)
  | _ => default

/-- The trees of containers, each with its connective. -/
def treesOfAll (slot : Slot) (next : Nat) : List Container → List (Connective × Expr)
  | [] => []
  | c :: cs => (c.logic, c.tree slot next) :: treesOfAll slot (next + c.operands.length) cs

end

/-- **The expression that a filter stands for.** -/
def FilterCriteria.tree (slot : Slot) (f : FilterCriteria) : Expr :=
  .ofRuns (treesOfAll slot 0 f.containers)

/-! ## §3. Placeholders. -/

mutual

/-- The numbers of the placeholders, from left to right. -/
def Expr.placeholders : Expr → List Nat
  | .literal _ | .name _ => []
  | .parameter index => [index]
  | .member target _ => target.placeholders
  | .call target _ arguments => target.placeholders ++ placeholdersOfAll arguments
  | .not inner => inner.placeholders
  | .and left right | .or left right | .compare _ left right | .isIn left right
  | .coalesce left right => left.placeholders ++ right.placeholders

/-- The numbers of the placeholders in a list of expressions. -/
def placeholdersOfAll : List Expr → List Nat
  | [] => []
  | e :: es => e.placeholders ++ placeholdersOfAll es

end

mutual

/-- The expression with values in place of its placeholders; one without a value stays. -/
def Expr.fill (values : List Value) : Expr → Expr
  | .literal v => .literal v
  | .name n => .name n
  | .parameter index =>
    match values[index]? with
    | some v => .literal v
    | none => .parameter index
  | .member target n => .member (target.fill values) n
  | .call target method arguments => .call (target.fill values) method (fillAll values arguments)
  | .not inner => .not (inner.fill values)
  | .and left right => .and (left.fill values) (right.fill values)
  | .or left right => .or (left.fill values) (right.fill values)
  | .compare c left right => .compare c (left.fill values) (right.fill values)
  | .isIn item list => .isIn (item.fill values) (list.fill values)
  | .coalesce left right => .coalesce (left.fill values) (right.fill values)

/-- The expressions with values in place of their placeholders. -/
def fillAll (values : List Value) : List Expr → List Expr
  | [] => []
  | e :: es => e.fill values :: fillAll values es

end

/-! ## §4. Joined expressions. -/

theorem flatten_runs {β : Type} (parts : List (Connective × β)) :
    (runs parts).flatten = parts.map (·.2) := by
  rw [runs, ← List.map_flatten, List.flatten_splitBy]

theorem placeholders_joinLeft {join : Expr → Expr → Expr}
    (hjoin : ∀ l r, (join l r).placeholders = l.placeholders ++ r.placeholders) (es : List Expr) :
    (joinLeft join es).placeholders = es.flatMap Expr.placeholders := by
  have hfold : ∀ (es : List Expr) (e : Expr),
      (es.foldl join e).placeholders = e.placeholders ++ es.flatMap Expr.placeholders := by
    intro es
    induction es with
    | nil => intro e; simp
    | cons x es ih =>
        intro e
        rw [List.foldl_cons, ih, hjoin, List.flatMap_cons, List.append_assoc]
  cases es with
  | nil => rfl
  | cons e es => exact hfold es e

theorem Expr.placeholders_ofRuns (parts : List (Connective × Expr)) :
    (Expr.ofRuns parts).placeholders = (parts.map (·.2)).flatMap Expr.placeholders := by
  have hor : ∀ es, (joinLeft Expr.or es).placeholders = es.flatMap Expr.placeholders :=
    placeholders_joinLeft fun _ _ => rfl
  have hand : ∀ es, (joinLeft Expr.and es).placeholders = es.flatMap Expr.placeholders :=
    placeholders_joinLeft fun _ _ => rfl
  -- The runs in turn are the list, so their placeholders in turn are those of the list.
  rw [Expr.ofRuns, hor, List.flatMap_map, ← flatten_runs]
  simp only [hand, List.flatMap_def, List.map_flatten, List.flatten_flatten, List.map_map,
    Function.comp_def]

theorem fill_joinLeft {values : List Value} {join : Expr → Expr → Expr}
    (hjoin : ∀ l r, (join l r).fill values = join (l.fill values) (r.fill values))
    (es : List Expr) : (joinLeft join es).fill values = joinLeft join (es.map (·.fill values)) := by
  have hfold : ∀ (es : List Expr) (e : Expr),
      (es.foldl join e).fill values = (es.map (·.fill values)).foldl join (e.fill values) := by
    intro es
    induction es with
    | nil => intro e; rfl
    | cons x es ih =>
        intro e
        rw [List.foldl_cons, ih, hjoin]
        rfl
  cases es with
  | nil => rfl
  | cons e es => exact hfold es e

theorem Expr.fill_ofRuns (values : List Value) (parts : List (Connective × Expr)) :
    (Expr.ofRuns parts).fill values =
      Expr.ofRuns (parts.map fun part => (part.1, part.2.fill values)) := by
  have hor : ∀ es, (joinLeft Expr.or es).fill values = joinLeft .or (es.map (·.fill values)) :=
    fill_joinLeft fun _ _ => rfl
  have hand : ∀ es, (joinLeft Expr.and es).fill values = joinLeft .and (es.map (·.fill values)) :=
    fill_joinLeft fun _ _ => rfl
  rw [Expr.ofRuns, hor, Expr.ofRuns, runs_map]
  simp only [hand, List.map_map, Function.comp_def]

/-! ## §5. The placeholders of a tree. -/

theorem Expr.placeholders_ofPath (path : String) : (Expr.ofPath path).placeholders = [] := by
  have hfold : ∀ (ns : List String) (e : Expr),
      (ns.foldl Expr.member e).placeholders = e.placeholders := by
    intro ns
    induction ns with
    | nil => intro e; rfl
    | cons n ns ih => intro e; exact ih (.member e n)
  unfold Expr.ofPath Expr.ofNames
  split
  · rfl
  · exact hfold _ _

theorem Expr.fill_ofPath (values : List Value) (path : String) :
    (Expr.ofPath path).fill values = Expr.ofPath path := by
  have hfold : ∀ (ns : List String) (e : Expr),
      (ns.foldl Expr.member e).fill values = ns.foldl .member (e.fill values) := by
    intro ns
    induction ns with
    | nil => intro e; rfl
    | cons n ns ih => intro e; exact ih (.member e n)
  unfold Expr.ofPath Expr.ofNames
  split
  · rfl
  · exact hfold _ _

theorem Expr.placeholders_inside (paths : List String) (e : Expr) :
    (Expr.inside paths e).placeholders = e.placeholders := by
  induction paths with
  | nil => rfl
  | cons path paths ih =>
      show (Expr.ofPath path).placeholders ++ ((Expr.inside paths e).placeholders ++ []) = _
      rw [Expr.placeholders_ofPath, ih, List.append_nil, List.nil_append]

theorem Expr.fill_inside (values : List Value) (paths : List String) (e : Expr) :
    (Expr.inside paths e).fill values = Expr.inside paths (e.fill values) := by
  induction paths with
  | nil => rfl
  | cons path paths ih =>
      show Expr.call ((Expr.ofPath path).fill values) "Any" [(Expr.inside paths e).fill values] = _
      rw [Expr.fill_ofPath, ih]
      rfl

theorem SingleCriterion.placeholders_clauseTree (c : SingleCriterion) (next : Nat) :
    (c.clauseTree (Slot.numbered next)).placeholders = List.range' next c.operands.length := by
  have hsubject : c.subject.placeholders = [] := by
    unfold SingleCriterion.subject
    split <;> simp [Expr.placeholders, placeholdersOfAll, Expr.placeholders_ofPath]
  unfold SingleCriterion.clauseTree SingleCriterion.operands
  cases c.operator <;>
    simp [Operator.test, Slot.numbered, Expr.placeholders, placeholdersOfAll,
      Expr.placeholders_ofPath, hsubject]

theorem RangeCriterion.placeholders_clauseTree (c : RangeCriterion) (next : Nat) :
    (c.clauseTree (Slot.numbered next c.start) (Slot.numbered (next + 1) c.stop)).placeholders =
      List.range' next c.operands.length := by
  unfold RangeCriterion.clauseTree RangeCriterion.operands
  cases c.operator <;>
    simp [Slot.numbered, Expr.placeholders, Expr.placeholders_ofPath, List.range']

mutual

/-- A container's placeholders are numbered from `next` on, one for each operand. -/
theorem Container.placeholders_tree : ∀ (c : Container) (next : Nat),
    (c.tree .numbered next).placeholders = List.range' next c.operands.length
  | ⟨_, some c, none, none⟩, next => by
      simp only [Container.tree, Container.operands, Expr.placeholders_inside,
        c.placeholders_clauseTree]
  | ⟨_, none, some c, none⟩, next => by
      simp only [Container.tree, Container.operands, Expr.placeholders_inside,
        c.placeholders_clauseTree]
  | ⟨_, none, none, some containers⟩, next => by
      simp only [Container.tree, Container.operands, Expr.placeholders_ofRuns]
      exact placeholders_treesOfAll containers next
  | ⟨_, none, none, none⟩, _ | ⟨_, some _, some _, _⟩, _ | ⟨_, some _, none, some _⟩, _
  | ⟨_, none, some _, some _⟩, _ => rfl

theorem placeholders_treesOfAll : ∀ (cs : List Container) (next : Nat),
    ((treesOfAll .numbered next cs).map (·.2)).flatMap Expr.placeholders =
      List.range' next (operandsOfAll cs).length
  | [], next => rfl
  | c :: cs, next => by
      simp only [treesOfAll, List.map_cons, List.flatMap_cons, operandsOfAll, List.length_append]
      rw [c.placeholders_tree next, placeholders_treesOfAll cs, List.range'_append_1]

end

theorem operandsOfAll_append (cs ds : List Container) :
    operandsOfAll (cs ++ ds) = operandsOfAll cs ++ operandsOfAll ds := by
  induction cs with
  | nil => rfl
  | cons c cs ih => rw [List.cons_append, operandsOfAll, ih, operandsOfAll, List.append_assoc]

/-- **The placeholders of a filter are the numbers from zero on**, one for each operand. -/
theorem FilterCriteria.placeholders_tree (f : FilterCriteria) :
    (f.tree .numbered).placeholders = List.range (operandsOfAll f.containers).length := by
  rw [FilterCriteria.tree, Expr.placeholders_ofRuns, placeholders_treesOfAll, List.range_eq_range']

/-! ## §6. Filling a tree. -/

/-- From the number `next` on, the placeholders are bound to the values `vs`. -/
def Binds (values : List Value) (next : Nat) (vs : List Value) : Prop := vs <+: values.drop next

theorem Binds.getElem? {values vs : List Value} {next : Nat} {v : Value}
    (h : Binds values next (v :: vs)) : values[next]? = some v := by
  obtain ⟨rest, hrest⟩ := h
  have hhead : (values.drop next)[0]? = some v := by rw [← hrest]; rfl
  simpa using hhead

theorem Binds.append {values us vs : List Value} {next : Nat} (h : Binds values next (us ++ vs)) :
    Binds values next us ∧ Binds values (next + us.length) vs := by
  obtain ⟨rest, hrest⟩ := h
  refine ⟨⟨vs ++ rest, by rw [← hrest, List.append_assoc]⟩, ⟨rest, ?_⟩⟩
  rw [← List.drop_drop, ← hrest, List.append_assoc, List.drop_left]

theorem fill_numbered {values vs : List Value} {next : Nat} {v : Value}
    (h : Binds values next (v :: vs)) :
    (Slot.numbered next v).fill values = Slot.filled next v := by
  show (match values[next]? with | some v => Expr.literal v | none => .parameter next) = _
  rw [h.getElem?]
  rfl

theorem SingleCriterion.fill_clauseTree {values : List Value} {next : Nat} {c : SingleCriterion}
    (h : Binds values next c.operands) :
    (c.clauseTree (Slot.numbered next)).fill values = c.clauseTree (Slot.filled next) := by
  have hsubject : c.subject.fill values = c.subject := by
    unfold SingleCriterion.subject
    split <;> simp [Expr.fill, fillAll, Expr.fill_ofPath]
  unfold SingleCriterion.operands at h
  unfold SingleCriterion.clauseTree
  cases ho : c.operator <;> rw [ho] at h <;>
    simp [Expr.fill, fillAll, Expr.fill_ofPath, hsubject] <;> exact fill_numbered h

theorem RangeCriterion.fill_clauseTree {values : List Value} {next : Nat} {c : RangeCriterion}
    (h : Binds values next c.operands) :
    (c.clauseTree (Slot.numbered next c.start) (Slot.numbered (next + 1) c.stop)).fill values =
      c.clauseTree (Slot.filled next c.start) (Slot.filled (next + 1) c.stop) := by
  -- The two bounds are the operands `next` and `next + 1`.
  have hstart := fill_numbered h
  have hstop : (Slot.numbered (next + 1) c.stop).fill values = Slot.filled (next + 1) c.stop :=
    fill_numbered (Binds.append (show Binds values next ([c.start] ++ [c.stop]) from h)).2
  unfold RangeCriterion.clauseTree
  cases c.operator <;> simp [Expr.fill, Expr.fill_ofPath, hstart, hstop]

mutual

theorem Container.fill_tree {values : List Value} : ∀ (c : Container) (next : Nat),
    Binds values next c.operands →
      (c.tree .numbered next).fill values = c.tree .filled next
  | ⟨_, some c, none, none⟩, next, h => by
      simp only [Container.tree, Expr.fill_inside, SingleCriterion.fill_clauseTree h]
  | ⟨_, none, some c, none⟩, next, h => by
      simp only [Container.tree, Expr.fill_inside, RangeCriterion.fill_clauseTree h]
  | ⟨_, none, none, some containers⟩, next, h => by
      simp only [Container.tree, Expr.fill_ofRuns]
      rw [fill_treesOfAll containers next h]
  | ⟨_, none, none, none⟩, _, _ | ⟨_, some _, some _, _⟩, _, _
  | ⟨_, some _, none, some _⟩, _, _ | ⟨_, none, some _, some _⟩, _, _ => rfl

theorem fill_treesOfAll {values : List Value} : ∀ (cs : List Container) (next : Nat),
    Binds values next (operandsOfAll cs) →
      (treesOfAll .numbered next cs).map (fun part => (part.1, part.2.fill values)) =
        treesOfAll .filled next cs
  | [], _, _ => rfl
  | c :: cs, next, h => by
      obtain ⟨hfirst, hrest⟩ := Binds.append h
      simp only [treesOfAll, List.map_cons]
      rw [c.fill_tree next hfirst, fill_treesOfAll cs _ hrest]

end

/-- **Filling a filter's placeholders with its operands** puts each operand in its own place. -/
theorem FilterCriteria.fill_tree (f : FilterCriteria) :
    (f.tree .numbered).fill (operandsOfAll f.containers) = f.tree .filled := by
  have h : Binds (operandsOfAll f.containers) 0 (operandsOfAll f.containers) := List.prefix_refl _
  rw [FilterCriteria.tree, Expr.fill_ofRuns, fill_treesOfAll _ _ h]
  rfl

end RecordSearch
