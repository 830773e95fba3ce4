/-
  RecordSearch.Proofs.Criteria.Runs
  ─────────────────────────────────
  **Lists that are joined by connectives.**

  Each element of such a list says how it is joined to the one before it; what the first one says
  has no meaning.  Since `And` binds more tightly than `Or`, the list falls into runs:

      runs parts          — the list, cut before each element but the first that is joined by `Or`
      Expr.ofRuns parts   — the `Or` of the runs, each the `And` of its elements, both grouped
                            to the left

  `runs` is the library's `splitBy`.  For inductions it is computed from the front by
  `runsBehind` (`runs_cons`).
-/
import Mathlib.Data.List.SplitBy
import RecordSearch.Expr

namespace RecordSearch

variable {β γ : Type}

/-! ## §1. Runs. -/

/-- The list, cut before each element but the first that is joined by `Or`. -/
def runs (parts : List (Connective × β)) : List (List β) :=
  (parts.splitBy fun _ part => part.1 = .and).map (·.map (·.2))

/-- What the elements behind a first one add to its run, and the runs behind that. -/
def runsBehind : List (Connective × β) → List β × List (List β)
  | [] => ([], [])
  | (.and, x) :: parts => (x :: (runsBehind parts).1, (runsBehind parts).2)
  | (.or, x) :: parts => ([], (x :: (runsBehind parts).1) :: (runsBehind parts).2)

theorem splitBy_cons_of_true {α : Type} {r : α → α → Bool} {a b : α} {l run : List α}
    {others : List (List α)} (h : (b :: l).splitBy r = (b :: run) :: others)
    (hab : r a b = true) : (a :: b :: l).splitBy r = (a :: b :: run) :: others := by
  -- A cut into runs is known by four things: they make up the list, none is empty, each is a
  -- chain, and the last element of each is not joined to the first one of the next.
  obtain ⟨hflat, hnil, hchain, hsplit⟩ := List.splitBy_eq_iff.mp h
  refine List.splitBy_eq_iff.mpr ⟨by simp [hflat], by simpa using hnil, ?_, ?_⟩
  · intro m hm
    rcases List.mem_cons.mp hm with rfl | hm
    · exact List.isChain_cons_cons.mpr ⟨hab, hchain _ (by simp)⟩
    · exact hchain m (List.mem_cons_of_mem _ hm)
  · cases others with
    | nil => exact List.isChain_singleton _
    | cons c cs =>
        obtain ⟨⟨ha, hb, hlast⟩, hrest⟩ := List.isChain_cons_cons.mp hsplit
        exact List.isChain_cons_cons.mpr ⟨⟨by simp, hb, by simpa using hlast⟩, hrest⟩

/-- The elements keep their connectives in the runs, so the induction is on pairs. -/
theorem splitBy_cons_eq_runsBehind (parts : List (Connective × β)) :
    ∃ run others, (runsBehind parts).1 = run.map (·.2) ∧
      (runsBehind parts).2 = others.map (·.map (·.2)) ∧
      ∀ first : Connective × β,
        (first :: parts).splitBy (fun _ part => part.1 = .and) = (first :: run) :: others := by
  induction parts with
  | nil => exact ⟨[], [], rfl, rfl, fun first => rfl⟩
  | cons part parts ih =>
      obtain ⟨run, others, hrun, hothers, hsplit⟩ := ih
      obtain ⟨logic, x⟩ := part
      cases logic with
      | and =>
          refine ⟨(.and, x) :: run, others, by simp [runsBehind, hrun], hothers, fun first => ?_⟩
          exact splitBy_cons_of_true (hsplit (.and, x)) rfl
      | or =>
          -- Whatever comes before it, a run starts here.
          refine ⟨[], ((.or, x) :: run) :: others, rfl, by simp [runsBehind, hrun, hothers],
            fun first => ?_⟩
          rw [← hsplit (.or, x)]
          exact List.splitBy_append_cons (l := [first]) parts (by simp)

/-- **The runs, from the front.** -/
theorem runs_cons (logic : Connective) (x : β) (parts : List (Connective × β)) :
    runs ((logic, x) :: parts) = (x :: (runsBehind parts).1) :: (runsBehind parts).2 := by
  obtain ⟨run, others, hrun, hothers, hsplit⟩ := splitBy_cons_eq_runsBehind parts
  rw [runs, hsplit, hrun, hothers]
  rfl

theorem runsBehind_map (f : β → γ) (parts : List (Connective × β)) :
    runsBehind (parts.map fun part => (part.1, f part.2)) =
      ((runsBehind parts).1.map f, (runsBehind parts).2.map (·.map f)) := by
  induction parts with
  | nil => rfl
  | cons part parts ih =>
      obtain ⟨logic, x⟩ := part
      cases logic <;> simp [runsBehind, ih]

theorem runs_map (f : β → γ) (parts : List (Connective × β)) :
    runs (parts.map fun part => (part.1, f part.2)) = (runs parts).map (·.map f) := by
  cases parts with
  | nil => rfl
  | cons part parts =>
      rw [List.map_cons, runs_cons, runsBehind_map, runs_cons]
      rfl

/-- What stands in a run stands in the list that is cut. -/
theorem mem_of_mem_runs {β : Type} {parts : List (Connective × β)} {run : List β} {x : β}
    (hrun : run ∈ runs parts) (hx : x ∈ run) : ∃ logic, (logic, x) ∈ parts := by
  obtain ⟨part, hpart, rfl⟩ := List.mem_map.mp hrun
  obtain ⟨⟨logic, y⟩, hy, rfl⟩ := List.mem_map.mp hx
  refine ⟨logic, ?_⟩
  rw [← List.flatten_splitBy (fun _ part : Connective × β => part.1 = .and) parts]
  exact List.mem_flatten.mpr ⟨part, hpart, hy⟩

/-! ## §2. Joined expressions. -/

/-- Joins expressions from the left. -/
def joinLeft (join : Expr → Expr → Expr) : List Expr → Expr
  | [] => default
  | e :: es => es.foldl join e

/-- **The expression of a list that is joined by connectives.** -/
def Expr.ofRuns (parts : List (Connective × Expr)) : Expr :=
  joinLeft .or ((runs parts).map (joinLeft .and))

/-- The expressions of the runs when the first run has been read up to the expression `run`. -/
def runsFrom (run : Expr) (parts : List (Connective × Expr)) : List Expr :=
  (runsBehind parts).1.foldl .and run :: (runsBehind parts).2.map (joinLeft .and)

theorem runsFrom_and (run e : Expr) (parts : List (Connective × Expr)) :
    runsFrom run ((.and, e) :: parts) = runsFrom (.and run e) parts := rfl

theorem runsFrom_or (run e : Expr) (parts : List (Connective × Expr)) :
    runsFrom run ((.or, e) :: parts) = run :: runsFrom e parts := rfl

theorem Expr.ofRuns_cons (logic : Connective) (e : Expr) (parts : List (Connective × Expr)) :
    Expr.ofRuns ((logic, e) :: parts) = joinLeft .or (runsFrom e parts) := by
  rw [Expr.ofRuns, runs_cons]
  rfl

end RecordSearch
