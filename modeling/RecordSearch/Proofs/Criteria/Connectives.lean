/-
  RecordSearch.Proofs.Criteria.Connectives
  ────────────────────────────────────────
  **Questions that are joined by connectives.**

  Each question is answered with a truth value or an error, and the second of two is asked only
  where the first leaves the answer open.  Both ways of joining two questions are associative,
  errors included, and what a list of them comes to (`someRun`) can be computed from the front:

      bothHold, eitherHolds     — two questions
      someRunFrom               — the list, when its first run has been read up to an answer
      someRunFrom_append        — a part of the list that can be answered by itself
      someRun_alternatives      — a list that is joined by `Or` alone
      someRun_conditions        — a list that is joined by `And` alone

The connective of a container is no part of what it means (`Container.meaning_joinedBy`).
-/
import RecordSearch.Proofs.Criteria.Meaning

namespace RecordSearch

/-- What a question comes to. -/
abbrev Answer := Except SearchError Bool

variable {a b : Answer} {parts front : List (Connective × Answer)}

/-! ## §1. Two questions. -/

/-- Both hold; the second is asked only where the first holds. -/
def bothHold (a b : Answer) : Answer := do if ← a then b else return false

/-- One of them holds; the second is asked only where the first does not hold. -/
def eitherHolds (a b : Answer) : Answer := do if ← a then return true else b

theorem bothHold_true (a : Answer) : bothHold a (.ok true) = a := by
  rcases a with e | _ | _ <;> rfl

theorem eitherHolds_false (a : Answer) : eitherHolds a (.ok false) = a := by
  rcases a with e | _ | _ <;> rfl

theorem bothHold_assoc (a b c : Answer) :
    bothHold (bothHold a b) c = bothHold a (bothHold b c) := by
  rcases a with e | _ | _ <;> rfl

theorem eitherHolds_assoc (a b c : Answer) :
    eitherHolds (eitherHolds a b) c = eitherHolds a (eitherHolds b c) := by
  rcases a with e | _ | _ <;> rfl

theorem bothHold_eq_true_iff : bothHold a b = .ok true ↔ a = .ok true ∧ b = .ok true := by
  rcases a with e | _ | _ <;> simp [bothHold, bind, Except.bind, pure, Except.pure]

theorem eitherHolds_eq_true_iff :
    eitherHolds a b = .ok true ↔ a = .ok true ∨ a = .ok false ∧ b = .ok true := by
  rcases a with e | _ | _ <;> simp [eitherHolds, bind, Except.bind, pure, Except.pure]

/-! ## §2. Lists of questions. -/

theorem allM_cons (x : Answer) (xs : List Answer) :
    (x :: xs).allM id = bothHold x (xs.allM id) := by
  rw [List.allM_cons]
  rcases x with e | _ | _ <;> rfl

theorem anyM_cons {β : Type} (test : β → Answer) (x : β) (xs : List β) :
    (x :: xs).anyM test = eitherHolds (test x) (xs.anyM test) := by
  rw [List.anyM_cons, eitherHolds]

/-- What the list comes to, when its first run has been read up to the answer `run`. -/
def someRunFrom (run : Answer) : List (Connective × Answer) → Answer
  | [] => run
  | (.and, x) :: parts => someRunFrom (bothHold run x) parts
  | (.or, x) :: parts => eitherHolds run (someRunFrom x parts)

/-- **Some run holds, computed from the front.**  The induction is on what follows the first
question, which is read into the run or ends it. -/
theorem someRun_cons (logic : Connective) (x : Answer) (parts : List (Connective × Answer)) :
    someRun ((logic, x) :: parts) = someRunFrom x parts := by
  rw [someRun, runs_cons]
  induction parts generalizing x with
  | nil =>
      show (([[x]] : List (List Answer)).anyM fun run => run.allM id) = x
      rw [anyM_cons, allM_cons]
      show eitherHolds (bothHold x (.ok true)) (.ok false) = x
      rw [bothHold_true, eitherHolds_false]
  | cons part parts ih =>
      obtain ⟨logic, y⟩ := part
      cases logic with
      | and =>
          show _ = someRunFrom (bothHold x y) parts
          rw [← ih, anyM_cons, anyM_cons, runsBehind, allM_cons, allM_cons, allM_cons,
            bothHold_assoc]
      | or =>
          show _ = eitherHolds x (someRunFrom y parts)
          rw [← ih, anyM_cons, runsBehind, allM_cons]
          show eitherHolds (bothHold x (.ok true)) _ = _
          rw [bothHold_true]

/-! ## §3. Parts of a list. -/

/-- Lists that come to the same behind every run do so behind everything. -/
theorem someRunFrom_append_congr {xs ys : List (Connective × Answer)}
    (h : ∀ run, someRunFrom run xs = someRunFrom run ys) (front : List (Connective × Answer))
    (run : Answer) : someRunFrom run (front ++ xs) = someRunFrom run (front ++ ys) := by
  induction front generalizing run with
  | nil => exact h run
  | cons part front ih =>
      obtain ⟨logic, x⟩ := part
      cases logic with
      | and => exact ih (bothHold run x)
      | or => exact congrArg (eitherHolds run) (ih x)

/-- **A part of the list can be answered by itself** where it is a single run, or where what is
behind it starts a run of its own. -/
theorem someRunFrom_append
    (h : (∀ part ∈ front, part.1 = .and) ∨ ∀ part ∈ parts.head?, part.1 = .or) (run : Answer) :
    someRunFrom run (front ++ parts) = someRunFrom (someRunFrom run front) parts := by
  induction front generalizing run with
  | nil => rfl
  | cons part front ih =>
      obtain ⟨logic, x⟩ := part
      cases logic with
      | and => exact ih (h.imp_left fun hand p hp => hand p (List.mem_cons_of_mem _ hp)) _
      | or =>
          -- The part has an `Or` in it, so what is behind it starts with one.
          have hor : ∀ part ∈ parts.head?, part.1 = .or :=
            h.resolve_left fun hand => nomatch hand _ List.mem_cons_self
          show eitherHolds run (someRunFrom x (front ++ parts)) =
            someRunFrom (eitherHolds run (someRunFrom x front)) parts
          rw [ih (.inr hor)]
          cases parts with
          | nil => rfl
          | cons part parts =>
              obtain ⟨logic, y⟩ := part
              obtain rfl : logic = .or := hor _ rfl
              exact (eitherHolds_assoc _ _ _).symm

/-- A run is joined to what is in front of it question by question. -/
theorem bothHold_someRunFrom (h : ∀ part ∈ front, part.1 = .and) (a run : Answer) :
    bothHold a (someRunFrom run front) = someRunFrom (bothHold a run) front := by
  induction front generalizing run with
  | nil => rfl
  | cons part front ih =>
      obtain ⟨logic, x⟩ := part
      obtain rfl : logic = .and := h _ List.mem_cons_self
      show bothHold a (someRunFrom (bothHold run x) front) =
        someRunFrom (bothHold (bothHold a run) x) front
      rw [ih fun p hp => h p (List.mem_cons_of_mem _ hp), bothHold_assoc]

/-! ## §4. Lists with one connective. -/

theorem someRun_alternatives (logic : Connective) (x : Answer) (xs : List Answer) :
    someRun ((logic, x) :: xs.map (.or, ·)) = (x :: xs).anyM id := by
  rw [someRun_cons]
  induction xs generalizing x with
  | nil => exact ((anyM_cons id x []).trans (eitherHolds_false x)).symm
  | cons y ys ih => exact (congrArg (eitherHolds x) (ih y)).trans (anyM_cons id x _).symm

theorem someRun_conditions (logic : Connective) (x : Answer) (xs : List Answer) :
    someRun ((logic, x) :: xs.map (.and, ·)) = (x :: xs).allM id := by
  rw [someRun_cons, allM_cons]
  induction xs generalizing x with
  | nil => exact (bothHold_true x).symm
  | cons y ys ih =>
      rw [allM_cons, ← bothHold_assoc]
      exact ih (bothHold x y)

/-! ## §5. Containers with another connective. -/

/-- The container, joined to what is in front of it by another connective. -/
def Container.joinedBy (logic : Connective) (c : Container) : Container := { c with logic }

namespace Container

/-- A container says what it means, and how it is joined apart from that. -/
theorem meaning_joinedBy (logic : Connective) (c : Container) (r : Record) :
    (c.joinedBy logic).meaning r = c.meaning r := by
  obtain ⟨old, single, range, group⟩ := c
  cases single <;> cases range <;> cases group <;> rfl

theorem operands_joinedBy (logic : Connective) (c : Container) :
    (c.joinedBy logic).operands = c.operands := by
  obtain ⟨old, single, range, group⟩ := c
  cases single <;> cases range <;> cases group <;> rfl

theorem WellFormed.joinedBy {c : Container} (h : c.WellFormed) (logic : Connective) :
    (c.joinedBy logic).WellFormed := by
  cases h with
  | single _ c hfield hcollection => exact .single logic c hfield hcollection
  | range _ c hfield hcollection => exact .range logic c hfield hcollection
  | group _ containers hne h => exact .group logic containers hne h

end Container

end RecordSearch
