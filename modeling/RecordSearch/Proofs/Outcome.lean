/-
  RecordSearch.Proofs.Outcome
  ───────────────────────────
  **Where an outcome comes from.**

  Compiling, evaluating and searching are done in steps, and the first step that fails is the
  failure of the whole:

      bind_eq_ok_iff, bind_eq_error_iff, toOption_bind
                                — one step after the other
      FirstAtFault passes fault — some element is at fault, and all in front of it pass
      mapM_eq_error_iff         — the same step on each element of a list
      foldlM_eq_error           — steps that hand a state on
      FailsOnly P m             — if `m` fails, then with one of the failures `P`

  `FailsOnly` goes through everything that steps are put together with.
-/

namespace RecordSearch

variable {α β ε : Type}

/-! ## §1. Steps. -/

theorem ok_bind (a : α) (k : α → Except ε β) : (Except.ok a >>= k) = k a := rfl

theorem bind_eq_ok_iff {m : Except ε α} {k : α → Except ε β} {b : β} :
    (m >>= k) = .ok b ↔ ∃ a, m = .ok a ∧ k a = .ok b := by
  cases m with
  | error e => exact iff_of_false nofun (by simp)
  | ok a =>
      show k a = .ok b ↔ _
      simp

/-- The second step is done only where the first one succeeds. -/
theorem bind_eq_error_iff {m : Except ε α} {k : α → Except ε β} {e : ε} :
    (m >>= k) = .error e ↔ m = .error e ∨ ∃ a, m = .ok a ∧ k a = .error e := by
  cases m with
  | error e' =>
      show Except.error e' = .error e ↔ _
      simp
  | ok a =>
      show k a = .error e ↔ _
      simp

/-- Where a result is not looked at, outcomes with the same errors are the same. -/
theorem bind_const_congr {γ : Type} {m : Except ε α} {m' : Except ε γ}
    (h : ∀ e, m = .error e ↔ m' = .error e) (k : Except ε β) :
    (do let _ ← m; k) = (do let _ ← m'; k) := by
  cases m with
  | error e =>
      rw [(h e).mp rfl]
      rfl
  | ok a =>
      cases m' with
      | error e => cases (h e).mpr rfl
      | ok c => rfl

/-- What does not succeed fails. -/
theorem exists_eq_error_iff {m : Except ε α} : (∃ e, m = .error e) ↔ ¬∃ a, m = .ok a := by
  cases m with
  | error e => exact iff_of_true ⟨e, rfl⟩ (by rintro ⟨a, ⟨⟩⟩)
  | ok a => exact iff_of_false (by rintro ⟨e, ⟨⟩⟩) fun h => h ⟨a, rfl⟩

/-- Success is what is left of an outcome when its error is dropped. -/
theorem toOption_eq_some_iff {m : Except ε α} {a : α} : m.toOption = some a ↔ m = .ok a := by
  cases m with
  | error e => exact iff_of_false nofun nofun
  | ok b => exact ⟨fun h => congrArg Except.ok (Option.some.inj h), fun h => by cases h; rfl⟩

theorem toOption_bind (m : Except ε α) (k : α → Except ε β) :
    (m >>= k).toOption = m.toOption.bind fun a => (k a).toOption := by
  cases m <;> rfl

/-! ## §2. The same step on each element. -/

theorem mapM_eq_ok {f : α → Except ε β} {g : α → β} :
    ∀ {l : List α}, (∀ x ∈ l, f x = .ok (g x)) → l.mapM f = .ok (l.map g)
  | [], _ => rfl
  | x :: l, h => by
      rw [List.mapM_cons, h x (by simp), mapM_eq_ok fun y hy => h y (List.mem_cons_of_mem _ hy)]
      rfl

theorem exists_ok_of_mapM {f : α → Except ε β} :
    ∀ {l : List α} {ys : List β}, l.mapM f = .ok ys → ∀ x ∈ l, ∃ y, f x = .ok y
  | [], _, _ => fun _ hx => absurd hx (List.not_mem_nil)
  | a :: l, ys, h => by
      rw [List.mapM_cons] at h
      obtain ⟨b, ha, h⟩ := bind_eq_ok_iff.mp h
      obtain ⟨bs, hl, -⟩ := bind_eq_ok_iff.mp h
      exact List.forall_mem_cons.mpr ⟨⟨b, ha⟩, exists_ok_of_mapM hl⟩

/-- Some element is at fault, and all in front of it pass. -/
def FirstAtFault (passes fault : α → Prop) (l : List α) : Prop :=
  ∃ before x after, l = before ++ x :: after ∧ (∀ y ∈ before, passes y) ∧ fault x

section FirstAtFault

variable {passes fault : α → Prop} {x : α} {l : List α}

theorem not_firstAtFault_nil : ¬FirstAtFault passes fault [] := by
  rintro ⟨before, x, after, h, -⟩
  simp at h

theorem firstAtFault_cons_iff :
    FirstAtFault passes fault (x :: l) ↔ fault x ∨ passes x ∧ FirstAtFault passes fault l := by
  constructor
  · rintro ⟨before, y, after, hl, hbefore, hy⟩
    cases before with
    | nil =>
        obtain ⟨rfl, rfl⟩ := List.cons.inj hl
        exact .inl hy
    | cons z before =>
        obtain ⟨rfl, rfl⟩ := List.cons.inj hl
        obtain ⟨hz, hbefore⟩ := List.forall_mem_cons.mp hbefore
        exact .inr ⟨hz, before, y, after, rfl, hbefore, hy⟩
  · rintro (hx | ⟨hx, before, y, after, rfl, hbefore, hy⟩)
    · exact ⟨[], x, l, rfl, by simp, hx⟩
    · exact ⟨x :: before, y, after, rfl, List.forall_mem_cons.mpr ⟨hx, hbefore⟩, hy⟩

end FirstAtFault

/-- **A list fails with its first element that fails.** -/
theorem mapM_eq_error_iff {f : α → Except ε β} {e : ε} {l : List α} :
    l.mapM f = .error e ↔ FirstAtFault (fun x => ∃ b, f x = .ok b) (fun x => f x = .error e) l := by
  induction l with
  | nil =>
      refine iff_of_false ?_ not_firstAtFault_nil
      rintro ⟨⟩
  | cons x l ih =>
      rw [List.mapM_cons, firstAtFault_cons_iff, ← ih, bind_eq_error_iff]
      simp only [bind_eq_error_iff]
      simp [pure, Except.pure]

theorem mapM_eq_error {f : α → Except ε β} {l : List α} (h : ∃ x ∈ l, ∃ e, f x = .error e) :
    ∃ before x after e, l = before ++ x :: after ∧ (∀ y ∈ before, ∃ z, f y = .ok z) ∧
      f x = .error e ∧ l.mapM f = .error e := by
  obtain ⟨x, hx, e, he⟩ := h
  cases hl : l.mapM f with
  | ok ys =>
      obtain ⟨y, hy⟩ := exists_ok_of_mapM hl x hx
      cases he.symm.trans hy
  | error e' =>
      obtain ⟨before, y, after, heq, hbefore, hy⟩ := mapM_eq_error_iff.mp hl
      exact ⟨before, y, after, e', heq, hbefore, hy, rfl⟩

/-! ## §3. Step after step. -/

section

variable {f : β → α → Except ε β} {b b' : β} {l : List α}

/-- **A run fails with the first step that fails.** -/
theorem foldlM_eq_error {e : ε} (h : l.foldlM f b = .error e) :
    ∃ before x after b', l = before ++ x :: after ∧ before.foldlM f b = .ok b' ∧
      f b' x = .error e := by
  induction l generalizing b with
  | nil => cases h
  | cons x l ih =>
      rw [List.foldlM_cons, bind_eq_error_iff] at h
      rcases h with hstep | ⟨b₁, hstep, hrest⟩
      · exact ⟨[], x, l, b, rfl, rfl, hstep⟩
      · obtain ⟨before, y, after, b', rfl, hbefore, hy⟩ := ih hrest
        refine ⟨x :: before, y, after, b', rfl, ?_, hy⟩
        rw [List.foldlM_cons, hstep]
        exact hbefore

theorem foldlM_concat_eq_ok {x : α} (h : (l ++ [x]).foldlM f b = .ok b') :
    ∃ b₁, l.foldlM f b = .ok b₁ ∧ f b₁ x = .ok b' := by
  rw [List.foldlM_append, bind_eq_ok_iff] at h
  obtain ⟨b₁, hl, hx⟩ := h
  rw [List.foldlM_cons, bind_eq_ok_iff] at hx
  obtain ⟨b₂, hx, ⟨⟩⟩ := hx
  exact ⟨b₁, hl, hx⟩

theorem forall_of_foldlM_eq_ok {P : α → Prop} (hP : ∀ {b x b'}, f b x = .ok b' → P x)
    (h : l.foldlM f b = .ok b') : ∀ x ∈ l, P x := by
  induction l generalizing b with
  | nil => simp
  | cons x l ih =>
      rw [List.foldlM_cons, bind_eq_ok_iff] at h
      obtain ⟨b₁, hstep, hrest⟩ := h
      exact List.forall_mem_cons.mpr ⟨hP hstep, ih hrest⟩

end

/-! ## §4. Known failures. -/

/-- If the outcome is a failure, it is one of these. -/
def FailsOnly (P : ε → Prop) (outcome : Except ε α) : Prop := ∀ e, outcome = .error e → P e

namespace FailsOnly

variable {P Q : ε → Prop}

theorem ok (a : α) : FailsOnly P (.ok a : Except ε α) := nofun

theorem error {e : ε} (h : P e) : FailsOnly P (.error e : Except ε α) := by
  rintro _ ⟨⟩
  exact h

theorem mono {outcome : Except ε α} (h : FailsOnly P outcome) (hPQ : ∀ e, P e → Q e) :
    FailsOnly Q outcome := fun e he => hPQ e (h e he)

theorem bind {m : Except ε α} {k : α → Except ε β} (h : FailsOnly P m)
    (hk : ∀ a, FailsOnly P (k a)) : FailsOnly P (m >>= k) := by
  intro e he
  rcases bind_eq_error_iff.mp he with hm | ⟨a, -, ha⟩
  · exact h e hm
  · exact hk a e ha

theorem map {m : Except ε α} (h : FailsOnly P m) (f : α → β) : FailsOnly P (m.map f) :=
  h.bind fun a => .ok (f a)

theorem anyM {test : α → Except ε Bool} {l : List α} (h : ∀ x ∈ l, FailsOnly P (test x)) :
    FailsOnly P (l.anyM test) := by
  induction l with
  | nil => exact .ok false
  | cons x l ih =>
      obtain ⟨hx, hl⟩ := List.forall_mem_cons.mp h
      rw [List.anyM_cons]
      refine hx.bind fun b => ?_
      cases b with
      | true => exact .ok true
      | false => exact ih hl

theorem allM {test : α → Except ε Bool} {l : List α} (h : ∀ x ∈ l, FailsOnly P (test x)) :
    FailsOnly P (l.allM test) := by
  induction l with
  | nil => exact .ok true
  | cons x l ih =>
      obtain ⟨hx, hl⟩ := List.forall_mem_cons.mp h
      rw [List.allM_cons]
      refine hx.bind fun b => ?_
      cases b with
      | true => exact ih hl
      | false => exact .ok false

end FailsOnly

end RecordSearch
