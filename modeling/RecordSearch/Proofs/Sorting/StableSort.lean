/-
  RecordSearch.Proofs.Sorting.StableSort
  ──────────────────────────────────────
  **The sort is stable.**

  Rows are sorted by insertion, each new row moving left past those that it comes before.  Where
  the order is one on the rows at hand (`Consistent`), the outcome is sorted, has the rows of every
  tie in the order in which they came, and is the only list to be so (`IsStableSort.unique`); the
  library's merge sort gives the same list:

      stableSort_perm           — a permutation, whatever the order
      isStableSort_stableSort   — sorted, and ties stay as they were
      stableSort_eq_mergeSort   — the list that the library's merge sort gives
-/
import Mathlib.Data.List.Induction
import RecordSearch.Sorting

namespace RecordSearch

variable {β : Type} {order : β → β → Ordering} {xs ys zs : List β}

/-! ## §1. Orders. -/

/-- **On these elements the order is one**: it does not depend on which of two is named first, and
what is not behind is passed on. -/
structure Consistent (order : β → β → Ordering) (xs : List β) : Prop where
  swap : ∀ a ∈ xs, ∀ b ∈ xs, order b a = (order a b).swap
  trans : ∀ a ∈ xs, ∀ b ∈ xs, ∀ c ∈ xs, order a b ≠ .gt → order b c ≠ .gt → order a c ≠ .gt

/-- Finitely many elements are compared with each other. -/
instance (order : β → β → Ordering) (xs : List β) : Decidable (Consistent order xs) :=
  decidable_of_iff ((∀ a ∈ xs, ∀ b ∈ xs, order b a = (order a b).swap) ∧
      ∀ a ∈ xs, ∀ b ∈ xs, ∀ c ∈ xs, order a b ≠ .gt → order b c ≠ .gt → order a c ≠ .gt)
    ⟨fun ⟨hswap, htrans⟩ => ⟨hswap, htrans⟩, fun h => ⟨h.swap, h.trans⟩⟩

/-- Two outcomes that are each other's reverse and the same. -/
theorem eq_of_eq_swap {o : Ordering} (h : o = o.swap) : o = .eq := by
  cases o with
  | eq => rfl
  | lt | gt => cases h

/-- What is not behind from either side ties. -/
theorem eq_of_ne_gt_of_swap_ne_gt {o : Ordering} (h : o ≠ .gt) (hswap : o.swap ≠ .gt) :
    o = .eq := by
  cases o with
  | eq => rfl
  | gt => exact absurd rfl h
  | lt => exact absurd rfl hswap

namespace Consistent

theorem subset (h : Consistent order xs) (hys : ∀ y ∈ ys, y ∈ xs) : Consistent order ys where
  swap a ha b hb := h.swap a (hys a ha) b (hys b hb)
  trans a ha b hb c hc := h.trans a (hys a ha) b (hys b hb) c (hys c hc)

theorem left (h : Consistent order (xs ++ ys)) : Consistent order xs :=
  h.subset fun _ => List.mem_append_left ys

theorem right (h : Consistent order (xs ++ ys)) : Consistent order ys :=
  h.subset fun _ => List.mem_append_right xs

theorem filter (h : Consistent order xs) (p : β → Bool) : Consistent order (xs.filter p) :=
  h.subset fun _ hx => (List.mem_filter.mp hx).1

theorem self (h : Consistent order xs) {a : β} (ha : a ∈ xs) : order a a = .eq :=
  eq_of_eq_swap (h.swap a ha a ha)

/-- Elements neither of which is behind the other tie. -/
theorem eq_of_ne_gt (h : Consistent order xs) {a b : β} (ha : a ∈ xs) (hb : b ∈ xs)
    (hab : order a b ≠ .gt) (hba : order b a ≠ .gt) : order a b = .eq :=
  eq_of_ne_gt_of_swap_ne_gt hab (by rwa [← h.swap a ha b hb])

/-- An element is not behind another exactly if that is not in front of it. -/
theorem swap_ne_gt_iff (h : Consistent order xs) {a b : β} (ha : a ∈ xs) (hb : b ∈ xs) :
    order b a ≠ .gt ↔ order a b ≠ .lt := by
  rw [h.swap a ha b hb]
  cases order a b <;> simp [Ordering.swap]

/-- What comes before an element comes before all that is not in front of that. -/
theorem lt_of_lt_of_ne_gt (h : Consistent order xs) {a b c : β} (ha : a ∈ xs) (hb : b ∈ xs)
    (hc : c ∈ xs) (hab : order a b = .lt) (hbc : order b c ≠ .gt) : order a c = .lt := by
  have hac : order a c ≠ .gt := h.trans a ha b hb c hc (by rw [hab]; decide) hbc
  cases hcase : order a c with
  | lt => rfl
  | gt => exact absurd hcase hac
  | eq =>
      -- A tie would put the first element behind the second one.
      have hca : order c a ≠ .gt := (h.swap_ne_gt_iff ha hc).mpr (by rw [hcase]; decide)
      exact absurd hab ((h.swap_ne_gt_iff ha hb).mp (h.trans b hb c hc a ha hbc hca))

/-- Elements that tie stand in the same place. -/
theorem eq_of_tie (h : Consistent order xs) {a b c : β} (ha : a ∈ xs) (hb : b ∈ xs) (hc : c ∈ xs)
    (htie : order a b = .eq) : order a c = order b c := by
  have hab : order a b ≠ .gt := by rw [htie]; decide
  have hba : order b a ≠ .gt := (h.swap_ne_gt_iff ha hb).mpr (by rw [htie]; decide)
  -- `a` and `b` are each not behind the other, so they are behind, and before, the same elements.
  have hright : order a c ≠ .gt ↔ order b c ≠ .gt :=
    ⟨h.trans b hb a ha c hc hba, h.trans a ha b hb c hc hab⟩
  have hleft : order a c ≠ .lt ↔ order b c ≠ .lt := by
    rw [← h.swap_ne_gt_iff ha hc, ← h.swap_ne_gt_iff hb hc]
    exact ⟨fun hca => h.trans c hc a ha b hb hca hab, fun hcb => h.trans c hc b hb a ha hcb hba⟩
  cases hac : order a c <;> cases hbc : order b c <;> simp_all

end Consistent

/-- An order on images. -/
theorem consistent_map_iff {γ : Type} {f : γ → β} {xs : List γ} :
    Consistent order (xs.map f) ↔ Consistent (fun a b => order (f a) (f b)) xs := by
  constructor
  · intro h
    have hmem {a : γ} (ha : a ∈ xs) : f a ∈ xs.map f := List.mem_map_of_mem ha
    exact ⟨fun a ha b hb => h.swap _ (hmem ha) _ (hmem hb),
      fun a ha b hb c hc => h.trans _ (hmem ha) _ (hmem hb) _ (hmem hc)⟩
  · intro h
    refine ⟨?_, ?_⟩ <;> simp only [List.forall_mem_map]
    · exact h.swap
    · exact h.trans

/-! ## §2. Stable sorts. -/

/-- **The list is sorted, and ties stay as they were.** -/
structure IsStableSort (order : β → β → Ordering) (xs ys : List β) : Prop where
  perm : ys.Perm xs
  sorted : ys.Pairwise fun a b => order a b ≠ .gt
  stable : ∀ a ∈ xs, ys.filter (order a · = .eq) = xs.filter (order a · = .eq)

/-- Sorted lists with the same ties have the same first element: it ties with itself. -/
theorem eq_of_sorted_of_ties (h : Consistent order xs) :
    ∀ {ys zs : List β}, (∀ y ∈ ys, y ∈ xs) → ys.Perm zs →
      ys.Pairwise (fun a b => order a b ≠ .gt) → zs.Pairwise (fun a b => order a b ≠ .gt) →
      (∀ a ∈ xs, ys.filter (order a · = .eq) = zs.filter (order a · = .eq)) → ys = zs
  | [], zs, _, hperm, _, _, _ => hperm.nil_eq
  | y :: ys, [], _, hperm, _, _, _ => by cases hperm.length_eq
  | y :: ys, z :: zs, hmem, hperm, hys, hzs, hties => by
      have hy : y ∈ xs := hmem y (by simp)
      have hz : z ∈ xs := hmem z (hperm.mem_iff.mpr (by simp))
      -- Each head stands in the other list too, so neither is behind the other: they tie.
      have hyz : order y z ≠ .gt := by
        rcases List.mem_cons.mp (hperm.mem_iff.mpr (List.mem_cons_self (a := z))) with rfl | hmem
        · rw [h.self hz]
          decide
        · exact (List.pairwise_cons.mp hys).1 z hmem
      have hzy : order z y ≠ .gt := by
        rcases List.mem_cons.mp (hperm.mem_iff.mp (List.mem_cons_self (a := y))) with rfl | hmem
        · rw [h.self hy]
          decide
        · exact (List.pairwise_cons.mp hzs).1 y hmem
      have htie : order y z = .eq := h.eq_of_ne_gt hy hz hyz hzy
      -- Among what ties with `y`, the one list has `y` first and the other `z`.
      obtain rfl : y = z := by
        have hheads := hties y hy
        rw [List.filter_cons_of_pos (by simpa using h.self hy),
          List.filter_cons_of_pos (by simpa using htie)] at hheads
        exact (List.cons.inj hheads).1
      refine congrArg (y :: ·) (eq_of_sorted_of_ties h (fun x hx => hmem x (by simp [hx]))
        hperm.cons_inv (List.pairwise_cons.mp hys).2 (List.pairwise_cons.mp hzs).2 ?_)
      intro a ha
      have htails := hties a ha
      by_cases hay : order a y = .eq
      · rw [List.filter_cons_of_pos (by simpa using hay),
          List.filter_cons_of_pos (by simpa using hay)] at htails
        exact (List.cons.inj htails).2
      · rwa [List.filter_cons_of_neg (by simpa using hay),
          List.filter_cons_of_neg (by simpa using hay)] at htails

/-- **There is one stable sort.** -/
theorem IsStableSort.unique (h : Consistent order xs) (hys : IsStableSort order xs ys)
    (hzs : IsStableSort order xs zs) : ys = zs :=
  eq_of_sorted_of_ties h (fun _ hy => hys.perm.mem_iff.mp hy) (hys.perm.trans hzs.perm.symm)
    hys.sorted hzs.sorted fun a ha => (hys.stable a ha).trans (hzs.stable a ha).symm

/-- Whatever is asked for its ties, in the list or not: they are as they were. -/
theorem IsStableSort.filter_ties {a : β} (h : Consistent order zs) (ha : a ∈ zs)
    (hxs : ∀ x ∈ xs, x ∈ zs) (hys : IsStableSort order xs ys) :
    ys.filter (order a · = .eq) = xs.filter (order a · = .eq) := by
  by_cases htie : ∃ x ∈ xs, order a x = .eq
  · -- Then they are the ties of an element of the list.
    obtain ⟨x, hx, hax⟩ := htie
    have hsame : ∀ b ∈ xs, decide (order a b = .eq) = decide (order x b = .eq) := by
      intro b hb
      rw [h.eq_of_tie ha (hxs x hx) (hxs b hb) hax]
    rw [List.filter_congr hsame,
      List.filter_congr fun b hb => hsame b (hys.perm.mem_iff.mp hb)]
    exact hys.stable x hx
  · have hnone : ∀ b ∈ xs, ¬decide (order a b = .eq) = true := by
      intro b hb htrue
      exact htie ⟨b, hb, of_decide_eq_true htrue⟩
    rw [List.filter_eq_nil_iff.mpr hnone,
      List.filter_eq_nil_iff.mpr fun b hb => hnone b (hys.perm.mem_iff.mp hb)]

/-- A list that is sorted is its own stable sort. -/
theorem isStableSort_self (hsorted : xs.Pairwise fun a b => order a b ≠ .gt) :
    IsStableSort order xs xs where
  perm := .refl _
  sorted := hsorted
  stable _ _ := rfl

/-- The order the other way round. -/
theorem Consistent.flipped (h : Consistent order xs) : Consistent (flip order) xs where
  swap a ha b hb := h.swap b hb a ha
  trans a ha b hb c hc hab hbc := h.trans c hc b hb a ha hbc hab

/-- What is not behind an element comes before all that this comes before. -/
theorem Consistent.lt_of_ne_gt_of_lt (h : Consistent order xs) {a b c : β} (ha : a ∈ xs)
    (hb : b ∈ xs) (hc : c ∈ xs) (hab : order a b ≠ .gt) (hbc : order b c = .lt) :
    order a c = .lt :=
  h.flipped.lt_of_lt_of_ne_gt hc hb ha hbc hab

/-- Both lists the other way round are sorted by the order the other way round. -/
theorem IsStableSort.reverse (h : Consistent order xs) (hys : IsStableSort order xs ys) :
    IsStableSort (flip order) xs.reverse ys.reverse where
  perm := (List.reverse_perm ys).trans (hys.perm.trans (List.reverse_perm xs).symm)
  sorted := List.pairwise_reverse.mpr hys.sorted
  stable a ha := by
    have ha : a ∈ xs := List.mem_reverse.mp ha
    have hflip : ∀ b ∈ xs, decide (flip order a b = .eq) = decide (order a b = .eq) := by
      intro b hb
      have hswap : order b a = (order a b).swap := h.swap a ha b hb
      show decide (order b a = .eq) = _
      rw [hswap]
      cases order a b <;> rfl
    rw [List.filter_reverse, List.filter_reverse, List.filter_congr hflip,
      List.filter_congr fun b hb => hflip b (hys.perm.mem_iff.mp hb), hys.stable a ha]

/-! ## §3. Insertion. -/

theorem insertLast_perm (order : β → β → Ordering) (x : β) (ys : List β) :
    (insertLast order x ys).Perm (x :: ys) := by
  induction ys with
  | nil => exact .refl _
  | cons y ys ih =>
      unfold insertLast
      by_cases hxy : order x y = .lt
      · rw [if_pos hxy]
        exact (ih.cons y).trans (.swap x y ys)
      · rw [if_neg hxy]

/-- The list is sorted from its end, and stays so. -/
theorem insertLast_pairwise {x : β} (h : Consistent order (x :: ys))
    (hys : ys.Pairwise fun a b => order b a ≠ .gt) :
    (insertLast order x ys).Pairwise fun a b => order b a ≠ .gt := by
  induction ys with
  | nil => exact List.pairwise_singleton _ _
  | cons y ys ih =>
      obtain ⟨hy, hrest⟩ := List.pairwise_cons.mp hys
      unfold insertLast
      by_cases hxy : order x y = .lt
      · rw [if_pos hxy]
        refine List.pairwise_cons.mpr ⟨fun z hz => ?_, ih (h.subset (by simp +contextual)) hrest⟩
        rcases List.mem_cons.mp ((insertLast_perm order x ys).mem_iff.mp hz) with rfl | hz
        · rw [hxy]
          decide
        · exact hy z hz
      · rw [if_neg hxy]
        -- What is behind `y` in the list is not behind it in the order, so not behind `x` either.
        have hyx : order y x ≠ .gt := (h.swap_ne_gt_iff (by simp) (by simp)).mpr hxy
        refine List.pairwise_cons.mpr ⟨fun z hz => ?_, hys⟩
        rcases List.mem_cons.mp hz with rfl | hz
        · exact hyx
        · exact h.trans z (by simp [hz]) y (by simp) x (by simp) (hy z hz) hyx

/-- An element that is moved past another does not tie with it. -/
theorem filter_insertLast {x a : β} (h : Consistent order (a :: x :: ys)) :
    (insertLast order x ys).filter (order a · = .eq) =
      (x :: ys).filter (order a · = .eq) := by
  induction ys with
  | nil => rfl
  | cons y ys ih =>
      have hrest := ih (h.subset (by simp +contextual))
      unfold insertLast
      by_cases hxy : order x y = .lt
      · rw [if_pos hxy, List.filter_cons, hrest]
        by_cases hax : order a x = .eq
        · -- `x` moves past `y`, which does not tie with `x`, and so not with `a`.
          have hay : order a y = .lt := by
            rw [h.eq_of_tie (by simp) (by simp) (by simp) hax, hxy]
          simp [hax, hay]
        · simp [List.filter_cons, hax]
      · rw [if_neg hxy]

theorem stableSort_concat (order : β → β → Ordering) (xs : List β) (x : β) :
    stableSort order (xs ++ [x]) = (insertLast order x (stableSort order xs).reverse).reverse := by
  unfold stableSort
  rw [List.foldl_append, List.reverse_reverse]
  rfl

/-- **The sort is a permutation**, whatever the order. -/
theorem stableSort_perm (order : β → β → Ordering) (xs : List β) :
    (stableSort order xs).Perm xs := by
  induction xs using List.reverseRecOn with
  | nil => exact .refl _
  | append_singleton xs x ih =>
      rw [stableSort_concat]
      refine (List.reverse_perm _).trans ((insertLast_perm order x _).trans ?_)
      exact (((List.reverse_perm _).trans ih).cons x).trans (List.perm_append_singleton x xs).symm

/-- **The sort is stable.**  The induction is on the last element, which is inserted last. -/
theorem isStableSort_stableSort (h : Consistent order xs) :
    IsStableSort order xs (stableSort order xs) := by
  refine ⟨stableSort_perm order xs, ?_, ?_⟩
  · induction xs using List.reverseRecOn with
    | nil => exact .nil
    | append_singleton xs x ih =>
        have hsorted := ih (h.subset (by simp +contextual))
        rw [stableSort_concat, List.pairwise_reverse]
        refine insertLast_pairwise (h.subset fun y hy => ?_) (List.pairwise_reverse.mpr hsorted)
        simpa [(stableSort_perm order xs).mem_iff, or_comm] using hy
  · intro a ha
    -- `a` itself need not be in the list, or the induction would not go through.
    have hties : ∀ {xs : List β}, Consistent order (a :: xs) →
        (stableSort order xs).filter (order a · = .eq) = xs.filter (order a · = .eq) := by
      intro xs h
      induction xs using List.reverseRecOn with
      | nil => rfl
      | append_singleton xs x ih =>
          have hrest := ih (h.subset fun y hy => by
            rcases List.mem_cons.mp hy with rfl | hy <;> simp_all)
          have hinsert : Consistent order (a :: x :: (stableSort order xs).reverse) :=
            h.subset fun y hy => by
              simp [(stableSort_perm order xs).mem_iff] at hy ⊢
              tauto
          rw [stableSort_concat, List.filter_reverse, filter_insertLast hinsert,
            ← List.filter_reverse, List.reverse_cons, List.reverse_reverse, List.filter_append,
            hrest, List.filter_append]
    exact hties (h.subset fun y hy => by
      rcases List.mem_cons.mp hy with rfl | hy <;> assumption)

theorem insertLast_map {β γ : Type} (order : β → β → Ordering) (f : γ → β) (x : γ) (xs : List γ) :
    insertLast order (f x) (xs.map f) =
      (insertLast (fun a b => order (f a) (f b)) x xs).map f := by
  induction xs with
  | nil => rfl
  | cons y ys ih =>
      rw [List.map_cons, insertLast, insertLast, ih]
      split <;> rfl

theorem stableSort_map {β γ : Type} (order : β → β → Ordering) (f : γ → β) (xs : List γ) :
    stableSort order (xs.map f) = (stableSort (fun a b => order (f a) (f b)) xs).map f := by
  induction xs using List.reverseRecOn with
  | nil => rfl
  | append_singleton xs x ih =>
      rw [List.map_append, List.map_singleton, stableSort_concat, stableSort_concat, ih,
        ← List.map_reverse, insertLast_map, List.map_reverse]

/-! ## §4. The library's sort. -/

/-- The library's lemmas ask for an order on a whole type: here it is that of the elements. -/
theorem isStableSort_mergeSort (h : Consistent order xs) :
    IsStableSort order xs (xs.mergeSort fun a b => order a b ≠ .gt) := by
  have htrans : ∀ a b c : { x // x ∈ xs }, decide (order a b ≠ .gt) = true →
      decide (order b c ≠ .gt) = true → decide (order a c ≠ .gt) = true := by
    intro a b c hab hbc
    simp only [decide_eq_true_eq] at hab hbc ⊢
    exact h.trans a a.2 b b.2 c c.2 hab hbc
  have htotal : ∀ a b : { x // x ∈ xs },
      (decide (order a b ≠ .gt) || decide (order b a ≠ .gt)) = true := by
    intro a b
    rw [h.swap a a.2 b b.2]
    cases order a b <;> simp [Ordering.swap]
  have hmap : (xs.attach.mergeSort fun a b => order a b ≠ .gt).map (·.1) =
      xs.mergeSort fun a b => order a b ≠ .gt := by
    rw [List.map_mergeSort (s := fun a b => decide (order a b ≠ .gt)) (fun _ _ _ _ => rfl),
      List.attach_map_subtype_val]
  refine ⟨List.mergeSort_perm _ _, ?_, fun a ha => ?_⟩
  · rw [← hmap, List.pairwise_map]
    exact (List.pairwise_mergeSort htrans htotal _).imp fun hab => by simpa using hab
  · -- What ties with `a` is sorted as it stands, so the sort has it in this order.
    have hties : (xs.attach.filter fun b : { x // x ∈ xs } => order a b = .eq).Pairwise
        fun b c : { x // x ∈ xs } => decide (order b c ≠ .gt) = true := by
      refine List.pairwise_of_forall_mem_list fun b hb c hc => ?_
      have hb : order a b = .eq := by simpa using (List.mem_filter.mp hb).2
      have hc : order a c = .eq := by simpa using (List.mem_filter.mp hc).2
      rw [← h.eq_of_tie ha b.2 c.2 hb, hc]
      decide
    have hsublist := (List.sublist_mergeSort htrans htotal hties List.filter_sublist).map (·.1)
    have hfilter : (xs.attach.filter fun b : { x // x ∈ xs } => order a b = .eq).map (·.1) =
        xs.filter (order a · = .eq) := by
      conv => rhs; rw [← List.attach_map_subtype_val xs, List.filter_map]
      rfl
    rw [hmap, hfilter] at hsublist
    have hsame := hsublist.filter (order a · = .eq)
    rw [List.filter_filter] at hsame
    simp only [Bool.and_self] at hsame
    -- A sublist that is as long as the list is the list.
    have hperm := (List.mergeSort_perm xs fun a b => order a b ≠ .gt).filter (order a · = .eq)
    exact (hsame.eq_of_length hperm.length_eq.symm).symm

/-- **The sort gives what the library's merge sort gives.** -/
theorem stableSort_eq_mergeSort (h : Consistent order xs) :
    stableSort order xs = xs.mergeSort fun a b => order a b ≠ .gt :=
  (isStableSort_stableSort h).unique h (isStableSort_mergeSort h)

end RecordSearch
