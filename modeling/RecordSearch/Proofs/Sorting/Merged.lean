/-
  RecordSearch.Proofs.Sorting.Merged
  ──────────────────────────────────
  **Merged lists are sorted as one.**

  Two lists that are sorted, each in itself, are merged from their fronts or from their ends.  Where
  the order is one on both of them, either way gives the stable sort of the two side by side; where
  it is none, either way still gives the elements of both:

      mergeFront_perm, mergeBack_perm     — the same elements, whatever the order
      isStableSort_mergeFront             — from the fronts
      mergeFront_eq_mergeBack             — from the ends it is the same list
      mergeSorted_stableSort              — the stable sorts of two lists, merged
-/
import RecordSearch.Proofs.Sorting.StableSort

namespace RecordSearch

variable {β : Type} {order : β → β → Ordering} {xs ys xs' ys' : List β}

/-! ## §1. The same elements. -/

theorem mergeFront_perm (order : β → β → Ordering) (xs ys : List β) :
    (mergeFront order xs ys).Perm (xs ++ ys) := List.merge_perm_append _

theorem mergeBack_perm (order : β → β → Ordering) (xs ys : List β) :
    (mergeBack order xs ys).Perm (xs ++ ys) := by
  have hreverse : (ys.reverse ++ xs.reverse).Perm (xs ++ ys) := by
    rw [← List.reverse_append]
    exact List.reverse_perm _
  exact (List.reverse_perm _).trans ((mergeFront_perm (flip order) _ _).trans hreverse)

theorem mergeSorted_perm (order : β → β → Ordering) (xs ys : List β) :
    (mergeSorted order xs ys).Perm (xs ++ ys) := by
  unfold mergeSorted
  split
  · exact mergeFront_perm order xs ys
  · exact mergeBack_perm order xs ys

/-! ## §2. From the fronts. -/

theorem mergeFront_cons_cons (order : β → β → Ordering) (x y : β) (xs ys : List β) :
    mergeFront order (x :: xs) (y :: ys) =
      if order y x = .lt then y :: mergeFront order (x :: xs) ys
      else x :: mergeFront order xs (y :: ys) := by
  unfold mergeFront
  rw [List.cons_merge_cons]
  by_cases hyx : order y x = .lt <;> simp [hyx]

/-- What comes before all that stands in front of it, and not behind anything else, may be pulled to
the front. -/
theorem IsStableSort.pull {y : β} {zs : List β} (h : Consistent order (xs ++ y :: ys))
    (hxs : ∀ x ∈ xs, order y x = .lt) (hys : ∀ z ∈ ys, order y z ≠ .gt)
    (hzs : IsStableSort order (xs ++ ys) zs) : IsStableSort order (xs ++ y :: ys) (y :: zs) := by
  have hmem : ∀ b ∈ xs ++ ys, b ∈ xs ++ y :: ys := by
    intro b hb
    exact List.perm_middle.mem_iff.mpr (List.mem_cons_of_mem _ hb)
  have hy : y ∈ xs ++ y :: ys := by simp
  refine ⟨(hzs.perm.cons y).trans List.perm_middle.symm, ?_, fun a ha => ?_⟩
  · refine List.pairwise_cons.mpr ⟨fun z hz => ?_, hzs.sorted⟩
    rcases List.mem_append.mp (hzs.perm.mem_iff.mp hz) with hz | hz
    · rw [hxs z hz]
      decide
    · exact hys z hz
  · have hties := hzs.filter_ties h ha hmem
    rw [List.filter_append] at hties
    rw [List.filter_append]
    by_cases hay : order a y = .eq
    · -- What ties with the element that is pulled ties with none of those in front of it.
      have hnone : xs.filter (order a · = .eq) = [] := by
        refine List.filter_eq_nil_iff.mpr fun x hx => ?_
        rw [h.eq_of_tie ha hy (List.mem_append_left _ hx) hay, hxs x hx]
        decide
      rw [List.filter_cons_of_pos (by simpa using hay),
        List.filter_cons_of_pos (by simpa using hay), hties, hnone]
      rfl
    · rw [List.filter_cons_of_neg (by simpa using hay),
        List.filter_cons_of_neg (by simpa using hay), hties]

/-- **Lists that are sorted are merged to the stable sort of both.**  The induction takes one
element from the front of either list: nothing that is left comes before it. -/
theorem isStableSort_mergeFront (h : Consistent order (xs ++ ys))
    (hxs : xs.Pairwise fun a b => order a b ≠ .gt)
    (hys : ys.Pairwise fun a b => order a b ≠ .gt) :
    IsStableSort order (xs ++ ys) (mergeFront order xs ys) := by
  induction xs generalizing ys with
  | nil =>
      have hnil : mergeFront order [] ys = ys := List.nil_merge ys
      rw [hnil]
      exact isStableSort_self hys
  | cons x xs ihxs =>
      induction ys with
      | nil =>
          have hnil : mergeFront order (x :: xs) [] = x :: xs := List.merge_right (x :: xs)
          rw [hnil, List.append_nil]
          exact isStableSort_self hxs
      | cons y ys ihys =>
          obtain ⟨hx, hxs'⟩ := List.pairwise_cons.mp hxs
          obtain ⟨hy, hys'⟩ := List.pairwise_cons.mp hys
          have hmemx : x ∈ x :: xs ++ y :: ys := by simp
          have hmemy : y ∈ x :: xs ++ y :: ys := by simp
          have hmem : ∀ z ∈ xs, z ∈ x :: xs ++ y :: ys := by simp +contextual
          rw [mergeFront_cons_cons]
          by_cases hyx : order y x = .lt
          · rw [if_pos hyx]
            have hrest := ihys (h.subset fun b hb =>
              List.perm_middle.mem_iff.mpr (List.mem_cons_of_mem _ hb)) hys'
            refine hrest.pull h (fun z hz => ?_) hy
            rcases List.mem_cons.mp hz with rfl | hz
            · exact hyx
            · exact h.lt_of_lt_of_ne_gt hmemy hmemx (hmem z hz) hyx (hx z hz)
          · rw [if_neg hyx]
            have htail : Consistent order (xs ++ y :: ys) :=
              h.subset fun b hb => List.mem_cons_of_mem _ hb
            have hrest := ihxs htail hxs' hys
            have hxy : order x y ≠ .gt := (h.swap_ne_gt_iff hmemy hmemx).mpr hyx
            refine IsStableSort.pull (show Consistent order ([] ++ x :: (xs ++ y :: ys)) from h)
              (fun z hz => absurd hz List.not_mem_nil) (fun z hz => ?_) hrest
            rcases List.mem_append.mp hz with hz | hz
            · exact hx z hz
            · rcases List.mem_cons.mp hz with rfl | hz
              · exact hxy
              · exact h.trans x hmemx y hmemy z (by simp [hz]) hxy (hy z hz)

/-! ## §3. From the ends. -/

/-- **From the ends it is the same list.**  Both lists the other way round are sorted by the order
the other way round, and are merged from their fronts. -/
theorem mergeFront_eq_mergeBack (h : Consistent order (xs ++ ys))
    (hxs : xs.Pairwise fun a b => order a b ≠ .gt)
    (hys : ys.Pairwise fun a b => order a b ≠ .gt) :
    mergeFront order xs ys = mergeBack order xs ys := by
  have hflip : Consistent (flip order) (ys.reverse ++ xs.reverse) :=
    h.flipped.subset fun a ha => by simpa [or_comm] using ha
  have hback := (isStableSort_mergeFront hflip (List.pairwise_reverse.mpr hys)
    (List.pairwise_reverse.mpr hxs)).reverse hflip
  rw [List.reverse_append, List.reverse_reverse, List.reverse_reverse] at hback
  exact (isStableSort_mergeFront h hxs hys).unique h hback

theorem mergeSorted_eq_mergeFront (h : Consistent order (xs ++ ys))
    (hxs : xs.Pairwise fun a b => order a b ≠ .gt)
    (hys : ys.Pairwise fun a b => order a b ≠ .gt) :
    mergeSorted order xs ys = mergeFront order xs ys := by
  unfold mergeSorted
  split
  · rfl
  · exact (mergeFront_eq_mergeBack h hxs hys).symm

/-! ## §4. Sorts of both. -/

/-- Sorts of two lists side by side are a sort of both if they are sorted side by side: nothing is
moved from one to the other. -/
theorem IsStableSort.trans_append (h : Consistent order (xs ++ ys))
    (hxs : IsStableSort order xs xs') (hys : IsStableSort order ys ys') {zs : List β}
    (hzs : IsStableSort order (xs' ++ ys') zs) : IsStableSort order (xs ++ ys) zs := by
  have hperm : (xs' ++ ys').Perm (xs ++ ys) := hxs.perm.append hys.perm
  refine ⟨hzs.perm.trans hperm, hzs.sorted, fun a ha => ?_⟩
  have hleft := hxs.filter_ties h ha fun b => List.mem_append_left _
  have hright := hys.filter_ties h ha fun b => List.mem_append_right _
  rw [hzs.stable a (hperm.mem_iff.mpr ha), List.filter_append, hleft, hright, List.filter_append]

/-- The stable sorts of two lists, merged from their fronts. -/
theorem mergeFront_stableSort (h : Consistent order (xs ++ ys)) :
    mergeFront order (stableSort order xs) (stableSort order ys) =
      stableSort order (xs ++ ys) := by
  have hxs := isStableSort_stableSort h.left
  have hys := isStableSort_stableSort h.right
  have hsorts : Consistent order (stableSort order xs ++ stableSort order ys) :=
    h.subset fun a ha => (hxs.perm.append hys.perm).mem_iff.mp ha
  have hmerged := isStableSort_mergeFront hsorts hxs.sorted hys.sorted
  exact (hxs.trans_append h hys hmerged).unique h (isStableSort_stableSort h)

/-- **The stable sorts of two lists, merged, are the stable sort of both.** -/
theorem mergeSorted_stableSort (h : Consistent order (xs ++ ys)) :
    mergeSorted order (stableSort order xs) (stableSort order ys) =
      stableSort order (xs ++ ys) := by
  have hxs := isStableSort_stableSort h.left
  have hys := isStableSort_stableSort h.right
  have hsorts : Consistent order (stableSort order xs ++ stableSort order ys) :=
    h.subset fun a ha => (hxs.perm.append hys.perm).mem_iff.mp ha
  rw [mergeSorted_eq_mergeFront hsorts hxs.sorted hys.sorted, mergeFront_stableSort h]

end RecordSearch
