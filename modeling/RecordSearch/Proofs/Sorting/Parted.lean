/-
  RecordSearch.Proofs.Sorting.Parted
  ──────────────────────────────────
  **Lists are sorted part by part.**

  A list is split by a test that an element passes if one behind it does.  The elements that pass
  are then sorted by themselves, and so are the others.  The pivot gives two such tests: whether an
  element comes before it, and whether it does not come behind it.  By the second one nothing is
  left to sort among the elements that pass, if none comes before the pivot:

      stableSort_partition   — the stable sorts of both parts are that of the list
      pivotAt_lt             — the pivot is one of the elements
      sorts_sortParted       — sorting by partition
-/
import Mathlib.Data.List.Basic
import RecordSearch.Proofs.Sorting.Short

namespace RecordSearch

variable {β : Type} {order : β → β → Ordering} {xs ys : List β}

/-! ## §1. Parts. -/

/-- All that ties with an element passes, so no ties are lost. -/
theorem filter_ties_of_pass {p : β → Bool} {a : β}
    (hp : ∀ b ∈ xs, order a b = .eq → p b = true) :
    (xs.filter p).filter (order a · = .eq) = xs.filter (order a · = .eq) := by
  rw [List.filter_filter]
  refine List.filter_congr fun b hb => ?_
  by_cases htie : order a b = .eq
  · simp [htie, hp b hb htie]
  · simp [htie]

/-- Nothing that ties with an element passes. -/
theorem filter_ties_of_fail {p : β → Bool} {a : β}
    (hp : ∀ b ∈ xs, order a b = .eq → p b = false) :
    (xs.filter p).filter (order a · = .eq) = [] := by
  rw [List.filter_filter, List.filter_eq_nil_iff]
  intro b hb
  by_cases htie : order a b = .eq
  · simp [hp b hb htie]
  · simp [htie]

/-- **The elements that pass are sorted by themselves, and so are the others**, if whatever is not
behind an element that passes does so too. -/
theorem stableSort_partition {p : β → Bool} (h : Consistent order xs)
    (hp : ∀ a ∈ xs, ∀ b ∈ xs, order a b ≠ .gt → p b = true → p a = true) :
    stableSort order xs =
      stableSort order (xs.filter p) ++ stableSort order (xs.filter (!p ·)) := by
  have hin := isStableSort_stableSort (h.filter p)
  have hout := isStableSort_stableSort (h.filter (!p ·))
  refine (isStableSort_stableSort h).unique h ⟨?_, ?_, fun a ha => ?_⟩
  · exact (hin.perm.append hout.perm).trans (List.filter_append_perm p xs)
  · refine List.pairwise_append.mpr ⟨hin.sorted, hout.sorted, fun a ha b hb hab => ?_⟩
    obtain ⟨ha, hpa⟩ := List.mem_filter.mp (hin.perm.mem_iff.mp ha)
    obtain ⟨hb, hpb⟩ := List.mem_filter.mp (hout.perm.mem_iff.mp hb)
    have hba : order b a ≠ .gt := (h.swap_ne_gt_iff ha hb).mpr (by rw [hab]; decide)
    rw [hp b hb a ha hba hpa] at hpb
    cases hpb
  · rw [List.filter_append, hin.filter_ties h ha fun b => List.mem_of_mem_filter,
      hout.filter_ties h ha fun b => List.mem_of_mem_filter]
    -- What ties with an element passes if the element does.
    have hsame : ∀ b ∈ xs, order a b = .eq → p b = p a := by
      intro b hb htie
      have hba : order b a ≠ .gt := (h.swap_ne_gt_iff ha hb).mpr (by rw [htie]; decide)
      exact Bool.eq_iff_iff.mpr ⟨hp a ha b hb (by rw [htie]; decide), hp b hb a ha hba⟩
    cases hpa : p a with
    | true =>
        rw [filter_ties_of_pass fun b hb htie => (hsame b hb htie).trans hpa,
          filter_ties_of_fail fun b hb htie => by simp [hsame b hb htie, hpa], List.append_nil]
    | false =>
        rw [filter_ties_of_fail fun b hb htie => (hsame b hb htie).trans hpa,
          filter_ties_of_pass fun b hb htie => by simp [hsame b hb htie, hpa], List.nil_append]

/-! ## §2. The pivot. -/

theorem medianOf_mem (before : Nat → Nat → Bool) (a b c : Nat) :
    medianOf before a b c ∈ [a, b, c] := by
  unfold medianOf
  split
  · split <;> simp
  · simp

/-- A median of medians stands behind one of the places, among as many elements as it is the front
of. -/
theorem exists_medianNear (before : Nat → Nat → Bool) (a b c count : Nat) : ∃ place ∈ [a, b, c],
    place ≤ medianNear before a b c count ∧
      medianNear before a b c count < place + max 1 count := by
  induction count using Nat.strongRecOn generalizing a b c with
  | _ count ih =>
      rw [medianNear]
      split
      case isFalse => exact ⟨_, medianOf_mem before a b c, Nat.le_refl _, by omega⟩
      case isTrue hcount =>
        have hnear (place : Nat) := ih (count / 8) (by omega) place (place + 4 * (count / 8))
          (place + 7 * (count / 8))
        have hbound (place : Nat) : place ≤ medianNear before place (place + 4 * (count / 8))
            (place + 7 * (count / 8)) (count / 8) ∧ medianNear before place
              (place + 4 * (count / 8)) (place + 7 * (count / 8)) (count / 8) <
                place + max 1 count := by
          obtain ⟨near, hmem, hle, hlt⟩ := hnear place
          simp only [List.mem_cons, List.not_mem_nil, or_false] at hmem
          omega
        have hmem := medianOf_mem before
          (medianNear before a (a + 4 * (count / 8)) (a + 7 * (count / 8)) (count / 8))
          (medianNear before b (b + 4 * (count / 8)) (b + 7 * (count / 8)) (count / 8))
          (medianNear before c (c + 4 * (count / 8)) (c + 7 * (count / 8)) (count / 8))
        simp only [List.mem_cons, List.not_mem_nil, or_false] at hmem
        rcases hmem with hmem | hmem | hmem <;> rw [hmem]
        · exact ⟨a, by simp, hbound a⟩
        · exact ⟨b, by simp, hbound b⟩
        · exact ⟨c, by simp, hbound c⟩

/-- **The pivot is one of the elements.** -/
theorem pivotAt_lt (order : β → β → Ordering) (h : shortLength < xs.length) :
    pivotAt order xs < xs.length := by
  obtain ⟨place, hplace, -, hlt⟩ := exists_medianNear (beforeAt order xs) 0
    (4 * (xs.length / 8)) (7 * (xs.length / 8)) (xs.length / 8)
  simp only [List.mem_cons, List.not_mem_nil, or_false] at hplace
  unfold shortLength at h
  show medianNear _ _ _ _ _ < _
  omega

/-! ## §3. Parts around the pivot. -/

theorem partAround_perm (p : β → Bool) (before : List β) (pivot : β) (after : List β) :
    ((partAround p before pivot after).1 ++ (partAround p before pivot after).2).Perm
      (before ++ pivot :: after) := by
  have hparts := List.filter_append_perm p (before ++ after)
  rw [List.filter_append (p := (!p ·)), ← List.append_assoc] at hparts
  show ((before ++ after).filter p ++ (before.filter (!p ·) ++ pivot :: after.filter (!p ·))).Perm _
  rw [← List.append_assoc]
  exact List.perm_middle.trans ((hparts.cons pivot).trans List.perm_middle.symm)

/-- The parts are those of the list if the pivot does not pass. -/
theorem partAround_eq {p : β → Bool} {before after : List β} {pivot : β}
    (hpivot : p pivot = false) : partAround p before pivot after =
      ((before ++ pivot :: after).filter p, (before ++ pivot :: after).filter (!p ·)) := by
  rw [partAround, List.filter_append, List.filter_append, List.filter_append,
    List.filter_cons_of_neg (by simp [hpivot]), List.filter_cons_of_pos (by simp [hpivot])]

section Consistent

variable {pivot : β} (h : Consistent order xs) (hpivot : pivot ∈ xs)

include h hpivot

/-- What comes before the pivot, and all others. -/
theorem stableSort_eq_smaller_append : stableSort order xs =
    stableSort order (xs.filter fun x => order x pivot = .lt) ++
      stableSort order (xs.filter fun x => !decide (order x pivot = .lt)) := by
  refine stableSort_partition h fun a ha b hb hab hlt => ?_
  rw [decide_eq_true_eq] at hlt ⊢
  exact h.lt_of_ne_gt_of_lt ha hb hpivot hab hlt

/-- Where nothing comes before the pivot, what ties with it, and all that comes behind it. -/
theorem stableSort_eq_tied_append (hfirst : ∀ x ∈ xs, order pivot x ≠ .gt) : stableSort order xs =
    (xs.filter fun x => !decide (order pivot x = .lt)) ++
      stableSort order (xs.filter fun x => order pivot x = .lt) := by
  have hparts := stableSort_partition (p := fun x => !decide (order pivot x = .lt)) h
    fun a ha b hb hab hb' => by
      rw [Bool.not_eq_true', decide_eq_false_iff_not] at hb' ⊢
      exact fun ha' => hb' (h.lt_of_lt_of_ne_gt hpivot ha hb ha' hab)
  simp only [Bool.not_not] at hparts
  rw [hparts]
  congr 1
  -- What ties with the pivot ties with each other, so it is sorted as it stands.
  have htied : ∀ x ∈ xs.filter fun x => !decide (order pivot x = .lt),
      x ∈ xs ∧ order pivot x = .eq := by
    intro x hx
    obtain ⟨hx, hlt⟩ := List.mem_filter.mp hx
    rw [Bool.not_eq_true', decide_eq_false_iff_not] at hlt
    refine ⟨hx, ?_⟩
    cases hcase : order pivot x with
    | eq => rfl
    | lt => exact absurd hcase hlt
    | gt => exact absurd hcase (hfirst x hx)
  have hsorted : (xs.filter fun x => !decide (order pivot x = .lt)).Pairwise
      fun a b => order a b ≠ .gt := by
    refine List.pairwise_of_forall_mem_list fun a ha b hb => ?_
    rw [← h.eq_of_tie hpivot (htied a ha).1 (htied b hb).1 (htied a ha).2, (htied b hb).2]
    decide
  have hsub : Consistent order (xs.filter fun x => !decide (order pivot x = .lt)) :=
    h.subset fun x hx => (htied x hx).1
  exact (isStableSort_stableSort hsub).unique hsub (isStableSort_self hsorted)

end Consistent

/-! ## §4. Sorting by partition. -/

/-- What says that nothing comes before the pivot: it ties with something in front of all elements,
or nothing does come before it. -/
theorem ne_gt_of_first {behind : Option β} {pivot : β}
    (h : Consistent order (behind.toList ++ xs)) (hpivot : pivot ∈ xs)
    (hbehind : ∀ y ∈ behind, ∀ x ∈ xs, order y x ≠ .gt)
    (hfirst : (behind.any fun y => order y pivot ≠ .lt) ∨
      xs.filter (fun x => order x pivot = .lt) = []) :
    ∀ x ∈ xs, order pivot x ≠ .gt := by
  intro x hx
  rcases hfirst with hany | hnone
  · obtain ⟨y, rfl, hlt⟩ := (Option.any_eq_true _ _).mp hany
    have hy := hbehind y rfl
    have htie : order y pivot = .eq := by
      cases hcase : order y pivot with
      | eq => rfl
      | lt => simp [hcase] at hlt
      | gt => exact absurd hcase (hy pivot hpivot)
    rw [← h.eq_of_tie (by simp) (by simp [hpivot]) (by simp [hx]) htie]
    exact hy x hx
  · have hlt := List.filter_eq_nil_iff.mp hnone x hx
    rw [decide_eq_true_eq] at hlt
    exact (h.swap_ne_gt_iff (by simp [hx]) (by simp [hpivot])).mpr hlt

/-- What sorting elements has to give that are known to be behind an element, if one is named. -/
structure SortsBehind (order : β → β → Ordering) (behind : Option β) (xs : List β)
    (result : Option (List β)) : Prop where
  perm : ∀ ys, result = some ys → ys.Perm xs
  sorts : Consistent order (behind.toList ++ xs) → (∀ y ∈ behind, ∀ x ∈ xs, order y x ≠ .gt) →
    result = some (stableSort order xs)

/-- What sorts a list does so wherever it stands. -/
theorem Sorts.sortsBehind {result : Option (List β)} (hsorts : Sorts order xs result)
    (behind : Option β) : SortsBehind order behind xs result where
  perm := hsorts.perm
  sorts h _ := hsorts.sorts (h.subset (by simp +contextual))

section Pivot

variable {before after : List β} {pivot : β} {behind : Option β}

/-- Nothing comes before the pivot: what ties with it is put aside. -/
theorem sortsBehind_tied {result : Option (List β)}
    (hresult : SortsBehind order none
      (partAround (fun x => order pivot x = .lt) before pivot after).1 result)
    (hfirst : (behind.any fun y => order y pivot ≠ .lt) ||
      (partAround (fun x => order x pivot = .lt) before pivot after).1.isEmpty) :
    SortsBehind order behind (before ++ pivot :: after) (result.map
      ((partAround (fun x => order pivot x = .lt) before pivot after).2 ++ ·)) := by
  constructor
  · intro ys hys
    obtain ⟨zs, hzs, rfl⟩ := Option.map_eq_some_iff.mp hys
    exact (((hresult.perm zs hzs).append_left _).trans List.perm_append_comm).trans
      (partAround_perm _ before pivot after)
  · intro h hbehind
    have hmem : pivot ∈ before ++ pivot :: after := by simp
    have hsub := h.right
    rw [partAround_eq (by simp [hsub.self hmem])] at hresult hfirst ⊢
    have hnone := ne_gt_of_first h hmem hbehind (by simpa using hfirst)
    rw [hresult.sorts (hsub.subset fun x => List.mem_of_mem_filter) (by simp)]
    exact congrArg some (stableSort_eq_tied_append hsub hmem hnone).symm

/-- What comes before the pivot is sorted, and so are the others, all of which are behind it. -/
theorem sortsBehind_parts {smaller others : Option (List β)}
    (hsmaller : SortsBehind order behind
      (partAround (fun x => order x pivot = .lt) before pivot after).1 smaller)
    (hothers : SortsBehind order (some pivot)
      (partAround (fun x => order x pivot = .lt) before pivot after).2 others) :
    SortsBehind order behind (before ++ pivot :: after) (do
      let others ← others
      let smaller ← smaller
      return smaller ++ others) := by
  constructor
  · intro ys hys
    obtain ⟨zs, hzs, hys⟩ := Option.bind_eq_some_iff.mp hys
    obtain ⟨ws, hws, hys⟩ := Option.bind_eq_some_iff.mp hys
    obtain rfl := Option.some.inj hys
    exact ((hsmaller.perm ws hws).append (hothers.perm zs hzs)).trans
      (partAround_perm _ before pivot after)
  · intro h hbehind
    have hmem : pivot ∈ before ++ pivot :: after := by simp
    have hsub := h.right
    rw [partAround_eq (by simp [hsub.self hmem])] at hothers hsmaller
    have hpivot : ∀ x ∈ (before ++ pivot :: after).filter
        (fun x => !decide (order x pivot = .lt)), order pivot x ≠ .gt := by
      intro x hx
      obtain ⟨hx, hlt⟩ := List.mem_filter.mp hx
      exact (hsub.swap_ne_gt_iff hx hmem).mpr (by simpa using hlt)
    have hpivots : ∀ x ∈ (some pivot).toList ++ (before ++ pivot :: after).filter
        (fun x => !decide (order x pivot = .lt)), x ∈ before ++ pivot :: after := by
      intro x hx
      rcases List.mem_append.mp hx with hx | hx
      · rwa [List.mem_singleton.mp hx]
      · exact List.mem_of_mem_filter hx
    rw [hothers.sorts (hsub.subset hpivots) (by simpa using hpivot),
      hsmaller.sorts (h.subset fun x hx => ?_) fun y hy x hx =>
        hbehind y hy x (List.mem_of_mem_filter hx)]
    · exact congrArg some (stableSort_eq_smaller_append hsub hmem).symm
    · exact (List.mem_append.mp hx).elim (List.mem_append_left _)
        fun hx => List.mem_append_right _ (List.mem_of_mem_filter hx)

end Pivot

/-- **A list is sorted by partition**, or given up.  The induction is on how often it is split. -/
theorem sortsBehind_sortParted {otherwise : List β → Option (List β)}
    (hotherwise : ∀ xs, Sorts order xs (otherwise xs)) (times : Nat) (behind : Option β)
    (xs : List β) : SortsBehind order behind xs (sortParted order otherwise times behind xs) := by
  induction times generalizing behind xs with
  | zero =>
      rw [sortParted]
      split
      · exact (sorts_sortShort order xs).sortsBehind behind
      · exact (hotherwise xs).sortsBehind behind
  | succ times ih =>
      rw [sortParted]
      split
      case isTrue => exact (sorts_sortShort order xs).sortsBehind behind
      case isFalse hlength =>
        have hplace := pivotAt_lt order (Nat.lt_of_not_le hlength)
        have hwhole := List.take_append_drop (pivotAt order xs) xs
        dsimp only
        generalize xs.take (pivotAt order xs) = before at hwhole ⊢
        split
        next hnil =>
          rw [List.drop_eq_nil_iff] at hnil
          exact absurd hnil (Nat.not_le_of_lt hplace)
        next pivot after hdrop =>
          rw [hdrop] at hwhole
          subst hwhole
          split
          case isTrue hfirst => exact sortsBehind_tied (ih none _) hfirst
          case isFalse => exact sortsBehind_parts (ih behind _) (ih (some pivot) _)

/-- **Sorting by partition sorts**, if the other way does. -/
theorem sorts_sortParted {otherwise : List β → Option (List β)}
    (hotherwise : ∀ xs, Sorts order xs (otherwise xs)) (times : Nat) (xs : List β) :
    Sorts order xs (sortParted order otherwise times none xs) where
  perm := (sortsBehind_sortParted hotherwise times none xs).perm
  sorts h := (sortsBehind_sortParted hotherwise times none xs).sorts h (by simp)

end RecordSearch
