/-
  RecordSearch.Proofs.Sorting.Short
  ─────────────────────────────────
  **Short pieces are sorted, or given up.**

  A sort is judged by two things (`Sorts`): what it returns holds the same elements, whatever the
  order; and where the order is one, it returns the stable sort.  So it gives up only where the
  order is none.

  Two halves are merged from both ends at once.  What is taken from the fronts ends at a cut
  through both halves (`IsCut`): nothing behind the cut comes before anything in front of it.  So
  does what is taken from the ends, and of two cuts one is in front of the other.  Hence where the
  order is one no element is taken from both ends:

      exists_takes           — what is taken from the fronts
      IsCut.le_of_le         — cuts do not cross
      sorts_mergeEnds        — two sorted halves, merged from both ends
      sorts_sortShort        — a short piece
-/
import Mathlib.Tactic.SplitIfs
import RecordSearch.Proofs.Sorting.Merged

namespace RecordSearch

variable {β : Type} {order : β → β → Ordering} {xs ys : List β}

/-! ## §1. Sorts. -/

/-- **What a sort makes of a list**: the same elements, if anything; and their stable sort where the
order is one. -/
structure Sorts (order : β → β → Ordering) (xs : List β) (result : Option (List β)) : Prop where
  perm : ∀ ys, result = some ys → ys.Perm xs
  sorts : Consistent order xs → result = some (stableSort order xs)

/-! ## §2. Cuts. -/

/-- **A cut through two sorted lists**, behind so many elements of each: merged, what is in front of
it comes first. -/
structure IsCut (order : β → β → Ordering) (xs ys : List β) (a b : Nat) : Prop where
  left_le : a ≤ xs.length
  right_le : b ≤ ys.length
  left : ∀ x ∈ xs.take a, ∀ y ∈ ys.drop b, order y x ≠ .lt
  right : ∀ y ∈ ys.take b, ∀ x ∈ xs.drop a, order y x = .lt

theorem getElem_mem_take {a i : Nat} (hi : i < xs.length) (h : i < a) : xs[i] ∈ xs.take a :=
  List.mem_take_iff_getElem.mpr ⟨i, by omega, rfl⟩

theorem getElem_mem_drop {a i : Nat} (hi : i < xs.length) (h : a ≤ i) : xs[i] ∈ xs.drop a := by
  refine List.mem_drop_iff_getElem.mpr ⟨i - a, by omega, ?_⟩
  simp only [Nat.add_sub_cancel' h]

/-- **Cuts do not cross**: the one with fewer elements in front of it is in front of the other. -/
theorem IsCut.le_of_le {a b a' b' : Nat} (h : IsCut order xs ys a b) (h' : IsCut order xs ys a' b')
    (hle : a + b ≤ a' + b') : a ≤ a' ∧ b ≤ b' := by
  have hleft := h.left_le
  have hright := h.right_le
  have hleft' := h'.left_le
  have hright' := h'.right_le
  constructor
  · -- Otherwise an element of the first list stands in front of the one cut and behind the other.
    by_contra hlt
    have ha' : a' < xs.length := by omega
    have hb : b < ys.length := by omega
    have hbehind := h.left _ (getElem_mem_take ha' (by omega)) _
      (getElem_mem_drop hb (Nat.le_refl b))
    exact hbehind (h'.right _ (getElem_mem_take hb (by omega)) _
      (getElem_mem_drop ha' (Nat.le_refl a')))
  · by_contra hlt
    have ha : a < xs.length := by omega
    have hb' : b' < ys.length := by omega
    have hbehind := h'.left _ (getElem_mem_take ha (by omega)) _
      (getElem_mem_drop hb' (Nat.le_refl b'))
    exact hbehind (h.right _ (getElem_mem_take hb' (by omega)) _
      (getElem_mem_drop ha (Nat.le_refl a)))

/-- Seen from the ends, a cut is a cut of both lists the other way round. -/
theorem IsCut.reverse {a b : Nat} (h : IsCut (flip order) ys.reverse xs.reverse b a) :
    IsCut order xs ys (xs.length - a) (ys.length - b) where
  left_le := Nat.sub_le _ _
  right_le := Nat.sub_le _ _
  left x hx y hy := by
    refine h.left y ?_ x ?_
    · rw [List.take_reverse]
      exact List.mem_reverse.mpr hy
    · rw [List.drop_reverse]
      exact List.mem_reverse.mpr hx
  right y hy x hx := by
    refine h.right x ?_ y ?_
    · rw [List.take_reverse]
      exact List.mem_reverse.mpr hx
    · rw [List.drop_reverse]
      exact List.mem_reverse.mpr hy

/-! ## §3. Taking from the fronts. -/

/-- What is taken from the fronts of two lists: so many elements of each. -/
structure Takes (order : β → β → Ordering) (n : Nat) (xs ys : List β) (a b : Nat)
    (taken : List β) : Prop where
  left_le : a ≤ xs.length
  right_le : b ≤ ys.length
  count : n ≤ xs.length → n ≤ ys.length → a + b = n
  perm : taken.Perm (xs.take a ++ ys.take b)
  merge : taken ++ mergeFront order (xs.drop a) (ys.drop b) = mergeFront order xs ys
  cut : Consistent order (xs ++ ys) → (xs.Pairwise fun a b => order a b ≠ .gt) →
    (ys.Pairwise fun a b => order a b ≠ .gt) → IsCut order xs ys a b

theorem takes_nothing {n : Nat} (h : n = 0 ∨ xs = [] ∨ ys = []) : Takes order n xs ys 0 0 [] where
  left_le := Nat.zero_le _
  right_le := Nat.zero_le _
  count hxs hys := by
    rcases h with rfl | rfl | rfl
    · rfl
    · exact (Nat.le_zero.mp hxs).symm
    · exact (Nat.le_zero.mp hys).symm
  perm := .refl _
  merge := rfl
  cut _ _ _ := ⟨Nat.zero_le _, Nat.zero_le _, by simp, by simp⟩

theorem Takes.right {n a b : Nat} {x y : β} {taken : List β} (hyx : order y x = .lt)
    (h : Takes order n (x :: xs) ys a b taken) :
    Takes order (n + 1) (x :: xs) (y :: ys) a (b + 1) (y :: taken) where
  left_le := h.left_le
  right_le := Nat.succ_le_succ h.right_le
  count hxs hys := by
    have hcount := h.count (Nat.le_of_succ_le hxs) (Nat.le_of_succ_le_succ hys)
    omega
  perm := (h.perm.cons y).trans List.perm_middle.symm
  merge := by
    rw [mergeFront_cons_cons, if_pos hyx, ← h.merge]
    rfl
  cut hc hxs hys := by
    obtain ⟨hx, -⟩ := List.pairwise_cons.mp hxs
    obtain ⟨-, hys'⟩ := List.pairwise_cons.mp hys
    have hcut := h.cut (hc.subset fun b hb =>
      List.perm_middle.mem_iff.mpr (List.mem_cons_of_mem _ hb)) hxs hys'
    refine ⟨hcut.left_le, Nat.succ_le_succ hcut.right_le, hcut.left, fun z hz w hw => ?_⟩
    rcases List.mem_cons.mp hz with rfl | hz
    · -- What comes before the front of the first list comes before all of it.
      rcases List.mem_cons.mp (List.mem_of_mem_drop hw) with rfl | hw
      · exact hyx
      · exact hc.lt_of_lt_of_ne_gt (by simp) (by simp) (by simp [hw]) hyx (hx w hw)
    · exact hcut.right z hz w hw

theorem Takes.left {n a b : Nat} {x y : β} {taken : List β} (hyx : order y x ≠ .lt)
    (h : Takes order n xs (y :: ys) a b taken) :
    Takes order (n + 1) (x :: xs) (y :: ys) (a + 1) b (x :: taken) where
  left_le := Nat.succ_le_succ h.left_le
  right_le := h.right_le
  count hxs hys := by
    have hcount := h.count (Nat.le_of_succ_le_succ hxs) (Nat.le_of_succ_le hys)
    omega
  perm := h.perm.cons x
  merge := by
    rw [mergeFront_cons_cons, if_neg hyx, ← h.merge]
    rfl
  cut hc hxs hys := by
    obtain ⟨-, hxs'⟩ := List.pairwise_cons.mp hxs
    obtain ⟨hy, -⟩ := List.pairwise_cons.mp hys
    have hcut := h.cut (hc.subset fun b hb => List.mem_cons_of_mem _ hb) hxs' hys
    refine ⟨Nat.succ_le_succ hcut.left_le, hcut.right_le, fun w hw z hz => ?_, hcut.right⟩
    rcases List.mem_cons.mp hw with rfl | hw
    · rcases List.mem_cons.mp (List.mem_of_mem_drop hz) with rfl | hz
      · exact hyx
      · -- What comes before the front of the first list would let that of the second do so.
        intro hzw
        exact hyx (hc.lt_of_ne_gt_of_lt (by simp) (by simp [hz]) (by simp) (hy z hz) hzw)
    · exact hcut.left w hw z hz

/-- **What is taken from the fronts.** -/
theorem exists_takes (order : β → β → Ordering) (n : Nat) (xs ys : List β) : ∃ a b taken,
    takeFront order n xs ys = (taken, xs.drop a, ys.drop b) ∧ Takes order n xs ys a b taken := by
  induction n generalizing xs ys with
  | zero => exact ⟨0, 0, [], by simp [takeFront], takes_nothing (.inl rfl)⟩
  | succ n ih =>
      cases xs with
      | nil => exact ⟨0, 0, [], by simp [takeFront], takes_nothing (.inr (.inl rfl))⟩
      | cons x xs =>
          cases ys with
          | nil => exact ⟨0, 0, [], by simp [takeFront], takes_nothing (.inr (.inr rfl))⟩
          | cons y ys =>
              rw [takeFront]
              by_cases hyx : order y x = .lt
              · obtain ⟨a, b, taken, htaken, h⟩ := ih (x :: xs) ys
                rw [if_pos hyx, htaken]
                exact ⟨a, b + 1, y :: taken, rfl, h.right hyx⟩
              · obtain ⟨a, b, taken, htaken, h⟩ := ih xs (y :: ys)
                rw [if_neg hyx, htaken]
                exact ⟨a + 1, b, x :: taken, rfl, h.left hyx⟩

/-! ## §4. Both ends. -/

/-- What lies between the elements taken from the front and those taken from the end. -/
theorem take_append_between (xs : List β) {a k c : Nat} (h : a + k + c = xs.length) :
    xs.take a ++ (xs.drop a).take k ++ (xs.reverse.take c).reverse = xs := by
  have hlast : xs.reverse.take c = (xs.drop (a + k)).reverse := by
    rw [List.take_reverse]
    congr 2
    omega
  rw [hlast, List.reverse_reverse, ← List.take_add, List.take_append_drop]

theorem mergeEnds_perm (order : β → β → Ordering) {zs : List β}
    (h : mergeEnds order xs ys = some zs) : zs.Perm (xs ++ ys) := by
  obtain ⟨a, b, front, hfront, htakes⟩ := exists_takes order ((xs.length + ys.length) / 2) xs ys
  obtain ⟨b', a', back, hback, htakes'⟩ :=
    exists_takes (flip order) ((xs.length + ys.length) / 2) ys.reverse xs.reverse
  simp only [mergeEnds, hfront, hback, List.length_drop, List.length_reverse] at h
  split at h
  case isFalse => cases h
  case isTrue hle =>
    obtain rfl := Option.some.inj h
    have hxs := take_append_between xs (a := a) (c := a')
      (k := xs.length - a + (xs.length - a') - xs.length) (by
        have := htakes.left_le
        have := htakes'.right_le
        rw [List.length_reverse] at this
        omega)
    have hys := take_append_between ys (a := b) (c := b')
      (k := ys.length - b + (ys.length - b') - ys.length) (by
        have := htakes.right_le
        have := htakes'.left_le
        rw [List.length_reverse] at this
        omega)
    classical
    refine List.perm_iff_count.mpr fun z => ?_
    have hz := htakes.perm.count_eq z
    have hz' := htakes'.perm.count_eq z
    have hzx := congrArg (List.count z) hxs
    have hzy := congrArg (List.count z) hys
    simp only [List.count_append, List.count_reverse] at hz hz' hzx hzy ⊢
    omega

/-- Of two lists that end alike, and start alike as far as what stands between, that is the same
where it is at most one element. -/
theorem between_eq {front back between middle rest : List β} {whole : List β}
    (hfront : front ++ rest = whole) (hback : middle ++ back = whole)
    (hmiddle : middle.Perm (front ++ between)) (hlength : between.length ≤ 1) :
    whole = front ++ between ++ back := by
  have hle : front.length ≤ middle.length := by
    rw [hmiddle.length_eq, List.length_append]
    exact Nat.le_add_right _ _
  obtain ⟨between', rfl⟩ : front <+: middle :=
    List.prefix_of_prefix_length_le (hfront ▸ List.prefix_append _ _)
      (hback ▸ List.prefix_append _ _) hle
  have hperm : between'.Perm between := (List.perm_append_left_iff front).mp hmiddle
  have hsame : between' = between := by
    match between, hlength, hperm with
    | [], _, hperm => exact List.perm_nil.mp hperm
    | [z], _, hperm => exact List.perm_singleton.mp hperm
  rw [← hback, hsame]

/-- **Two sorted halves are merged from both ends** where the order is one. -/
theorem mergeEnds_eq (h : Consistent order (xs ++ ys))
    (hxs : xs.Pairwise fun a b => order a b ≠ .gt)
    (hys : ys.Pairwise fun a b => order a b ≠ .gt) (hle : xs.length ≤ ys.length)
    (hhalf : ys.length ≤ xs.length + 1) :
    mergeEnds order xs ys = some (mergeFront order xs ys) := by
  obtain ⟨a, b, front, hfront, htakes⟩ := exists_takes order ((xs.length + ys.length) / 2) xs ys
  obtain ⟨b', a', back, hback, htakes'⟩ :=
    exists_takes (flip order) ((xs.length + ys.length) / 2) ys.reverse xs.reverse
  have hflip : Consistent (flip order) (ys.reverse ++ xs.reverse) :=
    h.flipped.subset fun a ha => by simpa [or_comm] using ha
  have hcut := htakes.cut h hxs hys
  have hcut' := (htakes'.cut hflip (List.pairwise_reverse.mpr hys)
    (List.pairwise_reverse.mpr hxs)).reverse
  have hcount := htakes.count (by omega) (by omega)
  have hcount' := htakes'.count (by rw [List.length_reverse]; omega)
    (by rw [List.length_reverse]; omega)
  have hb' := htakes'.left_le
  have ha' := htakes'.right_le
  rw [List.length_reverse] at hb' ha'
  -- The cut from the front is in front of that from the ends, by at most one element.
  obtain ⟨hleft, hright⟩ := hcut.le_of_le hcut' (by omega)
  have hxsle := htakes.left_le
  have hysle := htakes.right_le
  let between := (xs.drop a).take (xs.length - a + (xs.length - a') - xs.length) ++
    (ys.drop b).take (ys.length - b + (ys.length - b') - ys.length)
  have hends : mergeEnds order xs ys = some (front ++ between ++ back.reverse) := by
    simp only [mergeEnds, hfront, hback, List.length_drop, List.length_reverse]
    rw [if_pos ⟨by omega, by omega⟩, List.append_assoc front]
  -- What is merged behind the elements from the ends is what is in front of their cut.
  let middle := (mergeFront (flip order) (ys.reverse.drop b') (xs.reverse.drop a')).reverse
  have hback' : middle ++ back.reverse = mergeFront order xs ys := by
    rw [mergeFront_eq_mergeBack h hxs hys, mergeBack, ← htakes'.merge, List.reverse_append]
  have hmiddle : middle.Perm (front ++ between) := by
    refine (List.perm_append_right_iff back.reverse).mp ?_
    rw [hback']
    exact (mergeFront_perm order xs ys).trans (mergeEnds_perm order hends).symm
  rw [hends]
  refine congrArg some (between_eq htakes.merge hback' hmiddle ?_).symm
  simp only [between, List.length_append, List.length_take, List.length_drop]
  omega

theorem sorts_mergeEnds {xs' ys' : List β} (hxs : Sorts order xs (some xs'))
    (hys : Sorts order ys (some ys')) (hle : xs.length ≤ ys.length)
    (hhalf : ys.length ≤ xs.length + 1) : Sorts order (xs ++ ys) (mergeEnds order xs' ys') where
  perm zs hzs := (mergeEnds_perm order hzs).trans ((hxs.perm _ rfl).append (hys.perm _ rfl))
  sorts h := by
    have hcx := h.left
    have hcy := h.right
    obtain rfl := Option.some.inj (hxs.sorts hcx)
    obtain rfl := Option.some.inj (hys.sorts hcy)
    have hperm := (stableSort_perm order xs).append (stableSort_perm order ys)
    rw [mergeEnds_eq (h.subset fun a ha => hperm.mem_iff.mp ha)
      (isStableSort_stableSort hcx).sorted (isStableSort_stableSort hcy).sorted
      (by rwa [(stableSort_perm order xs).length_eq, (stableSort_perm order ys).length_eq])
      (by rwa [(stableSort_perm order xs).length_eq, (stableSort_perm order ys).length_eq]),
      mergeFront_stableSort h]

/-! ## §5. Short pieces. -/

theorem stableSort_append (order : β → β → Ordering) (xs ys : List β) :
    stableSort order (xs ++ ys) = (ys.foldl (fun sorted x => insertLast order x sorted)
      (stableSort order xs).reverse).reverse := by
  unfold stableSort
  rw [List.foldl_append, List.reverse_reverse]

theorem foldl_insertLast_perm (order : β → β → Ordering) (xs sorted : List β) :
    (xs.foldl (fun sorted x => insertLast order x sorted) sorted).Perm (sorted ++ xs) := by
  induction xs generalizing sorted with
  | nil => rw [List.foldl_nil, List.append_nil]
  | cons x xs ih =>
      rw [List.foldl_cons]
      exact (ih _).trans (((insertLast_perm order x sorted).append_right xs).trans
        List.perm_middle.symm)

theorem sortPair_perm (order : β → β → Ordering) (a b : β) :
    [(sortPair order a b).1, (sortPair order a b).2].Perm [a, b] := by
  unfold sortPair
  by_cases hba : order b a = .lt
  · rw [if_pos hba]
    exact .swap a b []
  · rw [if_neg hba]

theorem mergePairs_perm (order : β → β → Ordering) (p q : β × β) :
    (mergePairs order p q).Perm [p.1, p.2, q.1, q.2] := by
  classical
  refine List.perm_iff_count.mpr fun z => ?_
  have hpair (x y : β) := (sortPair_perm order x y).count_eq z
  simp only [List.count_cons, List.count_nil] at hpair
  have hpp := hpair p.1 p.2
  have hpq := hpair p.1 q.2
  have hqq := hpair q.1 q.2
  have hqp := hpair p.2 q.1
  unfold mergePairs
  split <;> split <;> simp only [List.count_cons, List.count_nil] <;> omega

theorem sortFour_perm (order : β → β → Ordering) (a b c d : β) :
    (sortFour order a b c d).Perm [a, b, c, d] :=
  (mergePairs_perm order _ _).trans ((sortPair_perm order a b).append (sortPair_perm order c d))

theorem stableSort_pair (order : β → β → Ordering) (a b : β) :
    stableSort order [a, b] = [(sortPair order a b).1, (sortPair order a b).2] := by
  show (if order b a = .lt then a :: insertLast order b [] else [b, a]).reverse = _
  unfold sortPair
  by_cases hba : order b a = .lt
  · rw [if_pos hba, if_pos hba]
    rfl
  · rw [if_neg hba, if_neg hba]
    rfl

/-- Two pairs that are sorted are merged from their fronts. -/
theorem mergePairs_eq {a b c d : β} (h : Consistent order [a, b, c, d]) (hab : order b a ≠ .lt)
    (hcd : order d c ≠ .lt) :
    mergePairs order (a, b) (c, d) = mergeFront order [a, b] [c, d] := by
  have hle {x y : β} (hx : x ∈ [a, b, c, d]) (hy : y ∈ [a, b, c, d]) (hyx : order y x ≠ .lt) :
      order x y ≠ .gt := (h.swap_ne_gt_iff hy hx).mpr hyx
  have ha : a ∈ [a, b, c, d] := by simp
  have hb : b ∈ [a, b, c, d] := by simp
  have hc : c ∈ [a, b, c, d] := by simp
  have hd : d ∈ [a, b, c, d] := by simp
  have hnil (xs : List β) : mergeFront order xs [] = xs := List.merge_right xs
  have hnil' (ys : List β) : mergeFront order [] ys = ys := List.nil_merge ys
  simp only [mergePairs, mergeFront_cons_cons, hnil, hnil']
  by_cases hca : order c a = .lt
  · rw [if_pos hca, if_pos hca]
    by_cases hdb : order d b = .lt
    · rw [if_pos hdb, if_pos hdb, sortPair]
      split <;> rfl
    · -- The last element is not before `b`, so not before `a` either.
      have hda : order d a ≠ .lt :=
        fun hda => hdb (h.lt_of_lt_of_ne_gt hd ha hb hda (hle ha hb hab))
      rw [if_neg hdb, if_neg hdb, if_neg hda, sortPair, if_neg hab]
  · rw [if_neg hca, if_neg hca]
    by_cases hdb : order d b = .lt
    · -- The last element is before `b`, so `c` is.
      have hcb : order c b = .lt := h.lt_of_ne_gt_of_lt hc hd hb (hle hc hd hcd) hdb
      rw [if_pos hdb, if_pos hdb, if_pos hcb, sortPair, if_neg hcd]
    · rw [if_neg hdb, if_neg hdb, sortPair]
      split <;> rfl

theorem sortPair_sorted {a b : β} (h : Consistent order [a, b]) :
    order (sortPair order a b).2 (sortPair order a b).1 ≠ .lt := by
  unfold sortPair
  by_cases hba : order b a = .lt
  · rw [if_pos hba, h.swap b (by simp) a (by simp), hba]
    decide
  · rwa [if_neg hba]

/-- **Four elements are sorted** in two pairs, which are merged. -/
theorem sortFour_eq {a b c d : β} (h : Consistent order [a, b, c, d]) :
    sortFour order a b c d = stableSort order [a, b, c, d] := by
  have hpair : Consistent order ([a, b] ++ [c, d]) := h
  have hmerged := mergeFront_stableSort hpair
  rw [stableSort_pair, stableSort_pair] at hmerged
  have hpairs := (sortPair_perm order a b).append (sortPair_perm order c d)
  have hab := sortPair_sorted hpair.left
  have hcd := sortPair_sorted hpair.right
  exact (mergePairs_eq (h.subset fun z hz => hpairs.mem_iff.mp hz) hab hcd).trans hmerged

theorem sorts_stableSort (order : β → β → Ordering) (xs : List β) :
    Sorts order xs (some (stableSort order xs)) where
  perm ys hys := by
    obtain rfl := Option.some.inj hys
    exact stableSort_perm order xs
  sorts _ := rfl

theorem sorts_sortHalf (order : β → β → Ordering) (fourFirst : Bool) (xs : List β) :
    Sorts order xs (some (sortHalf order fourFirst xs)) := by
  unfold sortHalf
  split
  next a b c d xs =>
    constructor
    · intro ys hys
      obtain rfl := Option.some.inj hys
      have hfour := (List.reverse_perm _).trans (sortFour_perm order a b c d)
      exact (List.reverse_perm _).trans
        ((foldl_insertLast_perm order xs _).trans (hfour.append_right xs))
    · intro h
      rw [sortFour_eq (h.subset (by simp +contextual)), ← stableSort_append]
      rfl
  next => exact sorts_stableSort order xs

/-- **A short piece is sorted, or given up.** -/
theorem sorts_sortShort (order : β → β → Ordering) (xs : List β) :
    Sorts order xs (sortShort order xs) := by
  unfold sortShort
  split
  case isTrue hshort =>
    match xs, hshort with
    | [], _ => exact sorts_stableSort order []
    | [x], _ => exact sorts_stableSort order [x]
  case isFalse =>
    have hhalves := sorts_mergeEnds
      (sorts_sortHalf order (decide (8 ≤ xs.length)) (xs.take (xs.length / 2)))
      (sorts_sortHalf order (decide (8 ≤ xs.length)) (xs.drop (xs.length / 2)))
      (by rw [List.length_take, List.length_drop]; omega)
      (by rw [List.length_take, List.length_drop]; omega)
    rwa [List.take_append_drop] at hhalves

end RecordSearch
