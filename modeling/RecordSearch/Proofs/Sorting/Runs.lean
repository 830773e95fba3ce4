/-
  RecordSearch.Proofs.Sorting.Runs
  ────────────────────────────────
  **Runs are merged into the sorted list.**

  A run stands for a segment of the list (`Run.Holds`): it is the segment itself, or what sorting
  the segment gives.  The runs that wait to be merged stand, the last one in front, for all that
  has been read of the list (`Piled`).  Finding a run takes a segment off what has not been read,
  and joining two runs puts their segments together; so in the end one run stands for the list:

      exists_frontRun     — what the list brings sorted is the stable sort of a segment
      gives_joinRuns      — two runs stand, joined, for their segments side by side
      gives_joinBack      — merging back changes nothing of what is stood for
      gives_gatherRuns    — from any runs to the sorted list
      sorts_trySort       — the whole sort

  So the sort gives up only where the order is none; and what it returns holds the same elements
  in any case.
-/
import RecordSearch.Proofs.Sorting.Parted

namespace RecordSearch

variable {β : Type} {order : β → β → Ordering} {xs ys zs : List β}

/-! ## §1. What may give up. -/

/-- **What comes of a computation that may give up**: it does not where it is sure to go through,
and whatever it gives is as wanted. -/
structure Gives {α : Type} (sure : Prop) (wanted : α → Prop) (result : Option α) : Prop where
  wanted : ∀ a, result = some a → wanted a
  isSome : sure → ∃ a, result = some a

section Gives

variable {α γ : Type} {sure : Prop} {P : α → Prop} {Q : γ → Prop}

theorem Gives.some {a : α} (ha : P a) : Gives sure P (some a) where
  wanted b hb := by
    obtain rfl := Option.some.inj hb
    exact ha
  isSome _ := ⟨a, rfl⟩

/-- One computation after another. -/
theorem Gives.bind {result : Option α} {next : α → Option γ} (hresult : Gives sure P result)
    (hnext : ∀ a, P a → Gives sure Q (next a)) : Gives sure Q (result >>= next) where
  wanted b hb := by
    obtain ⟨a, ha, hb⟩ := Option.bind_eq_some_iff.mp hb
    exact (hnext a (hresult.wanted a ha)).wanted b hb
  isSome hsure := by
    obtain ⟨a, ha⟩ := hresult.isSome hsure
    obtain ⟨b, hb⟩ := (hnext a (hresult.wanted a ha)).isSome hsure
    exact ⟨b, Option.bind_eq_some_iff.mpr ⟨a, ha, hb⟩⟩

theorem Gives.imp {sure' : Prop} {P' : α → Prop} {result : Option α} (h : Gives sure P result)
    (hsure : sure' → sure) (hwanted : ∀ a, P a → P' a) : Gives sure' P' result where
  wanted a ha := hwanted a (h.wanted a ha)
  isSome h' := h.isSome (hsure h')

end Gives

/-- What a list is when it is sorted as far as the order allows. -/
structure SortedFrom (order : β → β → Ordering) (xs ys : List β) : Prop where
  perm : ys.Perm xs
  eq : Consistent order xs → ys = stableSort order xs

theorem sorts_iff_gives {result : Option (List β)} : Sorts order xs result ↔
    Gives (Consistent order xs) (SortedFrom order xs) result := by
  constructor
  · intro h
    exact ⟨fun ys hys => ⟨h.perm ys hys, fun hxs => Option.some.inj (hys.symm.trans (h.sorts hxs))⟩,
      fun hxs => ⟨_, h.sorts hxs⟩⟩
  · intro h
    refine ⟨fun ys hys => (h.wanted ys hys).perm, fun hxs => ?_⟩
    obtain ⟨ys, hys⟩ := h.isSome hxs
    rw [hys, (h.wanted ys hys).eq hxs]

/-! ## §2. What a run stands for. -/

/-- **The segment of the list that a run stands for.** -/
structure Run.Holds (order : β → β → Ordering) (xs : List β) (r : Run β) : Prop where
  raw : r.isSorted = false → r.items = xs
  sorted : r.isSorted = true → SortedFrom order xs r.items

theorem Run.Holds.perm {r : Run β} (h : r.Holds order xs) : r.items.Perm xs := by
  cases hsorted : r.isSorted with
  | false => rw [h.raw hsorted]
  | true => exact (h.sorted hsorted).perm

theorem holds_raw (order : β → β → Ordering) (xs : List β) :
    Run.Holds order xs ⟨xs, false⟩ where
  raw _ := rfl
  sorted h := by cases h

theorem holds_sorted (h : SortedFrom order xs ys) : Run.Holds order xs ⟨ys, true⟩ where
  raw h := by cases h
  sorted _ := h

/-- The segments of runs, of which the last one stands first. -/
inductive Piled (order : β → β → Ordering) : List (Run β × Nat) → List β → Prop
  | nil : Piled order [] []
  | cons {stack : List (Run β × Nat)} {r : Run β} {depth : Nat} {xs ys : List β}
      (hstack : Piled order stack xs) (hr : r.Holds order ys) :
      Piled order ((r, depth) :: stack) (xs ++ ys)

/-! ## §3. Finding runs. -/

theorem runFrom_append (goesOn : β → β → Bool) (x : β) (xs : List β) :
    (runFrom goesOn x xs).1 ++ (runFrom goesOn x xs).2 = xs := by
  induction xs generalizing x with
  | nil => rfl
  | cons y ys ih =>
      unfold runFrom
      split
      · exact congrArg (y :: ·) (ih y)
      · rfl

/-- Each goes on behind all that stand in front of it, if what goes on is passed on. -/
theorem runFrom_pairwise (goesOn : β → β → Bool) (x : β) (xs : List β)
    (htrans : ∀ a ∈ x :: (runFrom goesOn x xs).1, ∀ b ∈ x :: (runFrom goesOn x xs).1,
      ∀ c ∈ x :: (runFrom goesOn x xs).1,
        goesOn a b = true → goesOn b c = true → goesOn a c = true) :
    (x :: (runFrom goesOn x xs).1).Pairwise fun a b => goesOn a b = true := by
  induction xs generalizing x with
  | nil => exact List.pairwise_singleton _ _
  | cons y ys ih =>
      unfold runFrom at htrans ⊢
      split
      case isFalse => exact List.pairwise_singleton _ _
      case isTrue hxy =>
        rw [if_pos hxy] at htrans
        have hrest := ih y fun a ha b hb c hc =>
          htrans a (List.mem_cons_of_mem _ ha) b (List.mem_cons_of_mem _ hb) c
            (List.mem_cons_of_mem _ hc)
        refine List.pairwise_cons.mpr ⟨fun z hz => ?_, hrest⟩
        rcases List.mem_cons.mp hz with rfl | hz'
        · exact hxy
        · exact htrans x List.mem_cons_self y (by simp) z (List.mem_cons_of_mem _ hz) hxy
            ((List.pairwise_cons.mp hrest).1 z hz')

/-- What falls strictly has no ties, so turning it round is a stable sort. -/
theorem isStableSort_reverse (h : Consistent order xs)
    (hfalls : xs.Pairwise fun a b => order b a = .lt) : IsStableSort order xs xs.reverse where
  perm := List.reverse_perm xs
  sorted := by
    rw [List.pairwise_reverse]
    exact hfalls.imp fun hba => by simp [hba]
  stable a ha := by
    rw [List.filter_reverse]
    -- Two elements of one tie would tie with each other.
    have hties : (xs.filter (order a · = .eq)).Pairwise fun _ _ => False := by
      refine (hfalls.filter _).imp_of_mem fun {b c} hb hc hcb => ?_
      obtain ⟨hb, htb⟩ := List.mem_filter.mp hb
      obtain ⟨hc, htc⟩ := List.mem_filter.mp hc
      have hcb' : order c b = .eq := by
        rw [← h.eq_of_tie ha hc hb (of_decide_eq_true htc)]
        exact of_decide_eq_true htb
      rw [hcb] at hcb'
      cases hcb'
    match xs.filter (order a · = .eq), hties with
    | [], _ => rfl
    | [b], _ => rfl
    | b :: c :: _, hties => exact absurd ((List.pairwise_cons.mp hties).1 c (by simp)) id

/-- **What the list brings sorted**, upwards or downwards, is the stable sort of a segment. -/
theorem exists_frontRun (order : β → β → Ordering) (xs : List β) :
    ∃ seg, seg ++ (frontRun order xs).2 = xs ∧ SortedFrom order seg (frontRun order xs).1 := by
  match xs with
  | [] => exact ⟨[], rfl, .refl _, fun _ => rfl⟩
  | [x] => exact ⟨[x], rfl, .refl _, fun _ => rfl⟩
  | x :: y :: ys =>
      rw [frontRun]
      by_cases hyx : order y x = .lt
      · rw [if_pos hyx]
        refine ⟨x :: (runFrom (fun a b => order b a = .lt) x (y :: ys)).1,
          congrArg (x :: ·) (runFrom_append _ x (y :: ys)), List.reverse_perm _, fun h => ?_⟩
        have hfalls := runFrom_pairwise (fun a b => order b a = .lt) x (y :: ys)
          fun a ha b hb c hc hab hbc => ?_
        · simp only [decide_eq_true_eq] at hfalls
          exact (isStableSort_reverse h hfalls).unique h (isStableSort_stableSort h)
        · rw [decide_eq_true_eq] at hab hbc ⊢
          exact h.lt_of_lt_of_ne_gt hc hb ha hbc (by simp [hab])
      · rw [if_neg hyx]
        refine ⟨x :: (runFrom (fun a b => order b a ≠ .lt) x (y :: ys)).1,
          congrArg (x :: ·) (runFrom_append _ x (y :: ys)), .refl _, fun h => ?_⟩
        have hle {a b : β} (ha : a ∈ x :: (runFrom (fun a b => order b a ≠ .lt) x (y :: ys)).1)
            (hb : b ∈ x :: (runFrom (fun a b => order b a ≠ .lt) x (y :: ys)).1) :
            order b a ≠ .lt ↔ order a b ≠ .gt := (h.swap_ne_gt_iff hb ha).symm
        have hrises := runFrom_pairwise (fun a b => order b a ≠ .lt) x (y :: ys)
          fun a ha b hb c hc hab hbc => ?_
        · refine (isStableSort_self (hrises.imp_of_mem fun ha hb hab => ?_)).unique h
            (isStableSort_stableSort h)
          exact (hle ha hb).mp (of_decide_eq_true hab)
        · rw [decide_eq_true_eq] at hab hbc ⊢
          exact (hle ha hc).mpr (h.trans a ha b hb c hc ((hle ha hb).mp hab) ((hle hb hc).mp hbc))

/-- **The next run** stands for a segment at the front, which is not empty. -/
theorem gives_nextRun (order : β → β → Ordering) {enough : Nat} (atOnce : Bool) (hxs : xs ≠ [])
    (henough : 0 < enough) :
    Gives (Consistent order xs)
      (fun p => ∃ seg, seg ++ p.2 = xs ∧ p.2.length < xs.length ∧ p.1.Holds order seg)
      (nextRun order enough atOnce xs) := by
  obtain ⟨seg, hseg, hsorted⟩ := exists_frontRun order xs
  have hpos := List.length_pos_iff.mpr hxs
  unfold nextRun
  generalize frontRun order xs = found at hseg hsorted
  obtain ⟨run, rest⟩ := found
  dsimp only at hseg hsorted ⊢
  split
  case isTrue hlong =>
    refine .some ⟨seg, hseg, ?_, holds_sorted hsorted⟩
    have hlength := hsorted.perm.length_eq
    show rest.length < xs.length
    rw [← hseg, List.length_append]
    omega
  case isFalse =>
    split
    case isTrue =>
      have hsort := sorts_iff_gives.mp (sorts_sortShort order (xs.take shortLength))
      refine (hsort.imp (fun h => h.subset fun x => List.mem_of_mem_take) fun _ => id).bind
        fun ys hys => .some ⟨_, List.take_append_drop shortLength xs, ?_, holds_sorted hys⟩
      rw [List.length_drop, shortLength]
      omega
    case isFalse =>
      refine .some ⟨_, List.take_append_drop enough xs, ?_, holds_raw order _⟩
      rw [List.length_drop]
      omega

theorem enoughFor_pos {length : Nat} (h : 0 < length) : 0 < enoughFor length := by
  unfold enoughFor
  split
  case isTrue => omega
  case isFalse hlong =>
    -- Of half the digits of a long length there is at least one.
    have hdigits : 1 ≤ Nat.log2 length := (Nat.le_log2 (by omega)).mpr (by omega)
    have hshift : 2 ≤ 1 <<< ((1 + Nat.log2 length) / 2) := by
      rw [Nat.one_shiftLeft]
      exact Nat.le_self_pow (by omega) 2
    exact Nat.div_pos (Nat.le_add_right_of_le hshift) (by decide)

/-! ## §4. Joining runs. -/

section Join

variable {sort : List β → Option (List β)} (hsort : ∀ xs, Sorts order xs (sort xs))

include hsort

theorem gives_finish {r : Run β} (hr : r.Holds order xs) :
    Gives (Consistent order xs) (SortedFrom order xs) (r.finish sort) := by
  unfold Run.finish
  split
  case isTrue hsorted => exact .some (hr.sorted hsorted)
  case isFalse hraw =>
    rw [hr.raw (Bool.eq_false_iff.mpr hraw)]
    exact sorts_iff_gives.mp (hsort xs)

/-- **Two runs, joined, stand for their segments side by side.** -/
theorem gives_joinRuns {left right : Run β} (room : Nat) (hleft : left.Holds order xs)
    (hright : right.Holds order ys) :
    Gives (Consistent order (xs ++ ys)) (Run.Holds order (xs ++ ys))
      (joinRuns order sort room left right) := by
  unfold joinRuns
  split
  case isTrue =>
    refine ((gives_finish hsort hleft).imp Consistent.left fun _ => id).bind fun zs hzs =>
      ((gives_finish hsort hright).imp Consistent.right fun _ => id).bind fun ws hws =>
        .some (holds_sorted ⟨?_, fun h => ?_⟩)
    · exact (mergeSorted_perm order zs ws).trans (hzs.perm.append hws.perm)
    · rw [hzs.eq h.left, hws.eq h.right]
      exact mergeSorted_stableSort h
  case isFalse hraw =>
    simp only [Bool.or_eq_true, not_or, Bool.not_eq_true] at hraw
    rw [hleft.raw hraw.1.2, hright.raw hraw.2]
    exact .some (holds_raw order _)

/-- **Merging back changes nothing of what is stood for**, and at depth zero leaves one run. -/
theorem gives_joinBack {stack : List (Run β × Nat)} {r : Run β} (room depth : Nat)
    (hstack : Piled order stack xs) (hr : r.Holds order ys) :
    Gives (Consistent order (xs ++ ys))
      (fun p => ∃ xs' ys', xs' ++ ys' = xs ++ ys ∧ Piled order p.1 xs' ∧ p.2.Holds order ys' ∧
        (depth = 0 → p.1 = []))
      (joinBack order sort room depth stack r) := by
  induction hstack generalizing r ys with
  | nil => exact .some ⟨[], ys, rfl, .nil, hr, fun _ => rfl⟩
  | @cons stack left d xs zs hstack hleft ih =>
      unfold joinBack
      split
      case isFalse hdepth =>
        exact .some ⟨_, ys, rfl, .cons hstack hleft, hr, fun h => absurd (by omega) hdepth⟩
      case isTrue =>
        rw [List.append_assoc]
        exact ((gives_joinRuns hsort room hleft hr).imp Consistent.right fun _ => id).bind
          fun r hr => ih hr

/-- Where nothing is left to be read, what the runs stand for is merged. -/
theorem gives_gathered {stack : List (Run β × Nat)} {r : Run β} (room : Nat)
    (hstack : Piled order stack xs) (hr : r.Holds order ys) :
    Gives (Consistent order (xs ++ ys)) (SortedFrom order (xs ++ ys)) (do
      let (_, r) ← joinBack order sort room 0 stack r
      r.finish sort) := by
  refine (gives_joinBack hsort room 0 hstack hr).bind ?_
  rintro ⟨stack, r⟩ ⟨xs', ys', hwhole, hpiled, hr, hnil⟩
  obtain rfl : stack = [] := hnil rfl
  cases hpiled
  rw [← hwhole]
  exact gives_finish hsort hr

/-- **From any runs to the sorted list.**  The induction is on the steps; each takes a segment off
what has not been read. -/
theorem gives_gatherRuns {enough : Nat} (henough : 0 < enough) (room : Nat) (atOnce : Bool)
    (length steps : Nat) {stack : List (Run β × Nat)} {r : Run β} (cut : Nat)
    (hstack : Piled order stack xs) (hr : r.Holds order ys) (hsteps : zs.length ≤ steps) :
    Gives (Consistent order (xs ++ ys ++ zs)) (SortedFrom order (xs ++ ys ++ zs))
      (gatherRuns order sort room enough atOnce length steps stack r cut zs) := by
  induction steps generalizing stack r cut xs ys zs with
  | zero =>
      obtain rfl := List.length_eq_zero_iff.mp (Nat.le_zero.mp hsteps)
      rw [List.append_nil]
      exact gives_gathered hsort room hstack hr
  | succ steps ih =>
      cases zs with
      | nil =>
          rw [List.append_nil]
          exact gives_gathered hsort room hstack hr
      | cons z zs =>
          have hnext := gives_nextRun order atOnce (List.cons_ne_nil z zs) henough
          refine (hnext.imp Consistent.right fun _ => id).bind ?_
          rintro ⟨next, rest⟩ ⟨seg, hseg, hless, hholds⟩
          refine ((gives_joinBack hsort room _ hstack hr).imp Consistent.left fun _ => id).bind ?_
          rintro ⟨stack, r⟩ ⟨xs', ys', hwhole, hpiled, hr, -⟩
          have hrest : rest.length ≤ steps := by
            dsimp only at hless
            omega
          have hall : xs ++ ys ++ z :: zs = xs' ++ ys' ++ seg ++ rest := by
            rw [hwhole, List.append_assoc (xs ++ ys), hseg]
          rw [hall]
          exact ih _ (.cons hpiled hr) hholds hrest

/-- **Sorting by runs sorts**, if whatever sorts a run does. -/
theorem sorts_sortRuns (room : Nat) (atOnce : Bool) (xs : List β) :
    Sorts order xs (sortRuns order sort room atOnce xs) := by
  cases xs with
  | nil =>
      have hnil : sortRuns order sort room atOnce [] = some (stableSort order []) := by
        simp [sortRuns, enoughFor, nextRun, frontRun, gatherRuns, joinBack, Run.finish, stableSort]
      rw [hnil]
      exact sorts_stableSort order []
  | cons x xs =>
      have henough := enoughFor_pos (Nat.succ_pos xs.length)
      have hnext := gives_nextRun order atOnce (List.cons_ne_nil x xs) henough
      refine sorts_iff_gives.mpr (hnext.bind ?_)
      rintro ⟨first, rest⟩ ⟨seg, hseg, hless, hholds⟩
      have hgathered := gives_gatherRuns hsort henough room atOnce (x :: xs).length _
        first.items.length .nil hholds (Nat.le_of_lt hless)
      rwa [List.nil_append, hseg] at hgathered

end Join

/-! ## §5. The sort. -/

/-- **By partition, and by runs that are sorted at once** where too many pivots were bad. -/
theorem sorts_sortByPivots (order : β → β → Ordering) (xs : List β) :
    Sorts order xs (sortByPivots order xs) :=
  sorts_sortParted (sorts_sortRuns (sorts_sortShort order) 0 true) _ xs

theorem sorts_sortLong (order : β → β → Ordering) (xs : List β) :
    Sorts order xs (sortLong order xs) :=
  sorts_sortRuns (sorts_sortByPivots order) _ _ xs

/-- Places named in order are the elements in order. -/
theorem filterMap_map_val (xs : List β) (places : List (Fin xs.length)) :
    (places.map Fin.val).filterMap (xs[·]?) = places.map xs.get := by
  rw [List.filterMap_map, ← List.filterMap_eq_map]
  refine List.filterMap_congr fun i _ => ?_
  exact List.getElem?_eq_getElem i.isLt

/-- All places, named in order. -/
theorem filterMap_range (xs : List β) : (List.range xs.length).filterMap (xs[·]?) = xs := by
  rw [← List.map_coe_finRange_eq_range, filterMap_map_val, List.map_get_finRange]

theorem orderAt_val (order : β → β → Ordering) (xs : List β) :
    (fun i j : Fin xs.length => orderAt order xs i.val j.val) =
      fun i j => order (xs.get i) (xs.get j) := by
  funext i j
  simp [orderAt]

/-- **Sorting the places of a list sorts the list.** -/
theorem stableSort_places (order : β → β → Ordering) (xs : List β) :
    (stableSort (orderAt order xs) (List.range xs.length)).filterMap (xs[·]?) =
      stableSort order xs := by
  rw [← List.map_coe_finRange_eq_range, stableSort_map, filterMap_map_val, orderAt_val,
    ← stableSort_map, List.map_get_finRange]

theorem consistent_places (h : Consistent order xs) :
    Consistent (orderAt order xs) (List.range xs.length) := by
  rw [← List.map_coe_finRange_eq_range, consistent_map_iff, orderAt_val, ← consistent_map_iff,
    List.map_get_finRange]
  exact h

theorem trySort_of_length_le (order : β → β → Ordering) (h : xs.length ≤ 20) :
    trySort order xs = some (stableSort order xs) := if_pos h

/-- **The sort sorts, or gives up**; and where the order is one it does not give up. -/
theorem sorts_trySort (order : β → β → Ordering) (xs : List β) :
    Sorts order xs (trySort order xs) := by
  by_cases hshort : xs.length ≤ 20
  · rw [trySort_of_length_le order hshort]
    exact sorts_stableSort order xs
  · rw [trySort, if_neg hshort]
    have hplaces := sorts_sortLong (orderAt order xs) (List.range xs.length)
    constructor
    · intro ys hys
      obtain ⟨places, hsorted, rfl⟩ := Option.map_eq_some_iff.mp hys
      have hperm := (hplaces.perm places hsorted).filterMap (xs[·]?)
      rwa [filterMap_range] at hperm
    · intro h
      rw [hplaces.sorts (consistent_places h), Option.map_some, stableSort_places]

/-- **The sort looks at the order alone**: what is sorted by an image is sorted as the images
are. -/
theorem trySort_map {γ : Type} (order : β → β → Ordering) (f : γ → β) (xs : List γ) :
    trySort order (xs.map f) =
      (trySort (fun a b => order (f a) (f b)) xs).map (·.map f) := by
  have horder : orderAt order (xs.map f) = orderAt (fun a b => order (f a) (f b)) xs := by
    funext i j
    rw [orderAt, orderAt, List.getElem?_map, List.getElem?_map]
    cases xs[i]? <;> cases xs[j]? <;> rfl
  rw [trySort, trySort, List.length_map, horder]
  split
  · rw [stableSort_map]
    rfl
  · rw [Option.map_map]
    congr 1
    funext places
    show places.filterMap _ = (places.filterMap _).map f
    rw [List.map_filterMap]
    exact List.filterMap_congr fun i _ => List.getElem?_map

end RecordSearch
