/-
  RecordSearch.Proofs.Rows.Refined
  ────────────────────────────────
  **Later sorts refine earlier ones.**

  Rows that are sorted twice are in the order of the second sort, and those that tie there are still
  in the order of the first, since the sort is stable.  One sort by the keys of the second and then
  those of the first puts them in the same order:

      stableSort_stableSort  — two sorts are one by both orders, the later one first
      rowOrder_append        — keys in turn are orders in turn
      orderRows_inTurn       — two clauses are two sorts
      orderRows_refines      — two clauses are one clause, the later one in front

  Whatever the values, a key that has none on some row makes the two clauses fail, and the one
  clause as well.  What else may happen is that values of several kinds are in no order, and a sort
  gives up.  The clause that does so may be the earlier of the two, whose keys the one clause need
  not ask: then the rows are ordered by the one, and not by the two (`orderRows_not_refines`).
-/
import RecordSearch.Proofs.Expr.Appended
import RecordSearch.Proofs.Rows.Ordered

namespace RecordSearch

/-! ## §1. Two sorts. -/

section Sorts

variable {β : Type} {order earlier : β → β → Ordering} {xs ys : List β}

/-- What ties in two orders are the ties of the one among those of the other. -/
theorem filter_then (order earlier : β → β → Ordering) (a : β) (xs : List β) :
    xs.filter (fun b => (order a b).then (earlier a b) = .eq) =
      (xs.filter (order a · = .eq)).filter (earlier a · = .eq) := by
  rw [List.filter_filter]
  refine List.filter_congr fun b _ => ?_
  simp [Ordering.then_eq_eq, Bool.and_comm]

/-- **Sorting a sorted list** leaves what ties in the order in which it was. -/
theorem pairwise_then_of_isStableSort (h : Consistent order xs)
    (hearlier : xs.Pairwise fun a b => earlier a b ≠ .gt) (hys : IsStableSort order xs ys) :
    ys.Pairwise fun a b => (order a b).then (earlier a b) ≠ .gt := by
  refine List.pairwise_iff_forall_sublist.mpr fun {a b} hab => ?_
  have hsorted := List.pairwise_iff_forall_sublist.mp hys.sorted hab
  cases htie : order a b with
  | lt => simp
  | gt => exact absurd htie hsorted
  | eq =>
      -- Both tie with the first of them, and what does so has been left as it was.
      have ha : a ∈ xs := hys.perm.mem_iff.mp (hab.subset (by simp))
      have hties := hab.filter (order a · = .eq)
      rw [hys.stable a ha, List.filter_eq_self.mpr (by simp [htie, h.self ha])] at hties
      exact List.pairwise_iff_forall_sublist.mp hearlier (hties.trans List.filter_sublist)

/-- **Two sorts are one by both orders**, the later one first. -/
theorem stableSort_stableSort (h : Consistent order xs) (hearlier : Consistent earlier xs) :
    stableSort order (stableSort earlier xs) =
      stableSort (fun a b => (order a b).then (earlier a b)) xs := by
  have hboth := h.andThen hearlier
  have hfirst := isStableSort_stableSort hearlier
  have hmoved : Consistent order (stableSort earlier xs) :=
    h.subset fun y hy => hfirst.perm.mem_iff.mp hy
  have hsecond := isStableSort_stableSort hmoved
  refine IsStableSort.unique hboth ?_ (isStableSort_stableSort hboth)
  refine ⟨hsecond.perm.trans hfirst.perm, ?_, fun a ha => ?_⟩
  · exact pairwise_then_of_isStableSort hmoved hfirst.sorted hsecond
  · -- The later sort leaves its ties as they were, and among them those of the earlier one.
    have ha' : a ∈ stableSort earlier xs := hfirst.perm.mem_iff.mpr ha
    rw [filter_then, filter_then, hsecond.stable a ha', List.filter_comm, hfirst.stable a ha,
      List.filter_comm]

end Sorts

/-! ## §2. Two clauses. -/

section Clauses

variable {α : Type} [Searchable α] {first second : String} {keys others : List OrderingKey}

/-- Keys in turn are orders in turn. -/
theorem rowOrder_append (keys others : List OrderingKey) (a b : α) :
    rowOrder (keys ++ others) a b = (rowOrder keys a b).then (rowOrder others a b) := by
  induction keys with
  | nil => rfl
  | cons key keys ih =>
      rw [List.cons_append, rowOrder_cons, rowOrder_cons, ih, Ordering.then_assoc]

/-- The first clause moves the rows and no more, so the second one finds the same keys on them. -/
theorem orderRows_inTurn (hfirst : parseOrdering first = .ok others)
    (hsecond : parseOrdering second = .ok keys) {rows : List α}
    (hothers : ∀ row ∈ rows, HasKeys others row) (hkeys : ∀ row ∈ rows, HasKeys keys row) :
    (orderRows first rows >>= orderRows second) =
      (sortOrEnd (rowOrder others) rows >>= sortOrEnd (rowOrder keys)) := by
  rw [orderRows_eq_sort hfirst hothers]
  cases hsorted : sortOrEnd (rowOrder others) rows with
  | error e => rfl
  | ok sorted =>
      have hperm := sortOrEnd_perm hsorted
      exact orderRows_eq_sort hsecond fun row hrow => hkeys row (hperm.mem_iff.mp hrow)

/-- Where neither sort gives up, the rows are sorted twice. -/
theorem orderRows_inTurn_eq_stableSort (hfirst : parseOrdering first = .ok others)
    (hsecond : parseOrdering second = .ok keys) {rows : List α}
    (hothers : ∀ row ∈ rows, HasKeys others row) (hkeys : ∀ row ∈ rows, HasKeys keys row)
    (hsettled : rows.length ≤ 20 ∨
      Consistent (rowOrder others) rows ∧ Consistent (rowOrder keys) rows) :
    (orderRows first rows >>= orderRows second) =
      .ok (stableSort (rowOrder keys) (stableSort (rowOrder others) rows)) := by
  have hperm := stableSort_perm (rowOrder others) rows
  rw [orderRows_inTurn hfirst hsecond hothers hkeys,
    sortOrEnd_eq_stableSort (hsettled.imp_right And.left), ok_bind]
  refine sortOrEnd_eq_stableSort ?_
  rw [hperm.length_eq]
  exact hsettled.imp_right fun h => h.2.subset fun row hrow => hperm.mem_iff.mp hrow

theorem consistent_rowOrder_append {rows : List α} (h : Consistent (rowOrder keys) rows)
    (hothers : Consistent (rowOrder others) rows) :
    Consistent (rowOrder (keys ++ others)) rows := by
  have horder : rowOrder (keys ++ others) =
      fun a b : α => (rowOrder keys a b).then (rowOrder others a b) :=
    funext fun a => funext fun b => rowOrder_append keys others a b
  rw [horder]
  exact h.andThen hothers

theorem forall_hasKeys_append_iff {rows : List α} :
    (∀ row ∈ rows, HasKeys (keys ++ others) row) ↔
      (∀ row ∈ rows, HasKeys keys row) ∧ ∀ row ∈ rows, HasKeys others row := by
  simp only [HasKeys, List.forall_mem_append, forall_and]

/-- A clause fails where a key has no value on some row, and where its sort gives up. -/
theorem exists_orderRows_eq_error_iff (hsecond : parseOrdering second = .ok keys)
    (rows : List α) :
    (∃ e, orderRows second rows = .error e) ↔
      (∃ row ∈ rows, ¬HasKeys keys row) ∨ orderRows second rows = .error .disordered := by
  constructor
  · rintro ⟨e, he⟩
    by_cases hkeys : ∀ row ∈ rows, HasKeys keys row
    · rw [orderRows_eq_sort hsecond hkeys] at he ⊢
      obtain ⟨rfl, -⟩ := sortOrEnd_eq_error_iff.mp he
      exact .inr he
    · simp only [not_forall, exists_prop] at hkeys
      exact .inl hkeys
  · rintro (⟨row, hrow, hnone⟩ | hend)
    · refine exists_eq_error_iff.mpr ?_
      rintro ⟨sorted, hsorted⟩
      obtain ⟨keys', hkeys', hall, -⟩ := exists_of_orderRows hsorted
      obtain rfl : keys = keys' := Except.ok.inj (hsecond.symm.trans hkeys')
      exact hnone (hall row hrow)
    · exact ⟨_, hend⟩

/-- So do two clauses in turn. -/
theorem exists_orderRows_inTurn_eq_error_iff (hfirst : parseOrdering first = .ok others)
    (hsecond : parseOrdering second = .ok keys) (rows : List α) :
    (∃ e, (orderRows first rows >>= orderRows second) = .error e) ↔
      (∃ row ∈ rows, ¬HasKeys (keys ++ others) row) ∨
        (orderRows first rows >>= orderRows second) = .error .disordered := by
  constructor
  · rintro ⟨e, he⟩
    by_cases hall : ∀ row ∈ rows, HasKeys (keys ++ others) row
    · obtain ⟨hkeys, hothers⟩ := forall_hasKeys_append_iff.mp hall
      rw [orderRows_inTurn hfirst hsecond hothers hkeys] at he ⊢
      rcases bind_eq_error_iff.mp he with hend | ⟨sorted, -, hend⟩
      all_goals
        obtain ⟨rfl, -⟩ := sortOrEnd_eq_error_iff.mp hend
        exact .inr he
    · simp only [not_forall, exists_prop] at hall
      exact .inl hall
  · rintro (⟨row, hrow, hnone⟩ | hend)
    · refine exists_eq_error_iff.mpr ?_
      rintro ⟨sorted, hsorted⟩
      obtain ⟨between, hbetween, hsorted⟩ := bind_eq_ok_iff.mp hsorted
      have hperm := orderRows_perm hbetween
      obtain ⟨others', hothers', hothers, -⟩ := exists_of_orderRows hbetween
      obtain ⟨keys', hkeys', hkeys, -⟩ := exists_of_orderRows hsorted
      obtain rfl : others = others' := Except.ok.inj (hfirst.symm.trans hothers')
      obtain rfl : keys = keys' := Except.ok.inj (hsecond.symm.trans hkeys')
      refine hnone (List.forall_mem_append.mpr ⟨?_, hothers row hrow⟩)
      exact hkeys row (hperm.mem_iff.mpr hrow)
    · exact ⟨_, hend⟩

/-- **Later sorts refine earlier ones.**  Where the keys of two clauses have values on all rows, and
the values of each key are of one type, ordering by the first clause and then by the second gives
the rows in the order of the one clause that has the keys of the second in front of those of the
first.  Whatever the values, the two in turn fail where some key has no value on some row, and so
does the one clause; otherwise each fails only where a sort of it gives up.  No sort does so of few
rows, or of rows that the keys of each clause put in an order. -/
theorem orderRows_refines (hfirst : parseOrdering first = .ok others)
    (hsecond : parseOrdering second = .ok keys) (rows : List α) :
    ((∀ row ∈ rows, HasKeys (keys ++ others) row) →
      (∀ key ∈ keys ++ others, ∀ a ∈ rows, ∀ b ∈ rows, key.Alike a b) →
      ∃ sorted, (orderRows first rows >>= orderRows second) = .ok sorted ∧
        orderRows (second ++ ", " ++ first) rows = .ok sorted) ∧
    ((∃ e, (orderRows first rows >>= orderRows second) = .error e) ↔
      (∃ row ∈ rows, ¬HasKeys (keys ++ others) row) ∨
        (orderRows first rows >>= orderRows second) = .error .disordered) ∧
    ((∃ e, orderRows (second ++ ", " ++ first) rows = .error e) ↔
      (∃ row ∈ rows, ¬HasKeys (keys ++ others) row) ∨
        orderRows (second ++ ", " ++ first) rows = .error .disordered) ∧
    (rows.length ≤ 20 ∨ Consistent (rowOrder others) rows ∧ Consistent (rowOrder keys) rows →
      ((∃ e, (orderRows first rows >>= orderRows second) = .error e) ↔
        ∃ e, orderRows (second ++ ", " ++ first) rows = .error e)) := by
  have hboth := parseOrdering_append hsecond hfirst
  have hinTurn := exists_orderRows_inTurn_eq_error_iff hfirst hsecond rows
  have hone := exists_orderRows_eq_error_iff hboth rows
  refine ⟨fun hrows halike => ?_, hinTurn, hone, fun hsettled => ?_⟩
  · obtain ⟨hkeys, hothers⟩ := forall_hasKeys_append_iff.mp hrows
    obtain ⟨halike, halike'⟩ := List.forall_mem_append.mp halike
    have hconsistent := consistent_rowOrder hkeys halike
    have hconsistent' := consistent_rowOrder hothers halike'
    refine ⟨_, orderRows_inTurn_eq_stableSort hfirst hsecond hothers hkeys
      (.inr ⟨hconsistent', hconsistent⟩), ?_⟩
    rw [orderRows_eq_stableSort hboth hrows
      (.inr (consistent_rowOrder_append hconsistent hconsistent')),
      stableSort_stableSort hconsistent hconsistent']
    simp only [← rowOrder_append]
  · by_cases hrows : ∀ row ∈ rows, HasKeys (keys ++ others) row
    · -- All keys have values, so neither fails.
      obtain ⟨hkeys, hothers⟩ := forall_hasKeys_append_iff.mp hrows
      rw [orderRows_inTurn_eq_stableSort hfirst hsecond hothers hkeys hsettled,
        orderRows_eq_stableSort hboth hrows
          (hsettled.imp_right fun h => consistent_rowOrder_append h.2 h.1)]
      exact iff_of_false nofun nofun
    · simp only [not_forall, exists_prop] at hrows
      exact iff_of_true (hinTurn.mpr (.inl hrows)) (hone.mpr (.inl hrows))

end Clauses

/-- Within each team the ranks stay in descending order, null first.  A row without a rank makes
both fail. -/
theorem orderRows_refines_teams :
    let row := fun (team : String) (rank : Value) =>
      ([("team", .value (.text team)), ("rank", .value rank)] : Record)
    let rows := [row "b" (.int 7), row "a" (.uint 2), row "b" .null]
    let sorted := [row "a" (.uint 2), row "b" .null, row "b" (.int 7)]
    let inTurn := fun rows : List Record => orderRows "rank DESC" rows >>= orderRows "team"
    inTurn rows = .ok sorted ∧ orderRows ("team" ++ ", " ++ "rank DESC") rows = .ok sorted ∧
      ∃ e, orderRows ("team" ++ ", " ++ "rank DESC") (rows ++ [[]]) = .error e := by
  intro row rows sorted inTurn
  let keys : List OrderingKey := [⟨.name "team", .ascending⟩, ⟨.name "rank", .descending⟩]
  have hrank : parseOrdering "rank DESC" = .ok [⟨.name "rank", .descending⟩] := by rfl
  have hteam : parseOrdering "team" = .ok [⟨.name "team", .ascending⟩] := by rfl
  have hkeys : ∀ row ∈ rows, HasKeys keys row := by
    simp only [rows, keys, HasKeys, List.forall_mem_cons]
    exact ⟨⟨⟨_, rfl⟩, ⟨_, rfl⟩, by simp⟩, ⟨⟨_, rfl⟩, ⟨_, rfl⟩, by simp⟩,
      ⟨⟨_, rfl⟩, ⟨_, rfl⟩, by simp⟩, by simp⟩
  have halike : ∀ key ∈ keys, ∀ a ∈ rows, ∀ b ∈ rows, key.Alike a b := by
    simp only [rows, keys, List.mem_cons, List.not_mem_nil, or_false]
    rintro _ (rfl | rfl) _ (rfl | rfl | rfl) _ (rfl | rfl | rfl) v w hv hw <;>
      cases hv <;> cases hw <;> rfl
  have hsorted : inTurn rows = .ok sorted := by rfl
  have hfails : ∃ e, inTurn (rows ++ [[]]) = .error e := ⟨_, by rfl⟩
  obtain ⟨sorted', hinTurn, hboth⟩ := (orderRows_refines hrank hteam rows).1 hkeys halike
  obtain rfl : sorted = sorted' := Except.ok.inj (hsorted.symm.trans hinTurn)
  exact ⟨hsorted, hboth,
    (orderRows_refines hrank hteam (rows ++ [[]])).2.2.2 (.inl (by decide)) |>.mp hfails⟩

/-- A text ties with every number, so the ranks are in no order, and with so many rows the sort by
them gives up.  The one clause does not ask for the ranks, since no two rows tie on the place. -/
theorem orderRows_not_refines :
    let text : Value := .text "t"
    let ranks : List Value := [.int 21, .int 20, .int 19, .int 18, text, .int 17, .int 16, .int 15,
      .int 14, text, .int 13, .int 12, .int 11, .int 10, text, .int 9, .int 8, .int 7, .int 6, text,
      .int 5]
    let rows : List Record := ranks.zipIdx.map fun (rank, place) =>
      [("a", .value rank), ("b", .value (.int (Int64.ofNat place)))]
    parseOrdering "a ASC" = .ok [⟨.name "a", .ascending⟩] ∧
      parseOrdering "b ASC" = .ok [⟨.name "b", .ascending⟩] ∧
      (orderRows "a ASC" rows >>= orderRows "b ASC") = .error .disordered ∧
      orderRows ("b ASC" ++ ", " ++ "a ASC") rows = .ok rows := by
  exact ⟨rfl, rfl, rfl, rfl⟩

end RecordSearch
