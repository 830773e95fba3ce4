/-
  RecordSearch.Proofs.Rows.Repeated
  ─────────────────────────────────
  **Repeated paths in a sort are harmless.**

  The words of the builder keep each path once, but a sort that is read from outside may name a
  path again, in either direction.  By the time that such a key is asked, the rows have tied on the
  path already, so it ties as well and decides nothing; and its value was found, or missed, when the
  path was asked first:

      SortCriteria.withoutRepeats   — the keys without those whose path stands further in front
      rowOrder_withoutRepeats       — any two rows stand to each other as before
      withKeys_withoutRepeats       — a row fails with the error with which it failed before
      orderRows_withoutRepeats      — so ordering comes to the same
-/
import RecordSearch.Proofs.Criteria.Ordered
import RecordSearch.Proofs.Rows.Ordered

namespace RecordSearch

/-! ## §1. Repetitions. -/

namespace SortCriteria

/-- The keys without those whose path stands further in front, in whatever direction. -/
def firstOfEach : List SortCriterion → List SortCriterion
  | [] => []
  | item :: items => item :: (firstOfEach items).filter (·.field ≠ item.field)

def withoutRepeats (s : SortCriteria) : SortCriteria := ⟨firstOfEach s.items⟩

theorem mem_of_mem_firstOfEach {item : SortCriterion} :
    ∀ {items : List SortCriterion}, item ∈ firstOfEach items → item ∈ items
  | [], h => h
  | first :: items, h => by
      refine (List.mem_cons.mp h).elim (fun heq => heq ▸ List.mem_cons_self) fun hmem => ?_
      exact List.mem_cons_of_mem _ (mem_of_mem_firstOfEach (List.mem_filter.mp hmem).1)

end SortCriteria

open SortCriteria

/-! ## §2. Keys that tie. -/

section Rows

variable {α : Type} [Searchable α] {items : List SortCriterion} {a b : α}

/-- What a key yields depends on its path alone. -/
theorem SortCriterion.valueOn_key {item other : SortCriterion} (h : other.field = item.field)
    (row : α) : other.key.valueOn row = item.key.valueOn row := by
  unfold OrderingKey.valueOn SortCriterion.key
  rw [h]

/-- A tie is one in both directions. -/
theorem Direction.order_eq_eq_iff_ascending (d : Direction) (v w : Value) :
    d.order v w = .eq ↔ ascendingOrder v w = .eq := by
  cases d with
  | ascending => exact Iff.rfl
  | descending => exact Ordering.swap_eq_eq

/-- Rows that tie on a path tie on it once more, in whatever direction. -/
theorem SortCriterion.order_key_eq {item other : SortCriterion} (hfield : other.field = item.field)
    (h : item.key.order a b = .eq) : other.key.order a b = .eq := by
  unfold OrderingKey.order OrderingKey.valueOrNull at h ⊢
  rw [Direction.order_eq_eq_iff_ascending] at h ⊢
  rw [valueOn_key hfield, valueOn_key hfield]
  exact h

/-- Keys on which the rows tie decide nothing. -/
theorem rowOrder_filter {p : SortCriterion → Bool}
    (h : ∀ item ∈ items, p item = false → item.key.order a b = .eq) :
    rowOrder ((items.filter p).map SortCriterion.key) a b =
      rowOrder (items.map SortCriterion.key) a b := by
  induction items with
  | nil => rfl
  | cons item items ih =>
      obtain ⟨hitem, hitems⟩ := List.forall_mem_cons.mp h
      rw [List.map_cons, rowOrder_cons, ← ih hitems]
      cases hp : p item with
      | true => rw [List.filter_cons_of_pos hp, List.map_cons, rowOrder_cons]
      | false =>
          rw [List.filter_cons_of_neg (by rw [hp]; decide), hitem hp]
          rfl

/-- **Any two rows stand to each other as they do by the first key of each path.** -/
theorem rowOrder_withoutRepeats (items : List SortCriterion) (a b : α) :
    rowOrder ((firstOfEach items).map SortCriterion.key) a b =
      rowOrder (items.map SortCriterion.key) a b := by
  induction items with
  | nil => rfl
  | cons item items ih =>
      rw [firstOfEach, List.map_cons, List.map_cons, rowOrder_cons, rowOrder_cons, ← ih]
      cases htie : item.key.order a b with
      -- The first key decides, so no other one is asked.
      | lt => rfl
      | gt => rfl
      | eq =>
          refine congrArg (Ordering.then .eq) (rowOrder_filter fun other _ hother => ?_)
          have hfield : other.field = item.field := by simpa using hother
          exact SortCriterion.order_key_eq hfield htie

/-! ## §3. Keys that fail. -/

/-- Elements that pass are no first fault. -/
theorem firstAtFault_filter_iff {β : Type} {passes fault : β → Prop} {p : β → Bool} {l : List β}
    (h : ∀ x ∈ l, p x = false → passes x ∧ ¬fault x) :
    FirstAtFault passes fault (l.filter p) ↔ FirstAtFault passes fault l := by
  induction l with
  | nil => exact Iff.rfl
  | cons x l ih =>
      obtain ⟨hx, hl⟩ := List.forall_mem_cons.mp h
      rw [firstAtFault_cons_iff, ← ih hl]
      cases hp : p x with
      | true => rw [List.filter_cons_of_pos hp, firstAtFault_cons_iff]
      | false =>
          obtain ⟨hpasses, hfault⟩ := hx hp
          rw [List.filter_cons_of_neg (by rw [hp]; decide)]
          simp only [hfault, hpasses, false_or, true_and]

/-- The first key that fails is the first of its path. -/
theorem mapM_firstOfEach_eq_error_iff {β : Type} {f : SortCriterion → Except SearchError β}
    (hf : ∀ item other, other.field = item.field → f other = f item) {e : SearchError} :
    (firstOfEach items).mapM f = .error e ↔ items.mapM f = .error e := by
  rw [mapM_eq_error_iff, mapM_eq_error_iff]
  induction items with
  | nil => exact Iff.rfl
  | cons item items ih =>
      rw [firstOfEach, firstAtFault_cons_iff, firstAtFault_cons_iff, ← ih]
      refine or_congr_right (and_congr_right fun ⟨v, hv⟩ => firstAtFault_filter_iff ?_)
      intro other _ hother
      have hfield : other.field = item.field := by simpa using hother
      rw [hf item other hfield, hv]
      exact ⟨⟨v, rfl⟩, nofun⟩

/-- **A row fails with the error with which it fails by the first key of each path.** -/
theorem withKeys_withoutRepeats (items : List SortCriterion) (row : α) (e : SearchError) :
    withKeys ((firstOfEach items).map SortCriterion.key) row = .error e ↔
      withKeys (items.map SortCriterion.key) row = .error e := by
  rw [withKeys_eq_error_iff, withKeys_eq_error_iff, List.mapM_map, List.mapM_map]
  exact mapM_firstOfEach_eq_error_iff fun item other hfield => SortCriterion.valueOn_key hfield row

/-! ## §4. Ordering. -/

/-- Clauses whose keys compare any two rows alike and fail alike order rows alike. -/
theorem orderRows_congr {clause clause' : String} {keys keys' : List OrderingKey}
    (hclause : parseOrdering clause = .ok keys) (hclause' : parseOrdering clause' = .ok keys')
    (horder : ∀ a b : α, rowOrder keys a b = rowOrder keys' a b)
    (hfails : ∀ (row : α) e, withKeys keys row = .error e ↔ withKeys keys' row = .error e)
    (rows : List α) : orderRows clause rows = orderRows clause' rows := by
  have hsame : rowOrder keys = (rowOrder keys' : α → α → Ordering) :=
    funext fun a => funext fun b => horder a b
  have hpasses (row : α) :
      (∃ values, withKeys keys row = .ok values) ↔ ∃ values, withKeys keys' row = .ok values := by
    rw [← not_iff_not, ← exists_eq_error_iff, ← exists_eq_error_iff]
    exact exists_congr (hfails row)
  have herror : ∀ e, orderRows clause rows = .error e ↔ orderRows clause' rows = .error e := by
    intro e
    rw [orderRows_eq_error_iff hclause, orderRows_eq_error_iff hclause', mapM_eq_error_iff,
      mapM_eq_error_iff, hsame]
    simp only [← exists_withKeys_iff, hpasses, hfails]
  cases hrows : orderRows clause rows with
  | error e => exact ((herror e).mp hrows).symm
  | ok sorted =>
      cases hrows' : orderRows clause' rows with
      | error e => rw [(herror e).mpr hrows'] at hrows; cases hrows
      | ok sorted' =>
          -- Neither fails, so both are the sort by the comparison of the rows.
          obtain ⟨_, hkeys, -, hsorted⟩ := exists_of_orderRows hrows
          obtain ⟨_, hkeys', -, hsorted'⟩ := exists_of_orderRows hrows'
          obtain rfl := Except.ok.inj (hclause.symm.trans hkeys)
          obtain rfl := Except.ok.inj (hclause'.symm.trans hkeys')
          rw [hsame] at hsorted
          exact hsorted.symm.trans hsorted'

/-- **Repeated paths in a sort are harmless.**  A sort by paths of names, however often it names
one, compiles, and so does the sort without the repetitions.  Ordering by either clause gives the
same rows or the same error; without keys there is no clause, and nothing is ordered.  Any two rows
stand to each other by the keys of the one as they do by those of the other, so this is so however
rows are sorted that only compares them. -/
theorem SortCriteria.orderRows_withoutRepeats (words : List String) {s : SortCriteria}
    (h : ∀ item ∈ s.items, IsPath item.field) (rows : List α) :
    (∃ compiled compiled', s.compile (.ofWords words) = .ok compiled ∧
      s.withoutRepeats.compile (.ofWords words) = .ok compiled' ∧
      compiled.elim (.ok rows) (orderRows · rows) =
        compiled'.elim (.ok rows) (orderRows · rows)) ∧
    ∀ a b : α, rowOrder (s.items.map SortCriterion.key) a b =
      rowOrder (s.withoutRepeats.items.map SortCriterion.key) a b := by
  have horder : ∀ a b : α, rowOrder (s.items.map SortCriterion.key) a b =
      rowOrder (s.withoutRepeats.items.map SortCriterion.key) a b :=
    fun a b => (rowOrder_withoutRepeats s.items a b).symm
  refine ⟨?_, horder⟩
  obtain ⟨items⟩ := s
  cases items with
  | nil => exact ⟨none, none, rfl, rfl, rfl⟩
  | cons item items =>
      obtain ⟨clause, hcompile, hclause⟩ :=
        SortCriteria.compile_eq_ok words (s := ⟨item :: items⟩) (List.cons_ne_nil _ _) h
      obtain ⟨clause', hcompile', hclause'⟩ :=
        SortCriteria.compile_eq_ok words (s := withoutRepeats ⟨item :: items⟩)
          (List.cons_ne_nil _ _) fun other hother => h other (mem_of_mem_firstOfEach hother)
      refine ⟨some clause, some clause', hcompile, hcompile', ?_⟩
      exact orderRows_congr (parseOrdering_of_written hclause) (parseOrdering_of_written hclause')
        horder (fun row e => (withKeys_withoutRepeats (item :: items) row e).symm) rows

end Rows

/-- A path that is named again in the other direction, on rows that hold values of several kinds
under it, one of them without the second member. -/
theorem SortCriteria.orderRows_withoutRepeats_mixed :
    let row := fun (a b : Value) => ([("a", .value a), ("b", .value b)] : Record)
    let rows := [row (.text "x") (.int 1), row (.float .nan) (.int 3), row (.int 2) .null,
      row .null (.int 1), row (.int 2) (.int 5)]
    let s : SortCriteria := ⟨[⟨"a", .ascending⟩, ⟨"b", .descending⟩, ⟨"a", .descending⟩]⟩
    (∀ item ∈ s.items, IsPath item.field) ∧
      s.compile (.ofWords []) = .ok (some "a ASC, b DESC, a DESC") ∧
      s.withoutRepeats.compile (.ofWords []) = .ok (some "a ASC, b DESC") ∧
      orderRows "a ASC, b DESC, a DESC" rows = orderRows "a ASC, b DESC" rows ∧
      orderRows "a ASC, b DESC, a DESC" ([("a", .value .null)] :: rows) =
        .error (.resolution "b") := by
  intro row rows s
  have hpaths : ∀ item ∈ s.items, IsPath item.field := by decide
  have hcompile : s.compile (.ofWords []) = .ok (some "a ASC, b DESC, a DESC") := by rfl
  have hcompile' : s.withoutRepeats.compile (.ofWords []) = .ok (some "a ASC, b DESC") := by rfl
  have hsame (rows : List Record) :
      orderRows "a ASC, b DESC, a DESC" rows = orderRows "a ASC, b DESC" rows := by
    obtain ⟨⟨compiled, compiled', h, h', hrows⟩, -⟩ :=
      SortCriteria.orderRows_withoutRepeats [] hpaths rows
    obtain rfl := Except.ok.inj (hcompile.symm.trans h)
    obtain rfl := Except.ok.inj (hcompile'.symm.trans h')
    exact hrows
  exact ⟨hpaths, hcompile, hcompile', hsame rows, (hsame _).trans (by rfl)⟩

end RecordSearch
