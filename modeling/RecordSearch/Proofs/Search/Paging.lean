/-
  RecordSearch.Proofs.Search.Paging
  ─────────────────────────────────
  **Pages partition the rows of a search.**

  A definition with a page differs from the one without only in its last stage, so its search is
  the other search with the rows cut (`searchRows_onPage`).  The pages of one size, in turn, are all
  rows of the search without pages:

      flatMap_take_drop        — pieces of one length make up the front of a list
      SearchResult.hasMore_iff — there is more behind a page when rows are left there
      searchRows_pages         — pages, counts, and what is behind each page
      searchRows_pastEnd       — pages behind the last row

  Words of 64 bits hold the place of every page that is not empty; pages behind the last row may
  wrap around, and then they need not be empty.
-/
import Mathlib.Algebra.Order.Floor.Div
import RecordSearch.Proofs.Rows.Ordered
import RecordSearch.Proofs.Search.Stages

namespace RecordSearch

variable {α : Type}

/-! ## §1. Definitions and results of a page. -/

/-- The definition without a page. -/
def SearchDefinition.unpaged (d : SearchDefinition) : SearchDefinition :=
  { d with page := none, pageSize := none }

/-- The definition for one page. -/
def SearchDefinition.onPage (d : SearchDefinition) (page size : Int64) : SearchDefinition :=
  { d with page := some page, pageSize := some size }

/-- The result with its rows cut to one page. -/
def SearchResult.onPage (r : SearchResult α) (page size : Int64) : SearchResult α :=
  { r with page := some page, pageSize := some size,
           rows := takeRows size (skipRows (page * size) r.rows) }

/-! ## §2. Pieces of a list. -/

/-- Pieces of one length, side by side. -/
theorem flatMap_take_drop (rows : List α) (size count : Nat) :
    ((List.range count).flatMap fun p => (rows.drop (p * size)).take size) =
      rows.take (count * size) := by
  induction count with
  | zero => simp
  | succ count ih =>
      rw [List.range_succ, List.flatMap_append, ih, List.flatMap_singleton, Nat.succ_mul,
        List.take_add]

/-- A page whose place does not wrap around. -/
theorem takeRows_skipRows {p : Nat} {size : Int64} (hsize : 1 ≤ size.toInt)
    (hp : p * size.toInt.toNat < 2 ^ 63) (rows : List α) :
    takeRows size (skipRows (Int64.ofNat p * size) rows) =
      (rows.drop (p * size.toInt.toNat)).take size.toInt.toNat := by
  have hsizeNat : (size.toInt.toNat : Int) = size.toInt := Int.toNat_of_nonneg (by omega)
  have hpLe : p ≤ p * size.toInt.toNat := Nat.le_mul_of_pos_right p (by omega)
  have hplace : (Int64.ofNat p * size).toInt = (p * size.toInt.toNat : Nat) := by
    rw [Int64.toInt_mul, Int64.toInt_ofNat_of_lt (by omega), Int.natCast_mul, hsizeNat]
    refine Int.bmod_eq_of_le ?_ ?_ <;> rw [← hsizeNat, ← Int.natCast_mul] <;> omega
  rw [takeRows, skipRows, hplace, Int.toNat_natCast]

/-- A page is empty when its place, wrapped around, has no row behind it.  A place that wraps around
to a negative one is that of the first row. -/
theorem takeRows_skipRows_eq_nil_iff {page size : Int64} (hsize : 0 < size.toInt) (rows : List α) :
    takeRows size (skipRows (page * size) rows) = [] ↔
      rows.length ≤ ((page.toInt * size.toInt).bmod (2 ^ 64)).toNat := by
  have hsizeNat : size.toInt.toNat ≠ 0 := by omega
  rw [takeRows, skipRows, Int64.toInt_mul, List.take_eq_nil_iff, List.drop_eq_nil_iff]
  exact or_iff_right hsizeNat

/-! ## §3. What is behind a page. -/

/-- There are rows behind a page when the pages up to it do not hold all that were found. -/
theorem SearchResult.hasMore_iff {r : SearchResult α} {page size : Int64}
    (hpage : r.page = some page) (hpageSize : r.pageSize = some size) (h : 0 ≤ page.toInt)
    (hsize : 1 ≤ size.toInt) :
    r.hasMore = true ↔ (page.toInt + 1) * size.toInt < r.filtered.toNat := by
  have hpageNat : (page.toInt.toNat : Int) = page.toInt := Int.toNat_of_nonneg h
  have hsizeNat : (size.toInt.toNat : Int) = size.toInt := Int.toNat_of_nonneg (by omega)
  have hfiltered := r.filtered.toNat_lt
  -- Counting stops at the greatest number of 64 bits, which no count is beyond.
  have hmin : min (UInt64.size - 1) ((page.toInt.toNat + 1) * size.toInt.toNat) <
      r.filtered.toNat ↔ (page.toInt.toNat + 1) * size.toInt.toNat < r.filtered.toNat := by
    have hmax : UInt64.size - 1 = 2 ^ 64 - 1 := rfl
    omega
  rw [SearchResult.hasMore, hpage, hpageSize]
  simp only [Bool.and_eq_true, decide_eq_true_eq, hmin]
  rw [← hpageNat, ← hsizeNat]
  constructor
  · rintro ⟨-, hlt⟩
    exact_mod_cast hlt
  · intro hlt
    exact ⟨⟨by omega, by omega⟩, by exact_mod_cast hlt⟩

/-! ## §4. Searches for a page. -/

variable [Searchable α] (config : SearchConfig)

/-- **A sort only moves rows.** -/
theorem orderedRows_perm {sort : Option SortCriteria} {rows sorted : List α}
    (h : orderedRows config sort rows = .ok sorted) : sorted.Perm rows := by
  cases sort with
  | none => rw [Except.ok.inj h]
  | some s =>
      obtain ⟨compiled, -, h⟩ := bind_eq_ok_iff.mp h
      cases compiled with
      | none => rw [Except.ok.inj h]
      | some clause => exact orderRows_perm h

/-- Without a page all rows that were found are fetched. -/
theorem length_fetchedRows_unpaged {d : SearchDefinition} {found fetched : List α}
    (h : fetchedRows config d.unpaged found = .ok fetched) : fetched.length = found.length := by
  unfold fetchedRows at h
  cases found with
  | nil => cases h; rfl
  | cons row found =>
      cases hsorted : orderedRows config d.sort (row :: found) with
      | error e => simp only [List.isEmpty_cons, SearchDefinition.unpaged, hsorted] at h; cases h
      | ok sorted =>
          simp only [List.isEmpty_cons, SearchDefinition.unpaged, hsorted] at h
          cases h
          exact (orderedRows_perm config hsorted).length_eq

theorem fetchedRows_onPage (d : SearchDefinition) (page size : Int64) (found : List α) :
    fetchedRows config (d.onPage page size) found =
      (fun rows => takeRows size (skipRows (page * size) rows)) <$>
        fetchedRows config d.unpaged found := by
  unfold fetchedRows
  cases found with
  | nil => exact congrArg Except.ok (by simp [takeRows, skipRows])
  | cons row found =>
      show cutRows (d.onPage page size) <$> orderedRows config d.sort (row :: found) =
        _ <$> cutRows d.unpaged <$> orderedRows config d.sort (row :: found)
      cases orderedRows config d.sort (row :: found) <;> rfl

/-- **A page is cut from the rows of the search without pages**, in success and in error. -/
theorem searchRows_onPage (d : SearchDefinition) (page size : Int64) {rows : List α}
    (hrows : rows.length < UInt64.size) :
    searchRows config (some (d.onPage page size)) rows =
      (·.onPage page size) <$> searchRows config (some d.unpaged) rows := by
  rw [searchRows_eq_stages config _ hrows, searchRows_eq_stages config _ hrows]
  simp only [Option.getD_some, map_bind]
  refine bind_congr fun kept => bind_congr fun found => ?_
  rw [fetchedRows_onPage]
  cases fetchedRows config d.unpaged found <;> rfl

/-- **Pages partition the rows of a search.**  Where the search without pages succeeds, with `n`
rows, so does the search for every page: it reports the same counts, and that there is more exactly
if the pages up to it hold fewer than `n` rows.  The pages up to the last one that is not empty
are, in turn, the rows of the search without pages. -/
theorem searchRows_pages (config : SearchConfig) (d : SearchDefinition) {rows : List α}
    (hrows : rows.length < 2 ^ 63) {r : SearchResult α}
    (h : searchRows config (some d.unpaged) rows = .ok r) {size : Int64}
    (hsize : 1 ≤ size.toInt) :
    (∀ page : Int64, 0 ≤ page.toInt →
      ∃ paged, searchRows config (some (d.onPage page size)) rows = .ok paged ∧
        paged.total = r.total ∧ paged.filtered = r.filtered ∧
        (paged.hasMore = true ↔ (page.toInt + 1) * size.toInt < r.rows.length)) ∧
    List.flatten <$> ((List.range (r.rows.length ⌈/⌉ size.toInt.toNat)).mapM fun p =>
        SearchResult.rows <$> searchRows config (some (d.onPage (Int64.ofNat p) size)) rows) =
      .ok r.rows := by
  have hcount : rows.length < UInt64.size := Nat.lt_trans hrows (by decide)
  obtain ⟨kept, found, -, -, hfetched, -, hfiltered, hfound, -⟩ :=
    exists_of_searchRows config hcount h
  have hlength := length_fetchedRows_unpaged config hfetched
  have honPage : ∀ page, searchRows config (some (d.onPage page size)) rows =
      .ok (r.onPage page size) := by
    intro page
    rw [searchRows_onPage config d page size hcount, h]
    rfl
  refine ⟨fun page hpage => ⟨_, honPage page, rfl, rfl, ?_⟩, ?_⟩
  · rw [SearchResult.hasMore_iff (r := r.onPage page size) rfl rfl hpage hsize, hlength,
      ← hfiltered]
    rfl
  · have hpages : ∀ p ∈ List.range (r.rows.length ⌈/⌉ size.toInt.toNat),
        (SearchResult.rows <$> searchRows config (some (d.onPage (Int64.ofNat p) size)) rows) =
          .ok ((r.rows.drop (p * size.toInt.toNat)).take size.toInt.toNat) := by
      intro p hp
      -- A page that is not empty starts at one of the rows.
      have hstart : p * size.toInt.toNat < 2 ^ 63 := by
        have hlt := List.mem_range.mp hp
        rw [Nat.ceilDiv_eq_add_pred_div, Nat.lt_div_iff_mul_lt (by omega)] at hlt
        omega
      rw [honPage]
      exact congrArg Except.ok (takeRows_skipRows hsize hstart r.rows)
    have hall : r.rows.length ≤ r.rows.length ⌈/⌉ size.toInt.toNat * size.toInt.toNat := by
      have hle := le_smul_ceilDiv (a := size.toInt.toNat) (b := r.rows.length) (by omega)
      rwa [smul_eq_mul, Nat.mul_comm] at hle
    rw [mapM_eq_ok hpages]
    show Except.ok _ = _
    rw [← List.flatMap_def, flatMap_take_drop, List.take_of_length_le hall]

/-- Three pages of at most two rows; one of the rows has no rank, and two of them tie. -/
theorem searchRows_pages_of_two :
    let row := fun (id : Int64) (rank : Value) =>
      ([("id", .value (.int id)), ("rank", .value rank)] : Record)
    let d : SearchDefinition := { sort := some ⟨[⟨"rank", .descending⟩]⟩ }
    let rows := [row 1 (.int 7), row 2 (.int 0), row 3 .null, row 4 (.int 9), row 5 (.int 7)]
    let all := [row 3 .null, row 4 (.int 9), row 1 (.int 7), row 5 (.int 7), row 2 (.int 0)]
    rows.length < 2 ^ 63 ∧ 1 ≤ (2 : Int64).toInt ∧
      searchRows {} (some d.unpaged) rows = .ok ⟨none, none, 5, 5, all⟩ ∧
      List.flatten <$> ((List.range 3).mapM fun p =>
        SearchResult.rows <$> searchRows {} (some (d.onPage (Int64.ofNat p) 2)) rows) = .ok all := by
  intro row d rows all
  have hrows : rows.length < 2 ^ 63 := by decide
  have hsize : 1 ≤ (2 : Int64).toInt := by decide
  have hall : searchRows {} (some d.unpaged) rows = .ok ⟨none, none, 5, 5, all⟩ := by rfl
  have hcount : all.length ⌈/⌉ (2 : Int64).toInt.toNat = 3 := by
    rw [Nat.ceilDiv_eq_add_pred_div]
    decide
  have hpages := (searchRows_pages {} d hrows hall hsize).2
  dsimp only at hpages
  rw [hcount] at hpages
  exact ⟨hrows, hsize, hall, hpages⟩

/-! ## §5. Pages behind the last row. -/

/-- **A search for a page is the search without pages, cut.** -/
theorem exists_unpaged_of_searchRows {d : SearchDefinition} {page size : Int64} {rows : List α}
    (hpage : d.page = some page) (hpageSize : d.pageSize = some size)
    (hrows : rows.length < UInt64.size) {r : SearchResult α}
    (h : searchRows config (some d) rows = .ok r) :
    ∃ all : SearchResult α, searchRows config (some d.unpaged) rows = .ok all ∧
      all.rows.length = all.filtered.toNat ∧ r = all.onPage page size := by
  have hd : d = d.onPage page size := by
    unfold SearchDefinition.onPage
    rw [← hpage, ← hpageSize]
  rw [hd, searchRows_onPage config d page size hrows] at h
  cases hall : searchRows config (some d.unpaged) rows with
  | error e =>
      rw [hall] at h
      cases h
  | ok all =>
      rw [hall] at h
      obtain ⟨kept, found, -, -, hfetched, -, hfiltered, -⟩ :=
        exists_of_searchRows config hrows hall
      exact ⟨all, rfl, (length_fetchedRows_unpaged config hfetched).trans hfiltered.symm,
        (Except.ok.inj h).symm⟩

/-- **A page behind the last row has nothing behind it**, and it is empty exactly if its place is
still behind the last row once it is wrapped around to 64 bits, as it is if it needs no
wrapping. -/
theorem searchRows_pastEnd (config : SearchConfig) {d : SearchDefinition} {page size : Int64}
    {rows : List α} (hpage : d.page = some page) (hpageSize : d.pageSize = some size)
    (hfirst : 0 ≤ page.toInt) (hsize : 0 < size.toInt) (hrows : rows.length < UInt64.size)
    {r : SearchResult α} (h : searchRows config (some d) rows = .ok r)
    (hend : (r.filtered.toNat : Int) ≤ page.toInt * size.toInt) :
    r.hasMore = false ∧
    (r.rows = [] ↔ r.filtered.toNat ≤ ((page.toInt * size.toInt).bmod (2 ^ 64)).toNat) ∧
    (page.toInt * size.toInt < 2 ^ 63 → r.rows = []) := by
  obtain ⟨all, -, hlength, rfl⟩ := exists_unpaged_of_searchRows config hpage hpageSize hrows h
  have hempty : (all.onPage page size).rows = [] ↔
      all.filtered.toNat ≤ ((page.toInt * size.toInt).bmod (2 ^ 64)).toNat := by
    rw [← hlength]
    exact takeRows_skipRows_eq_nil_iff hsize all.rows
  refine ⟨?_, hempty, fun hplace => hempty.mpr ?_⟩
  · -- The pages up to this one hold even more rows than those before it.
    rw [Bool.eq_false_iff, Ne, SearchResult.hasMore_iff rfl rfl hfirst hsize, Int.add_mul]
    omega
  · have hpositive : 0 ≤ page.toInt * size.toInt := Int.mul_nonneg hfirst (Int.le_of_lt hsize)
    rw [Int.bmod_eq_of_le (by omega) (by omega)]
    have hfiltered : (all.filtered.toNat : Int) ≤ page.toInt * size.toInt := hend
    omega

/-- The place of this page is a number of 65 bits, which is wrapped around to another one behind the
only row. -/
theorem searchRows_pastEnd_wrapped :
    let d : SearchDefinition := { page := some 4294967297, pageSize := some 4294967296 }
    let row : Record := [("x", .value (.int 1))]
    let r : SearchResult Record := ⟨some 4294967297, some 4294967296, 1, 1, []⟩
    searchRows {} (some d) [row] = .ok r ∧
      0 ≤ (4294967297 : Int64).toInt ∧ 0 < (4294967296 : Int64).toInt ∧
      [row].length < UInt64.size ∧
      (r.filtered.toNat : Int) ≤ (4294967297 : Int64).toInt * (4294967296 : Int64).toInt ∧
      r.hasMore = false ∧ r.rows = [] := by
  intro d row r
  have h : searchRows {} (some d) [row] = .ok r := by rfl
  have hend : (r.filtered.toNat : Int) ≤
      (4294967297 : Int64).toInt * (4294967296 : Int64).toInt := by decide
  have hpast := searchRows_pastEnd {} rfl rfl (by decide) (by decide) (by decide) h hend
  exact ⟨h, by decide, by decide, by decide, hend, hpast.1, hpast.2.1.mpr (by decide)⟩

/-- The place of this page is wrapped around to the first row, so the page behind the last row is not
empty. -/
theorem searchRows_pastEnd_not_empty :
    let d : SearchDefinition := { page := some 4294967296, pageSize := some 4294967296 }
    let row : Record := [("x", .value (.int 1))]
    let r : SearchResult Record := ⟨some 4294967296, some 4294967296, 1, 1, [row]⟩
    searchRows {} (some d) [row] = .ok r ∧
      0 ≤ (4294967296 : Int64).toInt ∧ 0 < (4294967296 : Int64).toInt ∧
      (r.filtered.toNat : Int) ≤ (4294967296 : Int64).toInt * (4294967296 : Int64).toInt ∧
      r.rows ≠ [] := by
  intro d row r
  have h : searchRows {} (some d) [row] = .ok r := by rfl
  exact ⟨h, by decide, by decide, by decide, by simp [r]⟩

end RecordSearch
