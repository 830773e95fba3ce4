/-
  RecordSearch.Proofs.Criteria.Identifiers
  ────────────────────────────────────────
  **One language of names.**

  A dialect checks the names of paths before it writes them, and the grammar of predicates has names
  of its own.  Both are the regular language `identifiers`: a segment is written exactly if it
  belongs to it, a text behind the escape mark is a bare name exactly if it does, and so does every
  name in a tree that has been read.

  Since the segments of a path are checked one by one, two paths with a dot between them are a path
  exactly if both are, and are written with a dot between them.

      parsePredicate_escaped      — a name behind the escape mark is that bare name
      Dialect.renderPath_joined   — two paths with a dot between them
      identifiers_agree           — the names of paths, of the grammar and of trees
-/
import RecordSearch.Proofs.Criteria.Faults
import RecordSearch.Proofs.Expr.NamesRead

namespace RecordSearch

/-! ## §1. Bare names. -/

/-- **A name behind the escape mark is that bare name**, keyword or not. -/
theorem parsePredicate_escaped {n : String} (h : isName n.toList = true) :
    parsePredicate ("@" ++ n) = .ok (.name n) := by
  have hlexes := lexes_escaped h
  rw [String.ofList_toList] at hlexes
  have htext : ("@" ++ n).toList = escapeMark :: n.toList := by simp [escapeMark]
  apply Written.parsePredicate
  refine ⟨[.escaped n], Phrase.weaken (.operand rfl) (by decide), ?_⟩
  rwa [htext]

/-! ## §2. Joined paths. -/

/-- A dot between two paths parts their segments. -/
theorem Dialect.segments_joined (p q : String) :
    Dialect.segments (p ++ "." ++ q) = Dialect.segments p ++ Dialect.segments q := by
  have htext : (p ++ "." ++ q).toList = p.toList ++ '.' :: q.toList := by simp
  rw [Dialect.segments, htext]
  exact List.splitOn_append_cons_self p.toList q.toList

theorem isPath_joined_iff {p q : String} : IsPath (p ++ "." ++ q) ↔ IsPath p ∧ IsPath q := by
  unfold IsPath
  rw [Dialect.segments_joined]
  exact List.forall_mem_append

theorem Dialect.pathText_joined (d : Dialect) (p q : String) :
    d.pathText (p ++ "." ++ q) = d.pathText p ++ "." ++ d.pathText q := by
  have hne : ∀ path, (pathNames path).map d.escape ≠ [] := by
    intro path h
    exact pathNames_ne_nil path (List.map_eq_nil_iff.mp h)
  have hnames : pathNames (p ++ "." ++ q) = pathNames p ++ pathNames q := by
    rw [pathNames, Dialect.segments_joined, List.map_append]
    rfl
  rw [pathText, hnames, List.map_append]
  exact String.intercalate_append_of_ne_nil (hne p) (hne q)

/-- The text of a path is there exactly if all its segments are names. -/
theorem Dialect.renderPath_eq_ok_iff {d : Dialect} {context : PathContext} {path text : String} :
    d.renderPath context path = .ok text ↔ IsPath path ∧ text = d.pathText path := by
  constructor
  · intro h
    have hpath := d.isPath_of_renderPath h
    rw [d.renderPath_of_isPath context hpath] at h
    exact ⟨hpath, (Except.ok.inj h).symm⟩
  · rintro ⟨hpath, rfl⟩
    exact d.renderPath_of_isPath context hpath

/-- **Two paths with a dot between them** are written if both are, with a dot between their
texts. -/
theorem Dialect.renderPath_joined (d : Dialect) (context : PathContext) (p q text : String) :
    d.renderPath context (p ++ "." ++ q) = .ok text ↔
      ∃ first second, d.renderPath context p = .ok first ∧ d.renderPath context q = .ok second ∧
        text = first ++ "." ++ second := by
  simp only [Dialect.renderPath_eq_ok_iff]
  rw [isPath_joined_iff, d.pathText_joined]
  constructor
  · rintro ⟨⟨hp, hq⟩, rfl⟩
    exact ⟨_, _, ⟨hp, rfl⟩, ⟨hq, rfl⟩, rfl⟩
  · rintro ⟨_, _, ⟨hp, rfl⟩, ⟨hq, rfl⟩, rfl⟩
    exact ⟨⟨hp, hq⟩, rfl⟩

/-! ## §3. Names. -/

/-- **Dialects and the grammar have the same names.**  A segment of a path is written exactly if it
is one of the `identifiers`, and a text behind the escape mark is that bare name exactly if it is
one.  Every member and method name in what is read is one of them, and two paths with a dot
between them are written exactly if both are. -/
theorem identifiers_agree (d : Dialect) (context : PathContext) (name text p q : String) :
    (name.toList ∈ identifiers ↔ parsePredicate ("@" ++ name) = .ok (.name name)) ∧
    (∀ path, name.toList ∈ identifiers ↔
      ∃ written, d.renderSegment context path name.toList = .ok written) ∧
    (∀ e, parsePredicate text = .ok e → ∀ n ∈ e.names, n.toList ∈ identifiers) ∧
    (∀ keys, parseOrdering text = .ok keys →
      ∀ key ∈ keys, ∀ n ∈ key.expr.names, n.toList ∈ identifiers) ∧
    (∀ written, d.renderPath context (p ++ "." ++ q) = .ok written ↔
      ∃ first second, d.renderPath context p = .ok first ∧ d.renderPath context q = .ok second ∧
        written = first ++ "." ++ second) := by
  simp only [mem_identifiers_iff]
  refine ⟨⟨parsePredicate_escaped, ?_⟩, ?_, ?_, ?_, d.renderPath_joined context p q⟩
  · intro h
    -- The bare name is the one name in its own tree.
    exact isName_of_mem_wordsOf ((names_of_parsePredicate h).subset (by simp [Expr.names]))
  · intro path
    exact Dialect.exists_renderSegment_iff.symm
  · intro e h n hn
    exact isName_of_mem_wordsOf ((names_of_parsePredicate h).subset hn)
  · intro keys h key hkey n hn
    have hmem : n ∈ namesOfKeys keys := List.mem_flatMap.mpr ⟨key, hkey, hn⟩
    exact isName_of_mem_wordsOf ((names_of_parseOrdering h).subset hmem)

/-- A letter beyond ASCII, and keywords as names: behind the escape mark, behind a dot and as a
method. -/
theorem identifiers_agree_keywords :
    parsePredicate "größe.@In.and(b2.Null(), \"c-d\") ?? @0" = .ok
      (.coalesce (.call (.member (.name "größe") "In") "and"
        [.call (.name "b2") "Null" [], .literal (.text "c-d")]) (.parameter 0)) ∧
    (∀ n ∈ ["größe", "In", "and", "b2", "Null"], n.toList ∈ identifiers) ∧
    parseOrdering "@asc DESC, größe.not" = .ok
      [⟨.name "asc", .descending⟩, ⟨.member (.name "größe") "not", .ascending⟩] ∧
    (∀ n ∈ ["asc", "größe", "not"], n.toList ∈ identifiers) ∧
    parsePredicate "@Null" = .ok (.name "Null") ∧
    parsePredicate "@b2 " ≠ .ok (.name "b2 ") ∧
    (Dialect.ofWords ["B2"]).renderPath .sort "a.Null.b2" = .ok "a.@Null.@b2" := by
  have hpredicate : parsePredicate "größe.@In.and(b2.Null(), \"c-d\") ?? @0" = .ok
      (.coalesce (.call (.member (.name "größe") "In") "and"
        [.call (.name "b2") "Null" [], .literal (.text "c-d")]) (.parameter 0)) := rfl
  have hordering : parseOrdering "@asc DESC, größe.not" = .ok
      [⟨.name "asc", .descending⟩, ⟨.member (.name "größe") "not", .ascending⟩] := rfl
  obtain ⟨hnull, -, hnames, -, hpath⟩ := identifiers_agree (.ofWords ["B2"]) .sort "Null"
    "größe.@In.and(b2.Null(), \"c-d\") ?? @0" "a.Null" "b2"
  obtain ⟨hblank, -, -, hkeys, -⟩ := identifiers_agree (.ofWords []) .filter "b2 "
    "@asc DESC, größe.not" "" ""
  refine ⟨hpredicate, hnames _ hpredicate, hordering, ?_, ?_, ?_, ?_⟩
  · obtain ⟨hfirst, hsecond⟩ := List.forall_mem_cons.mp (hkeys _ hordering)
    show ∀ n ∈ ["asc"] ++ ["größe", "not"], n.toList ∈ identifiers
    exact List.forall_mem_append.mpr ⟨hfirst, hsecond _ (List.mem_singleton_self _)⟩
  · exact hnull.mp (mem_identifiers_iff.mpr (by decide))
  · intro h
    exact absurd (mem_identifiers_iff.mp (hblank.mpr h)) (by decide)
  · exact (hpath _).mpr ⟨"a.@Null", "@b2", by decide, by decide, by decide⟩

end RecordSearch
