/-
  RecordSearch.Proofs.Declaration.RoundTrip
  ─────────────────────────────────────────
  **Which accessors lead back to their fields.**

  The code of a field carries its path twice, in the constant that gives access to it and in the
  arm that finds its member.  An accessor leads back to its field (`ShownRecord.RoundTrips`) if its
  path can be written in predicates and is found there, on every instance, as the member of that
  field:

      ShownRecord.roundTrips_iff     — it does exactly when the path is one name, and no field
                                       before has it
      roundTrips_iff_of_readItem     — the same of the fields of a declaration
      not_roundTrips_of_not_isName   — declarations that are accepted although an accessor leads
                                       nowhere

  A new name is asked to be a text that is not empty, and nothing more.
-/
import RecordSearch.Declaration.Accessors
import RecordSearch.Proofs.Criteria.Evaluated
import RecordSearch.Proofs.Declaration.Entries
import RecordSearch.Proofs.Declaration.Literal

namespace RecordSearch.Declaration

open Code

/-! ## §1. Instances. -/

/-- The path that an accessor is made with: the last text in its constant. -/
def accessorPath? (constant : List Code.Token) : Option String :=
  (constant.filterMap textValue?).getLast?

/-- The name for which an arm finds a member. -/
def armName? (arm : List Code.Token) : Option String := arm.head?.bind textValue?

/-- What a field of some shape shows: the value that it becomes, the record in it or null, or the
records in it. -/
inductive Shape.Holds : Shape → Member → Prop where
  | value (v : Value) : Holds .value (.value v)
  | record (target : List Code.Token) (isOptional : Bool) (r : Record) :
      Holds (.nested target isOptional) (.record r)
  | absent (target : List Code.Token) : Holds (.nested target true) (.value .null)
  | records (element : List Code.Token) (rs : List Record) :
      Holds (.collection element) (.records rs)

namespace ShownRecord

/-- An instance of a declared record, as far as it is shown. -/
structure Instance (r : ShownRecord) where
  member : Fin r.fields.length → Member
  fits : ∀ i, (r.fields.get i).shape.Holds (member i)

/-- **The record that an instance shows**: its arms are tried in order. -/
def Instance.record {r : ShownRecord} (x : r.Instance) : Record :=
  (List.finRange r.fields.length).filterMap fun i =>
    (armName? (r.fields.get i).arm).map fun name => (name, x.member i)

/-- **The accessor of a field leads back to it**: its path compiles, the text is read as that path,
and what the path finds on an instance is the member of the field. -/
def RoundTrips (r : ShownRecord) (i : Fin r.fields.length) : Prop :=
  ∃ path text e, accessorPath? (r.fields.get i).constant = some path ∧
    (default : Dialect).renderPath .filter path = .ok text ∧
    parsePredicate text = .ok e ∧ e = .ofPath path ∧
    ∀ (x : r.Instance) (values : List Value), e.eval values x.record = .ok (x.member i)

end ShownRecord

/-! ## §2. What the code carries. -/

theorem accessorPath?_constant (f : ShownField) : accessorPath? f.constant = some f.path := by
  have hmark (c : Char) : textValue? (.mark c) = none := rfl
  rw [accessorPath?, ShownField.constant]
  simp only [parenthesized, enclosed, List.filterMap_append, List.filterMap_cons, hmark,
    textValue?_textLiteral, List.filterMap_nil, List.append_nil, List.getLast?_append,
    List.getLast?_singleton, Option.some_or, Option.or_some, Option.getD_some]

theorem armName?_arm (f : ShownField) : armName? f.arm = some f.path :=
  textValue?_textLiteral f.path

/-- In a table of numbered entries, the first one with a name is found. -/
theorem lookup_finRange_eq_some {α : Type} {n : Nat} (key : Fin n → String) (entry : Fin n → α)
    {name : String} {a : α} :
    ((List.finRange n).map fun i => (key i, entry i)).lookup name = some a ↔
      ∃ i, key i = name ∧ (∀ j < i, key j ≠ name) ∧ entry i = a := by
  induction n with
  | zero => exact ⟨fun h => (nomatch h), fun ⟨i, _⟩ => i.elim0⟩
  | succ n ih =>
      rw [List.finRange_succ, List.map_cons, List.map_map, List.lookup_cons]
      by_cases h : key 0 = name
      · rw [h, beq_self_eq_true]
        constructor
        · intro hentry
          exact ⟨0, h, fun j hj => absurd hj (Fin.not_lt_zero j), Option.some.inj hentry⟩
        · rintro ⟨i, -, hfirst, rfl⟩
          obtain rfl : i = 0 := by
            by_contra hne
            exact hfirst 0 (Fin.pos_iff_ne_zero.mpr hne) h
          rfl
      · rw [beq_eq_false_iff_ne.mpr (Ne.symm h)]
        refine (ih (key ∘ Fin.succ) (entry ∘ Fin.succ)).trans ⟨?_, ?_⟩
        · rintro ⟨i, hname, hfirst, hentry⟩
          refine ⟨i.succ, hname, fun j hj => ?_, hentry⟩
          cases j using Fin.cases with
          | zero => exact h
          | succ j => exact hfirst j (Fin.succ_lt_succ_iff.mp hj)
        · rintro ⟨i, hname, hfirst, hentry⟩
          cases i using Fin.cases with
          | zero => exact absurd hname h
          | succ i =>
              exact ⟨i, hname, fun j hj => hfirst j.succ (Fin.succ_lt_succ_iff.mpr hj), hentry⟩

variable {r : ShownRecord}

namespace ShownRecord

theorem Instance.record_eq (x : r.Instance) :
    x.record =
      (List.finRange r.fields.length).map fun i => ((r.fields.get i).path, x.member i) := by
  simp only [Instance.record, armName?_arm, Option.map_some]
  exact congrFun List.filterMap_eq_map _

/-- **The first field with a name is found under it.** -/
theorem Instance.member?_record_eq_some {x : r.Instance} {name : String} {m : Member} :
    Record.member? x.record name = some m ↔
      ∃ i, (r.fields.get i).path = name ∧ (∀ j < i, (r.fields.get j).path ≠ name) ∧
        x.member i = m := by
  rw [Record.member?, x.record_eq]
  exact lookup_finRange_eq_some _ _

end ShownRecord

/-! ## §3. Names and paths. -/

/-- A name has no dot in it, so as a path it is its own only segment. -/
theorem pathNames_of_isName {path : String} (h : isName path.toList = true) :
    IsPath path ∧ pathNames path = [path] := by
  have hdot : '.' ∉ path.toList := by
    intro hmem
    cases hchars : path.toList with
    | nil => rw [hchars] at hmem; exact absurd hmem List.not_mem_nil
    | cons c cs =>
        rw [hchars] at h hmem
        obtain ⟨hstart, hparts⟩ := isName_cons.mp h
        rcases List.mem_cons.mp hmem with rfl | hmem
        · exact absurd hstart (by decide)
        · exact absurd (hparts _ hmem) (by decide)
  have hsegments : Dialect.segments path = [path.toList] := by
    have hsplit : (['.'].intercalate [path.toList]).splitOn '.' = [path.toList] :=
      List.splitOn_intercalate '.' (fun l hl => List.mem_singleton.mp hl ▸ hdot)
        (List.cons_ne_nil _ _)
    rwa [List.intercalate_singleton] at hsplit
  refine ⟨fun segment hmem => ?_, ?_⟩
  · rw [hsegments, List.mem_singleton] at hmem
    rwa [hmem]
  · rw [pathNames, hsegments, List.map_singleton, String.ofList_toList]

/-! ## §4. Accessors that lead back. -/

/-- A member for a shape: the empty one has nothing that a path could go on to, the marked one
differs from every empty one. -/
def Shape.sample (marked : Bool) : Shape → Member
  | .value => .value (if marked then .bool true else .null)
  | .nested _ _ => .record (if marked then [("", .value .null)] else [])
  | .collection _ => .records (if marked then [[]] else [])

theorem Shape.holds_sample (s : Shape) (marked : Bool) : s.Holds (s.sample marked) := by
  cases s with
  | value => exact .value _
  | nested target isOptional => exact .record target isOptional _
  | collection element => exact .records element _

theorem Shape.sample_ne (s t : Shape) : s.sample false ≠ t.sample true := by
  cases s <;> cases t <;> simp [Shape.sample]

theorem Shape.sample_ne_null (s : Shape) : s.sample true ≠ .value .null := by
  cases s <;> simp [Shape.sample]

/-- Whatever lies further down a path from a sample is null. -/
theorem Shape.follow_sample {s : Shape} {marked : Bool} {path n : String} {ns : List String}
    {m : Member} (h : (s.sample marked).follow path (n :: ns) = .ok m) : m = .value .null := by
  have hnull : ∀ {path' : String}, (Member.value .null).follow path' ns = .ok m →
      m = .value .null := by
    intro path' hm
    cases ns <;> exact (Except.ok.inj hm).symm
  rw [Member.follow_cons] at h
  cases s with
  | value =>
      cases marked with
      | false => exact hnull h
      | true => cases h
  | collection element => cases h
  | nested target isOptional =>
      cases marked with
      | false => cases h
      | true =>
          by_cases hn : n = ""
          · subst hn
            exact hnull h
          · have hnone : Record.member? [("", .value .null)] n = none := by
              rw [Record.member?, List.lookup_cons, beq_eq_false_iff_ne.mpr hn]
              rfl
            change (Record.resolve [("", .value .null)] n _).bind _ = _ at h
            rw [Record.resolve, hnone] at h
            cases h

namespace ShownRecord

/-- An instance on which the member of one field stands out. -/
def marking (r : ShownRecord) (i : Fin r.fields.length) : r.Instance where
  member j := (r.fields.get j).shape.sample (j = i)
  fits _ := Shape.holds_sample _ _

theorem marking_member_self (i : Fin r.fields.length) :
    (r.marking i).member i = (r.fields.get i).shape.sample true :=
  congrArg (Shape.sample · _) (decide_eq_true rfl)

theorem marking_member_of_ne {i j : Fin r.fields.length} (h : j ≠ i) :
    (r.marking i).member j = (r.fields.get j).shape.sample false :=
  congrArg (Shape.sample · _) (decide_eq_false h)

/-- A path that finds the member that stands out is the name of its field, and of none before. -/
theorem follow_marking {i : Fin r.fields.length} {path : String}
    (h : (r.marking i).record.follow path = .ok ((r.marking i).member i)) :
    pathNames path = [(r.fields.get i).path] ∧
      ∀ j < i, (r.fields.get j).path ≠ (r.fields.get i).path := by
  rw [marking_member_self] at h
  unfold Record.follow at h
  cases hnames : pathNames path with
  | nil =>
      rw [hnames] at h
      exact absurd (Except.ok.inj h).symm (Shape.sample_ne_null _)
  | cons n ns =>
      rw [hnames] at h
      dsimp only at h
      cases hmember : Record.member? (r.marking i).record n with
      | none =>
          rw [hmember] at h
          cases h
      | some m =>
          rw [hmember] at h
          obtain ⟨j, rfl, hfirst, rfl⟩ := Instance.member?_record_eq_some.mp hmember
          cases ns with
          | cons n' ns => exact absurd (Shape.follow_sample h) (Shape.sample_ne_null _)
          | nil =>
              -- The members of all other fields are unlike the one that stands out.
              by_cases hj : j = i
              · subst hj
                exact ⟨rfl, hfirst⟩
              · exact absurd (marking_member_of_ne hj ▸ Except.ok.inj h) (Shape.sample_ne _ _)

/-- **An accessor leads back to its field exactly when its path is one name and no field before has
it.** -/
theorem roundTrips_iff {i : Fin r.fields.length} :
    r.RoundTrips i ↔ isName (r.fields.get i).path.toList = true ∧
      ∀ j < i, (r.fields.get j).path ≠ (r.fields.get i).path := by
  unfold RoundTrips
  constructor
  · rintro ⟨path, text, e, hpath, htext, -, rfl, heval⟩
    obtain rfl : (r.fields.get i).path = path :=
      Option.some.inj ((accessorPath?_constant _).symm.trans hpath)
    have hfound := heval (r.marking i) []
    rw [Expr.eval_ofPath] at hfound
    obtain ⟨hnames, hfirst⟩ := follow_marking hfound
    have hisPath := Dialect.isPath_of_renderPath htext
    exact ⟨isName_of_mem_pathNames hisPath (hnames ▸ List.mem_singleton_self _), hfirst⟩
  · rintro ⟨hname, hfirst⟩
    obtain ⟨hpath, hnames⟩ := pathNames_of_isName hname
    refine ⟨_, _, _, accessorPath?_constant _, Dialect.renderPath_of_isPath _ .filter hpath,
      ((writtenPath_ofPath [] hpath).written.weaken (show 1 ≤ 6 by decide)).parsePredicate, rfl,
      fun x values => ?_⟩
    have hmember : Record.member? x.record (r.fields.get i).path = some (x.member i) :=
      Instance.member?_record_eq_some.mpr ⟨i, rfl, hfirst, rfl⟩
    rw [Expr.eval_ofPath, Record.follow, hnames]
    dsimp only
    rw [hmember]
    rfl

end ShownRecord

/-! ## §5. Accessors of declared fields. -/

theorem readFields_append (before after : List FieldSource) :
    readFields (before ++ after) = (do return (← readFields before) ++ (← readFields after)) := by
  simp only [readFields, List.mapM_append, bind_assoc, pure_bind, List.filterMap_append]

theorem readFields_cons (f : FieldSource) (after : List FieldSource) :
    readFields (f :: after) = (do return (← readField f).toList ++ (← readFields after)) := by
  simp only [readFields, List.mapM_cons, bind_assoc, pure_bind]
  refine bind_congr fun s => bind_congr fun ys => ?_
  cases s <;> rfl

/-- A result made of two results: both were there. -/
theorem exists_of_both {ε α β γ : Type} {a : Except ε α} {b : Except ε β} {g : α → β → γ} {c : γ}
    (h : (do return g (← a) (← b)) = Except.ok c) : ∃ x y, a = .ok x ∧ b = .ok y ∧ c = g x y := by
  cases a with
  | error e => cases h
  | ok x =>
      cases b with
      | error e => cases h
      | ok y => exact ⟨x, y, rfl, rfl, (Except.ok.inj h).symm⟩

theorem exists_of_readFields_append {before after : List FieldSource} {shown : List ShownField}
    (h : readFields (before ++ after) = .ok shown) :
    ∃ front rest, readFields before = .ok front ∧ readFields after = .ok rest ∧
      shown = front ++ rest :=
  exists_of_both ((readFields_append before after).symm.trans h)

theorem exists_of_readFields_cons {f : FieldSource} {after : List FieldSource}
    {shown : List ShownField} (h : readFields (f :: after) = .ok shown) :
    ∃ s rest, readField f = .ok s ∧ readFields after = .ok rest ∧ shown = s.toList ++ rest :=
  exists_of_both ((readFields_cons f after).symm.trans h)

/-- What is shown are the fields, one by one. -/
theorem mem_of_readFields {fs : List FieldSource} {shown : List ShownField}
    (h : readFields fs = .ok shown) {g : ShownField} :
    g ∈ shown ↔ ∃ f ∈ fs, readField f = .ok (some g) := by
  induction fs generalizing shown with
  | nil =>
      obtain rfl := Except.ok.inj h
      simp
  | cons f fs ih =>
      obtain ⟨s, rest, hs, hrest, rfl⟩ := exists_of_readFields_cons h
      simp [ih hrest, hs]

theorem exists_ok_of_readFields {fs : List FieldSource} {shown : List ShownField}
    (h : readFields fs = .ok shown) : ∀ f ∈ fs, ∃ s, readField f = .ok s := by
  intro f hf
  obtain ⟨before, after, rfl⟩ := List.append_of_mem hf
  obtain ⟨_, _, -, hrest, -⟩ := exists_of_readFields_append h
  obtain ⟨s, _, hs, -⟩ := exists_of_readFields_cons hrest
  exact ⟨s, hs⟩

/-- **A field is left out if it is marked so**; otherwise it is shown under its own name or its new
one, in the shape that its options and its type tell. -/
theorem exists_of_readField {f : FieldSource} {s : Option ShownField} (h : readField f = .ok s) :
    ∃ o, readOptions f = .ok o ∧ (o.skip = true ∧ s = none ∨
      o.skip = false ∧ ∃ shape, shapeOf o f.type = .ok shape ∧
        s = some ⟨f.name, o.path, f.type, shape⟩) := by
  unfold readField at h
  cases ho : readOptions f with
  | error fault =>
      rw [ho] at h
      cases h
  | ok o =>
      rw [ho] at h
      change (if o.skip then .ok none else (shapeOf o f.type).bind fun shape =>
        .ok (some (ShownField.mk f.name o.path f.type shape))) = Except.ok s at h
      refine ⟨o, rfl, ?_⟩
      cases hskip : o.skip with
      | true =>
          rw [hskip, if_pos rfl] at h
          exact Or.inl ⟨rfl, (Except.ok.inj h).symm⟩
      | false =>
          rw [hskip, if_neg Bool.false_ne_true] at h
          cases hshape : shapeOf o f.type with
          | error fault =>
              rw [hshape] at h
              cases h
          | ok shape =>
              rw [hshape] at h
              exact Or.inr ⟨rfl, shape, rfl, (Except.ok.inj h).symm⟩

theorem exists_of_readItem {item : Item} (h : readItem item = .ok r) :
    ∃ shown, readFields item.fields = .ok shown ∧
      r = ⟨item.name, item.generics, item.whereClause, shown⟩ := by
  unfold readItem at h
  split at h
  · cases h
  · split at h
    · cases hfields : readFields item.fields with
      | error fault =>
          rw [hfields] at h
          cases h
      | ok shown =>
          rw [hfields] at h
          exact ⟨shown, rfl, (Except.ok.inj h).symm⟩
    all_goals cases h

theorem readFields_of_readItem {item : Item} (h : readItem item = .ok r) :
    readFields item.fields = .ok r.fields := by
  obtain ⟨shown, hshown, rfl⟩ := exists_of_readItem h
  exact hshown

theorem readItem_of_readFields {item : Item} {shown : List ShownField}
    (hform : item.form = .struct) (hours : item.attributes.any Attribute.isOurs = false)
    (h : readFields item.fields = .ok shown) :
    readItem item = .ok ⟨item.name, item.generics, item.whereClause, shown⟩ := by
  rw [readItem, hours, hform, h]
  rfl

/-- A field that is not left out is shown. -/
theorem exists_shown {f : FieldSource} {s : Option ShownField} {o : Options}
    (h : readField f = .ok s) (ho : readOptions f = .ok o) (hskip : o.skip = false) :
    ∃ g, s = some g ∧ g.path = o.path := by
  obtain ⟨o', ho', hcase⟩ := exists_of_readField h
  obtain rfl := Except.ok.inj (ho.symm.trans ho')
  rcases hcase with ⟨hskip', -⟩ | ⟨-, shape, -, rfl⟩
  · rw [hskip] at hskip'
    cases hskip'
  · exact ⟨_, rfl, rfl⟩

/-- No field before has a path exactly when none is shown under it. -/
theorem forall_path_ne {before : List FieldSource} {shown : List ShownField}
    (h : readFields before = .ok shown) {path : String} :
    (∀ g ∈ shown, g.path ≠ path) ↔
      ∀ f ∈ before, ∀ o, readOptions f = .ok o → o.skip = false → o.path ≠ path := by
  constructor
  · intro hne f hf o ho hskip
    obtain ⟨s, hread⟩ := exists_ok_of_readFields h f hf
    obtain ⟨g, rfl, hpath⟩ := exists_shown hread ho hskip
    exact hpath ▸ hne g ((mem_of_readFields h).mpr ⟨f, hf, hread⟩)
  · intro hne g hg
    obtain ⟨f, hf, hread⟩ := (mem_of_readFields h).mp hg
    obtain ⟨o, ho, hcase⟩ := exists_of_readField hread
    rcases hcase with ⟨-, hnone⟩ | ⟨hskip, shape, -, hsome⟩
    · cases hnone
    · obtain rfl := Option.some.inj hsome
      exact hne f hf o ho hskip

theorem forall_mem_take {α : Type} (l : List α) (i : Fin l.length) (p : α → Prop) :
    (∀ a ∈ l.take i, p a) ↔ ∀ j < i, p (l.get j) := by
  simp only [List.mem_take_iff_getElem]
  constructor
  · intro h j hj
    exact h _ ⟨j, Nat.lt_min.mpr ⟨hj, j.isLt⟩, rfl⟩
  · rintro h _ ⟨j, hj, rfl⟩
    obtain ⟨hj, hlength⟩ := Nat.lt_min.mp hj
    exact h ⟨j, hlength⟩ hj

/-- **The accessors of accepted declarations.**  Each field that is not left out is shown, and its
accessor leads back to it exactly when its path, its own name or its new one, is one name and no
field before is shown under it. -/
theorem roundTrips_iff_of_readItem {item : Item} (h : readItem item = .ok r)
    {before after : List FieldSource} {f : FieldSource}
    (hfields : item.fields = before ++ f :: after) {o : Options} (ho : readOptions f = .ok o)
    (hskip : o.skip = false) :
    ∃ i : Fin r.fields.length, readFields before = .ok (r.fields.take i) ∧
      readField f = .ok (some (r.fields.get i)) ∧
      (r.RoundTrips i ↔ isName o.path.toList = true ∧
        ∀ g ∈ before, ∀ o', readOptions g = .ok o' → o'.skip = false → o'.path ≠ o.path) := by
  have hshown := readFields_of_readItem h
  rw [hfields] at hshown
  obtain ⟨front, rest, hfront, hrest, hsplit⟩ := exists_of_readFields_append hshown
  obtain ⟨s, rest, hs, -, rfl⟩ := exists_of_readFields_cons hrest
  obtain ⟨g, rfl, hpath⟩ := exists_shown hs ho hskip
  have hlength : front.length < r.fields.length := by
    rw [hsplit, List.length_append, Option.toList_some, List.length_append, List.length_singleton]
    omega
  have htake : r.fields.take front.length = front := by
    rw [hsplit, List.take_left]
  have hget : r.fields.get ⟨front.length, hlength⟩ = g := by
    simp [hsplit]
  refine ⟨⟨front.length, hlength⟩, by rw [htake, hfront], by rw [hget, hs], ?_⟩
  have hbefore := forall_mem_take r.fields ⟨front.length, hlength⟩ (·.path ≠ o.path)
  dsimp only at hbefore
  rw [htake] at hbefore
  rw [ShownRecord.roundTrips_iff, hget, hpath, ← hbefore, forall_path_ne hfront]

/-- The attribute that gives a field a new name. -/
def renamedTo (path : String) : Attribute :=
  ⟨[.name "sieve"], .list [.name "rename", .mark '=', textLiteral path]⟩

/-- The field that is left out, and one with a raw name. -/
def meetingStart : List FieldSource := [
  { name := "draft", type := [.name "bool"],
    attributes := [⟨[.name "sieve"], .list [.name "skip"]⟩] },
  { name := "r#type", type := [.name "i64"] }]

/-- The field whose new name is reserved. -/
def meetingTime : FieldSource :=
  { name := "when", type := [.name "Instant"], attributes := [renamedTo "DateTime"] }

/-- The field with the reserved name has an accessor that leads back. -/
theorem roundTrips_iff_of_readItem_reserved :
    ∃ (r : ShownRecord) (i : Fin r.fields.length),
      readItem { name := "Meeting", fields := meetingStart ++ [meetingTime] } = .ok r ∧
      (r.fields.get i).path = "DateTime" ∧ r.RoundTrips i := by
  have hread : readItem { name := "Meeting", fields := meetingStart ++ [meetingTime] } =
      .ok ⟨"Meeting", [], [], [⟨"r#type", "type", [.name "i64"], .value⟩,
        ⟨"when", "DateTime", [.name "Instant"], .value⟩]⟩ := rfl
  have hstart : readFields meetingStart = .ok [⟨"r#type", "type", [.name "i64"], .value⟩] := rfl
  have hoptions : readOptions meetingTime = .ok { path := "DateTime" } := rfl
  have hshown : readField meetingTime =
      .ok (some ⟨"when", "DateTime", [.name "Instant"], .value⟩) := rfl
  obtain ⟨i, -, hfield, hiff⟩ := roundTrips_iff_of_readItem hread rfl hoptions rfl
  have hget := Option.some.inj (Except.ok.inj (hfield.symm.trans hshown))
  refine ⟨_, i, hread, congrArg ShownField.path hget, hiff.mpr ⟨by decide, ?_⟩⟩
  exact (forall_path_ne hstart).mp (by simp)

theorem readAttribute_rename {t : Code.Token} {path : String} (ht : textValue? t = some path)
    (hne : path ≠ "") (o : Options) :
    readAttribute o ⟨[.name "sieve"], .list [.name "rename", .mark '=', t]⟩ =
      .ok { o with path := path } := by
  have hread : (Entry.rename t path ht).read o = .ok { o with path := path } := by
    rw [Entry.read, Entry.fault?, if_neg hne]
    rfl
  rw [readAttribute_of_listed rfl rfl (.single (.rename t path ht)), List.foldlM_cons, hread]
  rfl

/-- A record whose one field has a new name. -/
def labelled (path : String) : Item where
  name := "Labelled"
  fields := [{ name := "label", type := [.name "i64"], attributes := [renamedTo path] }]

/-- **Every text but the empty one is accepted as a new name**, and if it is no name, the accessor
does not lead back. -/
theorem not_roundTrips_of_not_isName {path : String} (hne : path ≠ "")
    (hname : isName path.toList = false) :
    ∃ r, readItem (labelled path) = .ok r ∧ ∃ i : Fin r.fields.length,
      (r.fields.get i).path = path ∧ ¬ r.RoundTrips i := by
  have hread : readFields (labelled path).fields =
      .ok [⟨"label", path, [.name "i64"], .value⟩] := by
    rw [labelled, readFields_cons, readField, readOptions, List.foldlM_cons, renamedTo,
      readAttribute_rename (textValue?_textLiteral path) hne]
    rfl
  refine ⟨⟨"Labelled", [], [], [⟨"label", path, [.name "i64"], .value⟩]⟩, ?_,
    ⟨0, Nat.one_pos⟩, rfl, ?_⟩
  · exact readItem_of_readFields rfl rfl hread
  · intro h
    have hisName : isName path.toList = true := (ShownRecord.roundTrips_iff.mp h).1
    rw [hname] at hisName
    cases hisName

/-- A dotted name is accepted, but nothing is found under its first segment. -/
theorem not_roundTrips_dotted :
    ∃ r, readItem (labelled "a.b") = .ok r ∧ ∃ i : Fin r.fields.length,
      (r.fields.get i).path = "a.b" ∧ ¬ r.RoundTrips i :=
  not_roundTrips_of_not_isName (by decide) (by decide)

end RecordSearch.Declaration
