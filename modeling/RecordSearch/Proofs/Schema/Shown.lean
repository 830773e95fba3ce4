/-
  RecordSearch.Proofs.Schema.Shown
  ────────────────────────────────
  **What the records of a schema look like.**

  A schema says what a record shows under each name (`Schema.Shows`): a scalar of one kind or null,
  a nested record or null, or a collection.  It also says where paths lead (`Schema.follow?`,
  `Schema.inside?`).

      Schema.shows_of_readRecord?  — stored records that can be read show their schema
      Schema.Shows.follow          — a path leads, in such a record, where it leads in the schema,
                                     or ends early in null
-/
import RecordSearch.Proofs.Criteria.Meaning
import RecordSearch.Schema

namespace RecordSearch

/-! ## §1. Members of a schema. -/

/-- The kind of the values of a scalar type. -/
def ScalarType.valueKind : ScalarType → Kind
  | .signed _ | .unsigned _ | .single | .double => .number
  | .bool => .bool
  | .text => .text
  | .uuid => .uuid
  | .dateTime => .dateTime
  | .date => .date

def FieldType.isSkipped : FieldType → Bool
  | .skipped => true
  | _ => false

/-- What a record of the schema has under a name.  Skipped fields have no member, and of two
fields with one name the first counts. -/
def Schema.member? (s : Schema) (n : String) : Option FieldType :=
  (s.find? fun field => field.2.1 = n && !field.2.2.isSkipped).map (·.2.2)

mutual

/-- The member is one for a field of the type.  Scalars and nested records can be absent. -/
inductive FieldType.Holds : FieldType → Member → Prop where
  | absentScalar (t : ScalarType) (isOptional : Bool) :
      FieldType.Holds (.scalar t isOptional) (.value .null)
  | scalar {t : ScalarType} (isOptional : Bool) {v : Value} (h : v.kind = t.valueKind) :
      FieldType.Holds (.scalar t isOptional) (.value v)
  | absentRecord (fields : Schema) (isOptional : Bool) :
      FieldType.Holds (.nested fields isOptional) (.value .null)
  | record {fields : Schema} (isOptional : Bool) {r : Record} (h : Schema.Shows fields r) :
      FieldType.Holds (.nested fields isOptional) (.record r)
  | records {fields : Schema} {elements : List Record} (h : ∀ r ∈ elements, Schema.Shows fields r) :
      FieldType.Holds (.collection fields) (.records elements)

/-- **The record has a member for each name of the schema**, one for the field of that name. -/
inductive Schema.Shows : Schema → Record → Prop where
  | intro {s : Schema} {r : Record} (member : String → Member)
      (hmember : ∀ n t, Schema.member? s n = some t → Record.member? r n = some (member n))
      (h : ∀ n t, Schema.member? s n = some t → FieldType.Holds t (member n)) :
      Schema.Shows s r

end

theorem Schema.Shows.exists_member {s : Schema} {r : Record} (h : s.Shows r) {n : String}
    {t : FieldType} (ht : s.member? n = some t) : ∃ m, r.member? n = some m ∧ t.Holds m := by
  obtain ⟨member, hmember, h⟩ := h
  exact ⟨member n, hmember n t ht, h n t ht⟩

theorem Schema.shows_of_exists_member {s : Schema} {r : Record}
    (h : ∀ n t, s.member? n = some t → ∃ m, r.member? n = some m ∧ t.Holds m) : s.Shows r := by
  refine .intro (fun n => (r.member? n).getD default) (fun n t ht => ?_) fun n t ht => ?_
  · obtain ⟨m, hm, -⟩ := h n t ht
    rw [hm]
    rfl
  · obtain ⟨m, hm, hholds⟩ := h n t ht
    rw [hm]
    exact hholds

theorem Schema.Shows.nil (r : Record) : Schema.Shows [] r :=
  Schema.shows_of_exists_member fun _ _ ht => by cases ht

theorem Schema.Shows.skip {s : Schema} {r : Record} (h : s.Shows r) (stored name : String) :
    Schema.Shows ((stored, name, .skipped) :: s) r := by
  refine Schema.shows_of_exists_member fun n t ht => h.exists_member ?_
  simpa [Schema.member?, FieldType.isSkipped] using ht

theorem Schema.Shows.cons {s : Schema} {r : Record} (h : s.Shows r) (stored name : String)
    {t : FieldType} {m : Member} (hm : t.Holds m) :
    Schema.Shows ((stored, name, t) :: s) ((name, m) :: r) := by
  have hskipped : t.isSkipped = false := by cases hm <;> rfl
  refine Schema.shows_of_exists_member fun n u hu => ?_
  by_cases hn : name = n
  · subst hn
    have htype : some t = some u := by simpa [Schema.member?, hskipped] using hu
    exact ⟨m, by simp [Record.member?], Option.some.inj htype ▸ hm⟩
  · have hne : (n == name) = false := by simpa using Ne.symm hn
    have hu : s.member? n = some u := by simpa [Schema.member?, hn] using hu
    obtain ⟨k, hk, hholds⟩ := h.exists_member hu
    exact ⟨k, by simpa [Record.member?, List.lookup_cons, hne] using hk, hholds⟩

/-! ## §2. Records that are read. -/

theorem ScalarType.kind_of_read? {t : ScalarType} {j : Json} {v : Value} (h : t.read? j = some v) :
    v.kind = t.valueKind := by
  unfold ScalarType.read? at h
  split at h
  · unfold ScalarType.signed? at h
    split at h <;> cases h
    rfl
  · unfold ScalarType.unsigned? at h
    split at h <;> cases h
    rfl
  · obtain ⟨x, -, rfl⟩ := Option.map_eq_some_iff.mp h
    rfl
  · obtain ⟨x, -, rfl⟩ := Option.map_eq_some_iff.mp h
    rfl
  · cases h
    rfl
  · cases h
    rfl
  · obtain ⟨x, -, rfl⟩ := Option.map_eq_some_iff.mp h
    rfl
  · obtain ⟨x, -, rfl⟩ := Option.map_eq_some_iff.mp h
    rfl
  · obtain ⟨x, -, rfl⟩ := Option.map_eq_some_iff.mp h
    rfl
  · cases h

theorem mem_of_mapM_option {α β : Type} {f : α → Option β} :
    ∀ {l : List α} {ys : List β}, l.mapM f = some ys → ∀ y ∈ ys, ∃ x ∈ l, f x = some y
  | [], _, h => by
      cases h
      exact fun y hy => absurd hy List.not_mem_nil
  | x :: l, ys, h => by
      rw [List.mapM_cons] at h
      cases hx : f x with
      | none => rw [hx] at h; cases h
      | some z =>
          cases hl : l.mapM f with
          | none => rw [hx, hl] at h; cases h
          | some zs =>
              rw [hx, hl] at h
              cases h
              intro y hy
              rcases List.mem_cons.mp hy with rfl | hy
              · exact ⟨x, by simp, hx⟩
              · obtain ⟨w, hw, hwy⟩ := mem_of_mapM_option hl y hy
                exact ⟨w, List.mem_cons_of_mem _ hw, hwy⟩

/-- Only a skipped field has no member. -/
theorem FieldType.eq_skipped_of_member? {t : FieldType} {stored : Option Json}
    (h : t.member? stored = some none) : t = .skipped := by
  cases t with
  | skipped => rfl
  | scalar t isOptional =>
      unfold FieldType.member? at h
      split at h <;> simp at h
  | nested fields isOptional =>
      unfold FieldType.member? at h
      split at h <;> simp at h
  | collection fields =>
      unfold FieldType.member? at h
      split at h <;> simp at h

mutual

theorem FieldType.holds_of_member? : ∀ (t : FieldType) {stored : Option Json} {m : Member},
    t.member? stored = some (some m) → t.Holds m
  | .scalar t isOptional, stored, m, h => by
      unfold FieldType.member? at h
      split at h
      · cases h
        cases t <;> exact .scalar _ rfl
      · cases h
        exact .absentScalar t _
      · cases h
        exact .absentScalar t _
      · obtain ⟨v, hv, hm⟩ := Option.map_eq_some_iff.mp h
        cases hm
        exact .scalar _ (ScalarType.kind_of_read? hv)
  | .nested fields isOptional, stored, m, h => by
      unfold FieldType.member? at h
      split at h
      · obtain ⟨r, hr, hm⟩ := Option.map_eq_some_iff.mp h
        cases hm
        exact .record _ (Schema.shows_of_readFields? fields hr)
      · cases h
        exact .absentRecord fields _
      · cases h
        exact .absentRecord fields _
      · obtain ⟨r, hr, hm⟩ := Option.map_eq_some_iff.mp h
        cases hm
        exact .record _ (Schema.shows_of_readFields? fields hr)
  | .collection fields, stored, m, h => by
      unfold FieldType.member? at h
      split at h
      · cases h
        exact .records fun r hr => absurd hr List.not_mem_nil
      · obtain ⟨rs, hrs, hm⟩ := Option.map_eq_some_iff.mp h
        cases hm
        refine .records fun r hr => ?_
        obtain ⟨j, -, hj⟩ := mem_of_mapM_option hrs r hr
        exact Schema.shows_of_readFields? fields hj
      · cases h
  | .skipped, _, _, h => by cases h

theorem Schema.shows_of_readFields? : ∀ (s : List (String × String × FieldType)) {j : Json}
    {r : Record}, readFields? j s = some r → Schema.Shows s r
  | [], _, r, _ => Schema.Shows.nil r
  | (stored, name, type) :: fields, j, r, h => by
      unfold readFields? at h
      split at h
      · next m members hm hmembers =>
          cases h
          exact (Schema.shows_of_readFields? fields hmembers).cons stored name
            (FieldType.holds_of_member? type hm)
      · next members hm hmembers =>
          cases h
          obtain rfl := FieldType.eq_skipped_of_member? hm
          exact (Schema.shows_of_readFields? fields hmembers).skip stored name
      · cases h

end

/-- **A stored record that can be read shows its schema.** -/
theorem Schema.shows_of_readRecord? {s : Schema} {j : Json} {r : Record}
    (h : readRecord? s j = some r) : s.Shows r := by
  unfold readRecord? at h
  split at h
  · exact Schema.shows_of_readFields? s h
  · cases h

/-! ## §3. Paths. -/

/-- Where names lead from a field.  Only nested records have members that a path can go through. -/
def FieldType.follow? : FieldType → List String → Option FieldType
  | t, [] => some t
  | .nested fields _, n :: ns => (Schema.member? fields n).bind (·.follow? ns)
  | _, _ :: _ => none

/-- **Where a path leads in a schema.** -/
def Schema.follow? (s : Schema) (path : String) : Option FieldType :=
  match pathNames path with
  | [] => none
  | n :: ns => (s.member? n).bind (·.follow? ns)

/-- The schema of the innermost elements, where each path leads to a collection. -/
def Schema.inside? : Schema → List String → Option Schema
  | s, [] => some s
  | s, path :: paths =>
    match s.follow? path with
    | some (.collection fields) => Schema.inside? fields paths
    | _ => none

theorem FieldType.Holds.follow {ns : List String} :
    ∀ {t u : FieldType} {m : Member} (path : String), t.Holds m → t.follow? ns = some u →
      ∃ found, m.follow path ns = .ok found ∧ (found = .value .null ∨ u.Holds found) := by
  induction ns with
  | nil =>
      intro t u m path h hu
      cases hu
      exact ⟨m, rfl, .inr h⟩
  | cons n ns ih =>
      intro t u m path h hu
      cases h with
      | absentRecord fields isOptional => exact ⟨.value .null, rfl, .inl rfl⟩
      | record isOptional h =>
          obtain ⟨v, hv, hu⟩ := Option.bind_eq_some_iff.mp hu
          obtain ⟨k, hk, hholds⟩ := h.exists_member hv
          obtain ⟨found, hfound, hend⟩ := ih (path ++ "." ++ n) hholds hu
          refine ⟨found, ?_, hend⟩
          unfold Member.follow
          rw [hk]
          exact hfound
      | _ => cases hu

/-- **A path leads in a record where it leads in the schema**, or to null. -/
theorem Schema.Shows.follow {s : Schema} {r : Record} (h : s.Shows r) {path : String}
    {t : FieldType} (ht : s.follow? path = some t) :
    ∃ m, r.follow path = .ok m ∧ (m = .value .null ∨ t.Holds m) := by
  unfold Schema.follow? at ht
  unfold Record.follow
  cases hnames : pathNames path with
  | nil => rw [hnames] at ht; cases ht
  | cons n ns =>
      rw [hnames] at ht
      obtain ⟨u, hu, ht⟩ := Option.bind_eq_some_iff.mp ht
      obtain ⟨m, hm, hholds⟩ := h.exists_member hu
      obtain ⟨found, hfound, hend⟩ := hholds.follow n ht
      refine ⟨found, ?_, hend⟩
      dsimp only
      rw [hm]
      exact hfound

end RecordSearch
